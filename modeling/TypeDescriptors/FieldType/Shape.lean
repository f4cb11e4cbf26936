import TypeDescriptors.FieldType

set_option autoImplicit false

namespace TypeDescriptors

/-- What an array is over in the end: a base type, or a class by its dotted name. -/
inductive ElementType where
  | base (b : BaseType)
  | object (name : String)
  deriving DecidableEq, Repr

namespace ElementType

def type : ElementType → FieldType
  | .base b => .base b
  | .object name => .object (.named name)

def signature (e : ElementType) : String := e.type.signature

def display (e : ElementType) : String := e.type.display

end ElementType

namespace FieldType

def elementType? : FieldType → Option ElementType
  | .base b => some (.base b)
  | .object c => some (.object c.name)
  | .array element _ _ => element.elementType?
  | .null | .unknown => none

/-- The type with a number of dimensions over an element, as it is to be held: what has none is the
element itself, and what has some has the signature of the element behind a `[` for each. -/
def withDimensions (e : ElementType) : Nat → FieldType
  | 0 => e.type
  | count + 1 =>
    .array e.type (count + 1)
      (String.ofList (List.replicate (count + 1) '[' ++ e.signature.toList))

section
variable (e : ElementType) (count : Nat)

@[simp] theorem withDimensions_zero : withDimensions e 0 = e.type := rfl

@[simp] theorem elementType?_type : e.type.elementType? = some e := by
  cases e <;> rfl

@[simp] theorem dimensions_type : e.type.dimensions = 0 := by
  cases e <;> rfl

@[simp] theorem innermost_type : e.type.innermost = e.type := by
  cases e <;> rfl

@[simp] theorem dimensions_withDimensions : (withDimensions e count).dimensions = count := by
  cases count with
  | zero => exact dimensions_type e
  | succ n => rfl

@[simp] theorem innermost_withDimensions : (withDimensions e count).innermost = e.type := by
  cases count with
  | zero => exact innermost_type e
  | succ n => rfl

@[simp] theorem elementType?_withDimensions : (withDimensions e count).elementType? = some e := by
  cases count <;> exact elementType?_type e

theorem class?_withDimensions : (withDimensions e count).class? = e.type.class? := by
  cases count with
  | zero => rfl
  | succ n => rfl

theorem toList_signature_withDimensions :
    (withDimensions e count).signature.toList =
      List.replicate count '[' ++ e.signature.toList := by
  cases count with
  | zero => rfl
  | succ n => exact String.toList_ofList

theorem toList_display_withDimensions :
    (withDimensions e count).display.toList =
      e.display.toList ++ (List.replicate count ['[', ']']).flatten := by
  cases count with
  | zero => simp [ElementType.display]
  | succ n => simp [withDimensions, ElementType.display, display, bracketPairs]

theorem withDimensions_of_pos (pos : 1 ≤ count) :
    withDimensions e count = .array e.type count (withDimensions e count).signature := by
  obtain ⟨n, rfl⟩ := Nat.exists_eq_add_of_le' pos
  rfl

theorem slots_withDimensions_of_pos (pos : 1 ≤ count) : (withDimensions e count).slots = 1 := by
  rw [withDimensions_of_pos e count pos]
  rfl

end

end FieldType
end TypeDescriptors
