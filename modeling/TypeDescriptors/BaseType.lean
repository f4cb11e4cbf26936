set_option autoImplicit false

namespace TypeDescriptors

inductive BaseType where
  | boolean | char | float | double | byte | short | int | long | void
  deriving DecidableEq, Repr

namespace BaseType

def all : List BaseType :=
  [.boolean, .char, .float, .double, .byte, .short, .int, .long, .void]

def label : BaseType → String
  | .boolean => "Boolean"
  | .char => "Char"
  | .float => "Float"
  | .double => "Double"
  | .byte => "Byte"
  | .short => "Short"
  | .int => "Int"
  | .long => "Long"
  | .void => "Void"

def keyword : BaseType → String
  | .boolean => "boolean"
  | .char => "char"
  | .float => "float"
  | .double => "double"
  | .byte => "byte"
  | .short => "short"
  | .int => "int"
  | .long => "long"
  | .void => "void"

def letter : BaseType → Char
  | .boolean => 'Z'
  | .char => 'C'
  | .float => 'F'
  | .double => 'D'
  | .byte => 'B'
  | .short => 'S'
  | .int => 'I'
  | .long => 'J'
  | .void => 'V'

/-- The numeric tag; a primitive type has the operand of the instruction that makes its arrays. -/
def tag : BaseType → Nat
  | .boolean => 4
  | .char => 5
  | .float => 6
  | .double => 7
  | .byte => 8
  | .short => 9
  | .int => 10
  | .long => 11
  | .void => 12

/-- The number of operand stack or local variable slots of a value. -/
def slots : BaseType → Nat
  | .long | .double => 2
  | .void => 0
  | _ => 1

def signature (b : BaseType) : String := String.singleton b.letter

def ofLetter? (c : Char) : Option BaseType := all.find? fun b => decide (b.letter = c)

def ofKeyword? (name : String) : Option BaseType := all.find? fun b => decide (b.keyword = name)

def ofTag? (n : Nat) : Option BaseType := all.find? fun b => decide (b.tag = n)

theorem mem_all (b : BaseType) : b ∈ all := by
  cases b <;> decide

theorem ofLetter?_letter (b : BaseType) : ofLetter? b.letter = some b := by
  cases b <;> rfl

theorem ofLetter?_eq_some_iff {c : Char} {b : BaseType} :
    ofLetter? c = some b ↔ b.letter = c := by
  constructor
  · intro h
    simpa using List.find?_some h
  · rintro rfl
    exact ofLetter?_letter b

theorem ofLetter?_eq_none_iff {c : Char} : ofLetter? c = none ↔ ∀ b : BaseType, b.letter ≠ c := by
  simp only [ofLetter?, List.find?_eq_none, decide_eq_true_eq]
  exact ⟨fun h b => h b (mem_all b), fun h b _ => h b⟩

theorem ofKeyword?_eq_some_iff {name : String} {b : BaseType} :
    ofKeyword? name = some b ↔ b.keyword = name := by
  constructor
  · intro h
    simpa using List.find?_some h
  · rintro rfl
    cases b <;> decide

@[simp] theorem toList_signature (b : BaseType) : b.signature.toList = [b.letter] := by
  simp [signature]

end BaseType
end TypeDescriptors
