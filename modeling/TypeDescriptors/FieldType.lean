import TypeDescriptors.BaseType
import TypeDescriptors.ClassType
import TypeDescriptors.Kind
import TypeDescriptors.Outline

set_option autoImplicit false

namespace TypeDescriptors

/-- Types as they are held. A class and an array hold their signatures beside what these are made
of, and an array of arrays is one array with the dimensions of both. -/
inductive FieldType where
  | base (b : BaseType)
  | object (c : ClassType)
  | array (element : FieldType) (dimensions : Nat) (signature : String)
  | null
  | unknown
  deriving DecidableEq, Repr

namespace FieldType

def kind : FieldType → Kind
  | .base b => .base b
  | .object _ => .object
  | .array _ _ _ => .array
  | .null => .null
  | .unknown => .unknown

def openBrackets (dimensions : Nat) : String := String.ofList (List.replicate dimensions '[')

def bracketPairs (dimensions : Nat) : String :=
  String.ofList (List.replicate dimensions ['[', ']']).flatten

def signature : FieldType → String
  | .base b => b.signature
  | .object c => c.signature
  | .array _ _ signature => signature
  | .null => "<null object>"
  | .unknown => "<unknown object>"

def display : FieldType → String
  | .base b => b.keyword
  | .object c => c.name
  | .array element dimensions _ => element.display ++ bracketPairs dimensions
  | .null => "<null object>"
  | .unknown => "<unknown object>"

def slots : FieldType → Nat
  | .base b => b.slots
  | _ => 1

def slotSum : List FieldType → Nat
  | [] => 0
  | t :: types => t.slots + slotSum types

def dimensions : FieldType → Nat
  | .array _ dimensions _ => dimensions
  | _ => 0

def innermost : FieldType → FieldType
  | .array element _ _ => element
  | t => t

def class? : FieldType → Option ClassType
  | .object c => some c
  | .array element _ _ => element.class?
  | _ => none

/-- The type of the value on the operand stack or in a local variable: the narrow integers and
`boolean` are widened to `int`. -/
def normalized : FieldType → FieldType
  | .base .boolean | .base .byte | .base .short | .base .char => .base .int
  | t => t

def isPrimitive : FieldType → Bool
  | .base b => b != .void
  | _ => false

def isReference : FieldType → Bool
  | .object _ | .array _ _ _ | .null => true
  | _ => false

def outline : FieldType → Outline
  | .base b => .wrap "Basic" (.leaf b.label)
  | .object c => .wrap "Object" c.outline
  | .array element dimensions signature =>
    .wrap "Array" (.fields "ArrayType"
      [("basic_type", element.outline), ("dimensions", .number dimensions),
        ("signature", .leaf (Text.quoted signature))])
  | .null => .leaf "Null"
  | .unknown => .leaf "Unknown"

def same (a b : FieldType) : Bool := a.kind == b.kind && a.signature == b.signature

/-- For each type of a sequence, whether no type before it is the same. -/
def firstOccurrences : List FieldType → List FieldType → List Bool
  | _, [] => []
  | seen, t :: types =>
    if seen.any t.same then false :: firstOccurrences seen types
    else true :: firstOccurrences (t :: seen) types

def objectClass : FieldType := .object (.make "java.lang.Object")

def classClass : FieldType := .object (.make "java.lang.Class")

def stringClass : FieldType := .object (.make "java.lang.String")

def stringBufferClass : FieldType := .object (.make "java.lang.StringBuffer")

def throwableClass : FieldType := .object (.make "java.lang.Throwable")

theorem kind_eq_array_iff {t : FieldType} :
    t.kind = .array ↔ ∃ element count signature, t = .array element count signature := by
  constructor
  · intro array
    cases t with
    | array element count signature => exact ⟨element, count, signature, rfl⟩
    | _ => cases array
  · rintro ⟨element, count, signature, rfl⟩
    rfl

theorem innermost_eq_self {t : FieldType} (notArray : t.kind ≠ .array) : t.innermost = t := by
  cases t with
  | array => exact absurd rfl notArray
  | _ => rfl

theorem dimensions_eq_zero {t : FieldType} (notArray : t.kind ≠ .array) : t.dimensions = 0 := by
  cases t with
  | array => exact absurd rfl notArray
  | _ => rfl

theorem same_iff {a b : FieldType} :
    a.same b = true ↔ a.kind = b.kind ∧ a.signature = b.signature := by
  simp [same]

end FieldType
end TypeDescriptors
