import TypeDescriptors.RuntimeClass

set_option autoImplicit false

namespace TypeDescriptors

namespace FieldType

/-- The types that requests, readings and the operations on types give. -/
inductive Obtainable : FieldType → Prop where
  | base (b : BaseType) : Obtainable (.base b)
  | null : Obtainable .null
  | unknown : Obtainable .unknown
  | named {name : String} {t : FieldType} : ofClassName name = .ok t → Obtainable t
  | array {element t : FieldType} {more : UInt64} :
      Obtainable element → arrayOf element more = .ok t → Obtainable t
  | component {element t : FieldType} {dimensions : Nat} {signature : String} :
      Obtainable (.array element dimensions signature) →
        FieldType.component element dimensions = .ok t → Obtainable t
  | innermost {t : FieldType} : Obtainable t → Obtainable t.innermost
  | normalized {t : FieldType} : Obtainable t → Obtainable t.normalized
  | read {text rest : List Char} {t : FieldType} :
      Grammar.field text = .ok (t, rest) → Obtainable t
  | runtime {c : RuntimeClass} {t : FieldType} : c.type = .ok t → Obtainable t

def WellFormedElement : ElementType → Prop
  | .base _ => True
  | .object name => name ≠ "" ∧ '/' ∉ name.toList

/-- The invariant of types as they are held: an array is over a type that is neither an array nor
`void` nor a sentinel, and its signature is that of the element behind a `[` for each dimension. -/
def WellFormed : FieldType → Prop
  | .object c => c.WellFormed
  | .array element dimensions signature =>
    element.WellFormed ∧ element.kind ∉ [.array, .base .void, .null, .unknown] ∧
      1 ≤ dimensions ∧ dimensions ≤ 255 ∧
        signature.toList = List.replicate dimensions '[' ++ element.signature.toList
  | _ => True

/-- A class name that a signature can hold: no `;` ends it, and no angle bracket is erased. -/
def EncodableName (name : String) : Prop :=
  ';' ∉ name.toList ∧ '<' ∉ name.toList ∧ '>' ∉ name.toList

/-- A type that can be read from its signature: no sentinel, and no class name that the grammar
takes apart. -/
def Encodable (t : FieldType) : Prop :=
  t ≠ .null ∧ t ≠ .unknown ∧ ∀ c : ClassType, t.class? = some c → EncodableName c.name

instance (name : String) : Decidable (EncodableName name) :=
  inferInstanceAs (Decidable (';' ∉ name.toList ∧ '<' ∉ name.toList ∧ '>' ∉ name.toList))

theorem encodableName_dotted_iff {name : String} :
    EncodableName (ClassName.dotted name) ↔ EncodableName name := by
  unfold EncodableName
  rw [ClassName.mem_dotted_iff (by decide) (by decide),
    ClassName.mem_dotted_iff (by decide) (by decide),
    ClassName.mem_dotted_iff (by decide) (by decide)]

theorem encodableName_slashed_iff {name : String} :
    EncodableName (ClassName.slashed name) ↔ EncodableName name := by
  unfold EncodableName
  rw [ClassName.mem_slashed_iff (by decide) (by decide),
    ClassName.mem_slashed_iff (by decide) (by decide),
    ClassName.mem_slashed_iff (by decide) (by decide)]

theorem encodable_iff_all {t : FieldType} :
    t.Encodable ↔
      t ≠ .null ∧ t ≠ .unknown ∧ t.class?.all (fun c => decide (EncodableName c.name)) = true := by
  unfold Encodable
  cases t.class? <;> simp

instance (t : FieldType) : Decidable t.Encodable := decidable_of_iff _ encodable_iff_all.symm

theorem encodable_base (b : BaseType) : (ElementType.base b).type.Encodable :=
  ⟨nofun, nofun, nofun⟩

theorem encodable_object_iff {name : String} :
    (ElementType.object name).type.Encodable ↔ EncodableName name := by
  simp [Encodable, ElementType.type, class?]

theorem encodable_withDimensions_iff {e : ElementType} {count : Nat} :
    (withDimensions e count).Encodable ↔ e.type.Encodable := by
  unfold Encodable
  rw [class?_withDimensions]
  cases e <;> cases count <;> simp [withDimensions, ElementType.type]

end FieldType

end TypeDescriptors
