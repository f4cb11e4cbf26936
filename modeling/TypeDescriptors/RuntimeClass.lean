import TypeDescriptors.Signature

set_option autoImplicit false

namespace TypeDescriptors

/-- A class as a running machine names it: by a keyword if it is primitive, by a signature with
either separator if it is an array, and by its full name otherwise. -/
inductive RuntimeClass where
  | primitive (keyword : String)
  | array (name : String)
  | reference (name : String)
  deriving DecidableEq, Repr

namespace RuntimeClass

def type : RuntimeClass → Except Failure FieldType
  | .array name => Signature.parseType name
  | .reference name => Failure.ofDefect (FieldType.ofClassName name)
  | .primitive keyword =>
    match BaseType.ofKeyword? keyword with
    | some b => .ok (FieldType.base b)
    | none => .error (.defect (.unknownPrimitive keyword))

def types (classes : List RuntimeClass) : Except Failure (List FieldType) := classes.mapM type

/-- The method with parameters and a result of given classes; the parameters are looked at first. -/
def methodType (parameters : List RuntimeClass) (result : RuntimeClass) :
    Except Failure MethodType := do
  let argumentTypes ← types parameters
  let returnType ← result.type
  return ⟨returnType, argumentTypes⟩

def methodSignature (parameters : List RuntimeClass) (result : RuntimeClass) :
    Except Failure String :=
  (methodType parameters result).map MethodType.signature

theorem type_primitive_eq_ok_iff {keyword : String} {t : FieldType} :
    (primitive keyword).type = .ok t ↔ ∃ b : BaseType, b.keyword = keyword ∧ t = .base b := by
  unfold type
  simp only [← BaseType.ofKeyword?_eq_some_iff]
  cases BaseType.ofKeyword? keyword <;> simp [eq_comm]

theorem type_reference_eq_ok_iff {name : String} {t : FieldType} :
    (reference name).type = .ok t ↔ FieldType.ofClassName name = .ok t :=
  Failure.ofDefect_eq_ok_iff

theorem types_cons (c : RuntimeClass) (classes : List RuntimeClass) :
    types (c :: classes) = (do
      let t ← c.type
      let others ← types classes
      return t :: others) :=
  List.mapM_cons

end RuntimeClass
end TypeDescriptors
