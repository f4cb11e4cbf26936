import TypeDescriptors.Proofs.Descriptors
import TypeDescriptors.Proofs.MethodRoundTrip
import TypeDescriptors.Signature.Survey

set_option autoImplicit false

namespace TypeDescriptors.RuntimeClass
open Grammar Signature
open FieldType (EncodableName Obtainable)

theorem type_array_respelled {t : FieldType} {text : String} (h : t.WellFormed)
    (encodable : t.Encodable) (respelled : Respelled t.signature.toList text.toList) :
    (array text).type = .ok t :=
  parseType_of_denotes (denotes_of_respelled h encodable respelled)

/-- The type of a class can be written: what was read has a proper signature, and the name of a
class is looked at. -/
theorem encodable_of_type {c : RuntimeClass} {t : FieldType} (h : c.type = .ok t)
    (names : ∀ name, c = .reference name → EncodableName name) : t.Encodable := by
  cases c with
  | array name => exact (denotes_of_parseType h).encodable
  | reference name =>
    obtain ⟨-, rfl⟩ := FieldType.ofClassName_eq_ok_iff.1 (type_reference_eq_ok_iff.1 h)
    exact FieldType.encodable_object_iff.2 (FieldType.encodableName_dotted_iff.2 (names name rfl))
  | primitive keyword =>
    obtain ⟨b, -, rfl⟩ := type_primitive_eq_ok_iff.1 h
    exact FieldType.encodable_base b

theorem mem_types {classes : List RuntimeClass} {found : List FieldType}
    (h : types classes = .ok found) {t : FieldType} (mem : t ∈ found) :
    ∃ c ∈ classes, c.type = .ok t := by
  induction classes generalizing found with
  | nil =>
    obtain rfl := Except.ok.inj h
    exact absurd mem List.not_mem_nil
  | cons c classes ih =>
    rw [types_cons] at h
    obtain ⟨first, here, h⟩ := bind_eq_ok_iff.1 h
    obtain ⟨others, there, h⟩ := bind_eq_ok_iff.1 h
    obtain rfl := Except.ok.inj h
    obtain rfl | mem := List.mem_cons.1 mem
    · exact ⟨c, List.mem_cons_self, here⟩
    · obtain ⟨c', inClasses, found⟩ := ih there mem
      exact ⟨c', List.mem_cons_of_mem c inClasses, found⟩

theorem failure?_types (classes : List RuntimeClass) :
    failure? (types classes) = classes.findSome? fun c => failure? c.type := by
  induction classes with
  | nil => rfl
  | cons c classes ih =>
    rw [types_cons, List.findSome?_cons, ← ih]
    cases c.type with
    | error failed => rfl
    | ok t => cases types classes <;> rfl

theorem failure?_methodType (parameters : List RuntimeClass) (result : RuntimeClass) :
    failure? (methodType parameters result) =
      (parameters ++ [result]).findSome? fun c => failure? c.type := by
  rw [List.findSome?_append, ← failure?_types, List.findSome?_singleton]
  unfold methodType
  cases types parameters with
  | error failed => rfl
  | ok argumentTypes => cases result.type <;> rfl

theorem failure?_methodSignature (parameters : List RuntimeClass) (result : RuntimeClass) :
    failure? (methodSignature parameters result) =
      (parameters ++ [result]).findSome? fun c => failure? c.type := by
  rw [← failure?_methodType]
  unfold methodSignature
  cases methodType parameters result <;> rfl

theorem methodType_eq_ok_iff {parameters : List RuntimeClass} {result : RuntimeClass}
    {m : MethodType} :
    methodType parameters result = .ok m ↔
      types parameters = .ok m.argumentTypes ∧ result.type = .ok m.returnType := by
  unfold methodType
  cases types parameters with
  | error failed => simp [bind, Except.bind]
  | ok argumentTypes =>
    cases result.type with
    | error failed => simp [bind, Except.bind]
    | ok returnType =>
      obtain ⟨returnType', argumentTypes'⟩ := m
      simp [bind, Except.bind, pure, Except.pure, and_comm]

theorem exists_methodType {parameters : List RuntimeClass} {result : RuntimeClass}
    (h : ∀ c ∈ result :: parameters, ∃ t, c.type = .ok t) :
    ∃ m, methodType parameters result = .ok m := by
  rw [← failure?_eq_none_iff, failure?_methodType, List.findSome?_eq_none_iff]
  intro c mem
  apply failure?_eq_none_iff.2
  apply h
  simpa [or_comm] using mem

theorem parseMethod_methodType {parameters : List RuntimeClass} {result : RuntimeClass}
    {m : MethodType} (h : methodType parameters result = .ok m)
    (names : ∀ name, reference name ∈ result :: parameters → EncodableName name) :
    parseMethod m.signature = .ok m := by
  obtain ⟨argumentTypes, returnType⟩ := methodType_eq_ok_iff.1 h
  apply MethodType.parseMethod_signature_iff.2
  intro t mem
  obtain ⟨c, inClasses, found⟩ : ∃ c ∈ result :: parameters, c.type = .ok t := by
    obtain rfl | mem := List.mem_cons.1 mem
    · exact ⟨result, List.mem_cons_self, returnType⟩
    · obtain ⟨c, inParameters, found⟩ := mem_types argumentTypes mem
      exact ⟨c, List.mem_cons_of_mem result inParameters, found⟩
  apply denotes_signature (FieldType.wellFormed_of_runtime found)
  exact encodable_of_type found fun name eq => names name (eq ▸ inClasses)

/-- Array classes are found by their signatures with either separator, methods of classes that are
found are read from their signatures, and the first class that is not found is reported. -/
theorem names_and_descriptors_agree (t : FieldType) (parameters : List RuntimeClass)
    (result : RuntimeClass) :
    (Obtainable t → t.kind = .array → t.Encodable →
        ∀ text : String, Respelled t.signature.toList text.toList → (array text).type = .ok t) ∧
      ((∀ c ∈ result :: parameters, ∃ found, c.type = .ok found) →
        (∀ name, reference name ∈ result :: parameters → EncodableName name) →
          ∃ returnType argumentTypes d, result.type = .ok returnType ∧
            types parameters = .ok argumentTypes ∧ methodSignature parameters result = .ok d ∧
              parseMethod d = .ok ⟨returnType, argumentTypes⟩) ∧
      failure? (methodSignature parameters result) =
        (parameters ++ [result]).findSome? fun c => failure? c.type := by
  refine ⟨?_, ?_, failure?_methodSignature parameters result⟩
  · intro h _ encodable text respelled
    exact type_array_respelled h.wellFormed encodable respelled
  · intro found names
    obtain ⟨⟨returnType, argumentTypes⟩, method⟩ := exists_methodType found
    obtain ⟨arguments, returned⟩ := methodType_eq_ok_iff.1 method
    refine ⟨returnType, argumentTypes, _, returned, arguments, ?_,
      parseMethod_methodType method names⟩
    exact Failure.map_eq_ok_iff.2 ⟨_, method, rfl⟩

theorem string_matrix_found :
    (array "[[Ljava.lang.String;").type = .ok (.withDimensions (.object "java.lang.String") 2) ∧
      parseMethod "([[Ljava/lang/String;I)V" =
        .ok ⟨.base .void, [.withDimensions (.object "java.lang.String") 2, .base .int]⟩ ∧
      failure? (methodSignature [array "[[Ljava.lang.String;", array "[Q"] (array "[V")) =
        some (.malformed ⟨"[Q", .unexpectedCharacter 'Q', 1⟩) := by
  have named : FieldType.ofClassName "java.lang.String" =
      .ok (.object (.named "java.lang.String")) := by rfl
  have made : FieldType.arrayOf (.object (.named "java.lang.String")) 2 =
      .ok (.withDimensions (.object "java.lang.String") 2) := by rfl
  obtain ⟨arrays, methods, -⟩ := names_and_descriptors_agree
    (.withDimensions (.object "java.lang.String") 2) [array "[[Ljava.lang.String;", primitive "int"]
    (primitive "void")
  have matrix : (array "[[Ljava.lang.String;").type =
      .ok (.withDimensions (.object "java.lang.String") 2) :=
    arrays (.array (.named named) made) rfl (by decide) _
      (.map_dotOf "[[Ljava/lang/String;".toList)
  have number : (primitive "int").type = .ok (.base .int) := by rfl
  have void : (primitive "void").type = .ok (.base .void) := by rfl
  refine ⟨matrix, ?_, ?_⟩
  · have all : ∀ c ∈ [primitive "void", array "[[Ljava.lang.String;", primitive "int"],
        ∃ t, c.type = .ok t := by
      simp [matrix, number, void]
    obtain ⟨returnType, argumentTypes, d, returned, arguments, written, parsed⟩ :=
      methods all (by simp)
    obtain rfl := Except.ok.inj (void.symm.trans returned)
    have both : types [array "[[Ljava.lang.String;", primitive "int"] =
        .ok [.withDimensions (.object "java.lang.String") 2, .base .int] := by
      rw [types_cons, matrix, types_cons, number]
      rfl
    obtain rfl := Except.ok.inj (both.symm.trans arguments)
    rw [methodSignature, methodType, both, void] at written
    obtain rfl := Except.ok.inj written
    exact parsed
  · have fault : (array "[Q").type =
        .error (.malformed ⟨"[Q", .unexpectedCharacter 'Q', 1⟩) := by rfl
    obtain ⟨-, -, first⟩ := names_and_descriptors_agree (.base .void)
      [array "[[Ljava.lang.String;", array "[Q"] (array "[V")
    rw [first, List.cons_append, List.findSome?_cons, matrix, List.cons_append,
      List.findSome?_cons, fault]
    rfl

end TypeDescriptors.RuntimeClass
