import TypeDescriptors.Proofs.StrictMethod
import TypeDescriptors.Proofs.WellFormedness
import TypeDescriptors.Signature.Survey

set_option autoImplicit false

namespace TypeDescriptors.Signature
open FieldType (Obtainable)
open Grammar

def Survey.Answers (s : Survey) (t : FieldType) : Prop :=
  (∃ n, s.type = .ok ⟨t, n⟩) ∨ (∃ types n, s.arguments = .ok ⟨types, n⟩ ∧ t ∈ types) ∨
    (∃ n, s.returnType = .ok ⟨t, n⟩) ∨ s.wholeType = .ok t ∨
      ∃ m, s.wholeMethod = .ok m ∧ t ∈ m.returnType :: m.argumentTypes

theorem obtainable_of_mem_arguments {text rest : List Char} {types : List FieldType}
    (h : arguments text = .ok (types, rest)) : ∀ t ∈ types, Obtainable t := by
  obtain ⟨-, segments, -, rfl, -⟩ := arguments_eq_ok_iff.1 h
  intro t mem
  obtain ⟨s, -, rfl⟩ := List.mem_map.1 mem
  exact .read (parseType_eq_ok_iff_field.1 s.parsed)

theorem obtainable_of_mem_method {text : String} {m : MethodType}
    (h : parseMethod text = .ok m) : ∀ t ∈ m.returnType :: m.argumentTypes, Obtainable t := by
  obtain ⟨left, opened, read⟩ := method_eq_ok_iff.1 (parseMethod_eq_ok_iff_method.1 h)
  intro t mem
  obtain rfl | argument := List.mem_cons.1 mem
  · exact .read read
  · exact obtainable_of_mem_arguments opened t argument

theorem obtainable_of_answers {text : String} {t : FieldType} (h : (survey text).Answers t) :
    Obtainable t := by
  obtain ⟨n, type⟩ | ⟨types, n, opened, mem⟩ | ⟨n, returned⟩ | whole | ⟨m, method, mem⟩ := h
  · obtain ⟨rest, read, -⟩ := complete_eq_ok_iff.1 type
    exact .read read
  · obtain ⟨rest, read, -⟩ := complete_eq_ok_iff.1 opened
    exact obtainable_of_mem_arguments read t mem
  · obtain ⟨rest, read, -⟩ := complete_eq_ok_iff.1 returned
    exact .read read
  · exact .read (parseType_eq_ok_iff_field.1 whole)
  · exact obtainable_of_mem_method method t mem

end TypeDescriptors.Signature

namespace TypeDescriptors.FieldType

theorem obtainable_type {e : ElementType} (h : WellFormedElement e) : Obtainable e.type := by
  cases e with
  | base b => exact .base b
  | object name =>
    have made := ofClassName_of_ne h.1
    rw [ClassName.dotted_eq_self h.2] at made
    exact .named made

/-- The invariant says all: a type that keeps it can be had by request. -/
theorem WellFormed.obtainable {t : FieldType} (h : t.WellFormed) : Obtainable t := by
  obtain (rfl | rfl) | ⟨e, eq⟩ := h.cases
  · exact .null
  · exact .unknown
  · rw [eq] at h ⊢
    obtain ⟨element, notVoid, limit⟩ := wellFormed_withDimensions_iff.1 h
    obtain none | pos := Nat.eq_zero_or_pos t.dimensions
    · rw [none]
      exact obtainable_type element
    · exact .array (obtainable_type element) (arrayOf_count (notVoid pos) pos limit)

/-- The types that the library hands out, those of every reading among them, are just the
well-formed ones: what they hold beside their signatures is what these say. For two of them to be
the same, to have one signature and to hold the same is one. -/
theorem represented_and_told_apart :
    (∀ (text : String) (t : FieldType), (Signature.survey text).Answers t → Obtainable t) ∧
      (∀ t : FieldType, Obtainable t ↔ t.WellFormed) ∧
      ∀ a b : FieldType, Obtainable a → Obtainable b →
        (∀ c, a = .object c → c.name ≠ "" ∧ '/' ∉ c.name.toList ∧
          c.signature.toList =
            'L' :: (c.name.toList.map fun x => if x = '.' then '/' else x) ++ [';']) ∧
        (∀ element count signature, a = .array element count signature →
          1 ≤ count ∧ count ≤ 255 ∧
            element.kind ∉ [Kind.array, .base .void, .null, .unknown] ∧
            signature.toList = List.replicate count '[' ++ element.signature.toList) ∧
        (a.same b = true ↔ a.signature = b.signature) ∧ (a.signature = b.signature ↔ a = b) := by
  refine ⟨fun _ _ => Signature.obtainable_of_answers,
    fun _ => ⟨Obtainable.wellFormed, WellFormed.obtainable⟩, ?_⟩
  intro a b ha hb
  have wellA := ha.wellFormed
  have wellB := hb.wellFormed
  have signatures := wellA.signature_eq_iff wellB
  refine ⟨?_, ?_, (wellA.same_iff_eq wellB).trans signatures.symm, signatures⟩
  · rintro c rfl
    have proper : c.WellFormed := wellA
    exact ⟨proper.ne_empty, proper.slash_notMem, proper.signature_eq⟩
  · rintro element count signature rfl
    obtain ⟨-, kind, pos, limit, text⟩ := wellA
    exact ⟨pos, limit, kind, text⟩

/-- A class named `[I` is told from an array of `int`, also as the member of an array. -/
theorem bracketed_class_told_from_array :
    ∃ a b : FieldType, component (.object (.named "[I")) 2 = .ok a ∧
      Signature.parseType "[[I" = .ok b ∧ Obtainable a ∧ Obtainable b ∧ a.dimensions = 1 ∧
        a.signature ≠ b.signature ∧ a.same b = false := by
  have named : ofClassName "[I" = .ok (.object (.named "[I")) := by rfl
  have array : arrayOf (.object (.named "[I")) 2 = .ok (withDimensions (.object "[I") 2) := by rfl
  have member : component (.object (.named "[I")) 2 = .ok (withDimensions (.object "[I") 1) := by
    rfl
  have read : Signature.parseType "[[I" = .ok (withDimensions (.base .int) 2) := by rfl
  have ha := Obtainable.component (.array (.named named) array) member
  have hb := represented_and_told_apart.1 "[[I" _ (.inr (.inr (.inr (.inl read))))
  obtain ⟨-, -, same, signatures⟩ := represented_and_told_apart.2.2 _ _ ha hb
  have apart : withDimensions (.object "[I") 1 ≠ withDimensions (.base .int) 2 := by decide
  have texts := mt signatures.1 apart
  exact ⟨_, _, member, read, ha, hb, rfl, texts, Bool.eq_false_iff.2 (mt same.1 texts)⟩

end TypeDescriptors.FieldType
