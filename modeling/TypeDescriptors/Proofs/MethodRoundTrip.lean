import TypeDescriptors.Proofs.RoundTrip
import TypeDescriptors.Proofs.StrictMethod

set_option autoImplicit false

namespace TypeDescriptors.FieldType
open Grammar

theorem denotes_signature_of_denotes {taken : List Char} {t : FieldType} (h : Denotes taken t) :
    Denotes t.signature.toList t :=
  denotes_signature h.wellFormed h.encodable

theorem WellFormed.denotes_signature_iff {t : FieldType} (h : t.WellFormed) :
    Denotes t.signature.toList t ↔ t.Encodable :=
  ⟨Denotes.encodable, denotes_signature h⟩

end TypeDescriptors.FieldType

namespace TypeDescriptors.MethodType
open Grammar Signature
open FieldType (Obtainable)

def types (m : MethodType) : List FieldType := m.returnType :: m.argumentTypes

def Encodable (m : MethodType) : Prop := ∀ t ∈ m.types, t.Encodable

def Rereads (m : MethodType) : Prop :=
  ∃ read, parseMethod m.signature = .ok read ∧ read.same m = true

theorem exists_segments {types : List FieldType}
    (h : ∀ t ∈ types, Denotes t.signature.toList t) :
    ∃ segments : List Segment, types = segments.map Segment.type ∧
      Segment.chars segments = types.flatMap fun t => t.signature.toList := by
  induction types with
  | nil => exact ⟨[], rfl, rfl⟩
  | cons t types ih =>
    obtain ⟨first, others⟩ := List.forall_mem_cons.1 h
    obtain ⟨s, text, rfl⟩ := Segment.exists_of_denotes first
    obtain ⟨segments, rfl, chars⟩ := ih others
    refine ⟨s :: segments, rfl, ?_⟩
    rw [Segment.chars_cons, chars, text, List.flatMap_cons]

theorem arguments_signature {m : MethodType}
    (h : ∀ t ∈ m.argumentTypes, Denotes t.signature.toList t) :
    arguments m.signature.toList = .ok (m.argumentTypes, m.returnType.signature.toList) := by
  obtain ⟨segments, types, chars⟩ := exists_segments h
  refine arguments_eq_ok_iff.2 ⟨[], segments, List.not_mem_nil, types, ?_⟩
  rw [toList_signature, chars]
  rfl

theorem denotes_of_parseMethod {text : String} {m : MethodType} (h : parseMethod text = .ok m)
    {t : FieldType} (mem : t ∈ m.types) : ∃ taken, Denotes taken t := by
  obtain ⟨left, opened, read⟩ := method_eq_ok_iff.1 (parseMethod_eq_ok_iff_method.1 h)
  obtain rfl | mem := List.mem_cons.1 mem
  · exact ⟨left, field_eq_ok_nil_iff.1 read⟩
  · obtain ⟨before, segments, -, types, -⟩ := arguments_eq_ok_iff.1 opened
    rw [types] at mem
    obtain ⟨s, -, rfl⟩ := List.mem_map.1 mem
    exact ⟨_, s.denotes⟩

/-- A method is read from its signature exactly when each of its types is read from its own. -/
theorem parseMethod_signature_iff {m : MethodType} :
    parseMethod m.signature = .ok m ↔ ∀ t ∈ m.types, Denotes t.signature.toList t := by
  constructor
  · intro h t mem
    obtain ⟨taken, denotes⟩ := denotes_of_parseMethod h mem
    exact FieldType.denotes_signature_of_denotes denotes
  · intro h
    obtain ⟨returned, others⟩ := List.forall_mem_cons.1 h
    have read := method_eq_ok_iff.2
      ⟨_, arguments_signature others, field_eq_ok_nil_iff.2 returned⟩
    exact parseMethod_eq_ok_iff_method.2 read

theorem sameTypes_iff_map {β : Type} {f : FieldType → β} {as bs : List FieldType}
    (step : ∀ a ∈ as, ∀ b ∈ bs, (a.same b = true ↔ f a = f b)) :
    sameTypes as bs = true ↔ as.map f = bs.map f := by
  induction as generalizing bs with
  | nil => cases bs <;> simp [sameTypes]
  | cons a as ih =>
    cases bs with
    | nil => simp [sameTypes]
    | cons b bs =>
      have heads := step a List.mem_cons_self b List.mem_cons_self
      have tails := ih fun x inAs y inBs =>
        step x (List.mem_cons_of_mem a inAs) y (List.mem_cons_of_mem b inBs)
      rw [sameTypes, Bool.and_eq_true, heads, tails, List.map_cons, List.map_cons, List.cons.injEq]

theorem eq_of_types_eq {a b : MethodType} (h : a.types = b.types) : a = b := by
  obtain ⟨returnType, argumentTypes⟩ := List.cons.inj h
  cases a
  cases b
  exact congr (congrArg mk returnType) argumentTypes

theorem same_iff_eq {a b : MethodType} (ha : ∀ t ∈ a.types, t.WellFormed)
    (hb : ∀ t ∈ b.types, t.WellFormed) : a.same b = true ↔ a = b := by
  have each : sameTypes a.types b.types = true ↔ a.types.map id = b.types.map id :=
    sameTypes_iff_map fun t inA u inB => (ha t inA).same_iff_eq (hb u inB)
  rw [List.map_id, List.map_id] at each
  exact each.trans ⟨eq_of_types_eq, congrArg types⟩

theorem rereads_iff_parseMethod {m : MethodType} (made : ∀ t ∈ m.types, Obtainable t) :
    m.Rereads ↔ parseMethod m.signature = .ok m := by
  have well : ∀ t ∈ m.types, t.WellFormed := fun t mem => (made t mem).wellFormed
  constructor
  · rintro ⟨read, parsed, same⟩
    -- To be the same is to be equal only because the types of `read` come from a text.
    have wellRead : ∀ t ∈ read.types, t.WellFormed := by
      intro t inRead
      obtain ⟨taken, denotes⟩ := denotes_of_parseMethod parsed inRead
      exact denotes.wellFormed
    rw [parsed, (same_iff_eq wellRead well).1 same]
  · intro parsed
    exact ⟨m, parsed, (same_iff_eq well well).2 rfl⟩

theorem rereads_iff {m : MethodType} (made : ∀ t ∈ m.types, Obtainable t) :
    m.Rereads ↔ m.Encodable := by
  rw [rereads_iff_parseMethod made, parseMethod_signature_iff]
  exact forall₂_congr fun t mem => (made t mem).wellFormed.denotes_signature_iff

theorem parseMethod_of_encodable {m : MethodType} (made : ∀ t ∈ m.types, Obtainable t)
    (encodable : m.Encodable) : parseMethod m.signature = .ok m :=
  (rereads_iff_parseMethod made).1 ((rereads_iff made).2 encodable)

theorem readArguments_signature {m : MethodType} (h : parseMethod m.signature = .ok m) :
    readArguments m.signature = .ok ⟨m.argumentTypes,
      Text.byteLength m.signature.toList - Text.byteLength m.returnType.signature.toList⟩ := by
  have each := parseMethod_signature_iff.1 h
  have opened := arguments_signature (List.forall_mem_cons.1 each).2
  exact complete_eq_ok_iff.2 ⟨_, opened, rfl⟩

/-- A method of types that can be built is read back from its signature exactly when they are
encodable. Then the lenient readings take its arguments, and no other such method has its
signature. -/
theorem rereads_iff_encodable_types (m : MethodType) (made : ∀ t ∈ m.types, Obtainable t) :
    (m.Rereads ↔ m.Encodable) ∧
      (m.Encodable →
        readArguments m.signature = .ok ⟨m.argumentTypes,
            Text.byteLength m.signature.toList - Text.byteLength m.returnType.signature.toList⟩ ∧
          readArgumentSlots m.signature = .ok ⟨m.argumentSlots,
            Text.byteLength m.signature.toList - Text.byteLength m.returnType.signature.toList⟩ ∧
          ∀ other : MethodType, (∀ t ∈ other.types, Obtainable t) → other.Encodable →
            m.signature = other.signature → m = other) := by
  refine ⟨rereads_iff made, ?_⟩
  intro encodable
  have parsed := parseMethod_of_encodable made encodable
  have opened := readArguments_signature parsed
  refine ⟨opened, ?_, ?_⟩
  · rw [readArgumentSlots_eq_map, opened]
    rfl
  · intro other made' encodable' eq
    -- One text is read as both methods.
    have parsed' := parseMethod_of_encodable made' encodable'
    rw [eq] at parsed
    exact Except.ok.inj (parsed.symm.trans parsed')

/-- Parentheses in the names of classes are no parentheses of the method, and a `void` argument is
read as it is written. -/
theorem rereads_parenthesized_classes :
    Rereads ⟨.object (.named "a)b"), [.withDimensions (.object "c(é") 2, .base .void]⟩ ∧
      readArguments "([[Lc(é;V)La)b;" =
        .ok ⟨[.withDimensions (.object "c(é") 2, .base .void], 11⟩ := by
  have returned : FieldType.ofClassName "a)b" = .ok (.object (.named "a)b")) := by rfl
  have element : FieldType.ofClassName "c(é" = .ok (.object (.named "c(é")) := by rfl
  have array : FieldType.arrayOf (.object (.named "c(é")) 2 =
      .ok (.withDimensions (.object "c(é") 2) := by rfl
  let m : MethodType :=
    ⟨.object (.named "a)b"), [.withDimensions (.object "c(é") 2, .base .void]⟩
  have made : ∀ t ∈ m.types, Obtainable t := by
    simp only [m, types, List.forall_mem_cons]
    exact ⟨.named returned, .array (.named element) array, .base .void, by simp⟩
  have encodable : m.Encodable := by
    unfold Encodable
    decide
  have text : m.signature = "([[Lc(é;V)La)b;" := by rfl
  have behind : m.returnType.signature = "La)b;" := by rfl
  have bytes : Text.byteLength "([[Lc(é;V)La)b;".toList - Text.byteLength "La)b;".toList = 11 := by
    decide
  obtain ⟨reads, opened⟩ := rereads_iff_encodable_types m made
  refine ⟨reads.2 encodable, ?_⟩
  rw [← text, (opened encodable).1, text, behind, bytes]

end TypeDescriptors.MethodType
