import TypeDescriptors.Proofs.Spellings

set_option autoImplicit false

namespace TypeDescriptors.FieldType
open Grammar

def Rereads (t : FieldType) : Prop :=
  ∃ reading, Signature.readType t.signature = .ok reading ∧ reading.value.same t = true ∧
    reading.consumed = Text.byteLength t.signature.toList

theorem rereads_iff_denotes {t : FieldType} :
    t.Rereads ↔ ∃ u : FieldType, Denotes t.signature.toList u ∧ u.same t = true := by
  constructor
  · intro h
    obtain ⟨⟨u, consumed⟩, read, same, all⟩ := h
    obtain ⟨rest, taken, eq⟩ := Signature.complete_eq_ok_iff.1 read
    obtain ⟨front, denotes, split⟩ := field_eq_ok_iff.1 taken
    have lengths := congrArg Text.byteLength split
    rw [Text.byteLength_append] at lengths
    have nothing : rest = [] := by
      apply Text.eq_nil_of_byteLength_eq_zero
      dsimp only at all
      omega
    rw [nothing, List.append_nil] at split
    exact ⟨u, split ▸ denotes, same⟩
  · intro h
    obtain ⟨u, denotes, same⟩ := h
    have taken := field_eq_ok_nil_iff.2 denotes
    exact ⟨⟨u, _⟩, Signature.complete_eq_ok_iff.2 ⟨[], taken, rfl⟩, same, by simp⟩

theorem WellFormed.rereads_iff {t : FieldType} (h : t.WellFormed) : t.Rereads ↔ t.Encodable := by
  rw [rereads_iff_denotes]
  constructor
  · intro reread
    obtain ⟨u, denotes, same⟩ := reread
    obtain rfl := (denotes.wellFormed.same_iff_eq h).1 same
    exact denotes.encodable
  · intro encodable
    exact ⟨t, denotes_signature h encodable, same_iff.2 ⟨rfl, rfl⟩⟩

/-- A type that can be built is read back from its signature exactly when it is encodable. -/
theorem rereads_iff_encodable (t : FieldType) (h : Obtainable t) : t.Rereads ↔ t.Encodable :=
  h.wellFormed.rereads_iff

/-- Two dimensions of the class `a).b[é` are read back from `[[La)/b[é;`, while the signature of a
class `a;b` ends at its first `;`. -/
theorem rereads_punctuated_class :
    (withDimensions (.object "a).b[é") 2).Rereads ∧ ¬ (ElementType.object "a;b").type.Rereads := by
  have punctuated : ofClassName "a)/b[é" = .ok (ElementType.object "a).b[é").type := by rfl
  have made : arrayOf (ElementType.object "a).b[é").type 2 =
      .ok (withDimensions (.object "a).b[é") 2) := by rfl
  have cut : ofClassName "a;b" = .ok (ElementType.object "a;b").type := by rfl
  constructor
  · apply (rereads_iff_encodable _ (.array (.named punctuated) made)).2
    rw [encodable_withDimensions_iff, encodable_object_iff]
    decide
  · intro reread
    have names := (rereads_iff_encodable _ (.named cut)).1 reread
    exact (encodable_object_iff.1 names).1 (by decide)

end TypeDescriptors.FieldType
