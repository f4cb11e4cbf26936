import TypeDescriptors.Proofs.Body
import TypeDescriptors.Signature

set_option autoImplicit false

namespace TypeDescriptors.Grammar

theorem Core.head {core : List Char} {e : ElementType} (h : Core core e) :
    ∃ c cs, core = c :: cs ∧ c ≠ '[' ∧ c ≠ ')' ∧ (c = 'V' ↔ e = .base .void) := by
  cases h with
  | @letter c b mem =>
    obtain rfl := mem_letters_iff.1 mem
    exact ⟨b.letter, [], rfl, by cases b <;> decide⟩
  | reference _ => exact ⟨'L', _, rfl, by decide, by decide, by simp⟩
  | typeVariable _ => exact ⟨'T', _, rfl, by decide, by decide, by simp⟩

/-- A signature is a core behind a `[` for each dimension. -/
theorem denotes_iff {taken : List Char} {t : FieldType} :
    Denotes taken t ↔
      ∃ core e count, Core core e ∧ (1 ≤ count → e ≠ .base .void) ∧ count ≤ 255 ∧
        taken = List.replicate count '[' ++ core ∧ t = FieldType.withDimensions e count := by
  constructor
  · intro h
    cases h with
    | @scalar _ e denotes =>
      exact ⟨taken, e, 0, denotes, by simp, by decide, rfl, rfl⟩
    | @array core e count denotes notVoid _ limit =>
      exact ⟨core, e, count, denotes, fun _ => notVoid, limit, rfl, rfl⟩
  · rintro ⟨core, e, count, denotes, notVoid, limit, rfl, rfl⟩
    obtain rfl | pos := Nat.eq_zero_or_pos count
    · exact .scalar denotes
    · exact .array denotes (notVoid pos) pos limit

theorem Denotes.core_of_type {taken : List Char} {e : ElementType} (h : Denotes taken e.type) :
    Core taken e := by
  obtain ⟨core, e', count, denotes, -, -, rfl, eq⟩ := denotes_iff.1 h
  have none := congrArg FieldType.dimensions eq
  rw [FieldType.dimensions_type, FieldType.dimensions_withDimensions] at none
  have same := congrArg FieldType.elementType? eq
  rw [FieldType.elementType?_type, FieldType.elementType?_withDimensions] at same
  rw [← none, Option.some.inj same]
  exact denotes

theorem scalar_letter (b : BaseType) (rest : List Char) :
    scalar (b.letter :: rest) = .ok (.base b, rest) := by
  cases b <;> rfl

theorem reference_append (mark : Char) (body rest : List Char) :
    mark :: body ++ [';'] ++ rest = mark :: (body ++ ';' :: rest) := by
  simp

/-- The scalar reader takes a core off the front, whatever follows it. -/
theorem scalar_eq_ok_iff {text rest : List Char} {t : FieldType} :
    scalar text = .ok (t, rest) ↔
      ∃ core e, Core core e ∧ t = e.type ∧ text = core ++ rest := by
  constructor
  · intro h
    unfold scalar at h
    split at h
    · obtain ⟨parts, body, rfl, rfl⟩ := classReference_eq_ok_iff_parts.1 h
      exact ⟨_, _, .reference body, rfl, (reference_append _ _ _).symm⟩
    · obtain ⟨rfl, parts, body, rfl⟩ := variableReference_eq_ok_iff_parts.1 h
      exact ⟨_, _, .typeVariable body, rfl, (reference_append _ _ _).symm⟩
    · obtain ⟨b, rfl, rfl⟩ := baseType_eq_ok_iff.1 h
      exact ⟨_, _, .base b, rfl, rfl⟩
  · intro h
    obtain ⟨core, e, denotes, rfl, rfl⟩ := h
    cases denotes with
    | @letter c b mem =>
      obtain rfl := mem_letters_iff.1 mem
      exact scalar_letter b rest
    | @reference parts body =>
      rw [reference_append]
      exact classReference_eq_ok_iff_parts.2 ⟨parts, body, rfl, rfl⟩
    | @typeVariable parts body =>
      rw [reference_append]
      exact variableReference_eq_ok_iff_parts.2 ⟨rfl, parts, body, rfl⟩

theorem brackets_split (count : Nat) {rest : List Char} (h : rest.head? ≠ some '[') :
    (List.replicate count '[' ++ rest).takeWhile (fun c => c == '[') = List.replicate count '[' ∧
      (List.replicate count '[' ++ rest).dropWhile (fun c => c == '[') = rest := by
  induction count with
  | zero =>
    cases rest with
    | nil => exact ⟨rfl, rfl⟩
    | cons c cs =>
      have other : c ≠ '[' := by simpa using h
      simp [other]
  | succ count ih =>
    rw [List.replicate_succ, List.cons_append]
    simp [ih]

theorem dimensions_eq_ok_iff_replicate {text rest : List Char} {count : Nat} :
    dimensions text = .ok (count, rest) ↔
      1 ≤ count ∧ count ≤ 255 ∧ text = List.replicate count '[' ++ rest ∧
        rest.head? ≠ some '[' := by
  constructor
  · intro h
    obtain ⟨pos, limit, -⟩ := dimensions_eq_ok_iff.1 h
    exact ⟨Nat.pos_of_ne_zero pos, limit, dimensions_append h, dimensions_head h⟩
  · intro h
    obtain ⟨pos, limit, rfl, head⟩ := h
    obtain ⟨run, after⟩ := brackets_split count head
    apply dimensions_eq_ok_iff.2
    rw [run, after, List.length_replicate]
    exact ⟨by omega, limit, rfl, rfl⟩

theorem elementAfter_scalar_eq_ok_iff {text rest : List Char} {t : FieldType} :
    elementAfter scalar text = .ok (t, rest) ↔
      ∃ core e, Core core e ∧ e ≠ .base .void ∧ t = e.type ∧ text = core ++ rest := by
  constructor
  · intro h
    obtain ⟨core, e, denotes, rfl, rfl⟩ := scalar_eq_ok_iff.1 (elementAfter_eq_ok h)
    refine ⟨core, e, denotes, ?_, rfl, rfl⟩
    intro void
    obtain ⟨c, cs, rfl, -, -, letter⟩ := denotes.head
    obtain rfl := letter.2 void
    simp [elementAfter, fail] at h
  · intro h
    obtain ⟨core, e, denotes, ne, rfl, rfl⟩ := h
    have read : scalar (core ++ rest) = .ok (e.type, rest) :=
      scalar_eq_ok_iff.2 ⟨core, e, denotes, rfl, rfl⟩
    obtain ⟨c, cs, rfl, -, -, letter⟩ := denotes.head
    unfold elementAfter
    split
    · rename_i head
      exact absurd (letter.1 (List.cons.inj head).1) ne
    · exact cut_eq_ok_iff.2 read

theorem arrayOver_scalar_eq_ok_iff {text rest : List Char} {t : FieldType} :
    arrayOver scalar text = .ok (t, rest) ↔
      ∃ count core e, 1 ≤ count ∧ count ≤ 255 ∧ Core core e ∧
        e ≠ .base .void ∧ t = FieldType.withDimensions e count ∧
          text = List.replicate count '[' ++ core ++ rest := by
  rw [arrayOver_eq_ok_iff]
  constructor
  · intro h
    obtain ⟨count, text', t', run, read, made⟩ := h
    obtain ⟨pos, limit, rfl, -⟩ := dimensions_eq_ok_iff_replicate.1 run
    obtain ⟨core, e, denotes, ne, rfl, rfl⟩ := elementAfter_scalar_eq_ok_iff.1 read
    rw [FieldType.arrayOf_count ne pos limit] at made
    exact ⟨count, core, e, pos, limit, denotes, ne, (Except.ok.inj made).symm, by simp⟩
  · intro h
    obtain ⟨count, core, e, pos, limit, denotes, ne, rfl, rfl⟩ := h
    have head : (core ++ rest).head? ≠ some '[' := by
      obtain ⟨c, cs, rfl, bracket, -⟩ := denotes.head
      simpa using bracket
    refine ⟨count, core ++ rest, e.type, ?_, ?_, FieldType.arrayOf_count ne pos limit⟩
    · exact dimensions_eq_ok_iff_replicate.2 ⟨pos, limit, by simp, head⟩
    · exact elementAfter_scalar_eq_ok_iff.2 ⟨core, e, denotes, ne, rfl, rfl⟩

theorem field_brackets (text : List Char) : field ('[' :: text) = arrayOver scalar ('[' :: text) :=
  rfl

theorem field_of_head_ne {text : List Char} (h : text.head? ≠ some '[') :
    field text = scalar text := by
  unfold field fieldOver
  split
  · simp at h
  · rfl

/-- The reader of field types takes a signature off the front, whatever follows it. -/
theorem field_eq_ok_iff {text rest : List Char} {t : FieldType} :
    field text = .ok (t, rest) ↔ ∃ taken, Denotes taken t ∧ text = taken ++ rest := by
  constructor
  · intro h
    by_cases head : text.head? = some '['
    · obtain ⟨cs, rfl⟩ := List.head?_eq_some_iff.1 head
      rw [field_brackets] at h
      obtain ⟨count, core, e, pos, limit, denotes, ne, rfl, eq⟩ := arrayOver_scalar_eq_ok_iff.1 h
      exact ⟨_, .array denotes ne pos limit, eq⟩
    · rw [field_of_head_ne head] at h
      obtain ⟨core, e, denotes, rfl, rfl⟩ := scalar_eq_ok_iff.1 h
      exact ⟨core, .scalar denotes, rfl⟩
  · intro h
    obtain ⟨taken, denotes, rfl⟩ := h
    cases denotes with
    | scalar denotes =>
      have head : (taken ++ rest).head? ≠ some '[' := by
        obtain ⟨c, cs, rfl, bracket, -⟩ := denotes.head
        simpa using bracket
      rw [field_of_head_ne head]
      exact scalar_eq_ok_iff.2 ⟨taken, _, denotes, rfl, rfl⟩
    | @array core e count denotes ne pos limit =>
      have read : arrayOver scalar (List.replicate count '[' ++ core ++ rest) =
          .ok (FieldType.withDimensions e count, rest) :=
        arrayOver_scalar_eq_ok_iff.2 ⟨count, core, e, pos, limit, denotes, ne, rfl, rfl⟩
      obtain ⟨n, rfl⟩ := Nat.exists_eq_add_of_le' pos
      exact read

theorem field_eq_ok_nil_iff {text : List Char} {t : FieldType} :
    field text = .ok (t, []) ↔ Denotes text t := by
  rw [field_eq_ok_iff]
  constructor
  · rintro ⟨taken, denotes, rfl⟩
    rw [List.append_nil]
    exact denotes
  · intro denotes
    exact ⟨text, denotes, text.append_nil.symm⟩

theorem Denotes.field_append {taken : List Char} {t : FieldType} (h : Denotes taken t)
    (rest : List Char) : field (taken ++ rest) = .ok (t, rest) :=
  field_eq_ok_iff.2 ⟨taken, h, rfl⟩

end TypeDescriptors.Grammar

namespace TypeDescriptors.Signature
open Grammar

theorem complete_eq_ok_iff {α : Type} {text : String} {reader : Reader α} {input : List Char}
    {a : α} {consumed : Nat} :
    complete text reader input = .ok ⟨a, consumed⟩ ↔
      ∃ rest, reader input = .ok (a, rest) ∧
        consumed = Text.byteLength input - Text.byteLength rest := by
  unfold complete
  cases reader input with
  | error stop => simp
  | ok pair =>
    obtain ⟨b, rest⟩ := pair
    simp only [Except.ok.injEq, Reading.mk.injEq, Prod.mk.injEq]
    constructor
    · intro h
      exact ⟨rest, ⟨h.1, rfl⟩, h.2.symm⟩
    · intro h
      obtain ⟨_, ⟨same, rfl⟩, eq⟩ := h
      exact ⟨same, eq.symm⟩

theorem complete_whole_eq_ok_iff {α : Type} {text : String} {reader : Reader α}
    {input : List Char} {a : α} :
    (complete text (whole reader) input).map Reading.value = .ok a ↔
      reader input = .ok (a, []) := by
  constructor
  · intro h
    cases read : complete text (whole reader) input with
    | error failure => simp [read, Except.map] at h
    | ok reading =>
      obtain ⟨b, consumed⟩ := reading
      obtain ⟨rest, taken, -⟩ := complete_eq_ok_iff.1 read
      rw [read] at h
      obtain rfl : b = a := by simpa [Except.map] using h
      exact (whole_eq_ok_iff.1 taken).2
  · intro h
    have taken : whole reader input = .ok (a, []) := whole_eq_ok_iff.2 ⟨rfl, h⟩
    simp [complete, taken, Except.map]

theorem parseType_eq_ok_iff_field {text : String} {t : FieldType} :
    parseType text = .ok t ↔ field text.toList = .ok (t, []) :=
  complete_whole_eq_ok_iff

theorem denotes_of_parseType {text : String} {t : FieldType} (h : parseType text = .ok t) :
    Denotes text.toList t :=
  field_eq_ok_nil_iff.1 (parseType_eq_ok_iff_field.1 h)

theorem parseType_of_denotes {text : String} {t : FieldType} (h : Denotes text.toList t) :
    parseType text = .ok t :=
  parseType_eq_ok_iff_field.2 (field_eq_ok_nil_iff.2 h)

/-- The strict reading of field types accepts exactly the signatures of the language, and answers
with what they denote. -/
theorem parseType_eq_ok_iff_denotes (text : String) (t : FieldType) :
    parseType text = .ok t ↔ Denotes text.toList t := by
  rw [parseType_eq_ok_iff_field, field_eq_ok_iff]
  constructor
  · intro h
    obtain ⟨taken, denotes, eq⟩ := h
    rw [eq, List.append_nil]
    exact denotes
  · intro denotes
    exact ⟨text.toList, denotes, (List.append_nil _).symm⟩

end TypeDescriptors.Signature
