import TypeDescriptors.Grammar.Method
import TypeDescriptors.Proofs.Acceptance

set_option autoImplicit false

namespace TypeDescriptors.Grammar

theorem Denotes.unique {xs ys more rest : List Char} {a b : FieldType} (hx : Denotes xs a)
    (hy : Denotes ys b) (eq : xs ++ more = ys ++ rest) : xs = ys ∧ a = b ∧ more = rest := by
  have first := hx.field_append more
  rw [eq, hy.field_append rest] at first
  obtain ⟨rfl, rfl⟩ := Prod.mk.inj (Except.ok.inj first)
  exact ⟨List.append_cancel_right eq, rfl, rfl⟩

/-- No signature is the beginning of another. -/
theorem Denotes.prefix_free {xs ys : List Char} {a b : FieldType} (hx : Denotes xs a)
    (hy : Denotes ys b) (h : xs <+: ys) : xs = ys := by
  obtain ⟨more, eq⟩ := h
  rw [← List.append_nil ys] at eq
  exact (hx.unique hy eq).1

theorem Denotes.head {taken : List Char} {t : FieldType} (h : Denotes taken t) :
    ∃ c cs, taken = c :: cs ∧ c ≠ ')' := by
  cases h with
  | scalar core =>
    obtain ⟨c, cs, rfl, -, close, -⟩ := core.head
    exact ⟨c, cs, rfl, close⟩
  | @array core e count _ _ pos _ =>
    obtain ⟨n, rfl⟩ := Nat.exists_eq_add_of_le' pos
    exact ⟨'[', List.replicate n '[' ++ core, rfl, by decide⟩

theorem openParen_append {before : List Char} (h : '(' ∉ before) (rest : List Char) :
    openParen (before ++ '(' :: rest) = .ok rest := by
  unfold openParen
  rw [List.dropWhile_append_of_pos (Text.ne_mark_of_notMem h)]
  simp

theorem openParen_eq_ok_iff {text rest : List Char} :
    openParen text = .ok rest ↔ ∃ before, '(' ∉ before ∧ text = before ++ '(' :: rest := by
  constructor
  · intro h
    unfold openParen at h
    split at h
    · simp [fail] at h
    · rename_i c cs found
      obtain rfl : cs = rest := by simpa using h
      have here := List.head?_dropWhile_not (fun c => c != '(') text
      simp only [found, List.head?_cons, bne_eq_false_iff_eq] at here
      obtain rfl := here
      refine ⟨text.takeWhile fun c => c != '(', ?_, ?_⟩
      · intro mem
        have kept := List.all_eq_true.1 (List.all_takeWhile (l := text)) _ mem
        simp at kept
      · rw [← found, List.takeWhile_append_dropWhile]
  · intro h
    obtain ⟨before, absent, rfl⟩ := h
    exact openParen_append absent rest

theorem itemsUntil_close (rest : List Char) :
    itemsUntil field ')' (')' :: rest) = ([], .ok rest) := by
  rw [itemsUntil]
  simp [char]

theorem Denotes.itemsUntil_append {taken : List Char} {t : FieldType} (h : Denotes taken t)
    (more : List Char) :
    itemsUntil field ')' (taken ++ more) =
      (t :: (itemsUntil field ')' more).1, (itemsUntil field ')' more).2) := by
  have read := h.field_append more
  obtain ⟨c, cs, rfl, close⟩ := h.head
  have shorter : more.length < (c :: cs ++ more).length := by
    rw [List.length_append, List.length_cons]
    omega
  have other : char ')' (c :: cs ++ more) = fail (.expected ')' (c :: cs ++ more)) := by
    simp [char, close]
  rw [itemsUntil, other, read]
  simp only [fail, shorter, ↓reduceIte]

end TypeDescriptors.Grammar

namespace TypeDescriptors.Signature
open Grammar

/-- A text that the strict reading accepts, with its type. -/
structure Segment where
  text : String
  type : FieldType
  parsed : parseType text = .ok type

namespace Segment

theorem denotes (s : Segment) : Denotes s.text.toList s.type :=
  denotes_of_parseType s.parsed

theorem exists_of_denotes {taken : List Char} {t : FieldType} (h : Denotes taken t) :
    ∃ s : Segment, s.text.toList = taken ∧ s.type = t := by
  have parsed : parseType (String.ofList taken) = .ok t := by
    apply parseType_of_denotes
    rw [String.toList_ofList]
    exact h
  exact ⟨⟨_, t, parsed⟩, String.toList_ofList, rfl⟩

def chars (segments : List Segment) : List Char := segments.flatMap fun s => s.text.toList

@[simp] theorem chars_cons (s : Segment) (segments : List Segment) :
    chars (s :: segments) = s.text.toList ++ chars segments := rfl

theorem toList_join (segments : List Segment) :
    (String.join (segments.map text)).toList = chars segments := by
  rw [String.toList_join, List.flatMap_map]
  rfl

theorem eq_of_text_eq {a b : Segment} (text : a.text.toList = b.text.toList)
    (type : a.type = b.type) : a = b := by
  obtain ⟨x, t, _⟩ := a
  obtain ⟨y, u, _⟩ := b
  obtain rfl := String.toList_inj.1 text
  obtain rfl := type
  rfl

end Segment

theorem itemsUntil_segments (segments : List Segment) (rest : List Char) :
    itemsUntil field ')' (Segment.chars segments ++ ')' :: rest) =
      (segments.map Segment.type, .ok rest) := by
  induction segments with
  | nil => exact itemsUntil_close rest
  | cons s segments ih =>
    rw [Segment.chars_cons, List.append_assoc, s.denotes.itemsUntil_append, ih]
    rfl

theorem segments_of_itemsUntil {text rest : List Char} {types : List FieldType}
    (h : itemsUntil field ')' text = (types, .ok rest)) :
    ∃ segments : List Segment, types = segments.map Segment.type ∧
      text = Segment.chars segments ++ ')' :: rest := by
  fun_induction itemsUntil field ')' text generalizing types with
  | case1 text c after close =>
    obtain ⟨rfl, same⟩ := Prod.mk.inj h
    obtain rfl := Except.ok.inj same
    exact ⟨[], rfl, (char_eq_ok_iff.1 close).2⟩
  | case2 | case3 | case5 => simp [fail] at h
  | case4 text stop close t after read shorter items ending next ih =>
    obtain ⟨rfl, same⟩ := Prod.mk.inj h
    obtain ⟨taken, denotes, rfl⟩ := field_eq_ok_iff.1 read
    obtain ⟨s, rfl, rfl⟩ := Segment.exists_of_denotes denotes
    obtain ⟨segments, rfl, rfl⟩ := ih (by rw [next, same])
    exact ⟨s :: segments, rfl, by simp⟩

theorem arguments_eq_ok_iff {text rest : List Char} {types : List FieldType} :
    arguments text = .ok (types, rest) ↔
      ∃ (before : List Char) (segments : List Segment), '(' ∉ before ∧
        types = segments.map Segment.type ∧
        text = before ++ '(' :: (Segment.chars segments ++ ')' :: rest) := by
  unfold arguments argumentsRead
  constructor
  · intro h
    cases opened : openParen text with
    | error stop => simp [opened] at h
    | ok inside =>
      obtain ⟨before, absent, rfl⟩ := openParen_eq_ok_iff.1 opened
      simp only [opened] at h
      split at h
      · rename_i items after read
        obtain ⟨rfl, rfl⟩ := Prod.mk.inj (Except.ok.inj h)
        obtain ⟨segments, rfl, rfl⟩ := segments_of_itemsUntil read
        exact ⟨before, segments, absent, rfl, rfl⟩
      · simp at h
  · intro h
    obtain ⟨before, segments, absent, rfl, rfl⟩ := h
    rw [openParen_eq_ok_iff.2 ⟨before, absent, rfl⟩]
    simp only [itemsUntil_segments]

/-- Segments that end at a closing parenthesis are found in one way only. -/
theorem segments_unique {as bs : List Segment} {more rest : List Char}
    (eq : Segment.chars as ++ ')' :: more = Segment.chars bs ++ ')' :: rest) :
    as = bs ∧ more = rest := by
  induction as generalizing bs with
  | nil =>
    cases bs with
    | nil => exact ⟨rfl, (List.cons.inj eq).2⟩
    | cons b bs =>
      obtain ⟨c, cs, head, close⟩ := b.denotes.head
      rw [Segment.chars_cons, head] at eq
      exact absurd (List.cons.inj eq).1.symm close
  | cons a as ih =>
    cases bs with
    | nil =>
      obtain ⟨c, cs, head, close⟩ := a.denotes.head
      rw [Segment.chars_cons, head] at eq
      exact absurd (List.cons.inj eq).1 close
    | cons b bs =>
      rw [Segment.chars_cons, Segment.chars_cons, List.append_assoc, List.append_assoc] at eq
      obtain ⟨text, type, after⟩ := a.denotes.unique b.denotes eq
      obtain ⟨rfl, same⟩ := ih after
      exact ⟨by rw [Segment.eq_of_text_eq text type], same⟩

end TypeDescriptors.Signature
