import TypeDescriptors.Proofs.Faults

set_option autoImplicit false

namespace TypeDescriptors.Grammar
open Erasure (scan erase)

/-- A text that need not be balanced, and the parts that are found in it. -/
inductive Torn : List Char → List Part → Prop where
  | nil : Torn [] []
  | plain {c : Char} {cs : List Char} {parts : List Part} : c ≠ '<' → c ≠ '>' → Torn cs parts →
      Torn (c :: cs) (.plain c :: parts)
  | block {inner cs : List Char} {parts : List Part} : Inside inner → Torn cs parts →
      Torn ('<' :: inner ++ '>' :: cs) (.block inner :: parts)
  | stray {cs : List Char} {parts : List Part} : Torn cs parts →
      Torn ('>' :: cs) (.block [] :: parts)
  | unclosed {cs : List Char} : Unclosed cs → Torn ('<' :: cs) []

/-- The parts that are found from inside `depth` blocks: none, as one of them is never closed, or
those behind the last `>` that is wanted. -/
def TornFrom (parts : List Part) : Nat → List Char → Prop
  | 0, cs => Torn cs parts
  | depth + 1, cs =>
    Unclosed cs ∧ parts = [] ∨
      ∃ inner tail, Inside inner ∧ cs = inner ++ '>' :: tail ∧ TornFrom parts depth tail

theorem TornFrom.append {parts : List Part} {xs cs : List Char} {depth : Nat} (inside : Inside xs)
    (h : TornFrom parts (depth + 1) cs) : TornFrom parts (depth + 1) (xs ++ cs) := by
  obtain ⟨open', none⟩ | ⟨inner, tail, balanced, rfl, behind⟩ := h
  · exact .inl ⟨open'.append inside, none⟩
  · rw [← List.append_assoc]
    exact .inr ⟨xs ++ inner, tail, inside.append balanced, rfl, behind⟩

theorem TornFrom.opening {parts : List Part} {cs : List Char} {depth : Nat}
    (h : TornFrom parts (depth + 1) cs) : ∃ parts', TornFrom parts' depth ('<' :: cs) := by
  obtain ⟨open', rfl⟩ | ⟨inner, tail, balanced, rfl, behind⟩ := h
  · cases depth with
    | zero => exact ⟨[], .unclosed open'⟩
    | succ depth => exact ⟨[], .inl ⟨.block .nil open', rfl⟩⟩
  · cases depth with
    | zero => exact ⟨.block inner :: parts, .block balanced behind⟩
    | succ depth =>
      have block : Inside ('<' :: inner ++ ['>']) := .block balanced .nil
      have whole := behind.append block
      rw [List.append_assoc] at whole
      exact ⟨parts, whole⟩

theorem TornFrom.char {parts : List Part} {c : Char} {cs : List Char} {depth : Nat}
    (opening : c ≠ '<') (closing : c ≠ '>') (h : TornFrom parts (depth + 1) cs) :
    TornFrom parts (depth + 1) (c :: cs) :=
  h.append (.char opening closing .nil)

theorem exists_tornFrom (depth : Nat) (cs : List Char) : ∃ parts, TornFrom parts depth cs := by
  -- One character at a time; the number of open blocks is the one that the scan counts.
  induction cs generalizing depth with
  | nil =>
    cases depth with
    | zero => exact ⟨[], .nil⟩
    | succ depth => exact ⟨[], .inl ⟨.inside .nil, rfl⟩⟩
  | cons c cs ih =>
    by_cases opening : c = '<'
    · subst opening
      obtain ⟨parts, torn⟩ := ih (depth + 1)
      exact torn.opening
    · by_cases closing : c = '>'
      · subst closing
        cases depth with
        | zero =>
          obtain ⟨parts, torn⟩ := ih 0
          exact ⟨.block [] :: parts, .stray torn⟩
        | succ depth =>
          obtain ⟨parts, torn⟩ := ih depth
          exact ⟨parts, .inr ⟨[], cs, .nil, rfl, torn⟩⟩
      · obtain ⟨parts, torn⟩ := ih depth
        cases depth with
        | zero => exact ⟨.plain c :: parts, .plain opening closing torn⟩
        | succ depth => exact ⟨parts, torn.char opening closing⟩

theorem exists_torn (cs : List Char) : ∃ parts, Torn cs parts := exists_tornFrom 0 cs

theorem scan_unclosed {cs : List Char} (h : Unclosed cs) (depth : Nat) (closed : Bool) :
    scan (depth + 1) closed cs = [] := by
  induction h generalizing depth with
  | @inside inner balanced =>
    have nothing := scan_inside balanced depth closed []
    rwa [List.append_nil] at nothing
  | block balanced _ ih => simp [scan_inside balanced, scan, ih]

theorem scan_torn {cs : List Char} {parts : List Part} (h : Torn cs parts) (closed : Bool) :
    scan 0 closed cs = spelledFrom closed parts := by
  induction h generalizing closed with
  | nil => rfl
  | plain opening closing _ ih => simp [scan, spelledFrom, opening, closing, ih]
  | block inside _ ih => simp [scan, spelledFrom, scan_inside inside, ih]
  | stray _ ih => simp [scan, spelledFrom, ih]
  | unclosed open' => simp [scan, spelledFrom, scan_unclosed open']

end TypeDescriptors.Grammar

namespace TypeDescriptors.Erasure
open Grammar (Torn spelledFrom referenceBody)

/-- The shortcut gives what the scan gives, except that it keeps each `>` of a text without `<`. -/
theorem erase_eq_scan_iff {body : List Char} :
    erase body = scan 0 false body ↔ ('>' ∈ body → '<' ∈ body) := by
  constructor
  · intro agree closing
    refine Decidable.byContradiction fun opening => ?_
    rw [erase, if_neg opening] at agree
    rw [agree] at closing
    exact (bracket_notMem_scan 0 false body).2 closing
  · intro h
    exact erase_eq_scan fun opening closing => opening (h closing)

theorem opening_notMem_erase (body : List Char) : '<' ∉ erase body := by
  unfold erase
  split
  · exact (bracket_notMem_scan 0 false body).1
  · assumption

theorem closing_mem_erase_iff {body : List Char} :
    '>' ∈ erase body ↔ '>' ∈ body ∧ '<' ∉ body := by
  unfold erase
  split
  · rename_i opening
    simp [opening, (bracket_notMem_scan 0 false body).2]
  · rename_i opening
    simp [opening]

theorem erase_eq_self_iff {body : List Char} : erase body = body ↔ '<' ∉ body := by
  constructor
  · intro same
    exact same ▸ opening_notMem_erase body
  · exact fun opening => if_neg opening

/-- What is erased of any text: the scan keeps what its parts spell, and the shortcut gives that
just where no `>` stands without a `<`, as in every body that is read. A `>` is all that it keeps
besides. -/
theorem erase_of_any_text (body : List Char) :
    (erase body = scan 0 false body ↔ ('>' ∈ body → '<' ∈ body)) ∧
      (erase body = body ↔ '<' ∉ body) ∧
      '<' ∉ erase body ∧ ('>' ∈ erase body ↔ '>' ∈ body ∧ '<' ∉ body) ∧
      (∃ parts, Torn body parts ∧ scan 0 false body = spelledFrom false parts) ∧
      ∀ text rest, referenceBody text = .ok (body, rest) → erase body = scan 0 false body := by
  refine ⟨erase_eq_scan_iff, erase_eq_self_iff, opening_notMem_erase body, closing_mem_erase_iff,
    ?_, ?_⟩
  · obtain ⟨parts, torn⟩ := Grammar.exists_torn body
    exact ⟨parts, torn, Grammar.scan_torn torn false⟩
  · intro text rest read
    obtain ⟨parts, legal, rfl, -⟩ := Grammar.referenceBody_eq_ok_iff_parts.1 read
    rw [Grammar.erase_bodyText legal.legal, Grammar.scan_bodyText legal.legal]

theorem erase_inner_class :
    referenceBody "a<TT;>.b;I".toList = .ok ("a<TT;>.b".toList, ['I']) ∧
      erase "a<TT;>.b".toList = scan 0 false "a<TT;>.b".toList ∧
      scan 0 false "a<TT;>.b".toList = "a$b".toList := by
  have read : referenceBody "a<TT;>.b;I".toList = .ok ("a<TT;>.b".toList, ['I']) := by rfl
  obtain ⟨-, -, -, -, -, bodies⟩ := erase_of_any_text "a<TT;>.b".toList
  exact ⟨read, bodies _ _ read, by rfl⟩

/-- The scan drops a `>` that closes nothing, but a text without `<` is not scanned. -/
theorem stray_closing_kept :
    erase "a>b".toList = "a>b".toList ∧ scan 0 false "a>b".toList = "ab".toList ∧
      erase "a>b".toList ≠ scan 0 false "a>b".toList ∧ '>' ∈ erase "a>b".toList := by
  decide

end TypeDescriptors.Erasure
