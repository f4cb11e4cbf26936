import TypeDescriptors.Grammar.Field

set_option autoImplicit false

namespace TypeDescriptors.Grammar
open Erasure (scan)

/-- Read from inside `depth` blocks, every `>` closes a block that is open there: fewer blocks were
closed before it than were open at first or opened since. -/
def Covered (depth : Nat) (cs : List Char) : Prop :=
  ∀ before after : List Char, cs = before ++ '>' :: after →
    before.count '>' < depth + before.count '<'

def depthAfter (depth : Nat) (c : Char) : Nat :=
  if c = '<' then depth + 1 else if c = '>' then depth - 1 else depth

theorem covered_nil (depth : Nat) : Covered depth [] := by
  intro before after eq
  simp at eq

theorem covered_cons_iff {c : Char} {depth : Nat} {cs : List Char} :
    Covered depth (c :: cs) ↔ (c = '>' → 0 < depth) ∧ Covered (depthAfter depth c) cs := by
  -- The count of each kind grows by one at its own character only.
  have opened (before : List Char) :
      (c :: before).count '<' = before.count '<' + if c = '<' then 1 else 0 := by
    simp [List.count_cons]
  have closed (before : List Char) :
      (c :: before).count '>' = before.count '>' + if c = '>' then 1 else 0 := by
    simp [List.count_cons]
  constructor
  · intro h
    have here : c = '>' → 0 < depth := by
      rintro rfl
      simpa using h [] cs rfl
    refine ⟨here, ?_⟩
    intro before after eq
    have longer := h (c :: before) after (by rw [eq, List.cons_append])
    rw [opened, closed] at longer
    unfold depthAfter
    grind
  · rintro ⟨here, h⟩ before after eq
    cases before with
    | nil =>
      obtain ⟨rfl, -⟩ := List.cons.inj eq
      simpa using here rfl
    | cons d before =>
      obtain ⟨rfl, rest⟩ := List.cons.inj eq
      have tail := h before after rest
      rw [opened, closed]
      unfold depthAfter at tail
      grind

theorem covered_opening_iff {depth : Nat} {cs : List Char} :
    Covered depth ('<' :: cs) ↔ Covered (depth + 1) cs := by
  simp [covered_cons_iff, depthAfter]

theorem covered_closing_iff {depth : Nat} {cs : List Char} :
    Covered depth ('>' :: cs) ↔ 0 < depth ∧ Covered (depth - 1) cs := by
  simp [covered_cons_iff, depthAfter]

theorem covered_char_iff {c : Char} {depth : Nat} {cs : List Char} (opening : c ≠ '<')
    (closing : c ≠ '>') : Covered depth (c :: cs) ↔ Covered depth cs := by
  simp [covered_cons_iff, depthAfter, opening, closing]

/-- The outcome of a split that has passed a covered text when it ends: the body that it found, or
what stands before its fault. -/
def PassesCovered (depth : Nat) (text : List Char) : Except Stop (List Char × List Char) → Prop
  | .ok (body, _) => Covered depth body
  | .error (.fault f) => ∃ front, text = front ++ f.rest ∧ Covered depth front
  | .error (.defect _) => False

theorem PassesCovered.keep {c : Char} {depth : Nat} {cs : List Char}
    {outcome : Except Stop (List Char × List Char)} (closes : c = '>' → 0 < depth)
    (h : PassesCovered (depthAfter depth c) cs outcome) :
    PassesCovered depth (c :: cs) (keep c outcome) := by
  match outcome, h with
  | .ok (body, _), h => exact covered_cons_iff.2 ⟨closes, h⟩
  | .error (.fault f), h =>
    obtain ⟨front, rfl, covered⟩ := h
    exact ⟨c :: front, rfl, covered_cons_iff.2 ⟨closes, covered⟩⟩

theorem PassesCovered.keep_char {c : Char} {depth : Nat} {cs : List Char}
    {outcome : Except Stop (List Char × List Char)} (opening : c ≠ '<') (closing : c ≠ '>')
    (h : PassesCovered depth cs outcome) :
    PassesCovered depth (c :: cs) (Grammar.keep c outcome) := by
  have level : depthAfter depth c = depth := by simp [depthAfter, opening, closing]
  exact .keep (fun close => absurd close closing) (level.symm ▸ h)

theorem splitBody_covered (depth : Nat) (text : List Char) :
    PassesCovered depth text (splitBody depth text) := by
  fun_induction splitBody depth text with
  | case1 | case2 | case4 => exact ⟨[], rfl, covered_nil _⟩
  | case5 => exact covered_nil 0
  | case3 cs ih => exact .keep (by simp) ih
  | case6 c cs opening closing _ ih => exact ih.keep_char opening closing
  | case7 depth cs ih => exact .keep (by simp) ih
  | case8 depth cs _ ih => exact .keep (fun _ => Nat.succ_pos depth) ih
  | case9 depth c cs opening closing ih => exact ih.keep_char opening closing

/-- The erasure of `scan`, but with a `>` outside of every block refused and not dropped. -/
def scanStrict : Nat → Bool → List Char → Option (List Char)
  | _, _, [] => some []
  | depth, closed, c :: cs =>
    if c = '<' then scanStrict (depth + 1) closed cs
    else if c = '>' then
      if depth = 0 then none
      else scanStrict (depth - 1) (closed || decide (depth - 1 = 0)) cs
    else if depth = 0 then
      (scanStrict depth closed cs).map ((if c = '.' && closed then '$' else c) :: ·)
    else scanStrict depth closed cs

theorem scanStrict_eq_some_iff {depth : Nat} {closed : Bool} {cs : List Char} :
    scanStrict depth closed cs = some (scan depth closed cs) ↔ Covered depth cs := by
  fun_induction scanStrict depth closed cs with
  | case1 => simp [scan, covered_nil]
  | case2 depth closed cs ih => simpa [scan, covered_opening_iff] using ih
  | case3 closed cs => simp [covered_closing_iff]
  | case4 depth closed cs pos _ ih =>
    simpa [scan, covered_closing_iff, Nat.pos_of_ne_zero pos] using ih
  | case5 closed c cs opening closing ih =>
    rw [covered_char_iff opening closing, ← ih]
    simp [scan, opening, closing]
  | case6 depth closed c cs opening closing pos ih =>
    rw [covered_char_iff opening closing, ← ih]
    simp [scan, opening, closing, pos]

end TypeDescriptors.Grammar
