import TypeDescriptors.Grammar.Field

set_option autoImplicit false

namespace TypeDescriptors.Grammar

def referenceSlots : Reader Nat := fun text => do
  let (_, rest) ← referenceBody text
  .ok (1, rest)

def baseSlots : Reader Nat := fun text => do
  let (b, rest) ← baseLetter text
  .ok (b.slots, rest)

def scalarSlots : Reader Nat
  | 'L' :: text => referenceSlots text
  | 'T' :: text => referenceSlots text
  | text => baseSlots text

def arraySlotsOver (element : Reader Nat) : Reader Nat := fun text => do
  let (_, text') ← dimensions text
  let (_, rest) ← elementAfter element text'
  .ok (1, rest)

def fieldSlotsOver (element : Reader Nat) : Reader Nat
  | '[' :: text => arraySlotsOver element ('[' :: text)
  | text => scalarSlots text

def fieldSlots : Reader Nat := fieldSlotsOver scalarSlots

theorem referenceSlots_eq_ok_iff {text rest : List Char} {n : Nat} :
    referenceSlots text = .ok (n, rest) ↔
      n = 1 ∧ ∃ body, referenceBody text = .ok (body, rest) := by
  simp only [referenceSlots, bind_eq_ok_iff, Prod.exists, Except.ok.injEq, Prod.mk.injEq]
  constructor
  · rintro ⟨body, _, read, rfl, rfl⟩
    exact ⟨rfl, body, read⟩
  · rintro ⟨rfl, body, read⟩
    exact ⟨body, rest, read, rfl, rfl⟩

theorem baseSlots_eq_ok_iff {text rest : List Char} {n : Nat} :
    baseSlots text = .ok (n, rest) ↔ ∃ b : BaseType, n = b.slots ∧ text = b.letter :: rest := by
  simp only [baseSlots, bind_eq_ok_iff, baseLetter_eq_ok_iff, Prod.exists, Except.ok.injEq,
    Prod.mk.injEq]
  constructor
  · rintro ⟨b, _, read, rfl, rfl⟩
    exact ⟨b, rfl, read⟩
  · rintro ⟨b, rfl, read⟩
    exact ⟨b, rest, read, rfl, rfl⟩

theorem scalarSlots_shorter {text rest : List Char} {n : Nat}
    (h : scalarSlots text = .ok (n, rest)) : rest.length < text.length := by
  unfold scalarSlots at h
  split at h
  · obtain ⟨-, body, read⟩ := referenceSlots_eq_ok_iff.1 h
    exact Nat.lt_succ_of_lt (referenceBody_shorter read)
  · obtain ⟨-, body, read⟩ := referenceSlots_eq_ok_iff.1 h
    exact Nat.lt_succ_of_lt (referenceBody_shorter read)
  · obtain ⟨b, -, rfl⟩ := baseSlots_eq_ok_iff.1 h
    simp

theorem arraySlotsOver_eq_ok_iff {element : Reader Nat} {text rest : List Char} {n : Nat} :
    arraySlotsOver element text = .ok (n, rest) ↔
      n = 1 ∧ ∃ count text' k, dimensions text = .ok (count, text') ∧
        elementAfter element text' = .ok (k, rest) := by
  simp only [arraySlotsOver, bind_eq_ok_iff, Prod.exists, Except.ok.injEq, Prod.mk.injEq]
  constructor
  · rintro ⟨count, text', run, k, _, read, rfl, rfl⟩
    exact ⟨rfl, count, text', k, run, read⟩
  · rintro ⟨rfl, count, text', k, run, read⟩
    exact ⟨count, text', run, k, rest, read, rfl, rfl⟩

theorem fieldSlots_shorter {text rest : List Char} {n : Nat}
    (h : fieldSlots text = .ok (n, rest)) : rest.length < text.length := by
  unfold fieldSlots fieldSlotsOver at h
  split at h
  · obtain ⟨-, count, text', k, run, read⟩ := arraySlotsOver_eq_ok_iff.1 h
    exact Nat.lt_trans (scalarSlots_shorter (elementAfter_eq_ok read)) (dimensions_shorter run)
  · exact scalarSlots_shorter h

end TypeDescriptors.Grammar
