import TypeDescriptors.Malformed

set_option autoImplicit false

/-!
# Readers

A reader takes the text that remains and returns a value with the text after it, or the fault that
stopped it. A fault keeps the text that remained where it was found, from which its offset follows,
and says whether another alternative may still be tried there.
-/
namespace TypeDescriptors.Grammar

inductive Severity where
  | recoverable
  | fatal
  deriving DecidableEq, Repr

structure Fault where
  reason : Reason
  rest : List Char
  severity : Severity
  deriving DecidableEq, Repr

namespace Fault

def expected (wanted : Char) (rest : List Char) : Fault :=
  match rest with
  | [] => ⟨.unexpectedEnd, rest, .recoverable⟩
  | found :: _ => ⟨.expected wanted found, rest, .recoverable⟩

def unexpected (rest : List Char) : Fault :=
  match rest with
  | [] => ⟨.unexpectedEnd, rest, .recoverable⟩
  | c :: _ => ⟨.unexpectedCharacter c, rest, .recoverable⟩

def fatal (reason : Reason) (rest : List Char) : Fault := ⟨reason, rest, .fatal⟩

/-- The fault of a rule that was read as a part of another one, which began at `_outer`: the
innermost fault is the most specific one and stands. -/
def within (inner : Fault) (_outer : List Char) : Fault := inner

end Fault

inductive Stop where
  | fault (f : Fault)
  | defect (d : Defect)
  deriving DecidableEq, Repr

abbrev Reader (α : Type) : Type := List Char → Except Stop (α × List Char)

def fail {α : Type} (f : Fault) : Except Stop α := .error (.fault f)

def char (c : Char) : Reader Char
  | [] => fail (.expected c [])
  | x :: rest => if x = c then .ok (c, rest) else fail (.expected c (x :: rest))

def whole {α : Type} (reader : Reader α) : Reader α := fun text => do
  let (a, rest) ← reader text
  if rest.isEmpty then .ok (a, rest) else fail (.fatal .trailingCharacters rest)

def cut {α : Type} (reader : Reader α) : Reader α := fun text =>
  match reader text with
  | .error (.fault f) => fail { f with severity := .fatal }
  | outcome => outcome

theorem bind_eq_ok_iff {ε α β : Type} {first : Except ε α} {next : α → Except ε β} {b : β} :
    (first >>= next) = .ok b ↔ ∃ a, first = .ok a ∧ next a = .ok b := by
  cases first with
  | error _ => simp [bind, Except.bind]
  | ok a => simp [bind, Except.bind]

theorem char_eq_ok_iff {c x : Char} {text rest : List Char} :
    char c text = .ok (x, rest) ↔ x = c ∧ text = c :: rest := by
  cases text with
  | nil => simp [char, fail]
  | cons y ys =>
    by_cases h : y = c
    · simp [char, h, eq_comm]
    · simp [char, fail, h]

theorem whole_eq_ok_iff {α : Type} {reader : Reader α} {text rest : List Char} {a : α} :
    whole reader text = .ok (a, rest) ↔ rest = [] ∧ reader text = .ok (a, []) := by
  constructor
  · intro h
    obtain ⟨⟨b, rest'⟩, read, h⟩ := bind_eq_ok_iff.1 h
    cases rest' with
    | nil =>
      simp only [List.isEmpty_nil, ↓reduceIte, Except.ok.injEq, Prod.mk.injEq] at h
      obtain ⟨rfl, rfl⟩ := h
      exact ⟨rfl, read⟩
    | cons c cs => simp [fail] at h
  · rintro ⟨rfl, read⟩
    exact bind_eq_ok_iff.2 ⟨(a, []), read, rfl⟩

theorem whole_of_error {α : Type} {reader : Reader α} {text : List Char} {stop : Stop}
    (h : reader text = .error stop) : whole reader text = .error stop := by
  simp [whole, bind, Except.bind, h]

theorem whole_of_rest {α : Type} {reader : Reader α} {text rest : List Char} {a : α}
    (read : reader text = .ok (a, rest)) (more : rest ≠ []) :
    whole reader text = fail (.fatal .trailingCharacters rest) := by
  simp [whole, bind, Except.bind, read, more]

theorem cut_eq_ok_iff {α : Type} {reader : Reader α} {text rest : List Char} {a : α} :
    cut reader text = .ok (a, rest) ↔ reader text = .ok (a, rest) := by
  unfold cut
  split
  · rename_i h
    simp [fail, h]
  · rfl

theorem cut_of_fault {α : Type} {reader : Reader α} {text : List Char} {f : Fault}
    (h : reader text = .error (.fault f)) :
    cut reader text = fail { f with severity := .fatal } := by
  simp [cut, h]

end TypeDescriptors.Grammar
