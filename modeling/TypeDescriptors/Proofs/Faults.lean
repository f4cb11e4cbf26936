import TypeDescriptors.Proofs.Acceptance

set_option autoImplicit false

/-!
# Texts that begin with no type

The language of field types from its other side. A text that begins with no field type has one
fault: a reason, and the text that remains where the fault lies. `FieldFault` says which fault,
without reading the text, and the reader fails in exactly these ways (`field_fails_iff`). What
follows the fault has no part in it, and a fault with no text left is one that a longer text may
mend.
-/
namespace TypeDescriptors.Grammar

/-- The text behind a `<` that nothing closes. -/
inductive Unclosed : List Char → Prop where
  | inside {inner : List Char} : Inside inner → Unclosed inner
  | block {inner cs : List Char} : Inside inner → Unclosed cs → Unclosed (inner ++ '<' :: cs)

inductive SplitFault : List Char → Reason → List Char → Prop where
  | unterminated {parts : List Part} : (∀ part ∈ parts, part.Legal) →
      SplitFault (bodyText parts) .unterminatedReference []
  | unclosed {parts : List Part} {cs : List Char} : (∀ part ∈ parts, part.Legal) → Unclosed cs →
      SplitFault (bodyText parts ++ '<' :: cs) .unbalancedTypeArguments []
  | stray {parts : List Part} {cs : List Char} : (∀ part ∈ parts, part.Legal) →
      SplitFault (bodyText parts ++ '>' :: cs) .unbalancedTypeArguments ('>' :: cs)

/-- A text that does not begin with a body and its `;`, and its fault. An empty name is found behind
the body, but its fault is laid at the beginning. -/
inductive BodyFault : List Char → Reason → List Char → Prop where
  | split {cs rest : List Char} {reason : Reason} : SplitFault cs reason rest →
      BodyFault cs reason rest
  | unnamed {parts : List Part} {cs : List Char} : (∀ part ∈ parts, part.Legal) →
      (∀ c, Part.plain c ∉ parts) →
        BodyFault (bodyText parts ++ ';' :: cs) .emptyClassName (bodyText parts ++ ';' :: cs)

def initials : List Char := 'L' :: 'T' :: '[' :: letters.map Prod.fst

inductive CoreFault : List Char → Reason → List Char → Prop where
  | ending : CoreFault [] .unexpectedEnd []
  | character {c : Char} {cs : List Char} : c ∉ initials →
      CoreFault (c :: cs) (.unexpectedCharacter c) (c :: cs)
  | body {mark : Char} {cs rest : List Char} {reason : Reason} : mark = 'L' ∨ mark = 'T' →
      BodyFault cs reason rest → CoreFault (mark :: cs) reason rest

/-- A text that does not begin with a field type, and its fault. -/
inductive FieldFault : List Char → Reason → List Char → Prop where
  | core {count : Nat} {cs rest : List Char} {reason : Reason} :
      count ≤ 255 → CoreFault cs reason rest →
        FieldFault (List.replicate count '[' ++ cs) reason rest
  | voidElement {count : Nat} {cs : List Char} : 1 ≤ count → count ≤ 255 →
      FieldFault (List.replicate count '[' ++ 'V' :: cs) .voidArrayElement ('V' :: cs)
  | dimensions {count : Nat} {cs : List Char} : 255 < count →
      cs.head? ≠ some '[' →
        FieldFault (List.replicate count '[' ++ cs) (.tooManyDimensions count)
          (List.replicate count '[' ++ cs)

section Outcomes

variable {α β : Type} {reason : Reason} {rest : List Char}

def Fails (outcome : Except Stop α) (reason : Reason) (rest : List Char) : Prop :=
  ∃ severity, outcome = fail ⟨reason, rest, severity⟩

theorem fails_fail_iff {f : Fault} :
    Fails (fail f : Except Stop α) reason rest ↔ f.reason = reason ∧ f.rest = rest := by
  obtain ⟨reason', rest', severity⟩ := f
  simp [Fails, fail]

theorem not_fails_ok (a : α) : ¬ Fails (.ok a) reason rest := by
  simp [Fails, fail]

theorem fails_bind_iff {first : Except Stop α} {next : α → Except Stop β} :
    Fails (first >>= next) reason rest ↔
      Fails first reason rest ∨ ∃ a, first = .ok a ∧ Fails (next a) reason rest := by
  cases first with
  | error stop => simp [Fails, fail, bind, Except.bind]
  | ok a => simp [Fails, fail, bind, Except.bind]

theorem fails_cut_iff {reader : Reader α} {text : List Char} :
    Fails (cut reader text) reason rest ↔ Fails (reader text) reason rest := by
  unfold cut
  split
  · rename_i f found
    rw [found, fails_fail_iff]
    exact (fails_fail_iff (f := f)).symm
  · rfl

theorem fails_keep_iff {c : Char} {outcome : Except Stop (List Char × List Char)} :
    Fails (keep c outcome) reason rest ↔ Fails outcome reason rest := by
  cases outcome <;> simp [keep, Fails, fail]

theorem not_fails_request {outcome : Except Defect FieldType} {left : List Char} :
    ¬ Fails (request outcome left) reason rest := by
  cases outcome <;> simp [request, Fails, fail]

end Outcomes

theorem Unclosed.append {xs cs : List Char} (inside : Inside xs) (h : Unclosed cs) :
    Unclosed (xs ++ cs) := by
  cases h with
  | inside inner => exact .inside (inside.append inner)
  | block inner open' =>
    rw [← List.append_assoc]
    exact .block (inside.append inner) open'

theorem SplitFault.cons_part {part : Part} {cs rest : List Char} {reason : Reason}
    (legal : part.Legal) (h : SplitFault cs reason rest) :
    SplitFault (part.text ++ cs) reason rest := by
  cases h with
  | unterminated others => exact .unterminated (List.forall_mem_cons.2 ⟨legal, others⟩)
  | unclosed others open' =>
    rw [← List.append_assoc]
    exact .unclosed (List.forall_mem_cons.2 ⟨legal, others⟩) open'
  | stray others =>
    rw [← List.append_assoc]
    exact .stray (List.forall_mem_cons.2 ⟨legal, others⟩)

/-- The ways to fail from inside `depth` blocks: not to close them all, or to close them and fail
behind them. -/
def Breaks (reason : Reason) (rest : List Char) : Nat → List Char → Prop
  | 0, cs => SplitFault cs reason rest
  | depth + 1, cs =>
    Unclosed cs ∧ reason = .unbalancedTypeArguments ∧ rest = [] ∨
      ∃ inner tail, Inside inner ∧ cs = inner ++ '>' :: tail ∧ Breaks reason rest depth tail

theorem Breaks.append {reason : Reason} {rest xs cs : List Char} {depth : Nat}
    (inside : Inside xs) (h : Breaks reason rest (depth + 1) cs) :
    Breaks reason rest (depth + 1) (xs ++ cs) := by
  obtain ⟨open', reason, rest⟩ | ⟨inner, tail, balanced, rfl, behind⟩ := h
  · exact .inl ⟨open'.append inside, reason, rest⟩
  · rw [← List.append_assoc]
    exact .inr ⟨xs ++ inner, tail, inside.append balanced, rfl, behind⟩

theorem breaks_of_splitBody {depth : Nat} {text rest : List Char} {reason : Reason}
    (h : Fails (splitBody depth text) reason rest) : Breaks reason rest depth text := by
  have no_parts : ∀ part ∈ ([] : List Part), part.Legal := by simp
  -- As for `Closes`: a `<` makes one block to close out of two, a `>` leaves one fewer.
  fun_induction splitBody depth text with
  | case1 =>
    obtain ⟨rfl, rfl⟩ := fails_fail_iff.1 h
    exact .unterminated no_parts
  | case2 depth =>
    obtain ⟨rfl, rfl⟩ := fails_fail_iff.1 h
    exact .inl ⟨.inside .nil, rfl, rfl⟩
  | case3 cs ih =>
    obtain ⟨open', rfl, rfl⟩ | ⟨inner, tail, inside, rfl, behind⟩ := ih (fails_keep_iff.1 h)
    · exact .unclosed no_parts open'
    · have block : (Part.block inner).Legal := inside
      simpa [Breaks, Part.text] using behind.cons_part block
  | case4 cs =>
    obtain ⟨rfl, rfl⟩ := fails_fail_iff.1 h
    exact .stray no_parts
  | case5 => exact absurd h (not_fails_ok _)
  | case6 c cs opening closing semicolon ih =>
    have plain : (Part.plain c).Legal := ⟨opening, closing, semicolon⟩
    exact (ih (fails_keep_iff.1 h)).cons_part plain
  | case7 depth cs ih =>
    obtain ⟨open', rfl, rfl⟩ | ⟨inner, tail, inside, rfl, behind⟩ := ih (fails_keep_iff.1 h)
    · exact .inl ⟨.block .nil open', rfl, rfl⟩
    · have block : Inside ('<' :: inner ++ '>' :: []) := .block inside .nil
      simpa using behind.append block
  | case8 depth cs _ ih => exact .inr ⟨[], cs, .nil, rfl, ih (fails_keep_iff.1 h)⟩
  | case9 depth c cs opening closing ih =>
    exact (ih (fails_keep_iff.1 h)).append (.char opening closing .nil)

section Splitting

variable {reason : Reason} {rest : List Char}

theorem splitBody_fails_inside {inner text : List Char} {depth : Nat} (inside : Inside inner)
    (h : Fails (splitBody (depth + 1) text) reason rest) :
    Fails (splitBody (depth + 1) (inner ++ text)) reason rest := by
  induction inside generalizing depth text with
  | nil => exact h
  | char opening closing _ ih =>
    simpa [splitBody, opening, closing, fails_keep_iff] using ih h
  | @block inner cs _ _ ihInner ihTail =>
    have closed : Fails (splitBody (depth + 2) ('>' :: (cs ++ text))) reason rest := by
      simpa [splitBody, fails_keep_iff] using ihTail h
    simpa [splitBody, fails_keep_iff] using ihInner closed

theorem splitBody_fails_unclosed {cs : List Char} (h : Unclosed cs) (depth : Nat) :
    Fails (splitBody (depth + 1) cs) .unbalancedTypeArguments [] := by
  induction h generalizing depth with
  | @inside inner inside =>
    have ending : Fails (splitBody (depth + 1) []) .unbalancedTypeArguments [] :=
      fails_fail_iff.2 ⟨rfl, rfl⟩
    have whole := splitBody_fails_inside inside ending
    rwa [List.append_nil] at whole
  | @block inner cs inside _ ih =>
    apply splitBody_fails_inside inside
    simpa [splitBody, fails_keep_iff] using ih (depth + 1)

theorem splitBody_fails_parts {parts : List Part} {text : List Char}
    (legal : ∀ part ∈ parts, part.Legal) (h : Fails (splitBody 0 text) reason rest) :
    Fails (splitBody 0 (bodyText parts ++ text)) reason rest := by
  induction parts with
  | nil => exact h
  | cons part parts ih =>
    obtain ⟨first, others⟩ := List.forall_mem_cons.1 legal
    have tail := ih others
    cases part with
    | plain c =>
      obtain ⟨opening, closing, semicolon⟩ := first
      rw [bodyText_plain, List.cons_append]
      simpa [splitBody, opening, closing, semicolon, fails_keep_iff] using tail
    | block inner =>
      have closed : Fails (splitBody 1 ('>' :: (bodyText parts ++ text))) reason rest := by
        simpa [splitBody, fails_keep_iff] using tail
      have whole := splitBody_fails_inside first closed
      rw [bodyText_block]
      simpa [splitBody, fails_keep_iff] using whole

theorem splitBody_fails_iff {text : List Char} :
    Fails (splitBody 0 text) reason rest ↔ SplitFault text reason rest := by
  constructor
  · exact breaks_of_splitBody
  · intro h
    cases h with
    | @unterminated parts legal =>
      rw [← (bodyText parts).append_nil]
      exact splitBody_fails_parts legal (fails_fail_iff.2 ⟨rfl, rfl⟩)
    | unclosed legal open' =>
      apply splitBody_fails_parts legal
      simpa [splitBody, fails_keep_iff] using splitBody_fails_unclosed open' 0
    | stray legal => exact splitBody_fails_parts legal (fails_fail_iff.2 ⟨rfl, rfl⟩)

theorem referenceBody_fails_iff {text : List Char} :
    Fails (referenceBody text) reason rest ↔ BodyFault text reason rest := by
  unfold referenceBody
  rw [fails_bind_iff]
  constructor
  · rintro (split | ⟨⟨body, left⟩, read, h⟩)
    · exact .split (splitBody_fails_iff.1 split)
    · obtain ⟨parts, legal, rfl, rfl⟩ := splitBody_eq_ok_iff.1 read
      dsimp only at h
      split at h
      · exact absurd h (not_fails_ok _)
      · rename_i nameless
        obtain ⟨rfl, rfl⟩ := fails_fail_iff.1 h
        exact .unnamed legal fun c mem => nameless ((isNamed_bodyText legal).2 ⟨c, mem⟩)
  · intro h
    cases h with
    | split h => exact .inl (splitBody_fails_iff.2 h)
    | @unnamed parts cs legal nameless =>
      refine .inr ⟨(bodyText parts, cs), splitBody_bodyText legal cs, ?_⟩
      have unnamed : ¬ isNamed 0 (bodyText parts) = true :=
        fun named => (isNamed_bodyText legal).1 named |>.elim nameless
      simp only [unnamed]
      exact fails_fail_iff.2 ⟨rfl, rfl⟩

end Splitting

theorem notMem_initials_iff {c : Char} :
    c ∉ initials ↔ (c ≠ 'L' ∧ c ≠ 'T' ∧ c ≠ '[') ∧ BaseType.ofLetter? c = none := by
  have letter : c ∈ letters.map Prod.fst ↔ ∃ b : BaseType, b.letter = c := by
    simp [mem_letters_iff, eq_comm]
  have none : c ∉ letters.map Prod.fst ↔ BaseType.ofLetter? c = none := by
    rw [letter, not_exists, BaseType.ofLetter?_eq_none_iff]
  simp only [initials, List.mem_cons, not_or, none, and_assoc]

section Reading

variable {text rest : List Char} {reason : Reason}

theorem classReference_fails_iff :
    Fails (classReference text) reason rest ↔ BodyFault text reason rest := by
  unfold classReference
  rw [fails_bind_iff, referenceBody_fails_iff]
  simp [not_fails_request]

theorem variableReference_fails_iff :
    Fails (variableReference text) reason rest ↔ BodyFault text reason rest := by
  unfold variableReference
  rw [fails_bind_iff, referenceBody_fails_iff]
  simp [not_fails_request]

theorem baseType_fails_iff :
    Fails (baseType text) reason rest ↔ Fails (baseLetter text) reason rest := by
  unfold baseType
  rw [fails_bind_iff]
  simp [not_fails_ok]

theorem CoreFault.head_ne (h : CoreFault text reason rest) : text.head? ≠ some '[' := by
  cases h with
  | ending => simp
  | character outside => simpa using (notMem_initials_iff.1 outside).1.2.2
  | body mark _ => obtain rfl | rfl := mark <;> simp

theorem coreFault_body_iff {mark : Char} (reference : mark = 'L' ∨ mark = 'T') :
    CoreFault (mark :: text) reason rest ↔ BodyFault text reason rest := by
  constructor
  · intro h
    cases h with
    | character outside =>
      obtain ⟨notClass, notVariable, -⟩ := (notMem_initials_iff.1 outside).1
      exact (reference.elim notClass notVariable).elim
    | body _ h => exact h
  · exact .body reference

theorem baseLetter_fails_iff (notClass : text.head? ≠ some 'L')
    (notVariable : text.head? ≠ some 'T')
    (head : text.head? ≠ some '[') :
    Fails (baseLetter text) reason rest ↔ CoreFault text reason rest := by
  cases text with
  | nil =>
    constructor
    · intro h
      obtain ⟨rfl, rfl⟩ := fails_fail_iff.1 h
      exact .ending
    · intro h
      cases h
      exact fails_fail_iff.2 ⟨rfl, rfl⟩
  | cons c cs =>
    simp only [List.head?_cons, ne_eq, Option.some.injEq] at notClass notVariable head
    cases letter : BaseType.ofLetter? c with
    | none =>
      have outside := notMem_initials_iff.2 ⟨⟨notClass, notVariable, head⟩, letter⟩
      simp only [baseLetter, letter]
      constructor
      · intro h
        obtain ⟨rfl, rfl⟩ := fails_fail_iff.1 h
        exact .character outside
      · intro h
        cases h with
        | character _ => exact fails_fail_iff.2 ⟨rfl, rfl⟩
        | body mark _ => exact (mark.elim notClass notVariable).elim
    | some b =>
      simp only [baseLetter, letter]
      constructor
      · intro h
        exact absurd h (not_fails_ok _)
      · intro h
        cases h with
        | character outside =>
          have none := (notMem_initials_iff.1 outside).2
          rw [letter] at none
          cases none
        | body mark _ => exact (mark.elim notClass notVariable).elim

theorem scalar_fails_iff (head : text.head? ≠ some '[') :
    Fails (scalar text) reason rest ↔ CoreFault text reason rest := by
  unfold scalar
  split
  · rw [classReference_fails_iff, coreFault_body_iff (.inl rfl)]
  · rw [variableReference_fails_iff, coreFault_body_iff (.inr rfl)]
  · rename_i notClass notVariable
    rw [baseType_fails_iff]
    apply baseLetter_fails_iff _ _ head
    · intro found
      obtain ⟨cs, rfl⟩ := List.head?_eq_some_iff.1 found
      exact notClass cs rfl
    · intro found
      obtain ⟨cs, rfl⟩ := List.head?_eq_some_iff.1 found
      exact notVariable cs rfl

theorem exists_brackets (text : List Char) :
    ∃ count cs, text = List.replicate count '[' ++ cs ∧ cs.head? ≠ some '[' := by
  induction text with
  | nil => exact ⟨0, [], rfl, by simp⟩
  | cons c cs ih =>
    by_cases bracket : c = '['
    · obtain ⟨count, tail, rfl, head⟩ := ih
      exact ⟨count + 1, tail, by rw [bracket]; rfl, head⟩
    · exact ⟨0, c :: cs, rfl, by simpa using bracket⟩

theorem elementAfter_fails_iff (head : text.head? ≠ some '[') :
    Fails (elementAfter scalar text) reason rest ↔
      CoreFault text reason rest ∨
        ∃ cs, text = 'V' :: cs ∧ reason = .voidArrayElement ∧ rest = text := by
  unfold elementAfter
  split
  · rename_i cs
    constructor
    · intro h
      obtain ⟨rfl, rfl⟩ := fails_fail_iff.1 h
      exact .inr ⟨cs, rfl, rfl, rfl⟩
    · rintro (h | ⟨-, -, rfl, rfl⟩)
      · cases h with
        | character outside => exact absurd outside (by decide)
        | body mark _ => exact absurd mark (by decide)
      · exact fails_fail_iff.2 ⟨rfl, rfl⟩
  · rename_i other
    rw [fails_cut_iff, scalar_fails_iff head]
    constructor
    · exact .inl
    · rintro (h | ⟨cs, rfl, -⟩)
      · exact h
      · exact absurd rfl (other cs)

theorem dimensions_fails_iff {count : Nat} {cs : List Char} (pos : 1 ≤ count)
    (head : cs.head? ≠ some '[') :
    Fails (dimensions (List.replicate count '[' ++ cs)) reason rest ↔
      255 < count ∧ reason = .tooManyDimensions count ∧
        rest = List.replicate count '[' ++ cs := by
  obtain ⟨run, -⟩ := brackets_split count head
  have nonzero : count ≠ 0 := Nat.ne_of_gt pos
  by_cases limit : 255 < count
  · have exceeds : dimensions (List.replicate count '[' ++ cs) =
        fail (.fatal (.tooManyDimensions count) (List.replicate count '[' ++ cs)) := by
      simp [dimensions, FieldType.maxDimensions, run, nonzero, limit]
    rw [exceeds, fails_fail_iff]
    simp [Fault.fatal, limit, eq_comm]
  · have read := dimensions_eq_ok_iff_replicate.2 ⟨pos, Nat.not_lt.1 limit, rfl, head⟩
    rw [read]
    simp [not_fails_ok, limit]

theorem arrayOver_fails_iff {count : Nat} {cs : List Char} (pos : 1 ≤ count)
    (head : cs.head? ≠ some '[') :
    Fails (arrayOver scalar (List.replicate count '[' ++ cs)) reason rest ↔
      (255 < count ∧ reason = .tooManyDimensions count ∧
          rest = List.replicate count '[' ++ cs) ∨
        count ≤ 255 ∧ Fails (elementAfter scalar cs) reason rest := by
  unfold arrayOver
  rw [fails_bind_iff, dimensions_fails_iff pos head]
  apply or_congr_right
  by_cases limit : count ≤ 255
  · have run := dimensions_eq_ok_iff_replicate.2 ⟨pos, limit, rfl, head⟩
    simp [run, limit, fails_bind_iff, not_fails_request]
  · have exceeds := (dimensions_fails_iff pos head).2 ⟨Nat.not_le.1 limit, rfl, rfl⟩
    constructor
    · rintro ⟨pair, read, -⟩
      rw [read] at exceeds
      exact absurd exceeds (not_fails_ok _)
    · exact fun h => absurd h.1 limit

theorem field_brackets_fails_iff {count : Nat} {cs : List Char} (head : cs.head? ≠ some '[') :
    Fails (field (List.replicate count '[' ++ cs)) reason rest ↔
      (255 < count ∧ reason = .tooManyDimensions count ∧
          rest = List.replicate count '[' ++ cs) ∨
        count ≤ 255 ∧
          (CoreFault cs reason rest ∨
            1 ≤ count ∧ ∃ tail, cs = 'V' :: tail ∧ reason = .voidArrayElement ∧ rest = cs) := by
  cases count with
  | zero =>
    change Fails (field cs) reason rest ↔ _
    rw [field_of_head_ne head, scalar_fails_iff head]
    simp
  | succ n =>
    change Fails (arrayOver scalar (List.replicate (n + 1) '[' ++ cs)) reason rest ↔ _
    have pos : 1 ≤ n + 1 := Nat.le_add_left 1 n
    rw [arrayOver_fails_iff pos head, elementAfter_fails_iff head]
    simp only [pos, true_and]

/-- The reader of field types fails on the texts that begin with none, and with their fault. -/
theorem field_fails_iff : Fails (field text) reason rest ↔ FieldFault text reason rest := by
  constructor
  · obtain ⟨count, cs, rfl, head⟩ := exists_brackets text
    rw [field_brackets_fails_iff head]
    rintro (⟨exceeds, rfl, rfl⟩ | ⟨limit, core | ⟨pos, tail, rfl, rfl, rfl⟩⟩)
    · exact .dimensions exceeds head
    · exact .core limit core
    · exact .voidElement pos limit
  · intro h
    cases h with
    | core limit core => exact (field_brackets_fails_iff core.head_ne).2 (.inr ⟨limit, .inl core⟩)
    | @voidElement count cs pos limit =>
      have head : ('V' :: cs).head? ≠ some '[' := by simp
      exact (field_brackets_fails_iff head).2 (.inr ⟨limit, .inr ⟨pos, _, rfl, rfl, rfl⟩⟩)
    | dimensions exceeds head => exact (field_brackets_fails_iff head).2 (.inl ⟨exceeds, rfl, rfl⟩)

end Reading

end TypeDescriptors.Grammar
