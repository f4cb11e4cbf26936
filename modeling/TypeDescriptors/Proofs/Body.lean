import TypeDescriptors.Grammar.Field
import TypeDescriptors.Grammar.Language

set_option autoImplicit false

/-!
# The body of a reference

Three scans go over a body and count the blocks that are open: one splits it off at its `;`, one
looks for a character outside every block, and one erases the blocks. Each comes out of the inside
of a block as it went in (`splitBody_inside`, `isNamed_inside`, `scan_inside`). They therefore agree
about depth, and what each of them does can be said of the parts of the body.
-/
namespace TypeDescriptors.Grammar
open Erasure (scan erase)

theorem bodyText_plain (c : Char) (parts : List Part) :
    bodyText (.plain c :: parts) = c :: bodyText parts := rfl

theorem bodyText_block (inner : List Char) (parts : List Part) :
    bodyText (.block inner :: parts) = '<' :: (inner ++ '>' :: bodyText parts) := by
  simp [bodyText, Part.text]

theorem splitBody_inside {inner text body rest : List Char} {depth : Nat} (h : Inside inner)
    (read : splitBody (depth + 1) text = .ok (body, rest)) :
    splitBody (depth + 1) (inner ++ text) = .ok (inner ++ body, rest) := by
  induction h generalizing depth text body with
  | nil => exact read
  | char opening closing _ ih =>
    have tail := ih read
    simp [splitBody, opening, closing, tail, keep]
  | @block inner cs _ _ ihInner ihTail =>
    have closed :
        splitBody (depth + 2) ('>' :: (cs ++ text)) = .ok ('>' :: (cs ++ body), rest) := by
      simp [splitBody, ihTail read, keep]
    have whole := ihInner closed
    simp [splitBody, whole, keep]

theorem isNamed_inside {inner : List Char} (h : Inside inner) (depth : Nat) (cs : List Char) :
    isNamed (depth + 1) (inner ++ cs) = isNamed (depth + 1) cs := by
  induction h generalizing depth cs with
  | nil => rfl
  | char opening closing _ ih => simp [isNamed, opening, closing, ih]
  | block _ _ ihInner ihTail =>
    simp [isNamed, ihInner, ihTail]

theorem scan_inside {inner : List Char} (h : Inside inner) (depth : Nat) (closed : Bool)
    (cs : List Char) : scan (depth + 1) closed (inner ++ cs) = scan (depth + 1) closed cs := by
  induction h generalizing depth cs with
  | nil => rfl
  | char opening closing _ ih => simp [scan, opening, closing, ih]
  | block _ _ ihInner ihTail =>
    simp [scan, ihInner, ihTail]

/-- What is read from inside `depth` blocks: it closes them all and then goes on in legal parts. -/
def Closes : Nat → List Char → Prop
  | 0, cs => ∃ parts : List Part, (∀ part ∈ parts, part.Legal) ∧ cs = bodyText parts
  | depth + 1, cs => ∃ inner tail, Inside inner ∧ cs = inner ++ '>' :: tail ∧ Closes depth tail

theorem Closes.cons_part {part : Part} {cs : List Char} (legal : part.Legal) (h : Closes 0 cs) :
    Closes 0 (part.text ++ cs) := by
  obtain ⟨parts, rest, rfl⟩ := h
  exact ⟨part :: parts, List.forall_mem_cons.2 ⟨legal, rest⟩, rfl⟩

theorem Closes.cons_char {c : Char} {cs : List Char} {depth : Nat} (opening : c ≠ '<')
    (closing : c ≠ '>') (h : Closes (depth + 1) cs) : Closes (depth + 1) (c :: cs) := by
  obtain ⟨inner, tail, inside, rfl, closes⟩ := h
  exact ⟨c :: inner, tail, .char opening closing inside, rfl, closes⟩

theorem closes_of_splitBody {depth : Nat} {text body rest : List Char}
    (h : splitBody depth text = .ok (body, rest)) : Closes depth body := by
  -- `Closes` follows the counter: a `<` makes two closings of the tail into one, a `>` uses one up.
  fun_induction splitBody depth text generalizing body with
  | case1 | case2 | case4 => simp [fail] at h
  | case3 cs ih =>
    obtain ⟨body', rfl, read⟩ := keep_eq_ok_iff.1 h
    obtain ⟨inner, tail, inside, rfl, closes⟩ := ih read
    have block : (Part.block inner).Legal := inside
    simpa [Part.text] using closes.cons_part block
  | case5 =>
    simp only [Except.ok.injEq, Prod.mk.injEq] at h
    obtain ⟨rfl, rfl⟩ := h
    exact ⟨[], by simp, rfl⟩
  | case6 c cs opening closing semicolon ih =>
    obtain ⟨body', rfl, read⟩ := keep_eq_ok_iff.1 h
    have plain : (Part.plain c).Legal := ⟨opening, closing, semicolon⟩
    exact (ih read).cons_part plain
  | case7 depth cs ih =>
    obtain ⟨body', rfl, read⟩ := keep_eq_ok_iff.1 h
    obtain ⟨inner, tail, inside, rfl, inner', tail', inside', rfl, closes⟩ := ih read
    exact ⟨'<' :: inner ++ '>' :: inner', tail', .block inside inside', by simp, closes⟩
  | case8 depth cs _ ih =>
    obtain ⟨body', rfl, read⟩ := keep_eq_ok_iff.1 h
    exact ⟨[], body', .nil, rfl, ih read⟩
  | case9 depth c cs opening closing ih =>
    obtain ⟨body', rfl, read⟩ := keep_eq_ok_iff.1 h
    exact (ih read).cons_char opening closing

theorem splitBody_bodyText {parts : List Part} (legal : ∀ part ∈ parts, part.Legal)
    (rest : List Char) :
    splitBody 0 (bodyText parts ++ ';' :: rest) = .ok (bodyText parts, rest) := by
  induction parts with
  | nil => rfl
  | cons part parts ih =>
    obtain ⟨first, others⟩ := List.forall_mem_cons.1 legal
    have tail := ih others
    cases part with
    | plain c =>
      obtain ⟨opening, closing, semicolon⟩ := first
      rw [bodyText_plain, List.cons_append]
      simp [splitBody, opening, closing, semicolon, tail, keep]
    | block inner =>
      have closed : splitBody 1 ('>' :: (bodyText parts ++ ';' :: rest)) =
          .ok ('>' :: bodyText parts, rest) := by
        simp [splitBody, tail, keep]
      have whole := splitBody_inside first closed
      rw [bodyText_block]
      simp [splitBody, whole, keep]

/-- A split finds the legal parts, and every sequence of legal parts is found. -/
theorem splitBody_eq_ok_iff {text body rest : List Char} :
    splitBody 0 text = .ok (body, rest) ↔
      ∃ parts : List Part, (∀ part ∈ parts, part.Legal) ∧ body = bodyText parts ∧
        text = bodyText parts ++ ';' :: rest := by
  constructor
  · intro h
    obtain ⟨parts, legal, rfl⟩ := closes_of_splitBody h
    exact ⟨parts, legal, rfl, splitBody_append h⟩
  · intro h
    obtain ⟨parts, legal, rfl, rfl⟩ := h
    exact splitBody_bodyText legal rest

theorem isNamed_bodyText {parts : List Part} (legal : ∀ part ∈ parts, part.Legal) :
    isNamed 0 (bodyText parts) = true ↔ ∃ c, Part.plain c ∈ parts := by
  induction parts with
  | nil => simp [bodyText, isNamed]
  | cons part parts ih =>
    obtain ⟨first, others⟩ := List.forall_mem_cons.1 legal
    cases part with
    | plain c =>
      obtain ⟨opening, closing, -⟩ := first
      rw [bodyText_plain]
      constructor
      · intro _
        exact ⟨c, by simp⟩
      · intro _
        simp [isNamed, opening, closing]
    | block inner =>
      have after : isNamed 0 (bodyText (.block inner :: parts)) = isNamed 0 (bodyText parts) := by
        rw [bodyText_block]
        simp [isNamed, isNamed_inside first]
      rw [after, ih others]
      simp

theorem scan_bodyText {parts : List Part} (legal : ∀ part ∈ parts, part.Legal) (closed : Bool) :
    scan 0 closed (bodyText parts) = spelledFrom closed parts := by
  induction parts generalizing closed with
  | nil => rfl
  | cons part parts ih =>
    obtain ⟨first, others⟩ := List.forall_mem_cons.1 legal
    cases part with
    | plain c =>
      obtain ⟨opening, closing, -⟩ := first
      rw [bodyText_plain]
      simp [scan, spelledFrom, opening, closing, ih others]
    | block inner =>
      rw [bodyText_block]
      simp [scan, spelledFrom, scan_inside first, ih others]

theorem opening_mem_of_closing_mem {parts : List Part} (legal : ∀ part ∈ parts, part.Legal)
    (closing : '>' ∈ bodyText parts) : '<' ∈ bodyText parts := by
  obtain ⟨part, mem, inPart⟩ := List.mem_flatMap.1 closing
  apply List.mem_flatMap.2
  refine ⟨part, mem, ?_⟩
  cases part with
  | plain c =>
    have same : '>' = c := by simpa [Part.text] using inPart
    exact absurd same.symm (legal _ mem).2.1
  | block inner => simp [Part.text]

theorem erase_bodyText {parts : List Part} (legal : ∀ part ∈ parts, part.Legal) :
    erase (bodyText parts) = spelledFrom false parts := by
  have shortcut : '<' ∉ bodyText parts → '>' ∉ bodyText parts :=
    fun opening closing => opening (opening_mem_of_closing_mem legal closing)
  rw [Erasure.erase_eq_scan shortcut, scan_bodyText legal]

theorem referenceBody_eq_ok_iff_parts {text body rest : List Char} :
    referenceBody text = .ok (body, rest) ↔
      ∃ parts : List Part, Body parts ∧ body = bodyText parts ∧
        text = bodyText parts ++ ';' :: rest := by
  rw [referenceBody_eq_ok_iff, splitBody_eq_ok_iff]
  constructor
  · intro h
    obtain ⟨⟨parts, legal, rfl, rfl⟩, named⟩ := h
    exact ⟨parts, ⟨legal, (isNamed_bodyText legal).1 named⟩, rfl, rfl⟩
  · intro h
    obtain ⟨parts, ⟨legal, named⟩, rfl, rfl⟩ := h
    exact ⟨⟨parts, legal, rfl, rfl⟩, (isNamed_bodyText legal).2 named⟩

theorem spelledFrom_ne_nil {parts : List Part} {c : Char} (mem : Part.plain c ∈ parts)
    (inner : Bool) : spelledFrom inner parts ≠ [] := by
  induction parts generalizing inner with
  | nil => simp at mem
  | cons part parts ih =>
    cases part with
    | plain _ => simp [spelledFrom]
    | block _ =>
      have tail : Part.plain c ∈ parts := by simpa using mem
      exact ih tail true

theorem mem_spelledFrom {parts : List Part} {inner : Bool} {c : Char}
    (h : c ∈ spelledFrom inner parts) : c = '$' ∨ Part.plain c ∈ parts := by
  induction parts generalizing inner with
  | nil => simp [spelledFrom] at h
  | cons part parts ih =>
    cases part with
    | block _ =>
      obtain dollar | mem := ih h
      · exact .inl dollar
      · exact .inr (List.mem_cons_of_mem _ mem)
    | plain d =>
      obtain same | later := List.mem_cons.1 h
      · split at same
        · exact .inl same
        · exact .inr (by simp [same])
      · obtain dollar | mem := ih later
        · exact .inl dollar
        · exact .inr (List.mem_cons_of_mem _ mem)

theorem spelled_eq_dotted (parts : List Part) :
    spelled parts = ClassName.dotted (String.ofList (spelledFrom false parts)) := by
  rw [← String.toList_inj, ClassName.toList_dotted, spelled, String.toList_ofList,
    String.toList_ofList]
  rfl

theorem ofClassName_erase_bodyText {parts : List Part} (h : Body parts) :
    FieldType.ofClassName (String.ofList (erase (bodyText parts))) =
      .ok (ElementType.object (spelled parts)).type := by
  obtain ⟨c, mem⟩ := h.named
  rw [FieldType.ofClassName_eq_ok_iff, erase_bodyText h.legal, spelled_eq_dotted]
  refine ⟨?_, rfl⟩
  intro empty
  have chars := congrArg String.toList empty
  rw [String.toList_ofList] at chars
  exact spelledFrom_ne_nil mem false chars

theorem classReference_eq_ok_iff_parts {text rest : List Char} {t : FieldType} :
    classReference text = .ok (t, rest) ↔
      ∃ parts : List Part, Body parts ∧ t = (ElementType.object (spelled parts)).type ∧
        text = bodyText parts ++ ';' :: rest := by
  rw [classReference_eq_ok_iff]
  constructor
  · intro h
    obtain ⟨body, read, named⟩ := h
    obtain ⟨parts, legal, rfl, rfl⟩ := referenceBody_eq_ok_iff_parts.1 read
    rw [ofClassName_erase_bodyText legal] at named
    exact ⟨parts, legal, (Except.ok.inj named).symm, rfl⟩
  · intro h
    obtain ⟨parts, legal, rfl, rfl⟩ := h
    exact ⟨bodyText parts, referenceBody_eq_ok_iff_parts.2 ⟨parts, legal, rfl, rfl⟩,
      ofClassName_erase_bodyText legal⟩

theorem variableReference_eq_ok_iff_parts {text rest : List Char} {t : FieldType} :
    variableReference text = .ok (t, rest) ↔
      t = (ElementType.object "java.lang.Object").type ∧ ∃ parts : List Part, Body parts ∧
        text = bodyText parts ++ ';' :: rest := by
  rw [variableReference_eq_ok_iff]
  apply and_congr_right
  intro _
  constructor
  · intro h
    obtain ⟨body, read⟩ := h
    obtain ⟨parts, legal, -, rfl⟩ := referenceBody_eq_ok_iff_parts.1 read
    exact ⟨parts, legal, rfl⟩
  · intro h
    obtain ⟨parts, legal, rfl⟩ := h
    exact ⟨bodyText parts, referenceBody_eq_ok_iff_parts.2 ⟨parts, legal, rfl, rfl⟩⟩

end TypeDescriptors.Grammar
