import TypeDescriptors.Proofs.MethodFaults
import TypeDescriptors.Proofs.ReturnType
import TypeDescriptors.Signature.Survey

set_option autoImplicit false

/-!
# Failures are true of their text

A failure says what is wrong and where. Each reason makes a statement about the text cut in two at
the offset (`Reason.HoldsAt`), and it holds for every failure of every reading, with the offset
counted from the beginning of the whole text also where only its end was read
(`failures_diagnose`).
-/
namespace TypeDescriptors
open Grammar

/-- What a reason says of a text that is cut at the fault. The texts `accepted` are those that the
reading takes whole, none if it may leave something. -/
def Reason.HoldsAt (accepted : List Char → Prop) (before behind : List Char) : Reason → Prop
  | .unexpectedEnd | .unterminatedReference => behind = []
  | .unexpectedCharacter c => behind.head? = some c ∧ c ∉ initials
  | .expected _ _ => False
  | .missingOpenParen => before = [] ∧ '(' ∉ behind
  | .emptyClassName =>
    (before.getLast? = some 'L' ∨ before.getLast? = some 'T') ∧
      ∃ (blocks : List Part) (cs : List Char),
        (∀ part ∈ blocks, ∃ inner, part = .block inner ∧ Inside inner) ∧
          behind = bodyText blocks ++ ';' :: cs
  | .unbalancedTypeArguments => behind = [] ∨ behind.head? = some '>'
  | .tooManyDimensions count =>
    255 < count ∧ before.getLast? ≠ some '[' ∧
      ∃ cs, behind = List.replicate count '[' ++ cs ∧ cs.head? ≠ some '['
  | .voidArrayElement => behind.head? = some 'V' ∧ before.getLast? = some '['
  | .trailingCharacters => accepted before ∧ behind ≠ []

namespace Grammar

variable {accepted : List Char → Prop} {before text rest : List Char} {reason : Reason}

def TrueBehind (accepted : List Char → Prop) (before text : List Char) (reason : Reason)
    (rest : List Char) : Prop :=
  ∃ taken, text = taken ++ rest ∧ reason.HoldsAt accepted (before ++ taken) rest

theorem TrueBehind.append {front : List Char}
    (h : TrueBehind accepted (before ++ front) text reason rest) :
    TrueBehind accepted before (front ++ text) reason rest := by
  obtain ⟨taken, rfl, holds⟩ := h
  refine ⟨front ++ taken, by simp, ?_⟩
  rw [← List.append_assoc]
  exact holds

theorem BodyFault.trueBehind (mark : before.getLast? = some 'L' ∨ before.getLast? = some 'T')
    (h : BodyFault text reason rest) : TrueBehind accepted before text reason rest := by
  cases h with
  | split h =>
    cases h with
    | unterminated _ => exact ⟨_, (List.append_nil _).symm, rfl⟩
    | unclosed _ _ => exact ⟨_, (List.append_nil _).symm, .inl rfl⟩
    | stray _ => exact ⟨_, rfl, .inr rfl⟩
  | @unnamed parts cs legal nameless =>
    refine ⟨[], rfl, by simpa using mark, parts, cs, ?_, rfl⟩
    intro part mem
    cases part with
    | plain c => exact absurd mem (nameless c)
    | block inner => exact ⟨inner, rfl, legal _ mem⟩

theorem CoreFault.trueBehind (h : CoreFault text reason rest) :
    TrueBehind accepted before text reason rest := by
  cases h with
  | ending => exact ⟨[], rfl, rfl⟩
  | character outside => exact ⟨[], rfl, rfl, outside⟩
  | @body mark cs _ _ reference fault =>
    have last : (before ++ [mark]).getLast? = some 'L' ∨
        (before ++ [mark]).getLast? = some 'T' := by
      simpa using reference
    exact (fault.trueBehind last).append

theorem FieldFault.trueBehind (front : before.getLast? ≠ some '[')
    (h : FieldFault text reason rest) : TrueBehind accepted before text reason rest := by
  cases h with
  | core _ fault => exact fault.trueBehind.append
  | @voidElement count cs pos _ =>
    refine ⟨_, rfl, rfl, ?_⟩
    obtain ⟨n, rfl⟩ := Nat.exists_eq_add_of_le' pos
    rw [List.replicate_succ', ← List.append_assoc, List.getLast?_concat]
  | dimensions exceeds head => exact ⟨[], rfl, exceeds, by simpa using front, _, rfl, head⟩

theorem Core.last {core : List Char} {e : ElementType} (h : Core core e) :
    ∃ cs c, core = cs ++ [c] ∧ c ≠ '[' := by
  cases h with
  | @letter c b mem =>
    obtain rfl := mem_letters_iff.1 mem
    exact ⟨[], b.letter, rfl, by cases b <;> decide⟩
  | reference _ => exact ⟨_, ';', rfl, by decide⟩
  | typeVariable _ => exact ⟨_, ';', rfl, by decide⟩

theorem Denotes.last {taken : List Char} {t : FieldType} (h : Denotes taken t) :
    ∃ cs c, taken = cs ++ [c] ∧ c ≠ '[' := by
  cases h with
  | scalar core => exact core.last
  | @array core e count denotes _ _ _ =>
    obtain ⟨cs, c, rfl, other⟩ := denotes.last
    exact ⟨List.replicate count '[' ++ cs, c, (List.append_assoc _ _ _).symm, other⟩

end Grammar

namespace Signature
open Grammar

/-- A failure with the whole of its text, whose reason holds where its offset cuts the text, which
is between two characters. -/
def Diagnoses (accepted : List Char → Prop) (text : String) : Failure → Prop
  | .malformed m =>
    m.signature = text ∧ String.Pos.Raw.IsValid text ⟨m.offset⟩ ∧
      ∃ before behind, text.toList = before ++ behind ∧ m.offset = Text.byteLength before ∧
        m.reason.HoldsAt accepted before behind
  | .defect _ => False

section Readings

variable {accepted : List Char → Prop} {before text rest : List Char} {reason : Reason}

theorem Segment.last_chars_ne (segments : List Segment) (front : before.getLast? ≠ some '[') :
    (before ++ chars segments).getLast? ≠ some '[' := by
  induction segments generalizing before with
  | nil => simpa [chars] using front
  | cons s segments ih =>
    obtain ⟨cs, c, split, other⟩ := s.denotes.last
    have last : (before ++ s.text.toList).getLast? ≠ some '[' := by
      rw [split, ← List.append_assoc, List.getLast?_concat]
      simpa using other
    rw [chars_cons, ← List.append_assoc]
    exact ih last

theorem ArgumentsFault.trueBehind (h : ArgumentsFault text reason rest) :
    TrueBehind accepted [] text reason rest := by
  cases h with
  | unopened absent => exact ⟨[], rfl, rfl, absent⟩
  | @argument front tail _ segments _ _ _ fault =>
    have opening : (front ++ ['(']).getLast? ≠ some '[' := by simp
    have argument : TrueBehind accepted (front ++ ['('] ++ Segment.chars segments) tail reason
        rest := fault.trueBehind (Segment.last_chars_ne segments opening)
    have whole : TrueBehind accepted [] (front ++ ['('] ++ Segment.chars segments ++ tail) reason
        rest := by
      apply TrueBehind.append
      exact argument
    simpa using whole

theorem method_trueBehind (h : Fails (method text) reason rest) :
    TrueBehind accepted [] text reason rest := by
  obtain h | ⟨types, left, opened, fault⟩ := method_fails_iff.1 h
  · exact (arguments_fails_iff.1 h).trueBehind
  · obtain ⟨front, segments, -, -, rfl⟩ := arguments_eq_ok_iff.1 opened
    have closing : (front ++ '(' :: (Segment.chars segments ++ [')'])).getLast? ≠ some '[' := by
      rw [← List.cons_append, ← List.append_assoc, List.getLast?_concat]
      decide
    have whole : TrueBehind accepted [] (front ++ '(' :: (Segment.chars segments ++ [')']) ++ left)
        reason rest := by
      apply TrueBehind.append
      exact fault.trueBehind closing
    simpa using whole

theorem whole_trueBehind {α : Type} {reader : Reader α}
    (part : ∀ reason rest, Fails (reader text) reason rest →
      TrueBehind accepted [] text reason rest)
    (taken : ∀ a rest, reader text = .ok (a, rest) →
      ∃ front, text = front ++ rest ∧ accepted front)
    (h : Fails (whole reader text) reason rest) : TrueBehind accepted [] text reason rest := by
  obtain h | ⟨rfl, more, a, read⟩ := whole_fails_iff.1 h
  · exact part reason rest h
  · obtain ⟨front, rfl, accepts⟩ := taken a rest read
    exact ⟨front, rfl, accepts, more⟩

end Readings

section Failures

variable {accepted : List Char → Prop} {text : String} {failed : Failure}

theorem diagnoses_of_complete {α : Type} {reader : Reader α} {front input : List Char}
    (split : text.toList = front ++ input) (inside : EndsIn input (reader input))
    (part : ∀ reason rest, Fails (reader input) reason rest →
      TrueBehind accepted front input reason rest)
    (h : complete text reader input = .error failed) : Diagnoses accepted text failed := by
  obtain ⟨reason, rest, fails, -, rfl⟩ := exists_fails_of_complete inside h
  obtain ⟨taken, rfl, holds⟩ := part reason rest fails
  rw [← List.append_assoc] at split
  have offset : Text.byteLength text.toList - Text.byteLength rest =
      Text.byteLength (front ++ taken) := by
    rw [split, Text.byteLength_append, Nat.add_sub_cancel]
  rw [offset]
  exact ⟨rfl, Text.isValid_byteLength split, _, rest, split, rfl, holds⟩

theorem field_trueBehind {before cs rest : List Char} {reason : Reason}
    (front : before.getLast? ≠ some '[') (h : Fails (field cs) reason rest) :
    TrueBehind accepted before cs reason rest :=
  (field_fails_iff.1 h).trueBehind front

theorem readType_diagnoses (h : readType text = .error failed) :
    Diagnoses accepted text failed := by
  refine diagnoses_of_complete (List.nil_append _).symm (field_endsIn _) ?_ h
  intro reason rest fails
  exact field_trueBehind (by simp) fails

theorem readArguments_diagnoses (h : readArguments text = .error failed) :
    Diagnoses accepted text failed := by
  refine diagnoses_of_complete (List.nil_append _).symm (arguments_endsIn _) ?_ h
  intro reason rest fails
  exact (arguments_fails_iff.1 fails).trueBehind

theorem exists_returnText (text : String) :
    ∃ front, text.toList = front ++ returnText text ∧ front.getLast? ≠ some '[' := by
  by_cases closed : ')' ∈ text.toList
  · obtain ⟨xs, ys, split, absent⟩ := Text.exists_last_of_mem closed
    refine ⟨xs ++ [')'], ?_, ?_⟩
    · rw [returnText_eq split absent, split, List.append_assoc]
      rfl
    · rw [List.getLast?_concat]
      decide
  · refine ⟨[], ?_, by simp⟩
    rw [returnText, Text.afterLast_of_notMem closed]
    rfl

theorem readReturn_diagnoses (h : readReturn text = .error failed) :
    Diagnoses accepted text failed := by
  obtain ⟨front, split, last⟩ := exists_returnText text
  refine diagnoses_of_complete split (field_endsIn _) ?_ h
  intro reason rest fails
  exact field_trueBehind last fails

theorem parseType_diagnoses (h : parseType text = .error failed) :
    Diagnoses (fun cs => ∃ t, parseType (String.ofList cs) = .ok t) text failed := by
  refine diagnoses_of_complete (List.nil_append _).symm (whole_endsIn (field_endsIn _)) ?_
    (map_eq_error_iff.1 h)
  intro reason rest fails
  refine whole_trueBehind (fun _ _ part => field_trueBehind (by simp) part) ?_ fails
  intro t left read
  obtain ⟨taken, denotes, split⟩ := field_eq_ok_iff.1 read
  refine ⟨taken, split, t, ?_⟩
  apply parseType_of_denotes
  rw [String.toList_ofList]
  exact denotes

theorem parseMethod_diagnoses (h : parseMethod text = .error failed) :
    Diagnoses (fun cs => ∃ m, parseMethod (String.ofList cs) = .ok m) text failed := by
  refine diagnoses_of_complete (List.nil_append _).symm (whole_endsIn (method_endsIn _)) ?_
    (map_eq_error_iff.1 h)
  intro reason rest fails
  refine whole_trueBehind (fun _ _ part => method_trueBehind part) ?_ fails
  intro m left read
  obtain ⟨taken, split, alone⟩ := method_eq_ok_iff_append.1 read
  refine ⟨taken, split, m, ?_⟩
  rw [parseMethod_eq_ok_iff_method, String.toList_ofList]
  exact alone

end Failures

/-- Every failure is true of the text that was read, and only the readings of whole texts fail for
what follows a signature. -/
theorem failures_diagnose (text : String) :
    (∀ failed ∈ (survey text).lenientFailures, Diagnoses (fun _ => False) text failed) ∧
      (∀ failed, parseType text = .error failed →
        Diagnoses (fun cs => ∃ t, parseType (String.ofList cs) = .ok t) text failed) ∧
      (∀ failed, displayOf text = .error failed →
        Diagnoses (fun cs => ∃ t, parseType (String.ofList cs) = .ok t) text failed) ∧
      ∀ failed, parseMethod text = .error failed →
        Diagnoses (fun cs => ∃ m, parseMethod (String.ofList cs) = .ok m) text failed := by
  refine ⟨?_, fun _ => parseType_diagnoses,
    fun _ h => parseType_diagnoses (map_eq_error_iff.1 h), fun _ => parseMethod_diagnoses⟩
  intro failed mem
  simp only [Survey.mem_lenientFailures_iff, survey, readTypeSlots_eq_map, readArgumentSlots_eq_map,
    readReturnSlots_eq_map, map_eq_error_iff] at mem
  obtain h | h | h | h | h | h := mem
  · exact readType_diagnoses h
  · exact readType_diagnoses h
  · exact readArguments_diagnoses h
  · exact readArguments_diagnoses h
  · exact readReturn_diagnoses h
  · exact readReturn_diagnoses h

theorem diagnosis_behind_wide_character :
    readReturn "(é)[V" = .error (.malformed ⟨"(é)[V", .voidArrayElement, 5⟩) ∧
      ∃ before behind : List Char, "(é)[V".toList = before ++ behind ∧ 5 = Text.byteLength before ∧
        behind.head? = some 'V' ∧ before.getLast? = some '[' := by
  have failed : readReturn "(é)[V" = .error (.malformed ⟨"(é)[V", .voidArrayElement, 5⟩) := by rfl
  have listed : .malformed ⟨"(é)[V", .voidArrayElement, 5⟩ ∈ (survey "(é)[V").lenientFailures :=
    Survey.mem_lenientFailures_iff.2 (.inr (.inr (.inr (.inr (.inl failed)))))
  obtain ⟨-, -, before, behind, split, offset, holds⟩ := (failures_diagnose "(é)[V").1 _ listed
  exact ⟨failed, before, behind, split, offset, holds⟩

end Signature
end TypeDescriptors
