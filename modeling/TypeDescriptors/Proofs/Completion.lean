import TypeDescriptors.Proofs.MethodFaults

set_option autoImplicit false

namespace TypeDescriptors
open Grammar

/-- The same reason, or one with a count that is not smaller. -/
def Reason.GrowsTo : Reason → Reason → Prop
  | .tooManyDimensions count, .tooManyDimensions count' => count ≤ count'
  | reason, reason' => reason = reason'

theorem Reason.growsTo_refl (reason : Reason) : reason.GrowsTo reason := by
  cases reason with
  | tooManyDimensions count => exact Nat.le_refl count
  | _ => rfl

namespace Grammar

section Finishing

theorem Unclosed.close {cs : List Char} (h : Unclosed cs) :
    ∃ closing inner, Inside inner ∧ cs ++ closing = inner ++ ['>'] := by
  induction h with
  | @inside inner inside => exact ⟨['>'], inner, inside, rfl⟩
  | @block inner cs inside _ ih =>
    obtain ⟨closing, inner', inside', eq⟩ := ih
    refine ⟨closing ++ ['>'], inner ++ ('<' :: inner' ++ '>' :: []),
      inside.append (.block inside' .nil), ?_⟩
    calc
      inner ++ '<' :: cs ++ (closing ++ ['>']) = inner ++ '<' :: (cs ++ closing) ++ ['>'] := by simp
      _ = inner ++ ('<' :: inner' ++ '>' :: []) ++ ['>'] := by simp [eq]

theorem body_concat {parts : List Part} (legal : ∀ part ∈ parts, part.Legal) :
    Body (parts ++ [.plain 'a']) where
  legal := by
    intro part mem
    obtain mem | mem := List.mem_append.1 mem
    · exact legal part mem
    · obtain rfl := List.mem_singleton.1 mem
      exact ⟨by decide, by decide, by decide⟩
  named := ⟨'a', by simp⟩

variable {text rest : List Char} {reason : Reason}

theorem BodyFault.finish (h : BodyFault text reason rest) (ending : rest = []) :
    ∃ more parts, Body parts ∧ text ++ more = bodyText parts ++ [';'] := by
  cases h with
  | split h =>
    cases h with
    | @unterminated parts legal =>
      exact ⟨['a', ';'], _, body_concat legal, by simp [bodyText, Part.text]⟩
    | @unclosed parts cs legal open' =>
      obtain ⟨closing, inner, inside, eq⟩ := open'.close
      have blocks : ∀ part ∈ parts ++ [.block inner], part.Legal := by
        simpa [or_imp, forall_and] using ⟨legal, inside⟩
      refine ⟨closing ++ ['a', ';'], _, body_concat blocks, ?_⟩
      calc
        bodyText parts ++ '<' :: cs ++ (closing ++ ['a', ';']) =
            bodyText parts ++ '<' :: (cs ++ closing) ++ ['a', ';'] := by simp
        _ = bodyText (parts ++ [.block inner] ++ [.plain 'a']) ++ [';'] := by
          simp [eq, bodyText, Part.text]
    | stray _ => cases ending
  | unnamed _ _ => simp at ending

theorem CoreFault.finish (h : CoreFault text reason rest) (ending : rest = []) :
    ∃ more core e, Core core e ∧ e ≠ .base .void ∧ text ++ more = core := by
  cases h with
  | ending => exact ⟨['I'], _, _, .base .int, by decide, rfl⟩
  | character _ => cases ending
  | body reference fault =>
    obtain ⟨more, parts, body, eq⟩ := fault.finish ending
    obtain rfl | rfl := reference
    · exact ⟨more, _, _, .reference body, by simp, by simp [eq]⟩
    · exact ⟨more, _, _, .typeVariable body, by simp, by simp [eq]⟩

theorem FieldFault.finish (h : FieldFault text reason rest) (ending : rest = []) :
    ∃ more t, Denotes (text ++ more) t := by
  cases h with
  | @core count cs _ _ limit fault =>
    obtain ⟨more, core, e, denotes, ne, rfl⟩ := fault.finish ending
    refine ⟨more, ?_⟩
    rw [List.append_assoc]
    exact ⟨_, denotes_iff.2 ⟨_, e, count, denotes, fun _ => ne, limit, rfl, rfl⟩⟩
  | voidElement _ _ => cases ending
  | dimensions exceeds _ =>
    have none := (List.append_eq_nil_iff.1 ending).1
    simp at none
    omega

end Finishing

section Extending

variable {text rest : List Char} {reason : Reason}

theorem BodyFault.extend (h : BodyFault text reason rest) (before : rest ≠ [])
    (more : List Char) : BodyFault (text ++ more) reason (rest ++ more) := by
  cases h with
  | split h =>
    cases h with
    | unterminated _ => exact absurd rfl before
    | unclosed _ _ => exact absurd rfl before
    | stray legal =>
      rw [List.append_assoc]
      exact .split (.stray legal)
  | unnamed legal nameless =>
    rw [List.append_assoc]
    exact .unnamed legal nameless

theorem CoreFault.extend (h : CoreFault text reason rest) (before : rest ≠ [])
    (more : List Char) : CoreFault (text ++ more) reason (rest ++ more) := by
  cases h with
  | ending => exact absurd rfl before
  | character outside => exact .character outside
  | body reference fault => exact .body reference (fault.extend before more)

/-- A fault that lies before the end of a text stays with all that may follow. -/
theorem FieldFault.extend (h : FieldFault text reason rest) (before : rest ≠ [])
    (more : List Char) :
    ∃ reason', reason.GrowsTo reason' ∧ FieldFault (text ++ more) reason' (rest ++ more) := by
  cases h with
  | core limit fault =>
    rw [List.append_assoc]
    exact ⟨reason, reason.growsTo_refl, .core limit (fault.extend before more)⟩
  | voidElement pos limit =>
    rw [List.append_assoc]
    exact ⟨_, rfl, .voidElement pos limit⟩
  | @dimensions count cs exceeds _ =>
    -- What is added may go on with the run of brackets.
    obtain ⟨extra, tail, split, head⟩ := exists_brackets (cs ++ more)
    refine ⟨.tooManyDimensions (count + extra), Nat.le_add_right count extra, ?_⟩
    rw [List.append_assoc, split, ← List.append_assoc, List.replicate_append_replicate]
    exact .dimensions (by omega) head

end Extending

section Settling

variable {α : Type} {reader : Reader α} {text : List Char}

/-- A reader settles a text that it refuses: at its end something can be added with which it is read
to the end, and before its end the fault is final. -/
def Settles (reader : Reader α) (text : List Char) : Prop :=
  ∀ reason rest, Fails (reader text) reason rest →
    (rest = [] ∧ ∃ more a, reader (text ++ more) = .ok (a, [])) ∨
      (rest ≠ [] ∧ ∀ more, ∃ reason', reason.GrowsTo reason' ∧
        Fails (reader (text ++ more)) reason' (rest ++ more))

theorem FieldFault.suffix {rest : List Char} {reason : Reason} (h : FieldFault text reason rest) :
    rest <:+ text := by
  obtain ⟨severity, found⟩ := field_fails_iff.2 h
  have inside := field_endsIn text
  rw [found] at inside
  exact inside

theorem field_settles (text : List Char) : Settles field text := by
  intro reason rest fails
  have fault := field_fails_iff.1 fails
  by_cases ending : rest = []
  · obtain ⟨more, t, denotes⟩ := fault.finish ending
    exact .inl ⟨ending, more, t, field_eq_ok_nil_iff.2 denotes⟩
  · refine .inr ⟨ending, fun more => ?_⟩
    obtain ⟨reason', grows, fault'⟩ := fault.extend ending more
    exact ⟨reason', grows, field_fails_iff.2 fault'⟩

theorem field_append {rest : List Char} {t : FieldType} (read : field text = .ok (t, rest))
    (more : List Char) : field (text ++ more) = .ok (t, rest ++ more) := by
  obtain ⟨taken, denotes, rfl⟩ := field_eq_ok_iff.1 read
  exact field_eq_ok_iff.2 ⟨taken, denotes, List.append_assoc _ _ _⟩

theorem Settles.whole (h : Settles reader text)
    (kept : ∀ a rest, reader text = .ok (a, rest) →
      ∀ more, reader (text ++ more) = .ok (a, rest ++ more)) :
    Settles (whole reader) text := by
  intro reason rest fails
  obtain fails | ⟨rfl, left, a, read⟩ := whole_fails_iff.1 fails
  · obtain ⟨ending, more, a, read⟩ | ⟨ending, final⟩ := h reason rest fails
    · exact .inl ⟨ending, more, a, whole_eq_ok_iff.2 ⟨rfl, read⟩⟩
    · refine .inr ⟨ending, fun more => ?_⟩
      obtain ⟨reason', grows, fails'⟩ := final more
      exact ⟨reason', grows, whole_fails_iff.2 (.inl fails')⟩
  · refine .inr ⟨left, fun more => ⟨_, rfl, whole_fails_iff.2 (.inr ⟨rfl, ?_, a, ?_⟩)⟩⟩
    · simp [left]
    · exact kept a rest read more

end Settling

end Grammar

namespace Signature
open Grammar

section Method

variable {before tail rest : List Char} {reason : Reason}

theorem method_finish_argument (absent : '(' ∉ before) (segments : List Segment)
    (fault : FieldFault tail reason rest) (ending : rest = []) :
    ∃ more m, method (before ++ '(' :: (Segment.chars segments ++ tail) ++ more) = .ok (m, []) := by
  obtain ⟨more, t, denotes⟩ := fault.finish ending
  obtain ⟨s, text, -⟩ := Segment.exists_of_denotes denotes
  have returned : Denotes ['V'] (.base .void) := .scalar (.base .void)
  refine ⟨more ++ [')', 'V'], ⟨.base .void, (segments ++ [s]).map Segment.type⟩, ?_⟩
  refine method_eq_ok_iff.2 ⟨['V'], arguments_eq_ok_iff.2 ⟨before, _, absent, rfl, ?_⟩,
    field_eq_ok_nil_iff.2 returned⟩
  simp [Segment.chars, text]

theorem method_extend_argument (absent : '(' ∉ before) (segments : List Segment)
    (head : tail.head? ≠ some ')') (fault : FieldFault tail reason rest) (front : rest ≠ [])
    (more : List Char) :
    ∃ reason', reason.GrowsTo reason' ∧
      Fails (method (before ++ '(' :: (Segment.chars segments ++ tail) ++ more)) reason'
        (rest ++ more) := by
  obtain ⟨reason', grows, fault'⟩ := fault.extend front more
  have head' : (tail ++ more).head? ≠ some ')' := by
    cases tail with
    | nil => exact absurd (List.suffix_nil.1 fault.suffix) front
    | cons c cs => simpa using head
  have arguments' : ArgumentsFault (before ++ '(' :: (Segment.chars segments ++ (tail ++ more)))
      reason' (rest ++ more) := .argument absent head' fault'
  refine ⟨reason', grows, method_fails_iff.2 (.inl (arguments_fails_iff.2 ?_))⟩
  simpa using arguments'

theorem method_settles {text : List Char} (opened : '(' ∈ text) : Settles method text := by
  intro reason rest fails
  obtain fails | ⟨types, left, read, fault⟩ := method_fails_iff.1 fails
  · cases arguments_fails_iff.1 fails with
    | unopened absent => exact absurd opened absent
    | @argument before tail _ segments _ absent head fault =>
      by_cases ending : rest = []
      · exact .inl ⟨ending, method_finish_argument absent segments fault ending⟩
      · exact .inr ⟨ending, method_extend_argument absent segments head fault ending⟩
  · by_cases ending : rest = []
    · obtain ⟨more, t, denotes⟩ := fault.finish ending
      exact .inl ⟨ending, more, ⟨t, types⟩, method_eq_ok_iff.2
        ⟨_, arguments_append read more, field_eq_ok_nil_iff.2 denotes⟩⟩
    · refine .inr ⟨ending, fun more => ?_⟩
      obtain ⟨reason', grows, fault'⟩ := fault.extend ending more
      exact ⟨reason', grows,
        method_fails_iff.2 (.inr ⟨types, _, arguments_append read more, fault'⟩)⟩

end Method

/-- A reading settles a text that it refuses. At its end the text is unfinished: something can be
added with which it is read. Before its end the failure is final: with anything added the text is
refused at the same offset, and for the same reason up to a count. -/
def Settled {α : Type} (read : String → Except Failure α) (text : String) : Prop :=
  ∀ failed, read text = .error failed →
    ∃ reason offset, failed = .malformed ⟨text, reason, offset⟩ ∧
      ((offset = Text.byteLength text.toList ∧
          ∃ more, more ≠ "" ∧ ∃ a, read (text ++ more) = .ok a) ∨
        (offset < Text.byteLength text.toList ∧
          ∀ more, ∃ reason', reason.GrowsTo reason' ∧
            read (text ++ more) = .error (.malformed ⟨text ++ more, reason', offset⟩)))

section Settled

variable {α β : Type} {text : String}

theorem Settled.map {read : String → Except Failure α} (f : α → β) (h : Settled read text) :
    Settled (fun text => (read text).map f) text := by
  intro failed fail
  obtain ⟨reason, offset, rfl, ⟨ending, more, some, a, ok⟩ | ⟨before, final⟩⟩ :=
    h failed (map_eq_error_iff.1 fail)
  · have mapped : (read (text ++ more)).map f = .ok (f a) := by
      rw [ok]
      rfl
    exact ⟨reason, offset, rfl, .inl ⟨ending, more, some, f a, mapped⟩⟩
  · refine ⟨reason, offset, rfl, .inr ⟨before, fun more => ?_⟩⟩
    obtain ⟨reason', grows, fail'⟩ := final more
    exact ⟨reason', grows, map_eq_error_iff.2 fail'⟩

theorem complete_settled {reader : Reader α} (inside : EndsIn text.toList (reader text.toList))
    (h : Settles reader text.toList) :
    Settled (fun text => complete text reader text.toList) text := by
  intro failed fail
  obtain ⟨reason, rest, fails, suffix, rfl⟩ := exists_fails_of_complete inside fail
  obtain ⟨front, split⟩ := suffix
  refine ⟨reason, _, rfl, ?_⟩
  obtain ⟨rfl, more, a, read⟩ | ⟨before, final⟩ := h reason rest fails
  · refine .inl ⟨Nat.sub_zero _, String.ofList more, ?_, ?_⟩
    · intro empty
      obtain rfl := String.ofList_eq_empty_iff.1 empty
      obtain ⟨severity, found⟩ := fails
      rw [List.append_nil, found] at read
      cases read
    · rw [← String.toList_ofList (l := more), ← String.toList_append] at read
      exact ⟨_, complete_eq_ok_iff.2 ⟨[], read, rfl⟩⟩
  · refine .inr ⟨?_, fun more => ?_⟩
    · have some : Text.byteLength rest ≠ 0 := fun none =>
        before (Text.eq_nil_of_byteLength_eq_zero none)
      have whole := Text.byteLength_append front rest
      rw [split] at whole
      omega
    · obtain ⟨reason', grows, fails'⟩ := final more.toList
      rw [← String.toList_append] at fails'
      have offset : Text.byteLength (text ++ more).toList - Text.byteLength (rest ++ more.toList) =
          Text.byteLength text.toList - Text.byteLength rest := by
        simp only [String.toList_append, Text.byteLength_append, Nat.add_sub_add_right]
      refine ⟨reason', grows, ?_⟩
      rw [← offset]
      exact complete_of_fails fails'

end Settled

/-- Readings of types, lenient and strict, settle every text, and the strict reading of methods
every text that opens its arguments. -/
theorem failures_settled :
    (∀ text, Settled readType text) ∧ (∀ text, Settled parseType text) ∧
      ∀ text : String, '(' ∈ text.toList → Settled parseMethod text := by
  refine ⟨?_, ?_, ?_⟩
  · intro text
    exact complete_settled (field_endsIn _) (field_settles _)
  · intro text
    have settles := (field_settles text.toList).whole fun _ _ => field_append
    exact (complete_settled (whole_endsIn (field_endsIn _)) settles).map Reading.value
  · intro text opened
    have settles := (method_settles opened).whole fun _ _ => method_append
    exact (complete_settled (whole_endsIn (method_endsIn _)) settles).map Reading.value

theorem settled_array_argument :
    (∃ more, more ≠ "" ∧ ∃ m, parseMethod ("([" ++ more) = .ok m) ∧
      ∀ more, parseMethod ("([V" ++ more) =
        .error (.malformed ⟨"([V" ++ more, .voidArrayElement, 2⟩) := by
  have begun : FieldFault (List.replicate 1 '[' ++ []) .unexpectedEnd [] :=
    .core (by decide) .ending
  have element : FieldFault (List.replicate 1 '[' ++ ['V']) .voidArrayElement ['V'] :=
    .voidElement (Nat.le_refl 1) (by decide)
  have noArray : ArgumentsFault "([".toList .unexpectedEnd [] :=
    @ArgumentsFault.argument [] _ _ [] _ List.not_mem_nil (by decide) begun
  have noElement : ArgumentsFault "([V".toList .voidArrayElement ['V'] :=
    @ArgumentsFault.argument [] _ _ [] _ List.not_mem_nil (by decide) element
  have unfinished : parseMethod "([" = .error (.malformed ⟨"([", .unexpectedEnd, 2⟩) :=
    parseMethod_of_argumentsFault noArray
  have refused : parseMethod "([V" = .error (.malformed ⟨"([V", .voidArrayElement, 2⟩) :=
    parseMethod_of_argumentsFault noElement
  constructor
  · obtain ⟨reason, offset, same, ⟨-, completed⟩ | ⟨before, -⟩⟩ :=
      failures_settled.2.2 "([" (by decide) _ unfinished
    · exact completed
    · cases same
      exact absurd before (by decide)
  · obtain ⟨reason, offset, same, ⟨ending, -⟩ | ⟨-, final⟩⟩ :=
      failures_settled.2.2 "([V" (by decide) _ refused
    · cases same
      exact absurd ending (by decide)
    · cases same
      intro more
      obtain ⟨reason, rfl, fails⟩ := final more
      exact fails

end Signature
end TypeDescriptors
