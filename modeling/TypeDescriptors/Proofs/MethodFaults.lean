import TypeDescriptors.Proofs.Descriptors
import TypeDescriptors.Proofs.Faults

set_option autoImplicit false

namespace TypeDescriptors.Grammar

theorem whole_fails_iff {α : Type} {reader : Reader α} {text rest : List Char} {reason : Reason} :
    Fails (whole reader text) reason rest ↔
      Fails (reader text) reason rest ∨
        reason = .trailingCharacters ∧ rest ≠ [] ∧ ∃ a, reader text = .ok (a, rest) := by
  unfold whole
  rw [fails_bind_iff]
  apply or_congr_right
  constructor
  · rintro ⟨⟨a, left⟩, read, h⟩
    dsimp only at h
    split at h
    · exact absurd h (not_fails_ok _)
    · rename_i more
      obtain ⟨rfl, rfl⟩ := fails_fail_iff.1 h
      rw [List.isEmpty_iff] at more
      exact ⟨rfl, more, a, read⟩
  · rintro ⟨rfl, more, a, read⟩
    refine ⟨(a, rest), read, ?_⟩
    simp only [List.isEmpty_iff, more, ↓reduceIte]
    exact fails_fail_iff.2 ⟨rfl, rfl⟩

theorem whole_endsIn {α : Type} {reader : Reader α} {text : List Char}
    (h : EndsIn text (reader text)) : EndsIn text (whole reader text) := by
  apply h.bind
  intro a rest _ inside
  dsimp only
  split
  · exact inside
  · exact inside

theorem head_ne_of_char {c : Char} {text : List Char} {stop : Stop}
    (close : char c text = .error stop) : text.head? ≠ some c := by
  intro head
  obtain ⟨cs, rfl⟩ := List.head?_eq_some_iff.1 head
  simp [char] at close

theorem exists_char_error {c : Char} {text : List Char} (head : text.head? ≠ some c) :
    ∃ stop, char c text = .error stop := by
  cases text with
  | nil => exact ⟨_, rfl⟩
  | cons d cs =>
    have other : d ≠ c := by simpa using head
    exact ⟨.fault (.expected c (d :: cs)), by simp [char, other, fail]⟩

theorem method_endsIn (text : List Char) : EndsIn text (method text) := by
  apply (arguments_endsIn text).bind
  intro types left _ inside
  apply ((field_endsIn left).cut.mono inside).bind
  intro t rest _ within
  exact within

theorem method_fails_iff {text rest : List Char} {reason : Reason} :
    Fails (method text) reason rest ↔
      Fails (arguments text) reason rest ∨
        ∃ types left, arguments text = .ok (types, left) ∧ FieldFault left reason rest := by
  unfold method
  rw [fails_bind_iff]
  apply or_congr_right
  simp only [Prod.exists, fails_bind_iff, fails_cut_iff, field_fails_iff, not_fails_ok, and_false,
    exists_false, or_false]

end TypeDescriptors.Grammar

namespace TypeDescriptors.Signature
open Grammar

/-- A text that is no argument list, and its fault. What ends the arguments is no fault of one. -/
inductive ArgumentsFault : List Char → Reason → List Char → Prop where
  | unopened {text : List Char} : '(' ∉ text → ArgumentsFault text .missingOpenParen text
  | argument {before tail rest : List Char} {segments : List Segment} {reason : Reason} :
      '(' ∉ before → tail.head? ≠ some ')' → FieldFault tail reason rest →
        ArgumentsFault (before ++ '(' :: (Segment.chars segments ++ tail)) reason rest

section Arguments

variable {text rest : List Char} {reason : Reason}

theorem itemsUntil_fails_iff :
    Fails (itemsUntil field ')' text).2 reason rest ↔
      ∃ (segments : List Segment) (tail : List Char), text = Segment.chars segments ++ tail ∧
        tail.head? ≠ some ')' ∧ FieldFault tail reason rest := by
  constructor
  · intro h
    -- By the steps of the loop: the argument at which it ends is the one with the fault.
    fun_induction itemsUntil field ')' text with
    | case1 => exact absurd h (not_fails_ok _)
    | case2 text stop close f read =>
      have fault : Fails (field text) reason rest := by
        rw [read]
        exact (fails_fail_iff (f := f)).2 (fails_fail_iff.1 h)
      exact ⟨[], text, rfl, head_ne_of_char close, field_fails_iff.1 fault⟩
    | case3 text stop close d read => exact absurd read ((field_endsIn text).ne_defect d)
    | case4 text stop close t after read shorter items ending next ih =>
      rw [next] at ih
      obtain ⟨segments, tail, rfl, head, fault⟩ := ih h
      obtain ⟨taken, denotes, rfl⟩ := field_eq_ok_iff.1 read
      obtain ⟨s, rfl, rfl⟩ := Segment.exists_of_denotes denotes
      exact ⟨s :: segments, tail, by simp, head, fault⟩
    | case5 text stop close t after read longer => exact absurd (field_shorter read) longer
  · rintro ⟨segments, tail, rfl, head, fault⟩
    induction segments with
    | nil =>
      obtain ⟨stop, close⟩ := exists_char_error head
      obtain ⟨severity, found⟩ := field_fails_iff.2 fault
      change Fails (itemsUntil field ')' tail).2 reason rest
      rw [itemsUntil, close, found]
      exact fails_fail_iff.2 ⟨rfl, rfl⟩
    | cons s segments ih =>
      rw [Segment.chars_cons, List.append_assoc, s.denotes.itemsUntil_append]
      exact ih

theorem arguments_append_fails_iff {before inner : List Char} (absent : '(' ∉ before) :
    Fails (arguments (before ++ '(' :: inner)) reason rest ↔
      Fails (itemsUntil field ')' inner).2 reason rest := by
  unfold arguments argumentsRead
  rw [openParen_append absent]
  dsimp only
  split
  · rename_i ending
    rw [ending]
    exact iff_of_false (not_fails_ok _) (not_fails_ok _)
  · rename_i ending
    rw [ending]
    simp [Fails, fail]

theorem arguments_of_notMem (absent : '(' ∉ text) :
    arguments text = fail ⟨.missingOpenParen, text, .recoverable⟩ := by
  have nothing : ((text ++ []).dropWhile fun c => c != '(') = [] := by
    rw [List.dropWhile_append_of_pos (Text.ne_mark_of_notMem absent)]
    rfl
  rw [List.append_nil] at nothing
  simp only [arguments, argumentsRead, openParen, nothing, fail]

theorem arguments_fails_iff :
    Fails (arguments text) reason rest ↔ ArgumentsFault text reason rest := by
  constructor
  · intro h
    by_cases opened : '(' ∈ text
    · obtain ⟨before, inner, rfl, absent⟩ := List.eq_append_cons_of_mem opened
      obtain ⟨segments, tail, rfl, head, fault⟩ :=
        itemsUntil_fails_iff.1 ((arguments_append_fails_iff absent).1 h)
      exact .argument absent head fault
    · rw [arguments_of_notMem opened] at h
      obtain ⟨rfl, rfl⟩ := fails_fail_iff.1 h
      exact .unopened opened
  · intro h
    cases h with
    | unopened absent =>
      rw [arguments_of_notMem absent]
      exact fails_fail_iff.2 ⟨rfl, rfl⟩
    | argument absent head fault =>
      exact (arguments_append_fails_iff absent).2
        (itemsUntil_fails_iff.2 ⟨_, _, rfl, head, fault⟩)

end Arguments

section Readings

theorem map_eq_error_iff {α β : Type} {f : α → β} {outcome : Except Failure α} {failed : Failure} :
    outcome.map f = .error failed ↔ outcome = .error failed := by
  cases outcome <;> simp [Except.map]

variable {α : Type} {text : String} {reader : Reader α} {input : List Char}

theorem exists_fails_of_complete {failed : Failure} (inside : EndsIn input (reader input))
    (h : complete text reader input = .error failed) :
    ∃ reason rest, Fails (reader input) reason rest ∧ rest <:+ input ∧
      failed = .malformed ⟨text, reason, Text.byteLength text.toList - Text.byteLength rest⟩ := by
  obtain ⟨f, found, within, rfl⟩ := failure_of_complete inside h
  exact ⟨f.reason, f.rest, ⟨f.severity, found⟩, within, rfl⟩

theorem complete_of_fails {reason : Reason} {rest : List Char}
    (h : Fails (reader input) reason rest) :
    complete text reader input = .error (.malformed
      ⟨text, reason, Text.byteLength text.toList - Text.byteLength rest⟩) := by
  obtain ⟨severity, found⟩ := h
  unfold complete
  rw [found]
  rfl

theorem parseMethod_of_argumentsFault {reason : Reason} {rest : List Char}
    (fault : ArgumentsFault text.toList reason rest) :
    parseMethod text = .error (.malformed
      ⟨text, reason, Text.byteLength text.toList - Text.byteLength rest⟩) := by
  have fails := method_fails_iff.2 (.inl (arguments_fails_iff.2 fault))
  exact map_eq_error_iff.2 (complete_of_fails (whole_fails_iff.2 (.inl fails)))

end Readings

end TypeDescriptors.Signature
