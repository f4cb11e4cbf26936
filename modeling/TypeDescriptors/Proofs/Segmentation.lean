import TypeDescriptors.Proofs.SlotAgreement

set_option autoImplicit false

namespace TypeDescriptors.Signature
open Grammar

/-- As many readings in a row as asked for, each of the text that the one before it has left, and
the text that the last one leaves. -/
def readEach {α : Type} (read : String → Except Failure (Reading α)) :
    Nat → String → Except Failure (List (Reading α) × String)
  | 0, text => .ok ([], text)
  | count + 1, text => do
    let reading ← read text
    let left := String.ofList (Text.dropBytes reading.consumed text.toList)
    let (readings, rest) ← readEach read count left
    return (reading :: readings, rest)

namespace Segment

def bytes (s : Segment) : Nat := Text.byteLength s.text.toList

def totalBytes : List Segment → Nat
  | [] => 0
  | s :: segments => s.bytes + totalBytes segments

def join (segments : List Segment) : String := String.join (segments.map text)

def inParentheses (before : String) (segments : List Segment) (after : String) : String :=
  before ++ "(" ++ join segments ++ ")" ++ after

theorem join_cons (s : Segment) (segments : List Segment) (after : String) :
    join (s :: segments) ++ after = s.text ++ (join segments ++ after) := by
  apply String.toList_inj.1
  rw [String.toList_append, String.toList_append, String.toList_append, join, join, toList_join,
    toList_join, chars_cons, List.append_assoc]

theorem byteLength_chars (segments : List Segment) :
    Text.byteLength (chars segments) = totalBytes segments := by
  induction segments with
  | nil => rfl
  | cons s segments ih =>
    rw [chars_cons, Text.byteLength_append, ih]
    rfl

theorem toList_inParentheses (before : String) (segments : List Segment) (after : String) :
    (inParentheses before segments after).toList =
      before.toList ++ '(' :: (chars segments ++ ')' :: after.toList) := by
  unfold inParentheses join
  rw [String.toList_append, String.toList_append, String.toList_append, String.toList_append,
    toList_join]
  simp

theorem inParentheses_empty_append (before : String) (segments : List Segment) (after : String) :
    inParentheses before segments "" ++ after = inParentheses before segments after := by
  unfold inParentheses
  rw [String.append_empty]

theorem byteLength_inParentheses (before : String) (segments : List Segment) (after : String) :
    Text.byteLength (inParentheses before segments after).toList =
      Text.byteLength before.toList + 2 + totalBytes segments + Text.byteLength after.toList := by
  have opening : Char.utf8Size '(' = 1 := by decide
  have closing : Char.utf8Size ')' = 1 := by decide
  rw [toList_inParentheses, Text.byteLength_append, Text.byteLength_cons, Text.byteLength_append,
    Text.byteLength_cons, byteLength_chars, opening, closing]
  omega

theorem readType_append (s : Segment) (after : String) :
    readType (s.text ++ after) = .ok ⟨s.type, s.bytes⟩ := by
  have read := s.denotes.field_append after.toList
  rw [← String.toList_append] at read
  apply complete_eq_ok_iff.2
  refine ⟨after.toList, read, ?_⟩
  rw [String.toList_append, Text.byteLength_append, Nat.add_sub_cancel]
  rfl

theorem readTypeSlots_append (s : Segment) (after : String) :
    readTypeSlots (s.text ++ after) = .ok ⟨s.type.slots, s.bytes⟩ := by
  rw [readTypeSlots_eq_map, s.readType_append]
  rfl

/-- A reader that takes each segment for a value of its type takes the segments of a sequence one by
one, and leaves the text behind them. -/
theorem readEach_join {α : Type} {read : String → Except Failure (Reading α)} {f : FieldType → α}
    (step : ∀ (s : Segment) (after : String), read (s.text ++ after) = .ok ⟨f s.type, s.bytes⟩)
    (segments : List Segment) (after : String) :
    readEach read segments.length (join segments ++ after) =
      .ok (segments.map fun s => ⟨f s.type, s.bytes⟩, after) := by
  induction segments with
  | nil =>
    change Except.ok ([], "" ++ after) = _
    rw [String.empty_append]
    rfl
  | cons s segments ih =>
    have left : String.ofList (Text.dropBytes s.bytes (s.text ++ (join segments ++ after)).toList) =
        join segments ++ after := by
      rw [String.toList_append, bytes, Text.dropBytes_append, String.ofList_toList]
    rw [join_cons, List.length_cons, readEach, step]
    simp only [bind, Except.bind, left, ih]
    rfl

theorem readArguments_inParentheses {before : String} (h : '(' ∉ before.toList)
    (segments : List Segment) (after : String) :
    readArguments (inParentheses before segments after) =
      .ok ⟨segments.map type, Text.byteLength before.toList + 2 + totalBytes segments⟩ := by
  apply complete_eq_ok_iff.2
  have whole := toList_inParentheses before segments after
  refine ⟨after.toList, arguments_eq_ok_iff.2 ⟨before.toList, segments, h, rfl, whole⟩, ?_⟩
  rw [byteLength_inParentheses, Nat.add_sub_cancel]

theorem readArgumentSlots_inParentheses {before : String} (h : '(' ∉ before.toList)
    (segments : List Segment) (after : String) :
    readArgumentSlots (inParentheses before segments after) =
      .ok ⟨FieldType.slotSum (segments.map Segment.type),
        Text.byteLength before.toList + 2 + totalBytes segments⟩ := by
  rw [readArgumentSlots_eq_map, readArguments_inParentheses h]
  rfl

theorem exists_inParentheses {text : String} {reading : Reading (List FieldType)}
    (h : readArguments text = .ok reading) :
    ∃ (before : String) (segments : List Segment) (after : String), '(' ∉ before.toList ∧
      text = inParentheses before segments after ∧ reading.value = segments.map type := by
  obtain ⟨rest, read, -⟩ := complete_eq_ok_iff.1 h
  obtain ⟨before, segments, absent, types, eq⟩ := arguments_eq_ok_iff.1 read
  refine ⟨String.ofList before, segments, String.ofList rest, ?_, ?_, types⟩
  · rw [String.toList_ofList]
    exact absent
  · apply String.toList_inj.1
    rw [toList_inParentheses, String.toList_ofList, String.toList_ofList, eq]

theorem inParentheses_inj {before before' after after' : String} {segments segments' : List Segment}
    (h : '(' ∉ before.toList) (h' : '(' ∉ before'.toList)
    (eq : inParentheses before segments after = inParentheses before' segments' after') :
    before = before' ∧ segments = segments' ∧ after = after' := by
  have whole := congrArg String.toList eq
  rw [toList_inParentheses, toList_inParentheses] at whole
  have opened := openParen_append h (chars segments ++ ')' :: after.toList)
  rw [whole, openParen_append h'] at opened
  have inside := Except.ok.inj opened
  rw [inside] at whole
  obtain ⟨rfl, rest⟩ := segments_unique inside
  exact ⟨String.toList_inj.1 (List.append_cancel_right whole), rfl, String.toList_inj.1 rest.symm⟩

end Segment

/-- Readings step by step and readings of argument lists cut a text into the same signatures, which
are the only ones that it can be cut into. -/
theorem segmentation_exact :
    (∀ (segments : List Segment) (after : String),
      readEach readType segments.length (Segment.join segments ++ after) =
          .ok (segments.map fun s => ⟨s.type, s.bytes⟩, after) ∧
        readEach readTypeSlots segments.length (Segment.join segments ++ after) =
          .ok (segments.map fun s => ⟨s.type.slots, s.bytes⟩, after)) ∧
      (∀ (before : String) (segments : List Segment) (after : String), '(' ∉ before.toList →
        readArguments (Segment.inParentheses before segments after) =
            .ok ⟨segments.map Segment.type,
              Text.byteLength before.toList + 2 + Segment.totalBytes segments⟩ ∧
          readArgumentSlots (Segment.inParentheses before segments after) =
            .ok ⟨FieldType.slotSum (segments.map Segment.type),
              Text.byteLength before.toList + 2 + Segment.totalBytes segments⟩) ∧
      (∀ (text : String) (reading : Reading (List FieldType)), readArguments text = .ok reading →
        ∃ (before : String) (segments : List Segment) (after : String), '(' ∉ before.toList ∧
          text = Segment.inParentheses before segments after ∧
          reading.value = segments.map Segment.type) ∧
      (∀ (before before' : String) (segments segments' : List Segment) (after after' : String),
        '(' ∉ before.toList → '(' ∉ before'.toList →
          Segment.inParentheses before segments after =
            Segment.inParentheses before' segments' after' →
          before = before' ∧ segments = segments' ∧ after = after') ∧
      ∀ a b : Segment, a.text.toList <+: b.text.toList → a.text = b.text := by
  refine ⟨?_, ?_, ?_, ?_, ?_⟩
  · intro segments after
    exact ⟨Segment.readEach_join (f := id) Segment.readType_append segments after,
      Segment.readEach_join Segment.readTypeSlots_append segments after⟩
  · intro before segments after h
    exact ⟨Segment.readArguments_inParentheses h segments after,
      Segment.readArgumentSlots_inParentheses h segments after⟩
  · intro text reading h
    exact Segment.exists_inParentheses h
  · intro before before' segments segments' after after' h h' eq
    exact Segment.inParentheses_inj h h' eq
  · intro a b front
    exact String.toList_inj.1 (a.denotes.prefix_free b.denotes front)

theorem segmentation_generic_signature :
    readArguments "<T:LA;>(TT;[La<(TT;)>.b;)V" =
        .ok ⟨[FieldType.objectClass, .withDimensions (.object "a$b") 1], 25⟩ ∧
      readArgumentSlots "<T:LA;>(TT;[La<(TT;)>.b;)V" = .ok ⟨2, 25⟩ := by
  have typeVariable : parseType "TT;" = .ok FieldType.objectClass := by rfl
  have innerArray : parseType "[La<(TT;)>.b;" = .ok (.withDimensions (.object "a$b") 1) := by rfl
  let segments : List Segment := [⟨_, _, typeVariable⟩, ⟨_, _, innerArray⟩]
  have whole : Segment.inParentheses "<T:LA;>" segments "V" = "<T:LA;>(TT;[La<(TT;)>.b;)V" := by rfl
  have bytes : Segment.totalBytes segments = 16 := by
    change Text.byteLength "TT;".toList + (Text.byteLength "[La<(TT;)>.b;".toList + 0) = 16
    decide
  have read := segmentation_exact.2.1 "<T:LA;>" segments "V" (by decide)
  rw [whole, bytes] at read
  exact read

end TypeDescriptors.Signature
