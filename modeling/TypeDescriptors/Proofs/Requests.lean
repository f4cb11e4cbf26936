import TypeDescriptors.Proofs.BlockDepth
import TypeDescriptors.Proofs.MethodFaults
import TypeDescriptors.Proofs.WellFormedness
import TypeDescriptors.Signature.Survey

set_option autoImplicit false

namespace TypeDescriptors.Grammar
open Erasure (erase scan)

/-- A cut of a text at a byte offset: the offset lies between two characters, and the text behind it
is `rest`. -/
structure CutAt (text : List Char) (offset : Nat) (rest : List Char) : Prop where
  boundary : String.Pos.Raw.IsValid (String.ofList text) ⟨offset⟩
  behind : Text.dropBytes offset text = rest

theorem cutAt_append (before rest : List Char) :
    CutAt (before ++ rest) (Text.byteLength before) rest where
  boundary := Text.isValid_byteLength (by rw [String.toList_ofList])
  behind := Text.dropBytes_append before rest

theorem cutAt_append_cons (before : List Char) {c : Char} (rest : List Char)
    (single : c.utf8Size = 1) :
    CutAt (before ++ c :: rest) (Text.byteLength before + 1) rest := by
  have cut := cutAt_append (before ++ [c]) rest
  rwa [List.append_assoc, Text.byteLength_append, Text.byteLength_cons, Text.byteLength_nil,
    single] at cut

theorem cutAt_of_suffix {text rest : List Char} (h : rest <:+ text) :
    CutAt text (Text.byteLength text - Text.byteLength rest) rest := by
  obtain ⟨before, rfl⟩ := h
  rw [Text.byteLength_append, Nat.add_sub_cancel]
  exact cutAt_append before rest

def LeavesCut {α : Type} (text : List Char) : Except Stop (α × List Char) → Prop
  | .ok (_, rest) => CutAt text (Text.byteLength text - Text.byteLength rest) rest
  | .error (.fault f) => CutAt text (Text.byteLength text - Text.byteLength f.rest) f.rest
  | .error (.defect _) => False

theorem EndsIn.leavesCut {α : Type} {text : List Char} {outcome : Except Stop (α × List Char)}
    (h : EndsIn text outcome) : LeavesCut text outcome := by
  match outcome, h with
  | .ok _, h => exact cutAt_of_suffix h
  | .error (.fault _), h => exact cutAt_of_suffix h

theorem EndsIn.mapValue {α β : Type} {f : α → β} {text : List Char}
    {outcome : Except Stop (α × List Char)} (h : EndsIn text outcome) :
    EndsIn text (mapValue f outcome) := by
  match outcome, h with
  | .ok _, h => exact h
  | .error (.fault _), h => exact h

theorem fieldSlots_endsIn (text : List Char) : EndsIn text (fieldSlots text) := by
  rw [fieldSlots_eq_map]
  exact (field_endsIn text).mapValue

theorem argumentSlots_endsIn (text : List Char) : EndsIn text (argumentSlots text) := by
  rw [argumentSlots_eq_map]
  exact (arguments_endsIn text).mapValue

/-- An array that is asked for has one to the most dimensions, over an element that has arrays and
is none. It is made as asked for, without being joined to another one. -/
def ArraysInRange (text : List Char) : Prop :=
  ∀ (count : Nat) (inner : List Char) (t : FieldType) (rest : List Char),
    dimensions text = .ok (count, inner) → elementAfter field inner = .ok (t, rest) →
      1 ≤ count ∧ count ≤ 255 ∧ t.kind ∉ [.array, .base .void, .null, .unknown] ∧
        ∃ signature, FieldType.arrayOf t (UInt64.ofNat count) = .ok (.array t count signature)

theorem arraysInRange (text : List Char) : ArraysInRange text := by
  intro count inner t rest run read
  -- The run of brackets is read to its end, so the element is read as no array.
  have scalars : elementAfter field inner = elementAfter scalar inner :=
    elementAfter_congr (field_of_head_ne (dimensions_head run))
  rw [scalars] at read
  obtain ⟨pos, limit, -, -⟩ := dimensions_eq_ok_iff_replicate.1 run
  obtain ⟨core, e, -, notVoid, rfl, -⟩ := elementAfter_scalar_eq_ok_iff.1 read
  refine ⟨pos, limit, FieldType.kind_type_notMem_iff.2 notVoid, ?_⟩
  rw [FieldType.arrayOf_count notVoid pos limit]
  exact ⟨_, congrArg Except.ok (FieldType.withDimensions_of_pos e count pos)⟩

/-- A class that is asked for has a name, without any mark of the grammar of bodies, and its erasure
has dropped no `>` that stood outside of every block. -/
def ClassesNamed (text : List Char) : Prop :=
  ∀ body rest : List Char, referenceBody text = .ok (body, rest) →
    erase body ≠ [] ∧ (∀ c ∈ erase body, c ≠ '<' ∧ c ≠ '>' ∧ c ≠ ';') ∧
      (∃ c : ClassType,
        FieldType.ofClassName (String.ofList (erase body)) = .ok (FieldType.object c)) ∧
      scanStrict 0 false body = some (erase body)

theorem classesNamed (text : List Char) : ClassesNamed text := by
  intro body rest read
  obtain ⟨split, -⟩ := referenceBody_eq_ok_iff.1 read
  obtain ⟨parts, legal, rfl, -⟩ := referenceBody_eq_ok_iff_parts.1 read
  obtain ⟨c, mem⟩ := legal.named
  have covered := splitBody_covered 0 text
  rw [split] at covered
  have strict : scanStrict 0 false (bodyText parts) = some (scan 0 false (bodyText parts)) :=
    scanStrict_eq_some_iff.2 covered
  refine ⟨?_, ?_, ⟨_, ofClassName_erase_bodyText legal⟩, ?_⟩
  · rw [erase_bodyText legal.legal]
    exact spelledFrom_ne_nil mem false
  · intro d kept
    rw [erase_bodyText legal.legal] at kept
    obtain rfl | plain := mem_spelledFrom kept
    · decide
    · exact legal.legal _ plain
  · rw [strict, scan_bodyText legal.legal, erase_bodyText legal.legal]

theorem utf8Size_letter (b : BaseType) : b.letter.utf8Size = 1 := by
  cases b <;> rfl

/-- The cuts of a text lie between characters: those that the rules make at offsets of their own,
behind a letter, before and behind the `;` of a body and behind the last `)`, and those at which
they leave the text or report a fault. -/
structure CutsBetween (text : List Char) : Prop where
  letter : ∀ (b : BaseType) (rest : List Char), baseLetter text = .ok (b, rest) → CutAt text 1 rest
  body : ∀ body rest : List Char, splitBody 0 text = .ok (body, rest) →
    CutAt text (Text.byteLength body) (';' :: rest) ∧ CutAt text (Text.byteLength body + 1) rest
  closing : ∀ before rest : List Char, text = before ++ ')' :: rest → ')' ∉ rest →
    CutAt text (Text.byteLength before + 1) (Text.afterLast ')' text)
  reference : LeavesCut text (referenceBody text)
  type : LeavesCut text (field text)
  typeSlots : LeavesCut text (fieldSlots text)
  arguments : LeavesCut text (arguments text)
  argumentSlots : LeavesCut text (argumentSlots text)
  wholeType : LeavesCut text (whole field text)
  wholeMethod : LeavesCut text (whole method text)

theorem cutsBetween (text : List Char) : CutsBetween text where
  letter := by
    intro b rest read
    obtain rfl := baseLetter_eq_ok_iff.1 read
    exact cutAt_append_cons [] rest (utf8Size_letter b)
  body := by
    intro body rest split
    obtain rfl := splitBody_append split
    exact ⟨cutAt_append body _, cutAt_append_cons body rest rfl⟩
  closing := by
    intro before rest split absent
    rw [split, Text.afterLast_append_cons before absent]
    exact cutAt_append_cons before rest rfl
  reference := (referenceBody_endsIn text).leavesCut
  type := (field_endsIn text).leavesCut
  typeSlots := (fieldSlots_endsIn text).leavesCut
  arguments := (arguments_endsIn text).leavesCut
  argumentSlots := (argumentSlots_endsIn text).leavesCut
  wholeType := (whole_endsIn (field_endsIn text)).leavesCut
  wholeMethod := (whole_endsIn (method_endsIn text)).leavesCut

end TypeDescriptors.Grammar

namespace TypeDescriptors.Signature
open Grammar

theorem complete_ne_defect {α : Type} {text : String} {reader : Reader α} {input : List Char}
    (inside : EndsIn input (reader input)) (d : Defect) :
    complete text reader input ≠ .error (.defect d) := by
  intro failed
  obtain ⟨f, -, -, malformed⟩ := failure_of_complete inside failed
  cases malformed

theorem parseType_ne_defect (text : String) (d : Defect) : parseType text ≠ .error (.defect d) :=
  fun failed => complete_ne_defect (whole_endsIn (field_endsIn _)) d (map_eq_error_iff.1 failed)

theorem parseMethod_ne_defect (text : String) (d : Defect) :
    parseMethod text ≠ .error (.defect d) :=
  fun failed => complete_ne_defect (whole_endsIn (method_endsIn _)) d (map_eq_error_iff.1 failed)

/-- No reading of a text ends with a defect. On every text that they may be given, the rules ask for
arrays and classes that there are, their scans never count below zero, and their cuts lie between
characters. -/
theorem readings_without_defect :
    (∀ text : String,
      (∀ failed ∈ (survey text).lenientFailures ++ (survey text).strictFailures,
          ∀ d, failed ≠ .defect d) ∧
        ∀ d, displayOf text ≠ .error (.defect d)) ∧
      ∀ text : List Char,
        ArraysInRange text ∧ ClassesNamed text ∧ PassesCovered 0 text (splitBody 0 text) ∧
          CutsBetween text := by
  constructor
  · intro text
    refine ⟨?_, fun d failed => parseType_ne_defect text d (map_eq_error_iff.1 failed)⟩
    rintro failed mem d rfl
    rw [List.mem_append, Survey.mem_lenientFailures_iff, Survey.mem_strictFailures_iff] at mem
    obtain (h | h | h | h | h | h) | (h | h) := mem
    · exact complete_ne_defect (field_endsIn _) d h
    · exact complete_ne_defect (fieldSlots_endsIn _) d h
    · exact complete_ne_defect (arguments_endsIn _) d h
    · exact complete_ne_defect (argumentSlots_endsIn _) d h
    · exact complete_ne_defect (field_endsIn _) d h
    · exact complete_ne_defect (fieldSlots_endsIn _) d h
    · exact parseType_ne_defect text d h
    · exact parseMethod_ne_defect text d h
  · intro text
    exact ⟨arraysInRange text, classesNamed text, splitBody_covered 0 text, cutsBetween text⟩

theorem requests_of_wide_class :
    scanStrict 0 false "é<TT;>.b".toList = some "é$b".toList ∧
      CutAt "é<TT;>.b;I".toList 9 [';', 'I'] ∧ CutAt "é<TT;>.b;I".toList 10 ['I'] := by
  have read : referenceBody "é<TT;>.b;I".toList = .ok ("é<TT;>.b".toList, ['I']) := by rfl
  obtain ⟨-, named, -, cuts⟩ := readings_without_defect.2 "é<TT;>.b;I".toList
  obtain ⟨-, -, -, strict⟩ := named _ _ read
  exact ⟨strict, cuts.body _ _ (referenceBody_eq_ok_iff.1 read).1⟩

end TypeDescriptors.Signature
