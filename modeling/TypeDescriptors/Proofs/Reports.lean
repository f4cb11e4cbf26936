import TypeDescriptors.CommandLine.Report
import TypeDescriptors.Proofs.Requests

set_option autoImplicit false

namespace TypeDescriptors.CommandLine
open Signature

def rejection? (o : Options) (text : String) : Option Failure :=
  if o.method then failure? (parseMethod text) else failure? (parseType text)

def headLines (outline : Outline) (display : String) : String :=
  outline.pretty ++ "\n" ++ display ++ "\n"

def slotLine (subject : String) (slots consumed : Nat) : String :=
  subject ++ ": " ++ toString slots ++ ", consumed: " ++ toString consumed ++ "\n"

def explanation : Reason → String
  | .unexpectedEnd => "unexpected end of signature"
  | .unexpectedCharacter c => "unexpected character " ++ Text.quotedChar c
  | .expected wanted found =>
    "expected " ++ Text.quotedChar wanted ++ ", found " ++ Text.quotedChar found
  | .missingOpenParen => "method signature has no '('"
  | .unterminatedReference => "reference type is not terminated by ';'"
  | .emptyClassName => "reference type has an empty class name"
  | .unbalancedTypeArguments => "unbalanced '<' and '>' in type arguments"
  | .tooManyDimensions count => toString count ++ " array dimensions exceed the maximum of 255"
  | .voidArrayElement => "array element type cannot be void"
  | .trailingCharacters => "unexpected characters after the signature"

/-- The warning of a signature with its fault: the signature itself in quotes, where the fault is
and what it is. -/
def warning (text : String) (offset : Nat) (reason : Reason) : Log.Record :=
  ⟨"jvm_sig", .warn, "invalid signature " ++ Text.quoted text ++ " at offset " ++
    toString offset ++ ": " ++ explanation reason⟩

/-- The line on the size of a return type, which the lenient reading may fail to find. -/
inductive ReturnLine (text : String) : String → List Log.Record → Prop where
  | read {slots consumed : Nat} : readReturnSlots text = .ok ⟨slots, consumed⟩ →
      ReturnLine text (slotLine "return size" slots consumed) []
  | failed {offset : Nat} {reason : Reason} :
      readReturnSlots text = .error (.malformed ⟨text, reason, offset⟩) →
        ReturnLine text "" [warning text offset reason]

/-- The block of a signature that the strict reading accepts, and the warnings on its sizes. The
sizes of a type are those of the whole signature, and the slots of arguments are counted through the
`)` that closes them. -/
inductive Accepted (o : Options) (text : String) : String → List Log.Record → Prop where
  | type {t : FieldType} : o.method = false → o.sizes = false → parseType text = .ok t →
      Accepted o text (headLines t.outline t.display) []
  | typeSizes {t : FieldType} : o.method = false → o.sizes = true → parseType text = .ok t →
      Accepted o text
        (headLines t.outline t.display ++
          slotLine "size" t.slots (Text.byteLength text.toList)) []
  | method {m : MethodType} : o.method = true → o.sizes = false → parseMethod text = .ok m →
      Accepted o text (headLines m.outline m.display) []
  | methodSizes {m : MethodType} {before : String} {segments : List Segment} {returned : Segment}
      {line : String} {own : List Log.Record} :
      o.method = true → o.sizes = true → parseMethod text = .ok m → '(' ∉ before.toList →
        text = Segment.inParentheses before segments "" ++ returned.text →
          m = ⟨returned.type, segments.map Segment.type⟩ → ReturnLine text line own →
      Accepted o text
        (headLines m.outline m.display ++
          slotLine "arguments size" m.argumentSlots
            (Text.byteLength (Segment.inParentheses before segments "").toList) ++ line) own

/-- A run over signatures in order, with its output and its warnings. -/
inductive Run (o : Options) : List String → String → List Log.Record → Prop where
  | done : Run o [] "" []
  | accepted {text block output : String} {texts : List String} {own later : List Log.Record} :
      Accepted o text block own → Run o texts output later →
        Run o (text :: texts) (block ++ output) (own ++ later)
  | rejected {text output : String} {texts : List String} {offset : Nat} {reason : Reason}
      {later : List Log.Record} :
      rejection? o text = some (.malformed ⟨text, reason, offset⟩) → Run o texts output later →
        Run o (text :: texts) output (warning text offset reason :: later)

theorem message_eq_explanation (reason : Reason) : reason.message = explanation reason :=
  rfl

theorem orWarn_malformed {α : Type} (text : String) (reason : Reason) (offset : Nat) :
    orWarn (.error (.malformed ⟨text, reason, offset⟩) : Except Failure α) =
      (none, [warning text offset reason]) := by
  rw [warning, ← message_eq_explanation]
  rfl

theorem exists_fault_of_complete {α : Type} {text : String} {reader : Grammar.Reader α}
    {input : List Char} {failed : Failure} (inside : Grammar.EndsIn input (reader input))
    (h : complete text reader input = .error failed) :
    ∃ offset reason, failed = .malformed ⟨text, reason, offset⟩ := by
  obtain ⟨f, -, -, rfl⟩ := failure_of_complete inside h
  exact ⟨_, _, rfl⟩

theorem exists_fault_of_rejection {o : Options} {text : String} {failed : Failure}
    (h : rejection? o text = some failed) :
    ∃ offset reason, failed = .malformed ⟨text, reason, offset⟩ := by
  unfold rejection? at h
  split at h
  · exact exists_fault_of_complete (Grammar.whole_endsIn (Grammar.method_endsIn _))
      (map_eq_error_iff.1 (failure?_eq_some_iff.1 h))
  · exact exists_fault_of_complete (Grammar.whole_endsIn (Grammar.field_endsIn _))
      (map_eq_error_iff.1 (failure?_eq_some_iff.1 h))

theorem reportOn_malformed {α : Type} (text : String) (reason : Reason) (offset : Nat)
    (outline : α → Outline) (display : α → String)
    (sizes : List (String × Except Failure (Reading Nat))) :
    reportOn (.error (.malformed ⟨text, reason, offset⟩)) outline display sizes =
      ⟨false, "", [warning text offset reason]⟩ := by
  simp only [reportOn, orWarn_malformed]

theorem reportOn_ok {α : Type} (a : α) (outline : α → Outline) (display : α → String)
    (sizes : List (String × Except Failure (Reading Nat))) :
    reportOn (.ok a) outline display sizes =
      ⟨true, headLines (outline a) (display a) ++ (sizeLines sizes).1, (sizeLines sizes).2⟩ := rfl

theorem sizeLines_nil : sizeLines [] = ("", []) := rfl

theorem reportOn_ok_nil {α : Type} (a : α) (outline : α → Outline) (display : α → String) :
    reportOn (.ok a) outline display [] = ⟨true, headLines (outline a) (display a), []⟩ := by
  rw [reportOn_ok, sizeLines_nil, String.append_empty]

theorem sizeLines_cons (line : String × Except Failure (Reading Nat))
    (lines : List (String × Except Failure (Reading Nat))) :
    sizeLines (line :: lines) =
      ((sizeLine line.1 line.2).1 ++ (sizeLines lines).1,
        (sizeLine line.1 line.2).2 ++ (sizeLines lines).2) := by
  simp [sizeLines, String.join_cons]

theorem sizeLine_ok (subject : String) (slots consumed : Nat) :
    sizeLine subject (.ok ⟨slots, consumed⟩) = (slotLine subject slots consumed, []) := rfl

theorem sizeLine_of_returnLine {text line : String} {own : List Log.Record}
    (h : ReturnLine text line own) :
    sizeLine "return size" (readReturnSlots text) = (line, own) := by
  cases h with
  | read counted =>
    rw [counted]
    rfl
  | failed missing => simp only [missing, sizeLine, orWarn_malformed]

theorem exists_returnLine (text : String) : ∃ line own, ReturnLine text line own := by
  cases outcome : readReturnSlots text with
  | ok reading => exact ⟨_, _, .read outcome⟩
  | error failed =>
    obtain ⟨offset, reason, rfl⟩ :=
      exists_fault_of_complete (Grammar.fieldSlots_endsIn _) outcome
    exact ⟨_, _, .failed outcome⟩

theorem readTypeSlots_of_parseType {text : String} {t : FieldType}
    (parsed : parseType text = .ok t) :
    readTypeSlots text = .ok ⟨t.slots, Text.byteLength text.toList⟩ := by
  have whole := (Segment.mk text t parsed).readTypeSlots_append ""
  rwa [String.append_empty] at whole

theorem fieldReport_false {text : String} {t : FieldType} (parsed : parseType text = .ok t) :
    fieldReport false text = ⟨true, headLines t.outline t.display, []⟩ := by
  unfold fieldReport
  rw [parsed]
  exact reportOn_ok_nil _ _ _

theorem fieldReport_true {text : String} {t : FieldType} (parsed : parseType text = .ok t) :
    fieldReport true text =
      ⟨true, headLines t.outline t.display ++
        slotLine "size" t.slots (Text.byteLength text.toList), []⟩ := by
  unfold fieldReport
  rw [parsed, reportOn_ok, readTypeSlots_of_parseType parsed]
  simp only [↓reduceIte, sizeLines_cons, sizeLine_ok, sizeLines_nil, String.append_empty,
    List.append_nil]

theorem methodReport_false {text : String} {m : MethodType} (parsed : parseMethod text = .ok m) :
    methodReport false text = ⟨true, headLines m.outline m.display, []⟩ := by
  unfold methodReport
  rw [parsed]
  exact reportOn_ok_nil _ _ _

theorem readArgumentSlots_append {before : String} (absent : '(' ∉ before.toList)
    (segments : List Segment) (after : String) :
    readArgumentSlots (Segment.inParentheses before segments "" ++ after) =
      .ok ⟨FieldType.slotSum (segments.map Segment.type),
        Text.byteLength (Segment.inParentheses before segments "").toList⟩ := by
  rw [Segment.inParentheses_empty_append, Segment.readArgumentSlots_inParentheses absent,
    Segment.byteLength_inParentheses]
  rfl

theorem methodReport_true {before : String} {segments : List Segment} {returned : Segment}
    {m : MethodType} {text : String} (parsed : parseMethod text = .ok m)
    (absent : '(' ∉ before.toList)
    (split : text = Segment.inParentheses before segments "" ++ returned.text)
    (types : m = ⟨returned.type, segments.map Segment.type⟩) {line : String}
    {own : List Log.Record} (last : ReturnLine text line own) :
    methodReport true text =
      ⟨true, headLines m.outline m.display ++
        slotLine "arguments size" m.argumentSlots
          (Text.byteLength (Segment.inParentheses before segments "").toList) ++ line, own⟩ := by
  have slots := readArgumentSlots_append absent segments returned.text
  rw [← split] at slots
  unfold methodReport
  rw [parsed, reportOn_ok, slots, types]
  simp only [↓reduceIte, sizeLines_cons, sizeLine_ok, sizeLine_of_returnLine last, sizeLines_nil,
    String.append_empty, List.append_nil, List.nil_append, String.append_assoc]
  rfl

theorem report_of_rejection {o : Options} {text : String} {offset : Nat} {reason : Reason}
    (h : rejection? o text = some (.malformed ⟨text, reason, offset⟩)) :
    report o text = ⟨false, "", [warning text offset reason]⟩ := by
  unfold rejection? at h
  unfold report
  split at h
  · rename_i method
    rw [if_pos method, methodReport, failure?_eq_some_iff.1 h, reportOn_malformed]
  · rename_i type
    rw [if_neg type, fieldReport, failure?_eq_some_iff.1 h, reportOn_malformed]

theorem report_of_accepted {o : Options} {text block : String} {own : List Log.Record}
    (h : Accepted o text block own) : report o text = ⟨true, block, own⟩ := by
  unfold report
  cases h with
  | type method sizes parsed =>
    rw [method, sizes]
    exact fieldReport_false parsed
  | typeSizes method sizes parsed =>
    rw [method, sizes]
    exact fieldReport_true parsed
  | method method sizes parsed =>
    rw [method, sizes]
    exact methodReport_false parsed
  | methodSizes method sizes parsed absent split types last =>
    rw [method, sizes]
    exact methodReport_true parsed absent split types last

theorem exists_accepted {o : Options} {text : String} (h : rejection? o text = none) :
    ∃ block own, Accepted o text block own := by
  unfold rejection? at h
  cases method : o.method with
  | false =>
    rw [method, if_neg Bool.false_ne_true] at h
    obtain ⟨t, parsed⟩ := failure?_eq_none_iff.1 h
    cases sizes : o.sizes with
    | false => exact ⟨_, _, .type method sizes parsed⟩
    | true => exact ⟨_, _, .typeSizes method sizes parsed⟩
  | true =>
    rw [method, if_pos rfl] at h
    obtain ⟨m, parsed⟩ := failure?_eq_none_iff.1 h
    cases sizes : o.sizes with
    | false => exact ⟨_, _, .method method sizes parsed⟩
    | true =>
      obtain ⟨before, segments, returned, absent, split, types⟩ :=
        parseMethod_eq_ok_iff_segments.1 parsed
      rw [← Segment.inParentheses_empty_append] at split
      obtain ⟨line, own, last⟩ := exists_returnLine text
      exact ⟨_, _, .methodSizes method sizes parsed absent split types last⟩

theorem Accepted.level {o : Options} {text block : String} {own : List Log.Record}
    (h : Accepted o text block own) : ∀ r ∈ own, r.level = .warn := by
  cases h with
  | type | typeSizes | method => simp
  | methodSizes _ _ _ _ _ _ last => cases last <;> simp [warning]

theorem report_cases (o : Options) (text : String) :
    (∃ block own, Accepted o text block own ∧ rejection? o text = none ∧
        report o text = ⟨true, block, own⟩) ∨
      ∃ offset reason, rejection? o text = some (.malformed ⟨text, reason, offset⟩) ∧
        report o text = ⟨false, "", [warning text offset reason]⟩ := by
  cases verdict : rejection? o text with
  | none =>
    obtain ⟨block, own, accepted⟩ := exists_accepted verdict
    exact .inl ⟨block, own, accepted, rfl, report_of_accepted accepted⟩
  | some failed =>
    obtain ⟨offset, reason, rfl⟩ := exists_fault_of_rejection verdict
    exact .inr ⟨offset, reason, rfl, report_of_rejection verdict⟩

theorem report_level {o : Options} {text : String} :
    ∀ r ∈ (report o text).records, r.level = .warn := by
  obtain ⟨block, own, accepted, -, eq⟩ | ⟨offset, reason, -, eq⟩ := report_cases o text
  · rw [eq]
    exact accepted.level
  · rw [eq]
    simp [warning]

theorem accepted_iff {o : Options} {text : String} :
    (report o text).accepted = true ↔ rejection? o text = none := by
  obtain ⟨block, own, -, verdict, eq⟩ | ⟨offset, reason, verdict, eq⟩ := report_cases o text
  · simp [eq, verdict]
  · simp [eq, verdict]

/-- One signature's report in a run: the notes on its new classes stand before its own records. -/
theorem reports_cons (o : Options) (table : ClassTable) (text : String) (texts : List String) :
    ∃ (notes : List Log.Record) (table' : ClassTable), (∀ r ∈ notes, r.level = .debug) ∧
      reports o table (text :: texts) =
        ⟨(report o text).accepted, (report o text).output, notes ++ (report o text).records⟩ ::
          reports o table' texts := by
  refine ⟨(table.adoptAll (classesMet o text)).1.map classRecord, _, ?_, rfl⟩
  intro r mem
  obtain ⟨c, -, rfl⟩ := List.mem_map.1 mem
  rfl

def warnings (records : List Log.Record) : List Log.Record :=
  records.filter fun r => decide (r.level = .warn)

theorem warnings_append (records more : List Log.Record) :
    warnings (records ++ more) = warnings records ++ warnings more :=
  List.filter_append _ _

theorem warnings_eq_self {records : List Log.Record} (h : ∀ r ∈ records, r.level = .warn) :
    warnings records = records :=
  List.filter_eq_self.2 fun r mem => decide_eq_true (h r mem)

theorem warnings_eq_nil {records : List Log.Record} (h : ∀ r ∈ records, r.level = .debug) :
    warnings records = [] := by
  apply List.filter_eq_nil_iff.2
  intro r mem
  rw [h r mem]
  decide

def printed (o : Options) (table : ClassTable) (texts : List String) : String :=
  String.join ((reports o table texts).map Report.output)

def warned (o : Options) (table : ClassTable) (texts : List String) : List Log.Record :=
  warnings ((reports o table texts).flatMap Report.records)

theorem printed_cons (o : Options) (table : ClassTable) (text : String) (texts : List String) :
    ∃ table', printed o table (text :: texts) = (report o text).output ++ printed o table' texts ∧
      warned o table (text :: texts) = (report o text).records ++ warned o table' texts := by
  obtain ⟨notes, table', levels, eq⟩ := reports_cons o table text texts
  refine ⟨table', ?_, ?_⟩
  · rw [printed, eq, List.map_cons, String.join_cons]
    rfl
  · rw [warned, eq, List.flatMap_cons, warnings_append, warnings_append, warnings_eq_nil levels,
      List.nil_append, warnings_eq_self report_level]
    rfl

theorem run_reports (o : Options) (table : ClassTable) (texts : List String) :
    Run o texts (printed o table texts) (warned o table texts) := by
  -- For any table, since each signature leaves another one to those behind it.
  induction texts generalizing table with
  | nil => exact .done
  | cons text texts ih =>
    obtain ⟨table', output, records⟩ := printed_cons o table text texts
    obtain ⟨block, own, accepted, -, eq⟩ | ⟨offset, reason, rejected, eq⟩ := report_cases o text
    · rw [output, records, eq]
      exact .accepted accepted (ih table')
    · rw [output, records, eq, String.empty_append]
      exact .rejected rejected (ih table')

theorem Run.eq_reports {o : Options} {texts : List String} {output : String}
    {own : List Log.Record} (h : Run o texts output own) (table : ClassTable) :
    output = printed o table texts ∧ own = warned o table texts := by
  induction h generalizing table with
  | done => exact ⟨rfl, rfl⟩
  | @accepted text block output texts own later accepted _ ih =>
    obtain ⟨table', first, records⟩ := printed_cons o table text texts
    obtain ⟨rfl, rfl⟩ := ih table'
    rw [first, records, report_of_accepted accepted]
    exact ⟨rfl, rfl⟩
  | @rejected text output texts offset reason later rejected _ ih =>
    obtain ⟨table', first, records⟩ := printed_cons o table text texts
    obtain ⟨rfl, rfl⟩ := ih table'
    rw [first, records, report_of_rejection rejected, String.empty_append]
    exact ⟨rfl, rfl⟩

theorem all_accepted_iff (o : Options) (table : ClassTable) (texts : List String) :
    (reports o table texts).all Report.accepted = true ↔
      ∀ text ∈ texts, rejection? o text = none := by
  induction texts generalizing table with
  | nil => simp [reports]
  | cons text texts ih =>
    obtain ⟨notes, table', -, eq⟩ := reports_cons o table text texts
    rw [eq, List.all_cons, Bool.and_eq_true, ih, List.forall_mem_cons, accepted_iff]

theorem level_of_mem_reports {o : Options} {table : ClassTable} {texts : List String}
    {r : Log.Record} (h : r ∈ (reports o table texts).flatMap Report.records) :
    r.level = .warn ∨ r.level = .debug := by
  induction texts generalizing table with
  | nil => cases h
  | cons text texts ih =>
    obtain ⟨notes, table', levels, eq⟩ := reports_cons o table text texts
    rw [eq, List.flatMap_cons, List.mem_append, List.mem_append] at h
    obtain (note | own) | later := h
    · exact .inr (levels r note)
    · exact .inl (report_level r own)
    · exact ih later

theorem warnings_enabled (verbosity : Nat) (records : List Log.Record) :
    warnings (records.filter fun r => (Log.Level.ofVerbosity verbosity).enabled r.level) =
      warnings records := by
  unfold warnings
  rw [List.filter_filter]
  apply List.filter_congr
  intro r _
  by_cases warn : r.level = .warn
  · simp [warn, Log.Level.enabled_warn]
  · simp [warn]

theorem exit_eq (o : Options) : o.outcome.exit =
    if (reports o ClassTable.empty o.signatures).all Report.accepted then 0 else 1 := rfl

theorem exit_eq_zero_or_one (o : Options) : o.outcome.exit = 0 ∨ o.outcome.exit = 1 := by
  rw [exit_eq]
  split
  · exact .inl rfl
  · exact .inr rfl

theorem exit_eq_one_iff (o : Options) :
    o.outcome.exit = 1 ↔ ∃ text ∈ o.signatures, ∃ failed, rejection? o text = some failed := by
  have rejected : ¬ (reports o ClassTable.empty o.signatures).all Report.accepted = true ↔
      ∃ text ∈ o.signatures, ∃ failed, rejection? o text = some failed := by
    rw [all_accepted_iff]
    simp [Option.ne_none_iff_exists']
  rw [← rejected, exit_eq]
  split
  · rename_i all
    simp [all]
  · rename_i some
    simp [some]

/-- Over any signatures the program does what `Run` says and nothing else: it prints the output of
the run, and the warnings of the run are among the lines on the standard error, where all other
lines are notes that a verbosity of two or more asks for. It exits with 1 if a signature was
rejected, and with 0 otherwise. -/
theorem outcome_run (o : Options) :
    (∃ shown : List Log.Record,
      (∀ output own, Run o o.signatures output own ↔
        output = o.outcome.output ∧ own = warnings shown) ∧
        o.outcome.errors = String.join (shown.map Log.Record.line) ∧
        ∀ r ∈ shown, r.level = .warn ∨ (r.level = .debug ∧ 2 ≤ o.verbosity)) ∧
      (o.outcome.exit = 1 ↔ ∃ text ∈ o.signatures, ∃ failed, rejection? o text = some failed) ∧
      (o.outcome.exit = 0 ∨ o.outcome.exit = 1) := by
  refine ⟨?_, exit_eq_one_iff o, exit_eq_zero_or_one o⟩
  let limit := Log.Level.ofVerbosity o.verbosity
  let records := (reports o ClassTable.empty o.signatures).flatMap Report.records
  refine ⟨records.filter fun r => limit.enabled r.level, ?_, rfl, ?_⟩
  · intro output own
    rw [warnings_enabled]
    constructor
    · intro run
      exact run.eq_reports ClassTable.empty
    · rintro ⟨rfl, rfl⟩
      exact run_reports o ClassTable.empty o.signatures
  · intro r mem
    obtain ⟨noted, enabled⟩ := List.mem_filter.1 mem
    obtain warn | debug := level_of_mem_reports noted
    · exact .inl warn
    · rw [debug] at enabled
      exact .inr ⟨debug, (Log.Level.enabled_debug_iff _).1 enabled⟩

theorem line_warning_unexpected :
    (warning "x" 0 (.unexpectedCharacter 'x')).line =
      "[jvm_sig] [WARN] invalid signature \x22x\x22 at offset 0: unexpected character 'x'\n" := by
  have shown : Text.isHidden 'x' = false := by decide +kernel
  have quoted : Text.quoted "x" = "\x22x\x22" := by
    simp [Text.quoted, Text.enclose, Text.escapeChar, Text.escapeLetter?, shown]
  have character : Text.quotedChar 'x' = "'x'" := by
    simp [Text.quotedChar, Text.enclose, Text.escapeChar, Text.escapeLetter?, shown]
  change _ ++ (_ ++ Text.quoted "x" ++ _ ++ _ ++ _ ++ (_ ++ Text.quotedChar 'x')) ++ _ = _
  rw [quoted, character]
  rfl

theorem rejected_between_accepted :
    (Options.mk false true 0 ["I", "x", "J"]).outcome.output =
        "Basic(\n    Int,\n)\nint\nsize: 1, consumed: 1\n" ++
          "Basic(\n    Long,\n)\nlong\nsize: 2, consumed: 1\n" ∧
      (Options.mk false true 0 ["I", "x", "J"]).outcome.errors =
        "[jvm_sig] [WARN] invalid signature \x22x\x22 at offset 0: unexpected character 'x'\n" ∧
      (Options.mk false true 0 ["I", "x", "J"]).outcome.exit = 1 := by
  have rejected : rejection? (Options.mk false true 0 ["I", "x", "J"]) "x" =
      some (.malformed ⟨"x", .unexpectedCharacter 'x', 0⟩) := by rfl
  obtain ⟨⟨shown, run, errors, levels⟩, exit, -⟩ :=
    outcome_run (Options.mk false true 0 ["I", "x", "J"])
  obtain ⟨output, own⟩ := (run _ _).1
    (.accepted (.typeSizes rfl rfl (t := .base .int) rfl)
      (.rejected rejected (.accepted (.typeSizes rfl rfl (t := .base .long) rfl) .done)))
  -- Without verbosity no notes are shown, so the lines are those of the warnings.
  have all : warnings shown = shown := by
    refine warnings_eq_self fun r mem => ?_
    obtain warn | ⟨-, two⟩ := levels r mem
    · exact warn
    · cases two
  refine ⟨?_, ?_, exit.2 ⟨"x", by simp, _, rejected⟩⟩
  · rw [← output]
    rfl
  · rw [errors, ← all, ← own]
    exact line_warning_unexpected

end TypeDescriptors.CommandLine
