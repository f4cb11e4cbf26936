import TypeDescriptors.Proofs.Descriptors
import TypeDescriptors.Proofs.MethodRoundTrip

set_option autoImplicit false

namespace TypeDescriptors.Grammar

/-- A text without anything that is lost in writing it again: type arguments, the dots of inner
classes, and a type variable behind the brackets. -/
structure Canonical (text : List Char) : Prop where
  noArguments : '<' ∉ text
  noDots : '.' ∉ text
  noVariable : (text.dropWhile fun c => c == '[').head? ≠ some 'T'

theorem exists_plain_of_notMem {parts : List Part} (h : '<' ∉ bodyText parts) :
    ∃ cs : List Char, parts = cs.map Part.plain := by
  induction parts with
  | nil => exact ⟨[], rfl⟩
  | cons part parts ih =>
    cases part with
    | block inner => exact absurd List.mem_cons_self h
    | plain c =>
      rw [bodyText_plain] at h
      obtain ⟨cs, rfl⟩ := ih fun mem => h (List.mem_cons_of_mem c mem)
      exact ⟨c :: cs, rfl⟩

theorem toList_signature_spelled {parts : List Part} (opening : '<' ∉ bodyText parts)
    (dot : '.' ∉ bodyText parts) :
    (ElementType.object (spelled parts)).signature.toList = 'L' :: bodyText parts ++ [';'] := by
  obtain ⟨cs, rfl⟩ := exists_plain_of_notMem opening
  rw [bodyText_map_plain] at dot ⊢
  have kept : ∀ c ∈ cs, ClassName.slashOf c = id c := by
    intro c mem
    have other : c ≠ '.' := fun eq => dot (eq ▸ mem)
    simp [ClassName.slashOf, other]
  change (ClassType.named _).signature.toList = _
  rw [spelled_map_plain, ClassType.toList_signature_named_slashed, ClassName.slashed_dotted,
    ClassName.toList_slashed, String.toList_ofList, List.map_congr_left kept, List.map_id]

theorem element_signature_clean {e : ElementType}
    (encodable : e.type.Encodable) :
    '<' ∉ e.signature.toList ∧ '>' ∉ e.signature.toList ∧ '.' ∉ e.signature.toList ∧
      e.signature.toList.head? ≠ some 'T' := by
  cases e with
  | base b =>
    change '<' ∉ b.signature.toList ∧ '>' ∉ b.signature.toList ∧ '.' ∉ b.signature.toList ∧
      b.signature.toList.head? ≠ some 'T'
    rw [BaseType.toList_signature]
    cases b <;> decide
  | object name =>
    have names := FieldType.encodable_object_iff.1 encodable
    obtain ⟨-, opening, closing⟩ := FieldType.encodableName_slashed_iff.2 names
    have dot : '.' ∉ (ClassName.slashed name).toList := by
      rw [ClassName.toList_slashed, List.mem_map]
      rintro ⟨d, -, eq⟩
      exact ClassName.slashOf_ne_dot d eq
    change '<' ∉ (ClassType.named name).signature.toList ∧
      '>' ∉ (ClassType.named name).signature.toList ∧
      '.' ∉ (ClassType.named name).signature.toList ∧
      (ClassType.named name).signature.toList.head? ≠ some 'T'
    rw [ClassType.toList_signature_named_slashed]
    generalize (ClassName.slashed name).toList = text at opening closing dot
    simp [opening, closing, dot]

theorem Core.signature_eq_iff {core : List Char} {e : ElementType} (h : Core core e) :
    e.signature.toList = core ↔ '<' ∉ core ∧ '.' ∉ core ∧ core.head? ≠ some 'T' := by
  constructor
  · intro eq
    obtain ⟨opening, -, dot, letter⟩ := element_signature_clean h.encodable
    rw [eq] at opening dot letter
    exact ⟨opening, dot, letter⟩
  · rintro ⟨opening, dot, letter⟩
    cases h with
    | @letter c b mem =>
      obtain rfl := mem_letters_iff.1 mem
      exact BaseType.toList_signature b
    | @reference parts body =>
      refine toList_signature_spelled (fun mem => opening ?_) (fun mem => dot ?_)
      · exact List.mem_append_left _ (List.mem_cons_of_mem _ mem)
      · exact List.mem_append_left _ (List.mem_cons_of_mem _ mem)
    | typeVariable _ => exact absurd rfl letter

theorem mem_brackets_append_iff {c : Char} (other : c ≠ '[') {count : Nat} {core : List Char} :
    c ∈ List.replicate count '[' ++ core ↔ c ∈ core := by
  rw [List.mem_append, List.mem_replicate]
  simp [other]

theorem canonical_brackets_iff {core : List Char} (head : core.head? ≠ some '[') (count : Nat) :
    Canonical (List.replicate count '[' ++ core) ↔
      '<' ∉ core ∧ '.' ∉ core ∧ core.head? ≠ some 'T' := by
  have behind := (brackets_split count head).2
  constructor
  · rintro ⟨opening, dot, letter⟩
    rw [mem_brackets_append_iff (by decide)] at opening dot
    rw [behind] at letter
    exact ⟨opening, dot, letter⟩
  · rintro ⟨opening, dot, letter⟩
    constructor
    · rwa [mem_brackets_append_iff (by decide)]
    · rwa [mem_brackets_append_iff (by decide)]
    · rwa [behind]

/-- What is read from a signature is written as that signature exactly when it is canonical. -/
theorem Denotes.signature_eq_iff {taken : List Char} {t : FieldType} (h : Denotes taken t) :
    t.signature.toList = taken ↔ Canonical taken := by
  obtain ⟨core, e, count, denotes, -, -, rfl, rfl⟩ := denotes_iff.1 h
  have head : core.head? ≠ some '[' := by
    obtain ⟨c, cs, rfl, bracket, -⟩ := denotes.head
    simpa using bracket
  rw [FieldType.toList_signature_withDimensions, List.append_cancel_left_eq,
    denotes.signature_eq_iff, canonical_brackets_iff head]

theorem Denotes.signature_clean {taken : List Char} {t : FieldType} (h : Denotes taken t) :
    '<' ∉ t.signature.toList ∧ '>' ∉ t.signature.toList ∧ '.' ∉ t.signature.toList := by
  obtain ⟨core, e, count, denotes, -, -, -, rfl⟩ := denotes_iff.1 h
  obtain ⟨opening, closing, dot, -⟩ := element_signature_clean denotes.encodable
  rw [FieldType.toList_signature_withDimensions, mem_brackets_append_iff (by decide),
    mem_brackets_append_iff (by decide), mem_brackets_append_iff (by decide)]
  exact ⟨opening, closing, dot⟩

end TypeDescriptors.Grammar

namespace TypeDescriptors.Signature
open Grammar

def rewrittenType (text : String) : Except Failure String :=
  (parseType text).map FieldType.signature

def rewrittenMethod (text : String) : Except Failure String :=
  (parseMethod text).map MethodType.signature

theorem parseType_signature {text : String} {t : FieldType} (parsed : parseType text = .ok t) :
    parseType t.signature = .ok t :=
  parseType_of_denotes (FieldType.denotes_signature_of_denotes (denotes_of_parseType parsed))

theorem parseMethod_signature {text : String} {m : MethodType} (parsed : parseMethod text = .ok m) :
    parseMethod m.signature = .ok m := by
  apply MethodType.parseMethod_signature_iff.2
  intro t mem
  obtain ⟨taken, denotes⟩ := MethodType.denotes_of_parseMethod parsed mem
  exact FieldType.denotes_signature_of_denotes denotes

theorem signature_eq_iff_canonical {text : String} {t : FieldType}
    (parsed : parseType text = .ok t) : t.signature = text ↔ Canonical text.toList := by
  rw [← String.toList_inj]
  exact (denotes_of_parseType parsed).signature_eq_iff

namespace Segment

def written (s : Segment) : Segment := ⟨s.type.signature, s.type, parseType_signature s.parsed⟩

theorem written_eq_self_iff (s : Segment) : s.written = s ↔ Canonical s.text.toList := by
  rw [← signature_eq_iff_canonical s.parsed]
  constructor
  · exact congrArg text
  · intro eq
    exact eq_of_text_eq (congrArg String.toList eq) rfl

theorem map_written_eq_self_iff (segments : List Segment) :
    segments.map written = segments ↔ ∀ s ∈ segments, Canonical s.text.toList := by
  have each : segments.map written = segments.map id ↔ ∀ s ∈ segments, s.written = s :=
    List.map_inj_left
  rw [List.map_id] at each
  simpa only [written_eq_self_iff] using each

theorem signature_eq_inParentheses (segments : List Segment) (returned : Segment) :
    MethodType.signature ⟨returned.type, segments.map type⟩ =
      inParentheses "" (segments.map written) returned.written.text := by
  apply String.toList_inj.1
  rw [MethodType.toList_signature, toList_inParentheses, chars, List.flatMap_map, List.flatMap_map]
  rfl

end Segment

/-- A method is written as the text that it was read from exactly when nothing stands before its
arguments and each of its signatures is canonical. -/
theorem signature_eq_inParentheses_iff {before : String} (absent : '(' ∉ before.toList)
    (segments : List Segment) (returned : Segment) :
    MethodType.signature ⟨returned.type, segments.map Segment.type⟩ =
        Segment.inParentheses before segments returned.text ↔
      before = "" ∧ ∀ s ∈ returned :: segments, Canonical s.text.toList := by
  rw [Segment.signature_eq_inParentheses, List.forall_mem_cons]
  constructor
  · intro eq
    obtain ⟨front, arguments, behind⟩ := Segment.inParentheses_inj List.not_mem_nil absent eq
    have same : returned.written = returned :=
      Segment.eq_of_text_eq (congrArg String.toList behind) rfl
    exact ⟨front.symm, returned.written_eq_self_iff.1 same,
      (Segment.map_written_eq_self_iff segments).1 arguments⟩
  · rintro ⟨rfl, last, others⟩
    rw [(Segment.map_written_eq_self_iff segments).2 others, returned.written_eq_self_iff.2 last]

/-- What a text is read as is read from its own signature again, so to write it a second time
changes nothing. The first time changes nothing exactly where the text is canonical. -/
theorem rewritten_canonical :
    (∀ (text : String) (t : FieldType), parseType text = .ok t →
      parseType t.signature = .ok t ∧
        ('<' ∉ t.signature.toList ∧ '>' ∉ t.signature.toList ∧ '.' ∉ t.signature.toList) ∧
        (t.signature = text ↔ '<' ∉ text.toList ∧ '.' ∉ text.toList ∧
          (text.toList.dropWhile fun c => c == '[').head? ≠ some 'T')) ∧
      (∀ (text : String) (m : MethodType), parseMethod text = .ok m →
        parseMethod m.signature = .ok m ∧
          ∃ (before : String) (segments : List Segment) (returned : Segment),
            '(' ∉ before.toList ∧ text = Segment.inParentheses before segments returned.text ∧
              m = ⟨returned.type, segments.map Segment.type⟩ ∧
              (m.signature = text ↔
                before = "" ∧ ∀ s ∈ returned :: segments, Canonical s.text.toList)) ∧
      (∀ text s : String, rewrittenType text = .ok s → rewrittenType s = .ok s) ∧
      ∀ text s : String, rewrittenMethod text = .ok s → rewrittenMethod s = .ok s := by
  refine ⟨?_, ?_, ?_, ?_⟩
  · intro text t parsed
    refine ⟨parseType_signature parsed, (denotes_of_parseType parsed).signature_clean, ?_⟩
    rw [signature_eq_iff_canonical parsed]
    exact ⟨fun h => ⟨h.noArguments, h.noDots, h.noVariable⟩, fun ⟨a, b, c⟩ => ⟨a, b, c⟩⟩
  · intro text m parsed
    refine ⟨parseMethod_signature parsed, ?_⟩
    obtain ⟨before, segments, returned, absent, rfl, rfl⟩ := parseMethod_eq_ok_iff_segments.1 parsed
    exact ⟨before, segments, returned, absent, rfl, rfl,
      signature_eq_inParentheses_iff absent segments returned⟩
  · intro text s written
    obtain ⟨t, parsed, rfl⟩ := Failure.map_eq_ok_iff.1 written
    exact Failure.map_eq_ok_iff.2 ⟨t, parseType_signature parsed, rfl⟩
  · intro text s written
    obtain ⟨m, parsed, rfl⟩ := Failure.map_eq_ok_iff.1 written
    exact Failure.map_eq_ok_iff.2 ⟨m, parseMethod_signature parsed, rfl⟩

theorem rewritten_inner_class :
    rewrittenType "[La/b<TT;>.c;" = .ok "[La/b$c;" ∧ rewrittenType "[La/b$c;" = .ok "[La/b$c;" ∧
      ¬ Canonical "[La/b<TT;>.c;".toList ∧ Canonical "[La/b$c;".toList ∧
      parseMethod "<T:LA;>([La/b<TT;>.c;)V" =
        .ok ⟨.base .void, [.withDimensions (.object "a.b$c") 1]⟩ ∧
      parseMethod "([La/b$c;)V" = .ok ⟨.base .void, [.withDimensions (.object "a.b$c") 1]⟩ := by
  have parsed : parseType "[La/b<TT;>.c;" = .ok (.withDimensions (.object "a.b$c") 1) := by rfl
  have written : rewrittenType "[La/b<TT;>.c;" = .ok "[La/b$c;" := by rfl
  have returned : parseType "V" = .ok (.base .void) := by rfl
  have text : "<T:LA;>([La/b<TT;>.c;)V" =
      Segment.inParentheses "<T:LA;>" [⟨"[La/b<TT;>.c;", _, parsed⟩] "V" := by rfl
  have method : parseMethod "<T:LA;>([La/b<TT;>.c;)V" =
      .ok ⟨.base .void, [.withDimensions (.object "a.b$c") 1]⟩ :=
    parseMethod_eq_ok_iff_segments.2 ⟨"<T:LA;>", _, ⟨"V", _, returned⟩, by decide, text, rfl⟩
  obtain ⟨types, methods, again, -⟩ := rewritten_canonical
  obtain ⟨same, -, fixed⟩ := types _ _ parsed
  obtain ⟨-, -, kept⟩ := types _ _ same
  refine ⟨written, again _ _ written, ?_, ?_, method, (methods _ _ method).1⟩
  · intro canonical
    have changed : "[La/b$c;" ≠ "[La/b<TT;>.c;" := by decide
    exact changed (fixed.2 ⟨canonical.noArguments, canonical.noDots, canonical.noVariable⟩)
  · obtain ⟨opening, dot, letter⟩ := kept.1 rfl
    exact ⟨opening, dot, letter⟩

end TypeDescriptors.Signature
