import TypeDescriptors.Proofs.StrictMethod
import TypeDescriptors.Proofs.RoundTrip

set_option autoImplicit false

namespace TypeDescriptors.Grammar

/-- The characters that erasure writes of its own: the `$` of inner classes, the slash for a dot,
and the class of all objects. -/
def written : List Char := '$' :: '/' :: "Ljava/lang/Object;".toList

theorem mem_slashed_spelled {parts : List Part} {d : Char}
    (h : d ∈ (ClassName.slashed (spelled parts)).toList) :
    d ∈ bodyText parts ∨ d ∈ written := by
  rw [spelled_eq_dotted, ClassName.slashed_dotted, ClassName.toList_slashed,
    String.toList_ofList, List.mem_map] at h
  obtain ⟨c, inSpelled, rfl⟩ := h
  unfold ClassName.slashOf
  split
  · exact .inr (by decide)
  · obtain rfl | inParts := mem_spelledFrom inSpelled
    · exact .inr (by decide)
    · exact .inl (List.mem_flatMap.2 ⟨_, inParts, List.mem_singleton.2 rfl⟩)

theorem Core.mem_signature {core : List Char} {e : ElementType} {d : Char} (h : Core core e)
    (mem : d ∈ e.signature.toList) : d ∈ core ∨ d ∈ written := by
  cases h with
  | @letter c b mem_letters =>
    obtain rfl := mem_letters_iff.1 mem_letters
    change d ∈ b.signature.toList at mem
    rw [BaseType.toList_signature] at mem
    exact .inl mem
  | @reference parts body =>
    change d ∈ (ClassType.named (spelled parts)).signature.toList at mem
    rw [ClassType.toList_signature_named_slashed] at mem
    obtain mem | last := List.mem_append.1 mem
    · obtain rfl | inName := List.mem_cons.1 mem
      · exact .inl List.mem_cons_self
      · obtain inBody | fresh := mem_slashed_spelled inName
        · exact .inl (List.mem_append_left _ (List.mem_cons_of_mem _ inBody))
        · exact .inr fresh
    · exact .inl (List.mem_append_right _ last)
  | typeVariable _ => exact .inr (List.mem_cons_of_mem _ (List.mem_cons_of_mem _ mem))

/-- The signature of what a text denotes has no characters but those of the text and those that
erasure writes. -/
theorem Denotes.mem_signature {taken : List Char} {t : FieldType} {d : Char} (h : Denotes taken t)
    (mem : d ∈ t.signature.toList) : d ∈ taken ∨ d ∈ written := by
  obtain ⟨core, e, count, denotes, -, -, rfl, rfl⟩ := denotes_iff.1 h
  rw [FieldType.toList_signature_withDimensions] at mem
  obtain bracket | mem := List.mem_append.1 mem
  · exact .inl (List.mem_append_left _ bracket)
  · obtain inCore | fresh := denotes.mem_signature mem
    · exact .inl (List.mem_append_right _ inCore)
    · exact .inr fresh

end TypeDescriptors.Grammar

namespace TypeDescriptors.Signature
open Grammar

theorem returnText_eq {text : String} {front behind : List Char}
    (split : text.toList = front ++ ')' :: behind) (h : ')' ∉ behind) :
    returnText text = behind := by
  rw [returnText, split, Text.afterLast_append_cons front h]

theorem readReturn_of_denotes {text : String} {front taken : List Char} {t : FieldType}
    (split : text.toList = front ++ ')' :: taken) (denotes : Denotes taken t) (h : ')' ∉ taken) :
    readReturn text = .ok ⟨t, Text.byteLength taken⟩ := by
  apply complete_eq_ok_iff.2
  rw [returnText_eq split h]
  exact ⟨[], field_eq_ok_nil_iff.2 denotes, rfl⟩

theorem readReturnSlots_of_readReturn {text : String} {t : FieldType} {consumed : Nat}
    (h : readReturn text = .ok ⟨t, consumed⟩) : readReturnSlots text = .ok ⟨t.slots, consumed⟩ := by
  rw [readReturnSlots_eq_map, h]
  rfl

theorem closing_notMem_of_readReturn {text : String} {reading : Reading FieldType}
    (h : readReturn text = .ok reading) : ')' ∉ reading.value.signature.toList := by
  obtain ⟨rest, read, -⟩ := complete_eq_ok_iff.1 h
  obtain ⟨taken, denotes, split⟩ := field_eq_ok_iff.1 read
  intro mem
  obtain inTaken | fresh := denotes.mem_signature mem
  · apply Text.notMem_afterLast ')' text.toList
    change ')' ∈ returnText text
    rw [split]
    exact List.mem_append_left rest inTaken
  · exact absurd fresh (by decide)

theorem consumed_le {α : Type} {text : String} {reader : Reader α} {input : List Char} {a : α}
    {consumed : Nat} (h : complete text reader input = .ok ⟨a, consumed⟩) :
    consumed ≤ Text.byteLength input := by
  obtain ⟨rest, -, rfl⟩ := complete_eq_ok_iff.1 h
  exact Nat.sub_le _ _

theorem returnText_shorter {m : MethodType} (h : ')' ∈ m.returnType.signature.toList) :
    Text.byteLength (returnText m.signature) < Text.byteLength m.returnType.signature.toList := by
  obtain ⟨xs, ys, split, absent⟩ := Text.exists_last_of_mem h
  have whole : m.signature.toList =
      ('(' :: m.argumentTypes.flatMap (fun t => t.signature.toList) ++ ')' :: xs) ++ ')' :: ys := by
    rw [MethodType.toList_signature, split]
    simp
  have pos := Char.utf8Size_pos ')'
  rw [returnText_eq whole absent, split, Text.byteLength_append, Text.byteLength_cons]
  omega

/-- A return type that can be read at all is read back from the signature of a method, whatever the
arguments, exactly when its own signature has no `)`. -/
theorem readReturn_signature_iff {text : String} {consumed : Nat} (m : MethodType)
    (readable : readType text = .ok ⟨m.returnType, consumed⟩) :
    (readReturn m.signature =
        .ok ⟨m.returnType, Text.byteLength m.returnType.signature.toList⟩ ↔
      ')' ∉ m.returnType.signature.toList) ∧
    (readReturnSlots m.signature =
        .ok ⟨m.returnType.slots, Text.byteLength m.returnType.signature.toList⟩ ↔
      ')' ∉ m.returnType.signature.toList) ∧
    ∀ reading, readReturn m.signature = .ok reading → reading.value.same m.returnType = true →
      ')' ∉ m.returnType.signature.toList := by
  obtain ⟨rest, read, -⟩ := complete_eq_ok_iff.1 readable
  obtain ⟨taken, given, -⟩ := field_eq_ok_iff.1 read
  have own := denotes_signature given.wellFormed given.encodable
  have back (h : ')' ∉ m.returnType.signature.toList) :=
    readReturn_of_denotes (MethodType.toList_signature m) own h
  refine ⟨⟨?_, back⟩, ⟨?_, fun h => readReturnSlots_of_readReturn (back h)⟩, ?_⟩
  · intro h
    exact closing_notMem_of_readReturn h
  · intro h closing
    -- The slots alone may agree by chance, but there is less to consume than the signature.
    have shorter := returnText_shorter closing
    have all := consumed_le h
    omega
  · intro reading h same
    have signatures := (FieldType.same_iff.1 same).2
    rw [← signatures]
    exact closing_notMem_of_readReturn h

theorem readReturn_behind_null_argument :
    readReturn "(Lx)y;<null object>)[La$b;" = .ok ⟨.withDimensions (.object "a$b") 1, 6⟩ := by
  let m : MethodType := ⟨.withDimensions (.object "a$b") 1, [.object (.named "x)y"), .null]⟩
  have read : field "[La<(TT;)>.b;".toList = .ok (m.returnType, []) := by rfl
  have readable : readType "[La<(TT;)>.b;" = .ok ⟨m.returnType, 13⟩ :=
    complete_eq_ok_iff.2 ⟨[], read, by decide⟩
  have text : m.signature = "(Lx)y;<null object>)[La$b;" := by rfl
  have behind : m.returnType.signature = "[La$b;" := by rfl
  have bytes : Text.byteLength "[La$b;".toList = 6 := by decide
  have found := (readReturn_signature_iff m readable).1.2 (by decide)
  rw [text, behind, bytes] at found
  exact found

/-- The class `a)b` can be read, but not as the return type of a method: `b;` is what stands behind
the last `)`. -/
theorem readReturn_parenthesized_class :
    readType "La)b;" = .ok ⟨.object (.named "a)b"), 5⟩ ∧
      MethodType.signature ⟨.object (.named "a)b"), []⟩ = "()La)b;" ∧
      readReturn "()La)b;" = .error (.malformed ⟨"()La)b;", .unexpectedCharacter 'b', 5⟩) := by
  have read : field "La)b;".toList = .ok (.object (.named "a)b"), []) := by rfl
  have stopped : field (returnText "()La)b;") = fail (.unexpected ['b', ';']) := by rfl
  have offset : Text.byteLength "()La)b;".toList - Text.byteLength ['b', ';'] = 5 := by decide
  refine ⟨complete_eq_ok_iff.2 ⟨[], read, by decide⟩, by rfl, ?_⟩
  unfold readReturn complete
  rw [stopped, ← offset]
  rfl

/-- The strict reading of a method and the reading of its return type from the end agree where no
`)` stands in the text behind the arguments. -/
theorem readReturn_of_parseMethod {text : String} {m : MethodType}
    (parsed : parseMethod text = .ok m) :
    ∃ n, readArgumentSlots text = .ok ⟨m.argumentSlots, n⟩ ∧
      (')' ∉ (leftAfter n text).toList →
        readReturn text = .ok ⟨m.returnType, Text.byteLength text.toList - n⟩ ∧
          readReturnSlots text = .ok ⟨m.returnType.slots, Text.byteLength text.toList - n⟩) := by
  obtain ⟨left, opened, read⟩ := method_eq_ok_iff.1 (parseMethod_eq_ok_iff_method.1 parsed)
  obtain ⟨n, counted, rfl, total⟩ := exists_readArguments opened
  refine ⟨n, ?_, ?_⟩
  · rw [readArgumentSlots_eq_map, counted]
    rfl
  intro absent
  obtain ⟨before, segments, -, -, split⟩ := arguments_eq_ok_iff.1 opened
  have front : text.toList =
      (before ++ '(' :: Segment.chars segments) ++ ')' :: (leftAfter n text).toList := by
    rw [List.append_assoc]
    exact split
  have found := readReturn_of_denotes front (field_eq_ok_nil_iff.1 read) absent
  rw [Nat.eq_sub_of_add_eq' total] at found
  exact ⟨found, readReturnSlots_of_readReturn found⟩

theorem readReturn_generic_signature :
    parseMethod "<T:La)b;>([Lc<(TT;)>.d;Lx)y;)La<LB;>.c;" =
        .ok ⟨.object (.named "a$c"), [.withDimensions (.object "c$d") 1, .object (.named "x)y")]⟩ ∧
      readReturn "<T:La)b;>([Lc<(TT;)>.d;Lx)y;)La<LB;>.c;" = .ok ⟨.object (.named "a$c"), 10⟩ := by
  have generic : parseType "[Lc<(TT;)>.d;" = .ok (.withDimensions (.object "c$d") 1) := by rfl
  have parenthesized : parseType "Lx)y;" = .ok (.object (.named "x)y")) := by rfl
  let segments : List Segment := [⟨_, _, generic⟩, ⟨_, _, parenthesized⟩]
  have text : Segment.inParentheses "<T:La)b;>" segments "La<LB;>.c;" =
      "<T:La)b;>([Lc<(TT;)>.d;Lx)y;)La<LB;>.c;" := by rfl
  have whole := Segment.toList_inParentheses "<T:La)b;>" segments "La<LB;>.c;"
  rw [text] at whole
  have opened := arguments_eq_ok_iff.2 ⟨_, segments, by decide, rfl, whole⟩
  have read : field "La<LB;>.c;".toList = .ok (.object (.named "a$c"), []) := by rfl
  have parsed : parseMethod _ = .ok ⟨.object (.named "a$c"), segments.map Segment.type⟩ :=
    parseMethod_eq_ok_iff_method.2 (method_eq_ok_iff.2 ⟨_, opened, read⟩)
  have bytes : Text.byteLength "<T:La)b;>".toList + 2 + Segment.totalBytes segments = 29 := by
    change Text.byteLength "<T:La)b;>".toList + 2 +
      (Text.byteLength "[Lc<(TT;)>.d;".toList + (Text.byteLength "Lx)y;".toList + 0)) = 29
    decide
  have absent : '(' ∉ "<T:La)b;>".toList := by decide
  have closed := Segment.readArgumentSlots_inParentheses absent segments "La<LB;>.c;"
  rw [text, bytes] at closed
  obtain ⟨n, counted, found⟩ := readReturn_of_parseMethod parsed
  obtain ⟨-, rfl⟩ := Reading.mk.inj (Except.ok.inj (counted.symm.trans closed))
  exact ⟨parsed, (found (by decide)).1⟩

end TypeDescriptors.Signature
