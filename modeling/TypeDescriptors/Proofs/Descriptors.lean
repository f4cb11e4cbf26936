import TypeDescriptors.Proofs.StrictMethod

set_option autoImplicit false

namespace TypeDescriptors.Grammar

theorem Denotes.eq_letter {taken : List Char} (h : Denotes taken (.base .void)) :
    taken = ['V'] := by
  have core : Core taken (.base .void) := Denotes.core_of_type h
  cases core with
  | letter mem => rw [mem_letters_iff.1 mem, BaseType.letter]

end TypeDescriptors.Grammar

namespace TypeDescriptors.Signature
open Grammar

theorem arguments_append {text left : List Char} {types : List FieldType}
    (opened : arguments text = .ok (types, left)) (more : List Char) :
    arguments (text ++ more) = .ok (types, left ++ more) := by
  obtain ⟨before, segments, absent, types, rfl⟩ := arguments_eq_ok_iff.1 opened
  exact arguments_eq_ok_iff.2 ⟨before, segments, absent, types, by simp⟩

theorem method_eq_ok_iff_append {text rest : List Char} {m : MethodType} :
    method text = .ok (m, rest) ↔ ∃ taken, text = taken ++ rest ∧ method taken = .ok (m, []) := by
  constructor
  · intro h
    obtain ⟨left, opened, read⟩ := method_eq_ok_iff.1 h
    obtain ⟨before, segments, absent, types, rfl⟩ := arguments_eq_ok_iff.1 opened
    obtain ⟨returned, denotes, rfl⟩ := field_eq_ok_iff.1 read
    refine ⟨before ++ '(' :: (Segment.chars segments ++ ')' :: returned), by simp, ?_⟩
    apply method_eq_ok_iff.2
    exact ⟨returned, arguments_eq_ok_iff.2 ⟨before, segments, absent, types, rfl⟩,
      field_eq_ok_nil_iff.2 denotes⟩
  · rintro ⟨taken, rfl, alone⟩
    obtain ⟨left, opened, read⟩ := method_eq_ok_iff.1 alone
    have denotes := field_eq_ok_nil_iff.1 read
    exact method_eq_ok_iff.2 ⟨_, arguments_append opened rest, denotes.field_append rest⟩

theorem method_append {text rest : List Char} {m : MethodType}
    (read : method text = .ok (m, rest)) (more : List Char) :
    method (text ++ more) = .ok (m, rest ++ more) := by
  obtain ⟨taken, rfl, alone⟩ := method_eq_ok_iff_append.1 read
  exact method_eq_ok_iff_append.2 ⟨taken, List.append_assoc _ _ _, alone⟩

/-- A text that is a method descriptor from its first character to its last. -/
def Describes (descriptor : String) (m : MethodType) : Prop :=
  ∃ (segments : List Segment) (returned : Segment),
    descriptor = Segment.inParentheses "" segments returned.text ∧
      m = ⟨returned.type, segments.map Segment.type⟩

theorem Segment.toList_inParentheses_head (segments : List Segment) (after : String) :
    (Segment.inParentheses "" segments after).toList.head? = some '(' := by
  rw [Segment.toList_inParentheses]
  rfl

theorem Segment.inParentheses_append (before : String) (segments : List Segment)
    (after : String) :
    Segment.inParentheses before segments after =
      before ++ Segment.inParentheses "" segments after := by
  apply String.toList_inj.1
  rw [String.toList_append, Segment.toList_inParentheses, Segment.toList_inParentheses]
  rfl

theorem parseMethod_eq_ok_iff_segments {text : String} {m : MethodType} :
    parseMethod text = .ok m ↔
      ∃ (before : String) (segments : List Segment) (returned : Segment),
        '(' ∉ before.toList ∧ text = Segment.inParentheses before segments returned.text ∧
          m = ⟨returned.type, segments.map Segment.type⟩ := by
  rw [parseMethod_eq_ok_iff_method, method_eq_ok_iff]
  constructor
  · rintro ⟨left, opened, read⟩
    obtain ⟨before, segments, absent, types, split⟩ := arguments_eq_ok_iff.1 opened
    obtain ⟨returned, rfl, type⟩ := Segment.exists_of_denotes (field_eq_ok_nil_iff.1 read)
    refine ⟨String.ofList before, segments, returned, ?_, ?_, ?_⟩
    · rw [String.toList_ofList]
      exact absent
    · apply String.toList_inj.1
      rw [Segment.toList_inParentheses, String.toList_ofList, split]
    · rw [type, ← types]
  · rintro ⟨before, segments, returned, absent, rfl, rfl⟩
    have split := Segment.toList_inParentheses before segments returned.text
    have opened := arguments_eq_ok_iff.2 ⟨before.toList, segments, absent, rfl, split⟩
    exact ⟨_, opened, field_eq_ok_nil_iff.2 returned.denotes⟩

/-- The strict reading takes a descriptor behind any text without a `(`, and reads it as it would
alone. The descriptors are what it takes among the texts that begin with a `(`. -/
theorem parseMethod_eq_ok_iff_descriptor (text : String) (m : MethodType) :
    (parseMethod text = .ok m ↔
        ∃ before descriptor : String, '(' ∉ before.toList ∧ text = before ++ descriptor ∧
          Describes descriptor m) ∧
      (Describes text m ↔ parseMethod text = .ok m ∧ text.toList.head? = some '(') := by
  rw [parseMethod_eq_ok_iff_segments]
  refine ⟨⟨?_, ?_⟩, ?_, ?_⟩
  · rintro ⟨before, segments, returned, absent, rfl, rfl⟩
    exact ⟨before, _, absent, Segment.inParentheses_append _ _ _, segments, returned, rfl, rfl⟩
  · rintro ⟨before, descriptor, absent, rfl, segments, returned, rfl, rfl⟩
    exact ⟨before, segments, returned, absent, (Segment.inParentheses_append _ _ _).symm, rfl⟩
  · rintro ⟨segments, returned, rfl, rfl⟩
    exact ⟨⟨"", segments, returned, List.not_mem_nil, rfl, rfl⟩,
      Segment.toList_inParentheses_head _ _⟩
  · rintro ⟨⟨before, segments, returned, absent, rfl, rfl⟩, head⟩
    -- A text that begins with the first `(` has nothing before it.
    obtain rfl : before = "" := by
      rw [Segment.toList_inParentheses] at head
      cases front : before.toList with
      | nil => exact String.toList_inj.1 front
      | cons c cs =>
        rw [front] at head absent
        obtain rfl := Option.some.inj head
        exact absurd List.mem_cons_self absent
    exact ⟨segments, returned, rfl, rfl⟩

/-- A character before the `(` is no part of any descriptor, but it is passed over. -/
theorem parseMethod_stray_front :
    parseMethod "x(I)V" = .ok ⟨.base .void, [.base .int]⟩ ∧ ∀ m, ¬ Describes "x(I)V" m := by
  have argument : parseType "I" = .ok (.base .int) := by rfl
  have returned : parseType "V" = .ok (.base .void) := by rfl
  have text : "x(I)V" = Segment.inParentheses "x" [⟨"I", _, argument⟩] "V" := by rfl
  refine ⟨parseMethod_eq_ok_iff_segments.2
    ⟨"x", [⟨"I", _, argument⟩], ⟨"V", _, returned⟩, by decide, text, rfl⟩, ?_⟩
  rintro m ⟨segments, returned, eq, -⟩
  have head := Segment.toList_inParentheses_head segments returned.text
  rw [← eq] at head
  revert head
  decide

theorem Segment.type_eq_void_iff (s : Segment) : s.type = .base .void ↔ s.text = "V" := by
  constructor
  · intro void
    have denotes := s.denotes
    rw [void] at denotes
    exact String.toList_inj.1 denotes.eq_letter
  · intro letter
    have parsed := s.parsed
    rw [letter] at parsed
    exact (Except.ok.inj parsed).symm

/-- A method that was read has a `void` argument exactly where the letter of `void` stands alone as
an argument in the text. -/
theorem void_argument_iff_letter {text : String} {m : MethodType}
    (parsed : parseMethod text = .ok m) :
    ∃ (before : String) (segments : List Segment) (returned : Segment),
      '(' ∉ before.toList ∧ text = Segment.inParentheses before segments returned.text ∧
        m = ⟨returned.type, segments.map Segment.type⟩ ∧
        (∀ i : Nat, m.argumentTypes[i]? = some (.base .void) ↔
          (segments.map Segment.text)[i]? = some "V") ∧
        ((∀ t ∈ m.argumentTypes, t ≠ .base .void) ↔ ∀ s ∈ segments, s.text ≠ "V") := by
  obtain ⟨before, segments, returned, absent, rfl, rfl⟩ := parseMethod_eq_ok_iff_segments.1 parsed
  refine ⟨before, segments, returned, absent, rfl, rfl, ?_, ?_⟩
  · intro i
    rw [List.getElem?_map, List.getElem?_map]
    cases segments[i]? with
    | none => simp
    | some s => simpa using s.type_eq_void_iff
  · simp only [List.forall_mem_map, ne_eq, Segment.type_eq_void_iff]

/-- Of two letters of `void` only the one that is an argument by itself is read as one; the other is
the name of a class. -/
theorem void_argument_beside_class :
    parseMethod "(LV;V)I" = .ok ⟨.base .int, [.object (.named "V"), .base .void]⟩ ∧
      ∃ segments : List Segment,
        segments.map Segment.type = [.object (.named "V"), .base .void] ∧
          (segments.map Segment.text)[0]? ≠ some "V" ∧
          (segments.map Segment.text)[1]? = some "V" := by
  have named : parseType "LV;" = .ok (.object (.named "V")) := by rfl
  have letter : parseType "V" = .ok (.base .void) := by rfl
  have returned : parseType "I" = .ok (.base .int) := by rfl
  have text : "(LV;V)I" = Segment.inParentheses "" [⟨"LV;", _, named⟩, ⟨"V", _, letter⟩] "I" := by
    rfl
  have parsed : parseMethod "(LV;V)I" = .ok ⟨.base .int, [.object (.named "V"), .base .void]⟩ :=
    parseMethod_eq_ok_iff_segments.2 ⟨"", _, ⟨"I", _, returned⟩, List.not_mem_nil, text, rfl⟩
  obtain ⟨before, segments, last, -, -, types, each, -⟩ := void_argument_iff_letter parsed
  refine ⟨parsed, segments, (MethodType.mk.inj types).2.symm, ?_, (each 1).1 rfl⟩
  intro first
  exact absurd ((each 0).2 first) (by simp)

theorem parseMethod_void_argument :
    parseMethod "(V)V" = .ok ⟨.base .void, [.base .void]⟩ := by
  have letter : parseType "V" = .ok (.base .void) := by rfl
  have text : "(V)V" = Segment.inParentheses "" [⟨"V", _, letter⟩] "V" := by rfl
  exact parseMethod_eq_ok_iff_segments.2
    ⟨"", [⟨"V", _, letter⟩], ⟨"V", _, letter⟩, List.not_mem_nil, text, rfl⟩

end TypeDescriptors.Signature
