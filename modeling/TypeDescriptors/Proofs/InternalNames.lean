import TypeDescriptors.Proofs.SlotAgreement
import TypeDescriptors.Proofs.Spellings

set_option autoImplicit false

namespace TypeDescriptors.ClassName

theorem signatureOf_eq_self {text : String} (h : isSignature text.toList = true) :
    signatureOf text = text := if_pos h

theorem toList_signatureOf_of_not {text : String} (h : isSignature text.toList = false) :
    (signatureOf text).toList = 'L' :: text.toList ++ [';'] := by
  simp [signatureOf, h]

theorem isSignature_reference (body : List Char) :
    isSignature ('L' :: body ++ [';']) = true := by
  simp [isSignature]

theorem isSignature_of_bracket {text : List Char} (h : text.head? = some '[') :
    isSignature text = true := by
  cases text with
  | nil => rfl
  | cons c cs =>
    obtain rfl := Option.some.inj h
    simp [isSignature]

theorem isSignature_signatureOf (text : String) : isSignature (signatureOf text).toList = true := by
  cases h : isSignature text.toList with
  | true => rw [signatureOf_eq_self h, h]
  | false =>
    rw [toList_signatureOf_of_not h]
    exact isSignature_reference text.toList

/-- What has been made a signature is one, and is not wrapped again. -/
theorem signatureOf_signatureOf (text : String) :
    signatureOf (signatureOf text) = signatureOf text :=
  signatureOf_eq_self (isSignature_signatureOf text)

end TypeDescriptors.ClassName

namespace TypeDescriptors.FieldType
open ClassName Grammar

theorem isSignature_element (e : ElementType) : isSignature e.signature.toList = true := by
  cases e with
  | base b =>
    change isSignature b.signature.toList = true
    rw [BaseType.toList_signature]
    cases b <;> decide
  | object name =>
    change isSignature (ClassType.named name).signature.toList = true
    rw [ClassType.toList_signature_named]
    exact isSignature_reference _

theorem signatureOf_signature (e : ElementType) (count : Nat) :
    signatureOf (withDimensions e count).signature = (withDimensions e count).signature := by
  apply signatureOf_eq_self
  rw [toList_signature_withDimensions]
  cases count with
  | zero => exact isSignature_element e
  | succ n => simp [List.replicate_succ, isSignature]

theorem WellFormed.signatureOf_signature {t : FieldType} (h : t.WellFormed)
    (encodable : t.Encodable) : signatureOf t.signature = t.signature := by
  obtain (rfl | rfl) | ⟨e, eq⟩ := h.cases
  · exact absurd rfl encodable.1
  · exact absurd rfl encodable.2.1
  · rw [eq]
    exact FieldType.signatureOf_signature e _

/-- A name that is wrapped, and is told from what stands around it. -/
structure PlainName (name : String) : Prop where
  encodable : EncodableName name
  noArray : name.toList.head? ≠ some '['
  noLetter : ∀ b : BaseType, name ≠ b.signature

theorem isSignature_eq_false {name : String} (ne : name ≠ "") (plain : PlainName name) :
    isSignature name.toList = false := by
  obtain ⟨⟨semicolon, -, -⟩, noArray, noLetter⟩ := plain
  cases chars : name.toList with
  | nil => exact absurd (String.toList_inj.1 chars) ne
  | cons c cs =>
    rw [chars] at semicolon noArray
    have bracket : c ≠ '[' := fun eq => noArray (congrArg some eq)
    -- A name that begins with `L` or `T` is a signature only by its last character.
    have ending : cs.getLast? ≠ some ';' := by
      intro last
      exact semicolon (List.mem_cons_of_mem c (List.mem_of_getLast? last))
    have letter : (cs.isEmpty && (BaseType.ofLetter? c).isSome) = false := by
      cases cs with
      | cons d ds => rfl
      | nil =>
        cases read : BaseType.ofLetter? c with
        | none => rfl
        | some b =>
          have single : name = b.signature := by
            rw [← String.toList_inj, chars, BaseType.toList_signature,
              BaseType.ofLetter?_eq_some_iff.1 read]
          exact absurd single (noLetter b)
    simp [isSignature, letter, bracket, ending]

theorem PlainName.of_parseType {name : String}
    (parsed :
      Signature.parseType (signatureOf name) = .ok (ElementType.object (dotted name)).type) :
    PlainName name := by
  have denotes := Signature.denotes_of_parseType parsed
  refine ⟨?_, ?_, ?_⟩
  · exact encodableName_dotted_iff.1 (encodable_object_iff.1 denotes.encodable)
  · intro array
    rw [signatureOf_eq_self (isSignature_of_bracket array)] at denotes
    obtain ⟨c, cs, chars, bracket, -⟩ := denotes.core_of_type.head
    rw [chars] at array
    exact bracket (Option.some.inj array)
  · rintro b rfl
    have kept : signatureOf b.signature = b.signature := signatureOf_signature (.base b) 0
    have letter : Denotes b.signature.toList (.base b) := by
      rw [BaseType.toList_signature]
      exact .scalar (.base b)
    have read : Signature.parseType b.signature = .ok (.base b) :=
      Signature.parseType_of_denotes letter
    rw [← kept, parsed] at read
    cases Except.ok.inj read

/-- A plain name, and no other, is wrapped in the signature of its class. -/
theorem parseType_signatureOf_iff {name : String} (ne : name ≠ "") :
    Signature.parseType (signatureOf name) = .ok (ElementType.object (dotted name)).type ↔
      PlainName name := by
  constructor
  · exact .of_parseType
  · intro plain
    apply Signature.parseType_of_denotes
    rw [toList_signatureOf_of_not (isSignature_eq_false ne plain)]
    exact .scalar (core_of_name ne plain.encodable)

theorem readTypeSlots_signatureOf {name : String} (ne : name ≠ "") (plain : PlainName name) :
    Signature.readTypeSlots (signatureOf name) = .ok ⟨1, Text.byteLength name.toList + 2⟩ := by
  have denotes := Signature.denotes_of_parseType ((parseType_signatureOf_iff ne).2 plain)
  have read : Signature.readType (signatureOf name) =
        .ok ⟨(ElementType.object (dotted name)).type, Text.byteLength (signatureOf name).toList⟩ :=
    Signature.complete_eq_ok_iff.2 ⟨[], field_eq_ok_nil_iff.2 denotes, rfl⟩
  have length : Text.byteLength (signatureOf name).toList = Text.byteLength name.toList + 2 := by
    have opening : 'L'.utf8Size = 1 := by decide
    have closing : ';'.utf8Size = 1 := by decide
    rw [toList_signatureOf_of_not (isSignature_eq_false ne plain)]
    simp only [Text.byteLength_append, Text.byteLength_cons, Text.byteLength_nil]
    omega
  rw [Signature.readTypeSlots_eq_map, read, length]
  rfl

/-- Names and signatures are made signatures once. The signature of a type is the type's, and that
of a plain name is the signature of the class with this name. -/
theorem signatureOf_means_name :
    (∀ text : String, signatureOf (signatureOf text) = signatureOf text) ∧
      (∀ t : FieldType, Obtainable t → t.Encodable → signatureOf t.signature = t.signature) ∧
      ∀ name : String, name ≠ "" →
        ∃ t, ofClassName name = .ok t ∧
          (Signature.parseType (signatureOf name) = .ok t ↔ PlainName name) ∧
          (PlainName name → Signature.readTypeSlots (signatureOf name) =
            .ok ⟨1, Text.byteLength name.toList + 2⟩) := by
  refine ⟨signatureOf_signatureOf, ?_, ?_⟩
  · intro t h
    exact h.wellFormed.signatureOf_signature
  · intro name ne
    exact ⟨_, ofClassName_eq_ok_iff.2 ⟨ne, rfl⟩, parseType_signatureOf_iff ne,
      readTypeSlots_signatureOf ne⟩

theorem signatureOf_names_like_signatures :
    Signature.parseType (signatureOf "Lfoo") = .ok (ElementType.object "Lfoo").type ∧
      Signature.readTypeSlots (signatureOf "Té/x") = .ok ⟨1, 7⟩ ∧
      signatureOf (withDimensions (.object "foo") 2).signature = "[[Lfoo;" ∧
      Signature.parseType (signatureOf "Lfoo;") ≠ .ok (ElementType.object "Lfoo;").type := by
  obtain ⟨-, types, names⟩ := signatureOf_means_name
  have foo : PlainName "Lfoo" :=
    ⟨by decide, by decide, fun b => by cases b <;> decide⟩
  have accented : PlainName "Té/x" :=
    ⟨by decide, by decide, fun b => by cases b <;> decide⟩
  have bytes : Text.byteLength "Té/x".toList + 2 = 7 := by decide
  have named : ofClassName "foo" = .ok (ElementType.object "foo").type := by rfl
  have array : arrayOf (ElementType.object "foo").type 2 =
      .ok (withDimensions (.object "foo") 2) := by rfl
  refine ⟨?_, ?_, types _ (.array (.named named) array) (by decide), ?_⟩
  · obtain ⟨t, named, read, -⟩ := names "Lfoo" (by decide)
    obtain ⟨-, rfl⟩ := ofClassName_eq_ok_iff.1 named
    exact read.2 foo
  · obtain ⟨t, -, -, slots⟩ := names "Té/x" (by decide)
    rw [slots accented, bytes]
  · obtain ⟨t, named, read, -⟩ := names "Lfoo;" (by decide)
    obtain ⟨-, rfl⟩ := ofClassName_eq_ok_iff.1 named
    intro parsed
    obtain ⟨⟨semicolon, -⟩, -⟩ := read.1 parsed
    exact semicolon (by decide)

end TypeDescriptors.FieldType
