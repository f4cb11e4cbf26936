import TypeDescriptors.Obtainable
import TypeDescriptors.Proofs.Acceptance

set_option autoImplicit false

namespace TypeDescriptors.Grammar

theorem Body.wellFormed {parts : List Part} (h : Body parts) :
    FieldType.WellFormedElement (.object (spelled parts)) := by
  obtain ⟨ne, same⟩ := FieldType.ofClassName_eq_ok_iff.1 (ofClassName_erase_bodyText h)
  obtain ⟨same, -⟩ := ClassType.mk.inj (FieldType.object.inj same)
  change spelled parts = _ at same
  rw [same]
  exact ClassType.wellFormed_named_iff.1 (ClassType.wellFormed_named_dotted ne)

theorem Body.encodableName {parts : List Part} (h : Body parts) :
    FieldType.EncodableName (spelled parts) := by
  have plain : ∀ c ∈ (spelled parts).toList, c ≠ ';' ∧ c ≠ '<' ∧ c ≠ '>' := by
    intro c mem
    simp only [spelled, String.toList_ofList, List.mem_map] at mem
    obtain ⟨d, inSpelled, rfl⟩ := mem
    split
    · decide
    · obtain rfl | inParts := mem_spelledFrom inSpelled
      · decide
      · obtain ⟨opening, closing, semicolon⟩ := h.legal _ inParts
        exact ⟨semicolon, opening, closing⟩
  exact ⟨fun mem => (plain _ mem).1 rfl, fun mem => (plain _ mem).2.1 rfl,
    fun mem => (plain _ mem).2.2 rfl⟩

theorem Core.wellFormed {core : List Char} {e : ElementType} (h : Core core e) :
    FieldType.WellFormedElement e := by
  cases h with
  | letter _ => trivial
  | reference body => exact body.wellFormed
  | typeVariable _ => exact ⟨by decide, by decide⟩

theorem Core.encodable {core : List Char} {e : ElementType} (h : Core core e) :
    e.type.Encodable := by
  cases h with
  | letter _ => exact FieldType.encodable_base _
  | reference body => exact FieldType.encodable_object_iff.2 body.encodableName
  | typeVariable _ => exact FieldType.encodable_object_iff.2 (by decide)

end TypeDescriptors.Grammar

namespace TypeDescriptors.FieldType

theorem type_wellFormed_iff {e : ElementType} : e.type.WellFormed ↔ WellFormedElement e := by
  cases e with
  | base b => exact Iff.rfl
  | object name => exact ClassType.wellFormed_named_iff

theorem kind_type_notMem_iff {e : ElementType} :
    e.type.kind ∉ [.array, .base .void, .null, .unknown] ↔ e ≠ .base .void := by
  cases e with
  | base b => cases b <;> decide
  | object name => simp [ElementType.type, kind]

theorem wellFormed_withDimensions_iff {e : ElementType} {count : Nat} :
    (withDimensions e count).WellFormed ↔
      WellFormedElement e ∧ (1 ≤ count → e ≠ .base .void) ∧ count ≤ 255 := by
  cases count with
  | zero => simp [type_wellFormed_iff]
  | succ n =>
    have text := toList_signature_withDimensions e (n + 1)
    rw [withDimensions_of_pos e (n + 1) (by omega)]
    simp only [WellFormed, type_wellFormed_iff, kind_type_notMem_iff]
    constructor
    · rintro ⟨element, notVoid, -, limit, -⟩
      exact ⟨element, fun _ => notVoid, limit⟩
    · rintro ⟨element, notVoid, limit⟩
      exact ⟨element, notVoid (by omega), by omega, limit, text⟩

theorem WellFormed.eq_type {t : FieldType} {e : ElementType} (h : t.WellFormed)
    (notArray : t.kind ≠ .array) (has : t.elementType? = some e) : t = e.type := by
  cases t with
  | base b =>
    obtain rfl := Option.some.inj has
    rfl
  | object c =>
    obtain rfl := Option.some.inj has
    exact congrArg FieldType.object (ClassType.WellFormed.eq_named h)
  | array element count signature => exact absurd rfl notArray
  | null | unknown => cases has

/-- A well-formed type is told by its element type and its number of dimensions. -/
theorem WellFormed.eq_withDimensions {t : FieldType} {e : ElementType} (h : t.WellFormed)
    (has : t.elementType? = some e) : t = withDimensions e t.dimensions := by
  by_cases array : t.kind = .array
  · obtain ⟨element, count, signature, rfl⟩ := kind_eq_array_iff.1 array
    obtain ⟨well, kind, pos, -, text⟩ := h
    obtain rfl := well.eq_type (fun eq => kind (by simp [eq])) has
    have same : signature = (withDimensions e count).signature := by
      rw [← String.toList_inj, text, toList_signature_withDimensions, ElementType.signature]
    rw [same, ← withDimensions_of_pos e count pos, dimensions_withDimensions]
  · rw [dimensions_eq_zero array, withDimensions_zero]
    exact h.eq_type array has

theorem WellFormed.exists_elementType {element : FieldType} {count : Nat} {signature : String}
    (h : (FieldType.array element count signature).WellFormed) :
    ∃ e, FieldType.array element count signature = withDimensions e count := by
  obtain ⟨-, kind, -⟩ := id h
  cases has : element.elementType? with
  | none => cases element with
    | null | unknown => simp [FieldType.kind] at kind
    | array => simp [FieldType.kind] at kind
    | base | object => cases has
  | some e => exact ⟨e, h.eq_withDimensions has⟩

/-- The sentinels are the well-formed types without an element. -/
theorem WellFormed.cases {t : FieldType} (h : t.WellFormed) :
    (t = .null ∨ t = .unknown) ∨ ∃ e, t = withDimensions e t.dimensions := by
  cases t with
  | null => exact .inl (.inl rfl)
  | unknown => exact .inl (.inr rfl)
  | array element count signature => exact .inr h.exists_elementType
  | base b => exact .inr ⟨_, h.eq_withDimensions rfl⟩
  | object c => exact .inr ⟨_, h.eq_withDimensions rfl⟩

end TypeDescriptors.FieldType

namespace TypeDescriptors.Grammar
open FieldType (wellFormed_withDimensions_iff encodable_withDimensions_iff)

theorem Denotes.wellFormed {taken : List Char} {t : FieldType} (h : Denotes taken t) :
    t.WellFormed := by
  obtain ⟨core, e, count, denotes, notVoid, limit, -, rfl⟩ := denotes_iff.1 h
  exact wellFormed_withDimensions_iff.2 ⟨denotes.wellFormed, notVoid, limit⟩

theorem Denotes.encodable {taken : List Char} {t : FieldType} (h : Denotes taken t) :
    t.Encodable := by
  obtain ⟨core, e, count, denotes, -, -, -, rfl⟩ := denotes_iff.1 h
  exact encodable_withDimensions_iff.2 denotes.encodable

end TypeDescriptors.Grammar

namespace TypeDescriptors.FieldType
open Grammar

theorem wellFormed_of_ofClassName {name : String} {t : FieldType} (h : ofClassName name = .ok t) :
    t.WellFormed := by
  obtain ⟨ne, rfl⟩ := ofClassName_eq_ok_iff.1 h
  exact ClassType.wellFormed_named_dotted ne

theorem WellFormed.element {e : ElementType} {count : Nat}
    (h : (withDimensions e count).WellFormed) : WellFormedElement e :=
  (wellFormed_withDimensions_iff.1 h).1

theorem arrayOf_sentinel {t : FieldType} (sentinel : t = .null ∨ t = .unknown) (more : UInt64)
    (a : FieldType) : arrayOf t more ≠ .ok a := by
  obtain rfl | rfl := sentinel <;> simp [arrayOf_eq_ok_iff, FieldType.innermost, hasArrays]

theorem WellFormed.arrayOf_eq_ok_iff {t a : FieldType} {more : UInt64} (h : t.WellFormed) :
    arrayOf t more = .ok a ↔
      ∃ e, t = withDimensions e t.dimensions ∧ e ≠ .base .void ∧ more ≠ 0 ∧
        t.dimensions + more.toNat ≤ 255 ∧ a = withDimensions e (t.dimensions + more.toNat) := by
  constructor
  · intro made
    obtain sentinel | ⟨e, eq⟩ := h.cases
    · exact absurd made (arrayOf_sentinel sentinel more a)
    · rw [eq] at made
      obtain ⟨nonzero, limit, notVoid, result⟩ := arrayOf_withDimensions_eq_ok_iff.1 made
      exact ⟨e, eq, notVoid, nonzero, limit, result⟩
  · rintro ⟨e, eq, notVoid, nonzero, limit, rfl⟩
    rw [eq, dimensions_withDimensions]
    exact arrayOf_withDimensions_eq_ok_iff.2 ⟨nonzero, limit, notVoid, rfl⟩

theorem WellFormed.arrayOf {element t : FieldType} {more : UInt64} (h : element.WellFormed)
    (made : arrayOf element more = .ok t) : t.WellFormed := by
  obtain ⟨e, eq, notVoid, -, limit, rfl⟩ := h.arrayOf_eq_ok_iff.1 made
  rw [eq] at h
  exact wellFormed_withDimensions_iff.2 ⟨h.element, fun _ => notVoid, limit⟩

theorem component_eq {e : ElementType} {count : Nat} (pos : 1 ≤ count)
    (h : (withDimensions e count).WellFormed) :
    component e.type count = .ok (withDimensions e (count - 1)) := by
  obtain ⟨-, notVoid, limit⟩ := wellFormed_withDimensions_iff.1 h
  unfold component componentIn
  by_cases one : count = 1
  · simp [one]
  · have nonzero : count ≠ 0 := by omega
    simp only [one, ↓reduceIte, Arithmetic.oneLess, nonzero]
    exact arrayOf_count (notVoid pos) (by omega) (by omega)

theorem WellFormed.component {element t : FieldType} {count : Nat} {signature : String}
    (h : (FieldType.array element count signature).WellFormed)
    (made : component element count = .ok t) : t.WellFormed := by
  obtain ⟨e, eq⟩ := h.exists_elementType
  obtain ⟨-, -, pos, -⟩ := id h
  rw [eq] at h
  rw [withDimensions_of_pos e count pos] at eq
  obtain ⟨rfl, -, -⟩ := FieldType.array.inj eq
  rw [component_eq pos h] at made
  obtain rfl := Except.ok.inj made
  obtain ⟨element, notVoid, limit⟩ := wellFormed_withDimensions_iff.1 h
  exact wellFormed_withDimensions_iff.2 ⟨element, fun _ => notVoid pos, by omega⟩

theorem WellFormed.innermost {t : FieldType} (h : t.WellFormed) : t.innermost.WellFormed := by
  cases t with
  | array element count signature => exact h.1
  | _ => exact h

theorem WellFormed.normalized {t : FieldType} (h : t.WellFormed) : t.normalized.WellFormed := by
  unfold FieldType.normalized
  split
  · trivial
  · trivial
  · trivial
  · trivial
  · exact h

theorem wellFormed_of_parseType {text : String} {t : FieldType}
    (h : Signature.parseType text = .ok t) : t.WellFormed :=
  (Signature.denotes_of_parseType h).wellFormed

theorem wellFormed_of_runtime {c : RuntimeClass} {t : FieldType} (h : c.type = .ok t) :
    t.WellFormed := by
  cases c with
  | array name => exact wellFormed_of_parseType h
  | reference name =>
    exact wellFormed_of_ofClassName (RuntimeClass.type_reference_eq_ok_iff.1 h)
  | primitive keyword =>
    obtain ⟨b, -, rfl⟩ := RuntimeClass.type_primitive_eq_ok_iff.1 h
    trivial

/-- Every way to a type keeps the invariant. -/
theorem Obtainable.wellFormed {t : FieldType} (h : Obtainable t) : t.WellFormed := by
  induction h with
  | base b => trivial
  | null => trivial
  | unknown => trivial
  | named made => exact wellFormed_of_ofClassName made
  | array _ made ih => exact ih.arrayOf made
  | component _ made ih => exact ih.component made
  | innermost _ ih => exact ih.innermost
  | normalized _ ih => exact ih.normalized
  | read h =>
    obtain ⟨taken, denotes, -⟩ := field_eq_ok_iff.1 h
    exact denotes.wellFormed
  | runtime made => exact wellFormed_of_runtime made

theorem element_signature_head (e : ElementType) :
    ∃ c cs, e.signature.toList = c :: cs ∧ c ≠ '[' ∧ c ≠ '<' := by
  cases e with
  | base b =>
    refine ⟨b.letter, [], BaseType.toList_signature b, ?_⟩
    cases b <;> decide
  | object name => exact ⟨'L', _, ClassType.toList_signature_named name, by decide, by decide⟩

theorem name_eq_of_signature_eq {a b : String} (ha : '/' ∉ a.toList) (hb : '/' ∉ b.toList)
    (eq : (ElementType.object a).signature.toList = (ElementType.object b).signature.toList) :
    a = b := by
  have slashed : ClassName.slashed a = ClassName.slashed b := by
    change (ClassType.named a).signature.toList = (ClassType.named b).signature.toList at eq
    rw [ClassType.toList_signature_named_slashed, ClassType.toList_signature_named_slashed] at eq
    exact String.toList_inj.1 (List.append_cancel_right (List.cons.inj eq).2)
  have dotted := congrArg ClassName.dotted slashed
  rwa [ClassName.dotted_slashed, ClassName.dotted_slashed, ClassName.dotted_eq_self ha,
    ClassName.dotted_eq_self hb] at dotted

theorem element_eq_of_signature_eq {a b : ElementType} (ha : WellFormedElement a)
    (hb : WellFormedElement b) (eq : a.signature.toList = b.signature.toList) : a = b := by
  have letter_ne (x : BaseType) : x.letter ≠ 'L' := by cases x <;> decide
  have letter (x : BaseType) : (ElementType.base x).signature.toList = [x.letter] :=
    BaseType.toList_signature x
  have reference (name : String) : (ElementType.object name).signature.toList = _ :=
    ClassType.toList_signature_named name
  cases a with
  | base x =>
    cases b with
    | base y =>
      rw [letter, letter] at eq
      have same := BaseType.ofLetter?_letter x
      rw [(List.cons.inj eq).1, BaseType.ofLetter?_letter y] at same
      rw [Option.some.inj same]
    | object name =>
      rw [letter, reference] at eq
      exact absurd (List.cons.inj eq).1 (letter_ne x)
  | object name =>
    cases b with
    | base y =>
      rw [letter, reference] at eq
      exact absurd (List.cons.inj eq).1.symm (letter_ne y)
    | object other => rw [name_eq_of_signature_eq ha.2 hb.2 eq]

theorem pairs_succ (count : Nat) :
    (List.replicate (count + 1) ['[', ']']).flatten =
      (List.replicate count ['[', ']']).flatten ++ ['[', ']'] := by
  rw [List.replicate_succ', List.flatten_append]
  rfl

theorem brackets_inj {m n : Nat} {xs ys : List Char} (hx : xs.head? ≠ some '[')
    (hy : ys.head? ≠ some '[') (eq : List.replicate m '[' ++ xs = List.replicate n '[' ++ ys) :
    m = n ∧ xs = ys := by
  obtain ⟨runX, afterX⟩ := brackets_split m hx
  obtain ⟨runY, afterY⟩ := brackets_split n hy
  rw [eq] at runX afterX
  have lengths := congrArg List.length (runX.symm.trans runY)
  rw [List.length_replicate, List.length_replicate] at lengths
  exact ⟨lengths, afterX.symm.trans afterY⟩

theorem withDimensions_eq_of_signature_eq {a b : ElementType} {m n : Nat}
    (ha : WellFormedElement a) (hb : WellFormedElement b)
    (eq : (withDimensions a m).signature = (withDimensions b n).signature) : a = b ∧ m = n := by
  obtain ⟨c, cs, headA, bracketA, -⟩ := element_signature_head a
  obtain ⟨d, ds, headB, bracketB, -⟩ := element_signature_head b
  have chars := congrArg String.toList eq
  rw [toList_signature_withDimensions, toList_signature_withDimensions] at chars
  obtain ⟨count, elements⟩ := brackets_inj (by simpa [headA] using bracketA)
    (by simpa [headB] using bracketB) chars
  exact ⟨element_eq_of_signature_eq ha hb elements, count⟩

theorem signature_withDimensions_ne {e : ElementType} {count : Nat} {t : FieldType}
    (sentinel : t = .null ∨ t = .unknown) : (withDimensions e count).signature ≠ t.signature := by
  intro eq
  obtain ⟨c, cs, head, -, angle⟩ := element_signature_head e
  have first := congrArg (fun s => s.toList.head?) eq
  have opening : t.signature.toList.head? = some '<' := by
    obtain rfl | rfl := sentinel <;> decide
  rw [toList_signature_withDimensions, opening] at first
  cases count with
  | zero => simp [head, angle] at first
  | succ n => simp [List.replicate_succ] at first

/-- Well-formed types with one signature are one type. -/
theorem WellFormed.eq_of_signature_eq {a b : FieldType} (ha : a.WellFormed) (hb : b.WellFormed)
    (eq : a.signature = b.signature) : a = b := by
  obtain sentinel | ⟨x, hx⟩ := ha.cases <;> obtain other | ⟨y, hy⟩ := hb.cases
  · obtain rfl | rfl := sentinel <;> obtain rfl | rfl := other
    · rfl
    · exact absurd eq (by decide)
    · exact absurd eq (by decide)
    · rfl
  · rw [hy] at eq
    exact absurd eq.symm (signature_withDimensions_ne sentinel)
  · rw [hx] at eq
    exact absurd eq (signature_withDimensions_ne other)
  · rw [hx] at ha eq
    rw [hy] at hb eq
    obtain ⟨rfl, same⟩ := withDimensions_eq_of_signature_eq ha.element hb.element eq
    rw [hx, hy, same]

theorem WellFormed.signature_eq_iff {a b : FieldType} (ha : a.WellFormed) (hb : b.WellFormed) :
    a.signature = b.signature ↔ a = b :=
  ⟨ha.eq_of_signature_eq hb, congrArg signature⟩

theorem WellFormed.same_iff_eq {a b : FieldType} (ha : a.WellFormed) (hb : b.WellFormed) :
    a.same b = true ↔ a = b := by
  rw [same_iff, ha.signature_eq_iff hb]
  exact ⟨And.right, fun eq => ⟨congrArg kind eq, eq⟩⟩

end TypeDescriptors.FieldType
