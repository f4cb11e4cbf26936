import TypeDescriptors.Proofs.WellFormedness

set_option autoImplicit false

namespace TypeDescriptors.Grammar
open FieldType (WellFormedElement EncodableName)

theorem bodyText_map_plain (cs : List Char) : bodyText (cs.map Part.plain) = cs := by
  induction cs with
  | nil => rfl
  | cons c cs ih => rw [List.map_cons, bodyText_plain, ih]

theorem spelledFrom_map_plain (cs : List Char) : spelledFrom false (cs.map Part.plain) = cs := by
  induction cs with
  | nil => rfl
  | cons c cs ih => simp [spelledFrom, ih]

theorem spelled_map_plain (cs : List Char) :
    spelled (cs.map Part.plain) = ClassName.dotted (String.ofList cs) := by
  rw [spelled_eq_dotted, spelledFrom_map_plain]

theorem body_of_name {name : String} (ne : name ≠ "") (encodable : EncodableName name) :
    Body (name.toList.map Part.plain) := by
  obtain ⟨semicolon, opening, closing⟩ := encodable
  constructor
  · intro part mem
    obtain ⟨c, inName, rfl⟩ := List.mem_map.1 mem
    exact ⟨fun eq => opening (eq ▸ inName), fun eq => closing (eq ▸ inName),
      fun eq => semicolon (eq ▸ inName)⟩
  · have nonempty : name.toList ≠ [] := fun empty => ne (String.toList_inj.1 empty)
    obtain ⟨c, cs, eq⟩ := List.exists_cons_of_ne_nil nonempty
    exact ⟨c, by simp [eq]⟩

/-- A name between `L` and `;` denotes the class that it names, in either spelling. -/
theorem core_of_name {name : String} (ne : name ≠ "") (encodable : EncodableName name) :
    Core ('L' :: name.toList ++ [';']) (.object (ClassName.dotted name)) := by
  have core := Core.reference (body_of_name ne encodable)
  rw [bodyText_map_plain, spelled_map_plain, String.ofList_toList] at core
  exact core

/-- A text with some of its slashes turned into dots. -/
inductive Respelled : List Char → List Char → Prop where
  | nil : Respelled [] []
  | keep (c : Char) {text respelled : List Char} :
      Respelled text respelled → Respelled (c :: text) (c :: respelled)
  | dot {text respelled : List Char} :
      Respelled text respelled → Respelled ('/' :: text) ('.' :: respelled)

namespace Respelled

theorem refl (text : List Char) : Respelled text text := by
  induction text with
  | nil => exact .nil
  | cons c text ih => exact .keep c ih

theorem map_dotOf (text : List Char) : Respelled text (text.map ClassName.dotOf) := by
  induction text with
  | nil => exact .nil
  | cons c text ih =>
    rw [List.map_cons]
    by_cases slash : c = '/'
    · subst slash
      exact .dot ih
    · rw [ClassName.dotOf, if_neg slash]
      exact .keep c ih

theorem dotted_eq {text respelled : List Char} (h : Respelled text respelled) :
    ClassName.dotted (String.ofList respelled) = ClassName.dotted (String.ofList text) := by
  rw [← String.toList_inj, ClassName.toList_dotted, ClassName.toList_dotted, String.toList_ofList,
    String.toList_ofList]
  induction h with
  | nil => rfl
  | keep c _ ih => rw [List.map_cons, ih, List.map_cons]
  | dot _ ih =>
    rw [List.map_cons, ih, List.map_cons]
    rfl

theorem of_append {front back respelled : List Char} (h : Respelled (front ++ back) respelled) :
    ∃ front' back', respelled = front' ++ back' ∧ Respelled front front' ∧
      Respelled back back' := by
  induction front generalizing respelled with
  | nil => exact ⟨[], respelled, rfl, .nil, h⟩
  | cons c front ih =>
    cases h with
    | keep _ others =>
      obtain ⟨front', back', rfl, first, second⟩ := ih others
      exact ⟨c :: front', back', rfl, .keep c first, second⟩
    | dot others =>
      obtain ⟨front', back', rfl, first, second⟩ := ih others
      exact ⟨'.' :: front', back', rfl, .dot first, second⟩

theorem eq_of_notMem {text respelled : List Char} (h : Respelled text respelled)
    (slash : '/' ∉ text) : respelled = text := by
  induction h with
  | nil => rfl
  | keep c _ ih => rw [ih fun mem => slash (List.mem_cons_of_mem c mem)]
  | dot _ _ => exact absurd List.mem_cons_self slash

end Respelled

theorem core_of_respelled {e : ElementType} {text : List Char} (h : WellFormedElement e)
    (encodable : e.type.Encodable)
    (respelled : Respelled e.signature.toList text) : Core text e := by
  cases e with
  | base b =>
    change Respelled b.signature.toList text at respelled
    rw [BaseType.toList_signature] at respelled
    have other : '/' ∉ [b.letter] := by cases b <;> decide
    rw [respelled.eq_of_notMem other]
    exact .base b
  | object className =>
    obtain ⟨nonempty, slash⟩ := h
    change Respelled (ClassType.named className).signature.toList text at respelled
    rw [ClassType.toList_signature_named_slashed, List.cons_append] at respelled
    cases respelled with
    | keep _ behind =>
      obtain ⟨name, last, rfl, middle, closing⟩ := behind.of_append
      rw [closing.eq_of_notMem (by decide)]
      -- Which slashes were turned does not matter: the class is named with dots.
      have same : ClassName.dotted (String.ofList name) = className := by
        rw [middle.dotted_eq, String.ofList_toList, ClassName.dotted_slashed,
          ClassName.dotted_eq_self slash]
      have ne : String.ofList name ≠ "" := by
        rw [ne_eq, ← ClassName.dotted_eq_empty_iff, same]
        exact nonempty
      have names := FieldType.encodable_object_iff.1 encodable
      have core := core_of_name ne (FieldType.encodableName_dotted_iff.1 (same ▸ names))
      rw [same, String.toList_ofList] at core
      exact core

/-- The signature of an encodable type denotes it with any of its slashes turned into dots. -/
theorem denotes_of_respelled {t : FieldType} {text : List Char} (h : t.WellFormed)
    (encodable : t.Encodable) (respelled : Respelled t.signature.toList text) :
    Denotes text t := by
  obtain rfl | rfl | ⟨e, eq⟩ := or_assoc.1 h.cases
  · exact absurd rfl encodable.1
  · exact absurd rfl encodable.2.1
  · rw [eq] at h encodable respelled ⊢
    obtain ⟨element, notVoid, limit⟩ := FieldType.wellFormed_withDimensions_iff.1 h
    rw [FieldType.toList_signature_withDimensions] at respelled
    obtain ⟨brackets, core, rfl, front, behind⟩ := respelled.of_append
    have other : '/' ∉ List.replicate t.dimensions '[' := by simp
    rw [front.eq_of_notMem other]
    have names := FieldType.encodable_withDimensions_iff.1 encodable
    exact denotes_iff.2
      ⟨core, e, _, core_of_respelled element names behind, notVoid, limit, rfl, rfl⟩

theorem denotes_signature {t : FieldType} (h : t.WellFormed) (encodable : t.Encodable) :
    Denotes t.signature.toList t :=
  denotes_of_respelled h encodable (.refl _)

end TypeDescriptors.Grammar
