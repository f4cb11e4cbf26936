import TypeDescriptors.Proofs.MethodRoundTrip

set_option autoImplicit false

namespace TypeDescriptors.FieldType

/-- A class name that is the display of nothing else: no keyword, and no brackets at its end. -/
structure UnmistakableName (name : String) : Prop where
  ne_keyword : ∀ b : BaseType, b.keyword ≠ name
  brackets : ¬ ['[', ']'] <:+ name.toList

/-- A type that is no sentinel, with an unmistakable name if it names a class. -/
structure Unmistakable (t : FieldType) : Prop where
  element : ∃ e, t.elementType? = some e
  named : ∀ c : ClassType, t.class? = some c → UnmistakableName c.name

theorem Unmistakable.name {e : ElementType} {count : Nat}
    (h : (withDimensions e count).Unmistakable) :
    ∀ name, e = .object name → UnmistakableName name := by
  rintro name rfl
  exact h.named (.named name) (class?_withDimensions _ count)

section Elements
variable {e e' : ElementType}

theorem brackets_notSuffix_display (named : ∀ name, e = .object name → UnmistakableName name) :
    ¬ ['[', ']'] <:+ e.display.toList := by
  cases e with
  | base b => cases b <;> decide
  | object name => exact (named name rfl).brackets

theorem element_eq_of_display_eq (named : ∀ name, e = .object name → UnmistakableName name)
    (named' : ∀ name, e' = .object name → UnmistakableName name)
    (eq : e.display = e'.display) : e = e' := by
  cases e with
  | base b =>
    cases e' with
    | base b' =>
      have same : BaseType.ofKeyword? b'.keyword = some b := BaseType.ofKeyword?_eq_some_iff.2 eq
      rw [BaseType.ofKeyword?_eq_some_iff.2 rfl] at same
      rw [Option.some.inj same]
    | object name => exact absurd eq ((named' name rfl).ne_keyword b)
  | object name =>
    cases e' with
    | base b => exact absurd eq.symm ((named name rfl).ne_keyword b)
    | object name' => exact congrArg ElementType.object eq

end Elements

theorem brackets_suffix_pairs (xs : List Char) (count : Nat) :
    ['[', ']'] <:+ xs ++ (List.replicate (count + 1) ['[', ']']).flatten := by
  rw [pairs_succ, ← List.append_assoc]
  exact List.suffix_append _ _

/-- Pairs of brackets are counted from the end, where the text before them does not end in one. -/
theorem append_pairs_inj {xs ys : List Char} {m n : Nat} (hx : ¬ ['[', ']'] <:+ xs)
    (hy : ¬ ['[', ']'] <:+ ys)
    (eq : xs ++ (List.replicate m ['[', ']']).flatten =
      ys ++ (List.replicate n ['[', ']']).flatten) : xs = ys ∧ m = n := by
  induction m generalizing n with
  | zero =>
    rw [List.replicate_zero, List.flatten_nil, List.append_nil] at eq
    cases n with
    | zero => exact ⟨by simpa using eq, rfl⟩
    | succ n => exact absurd (eq ▸ brackets_suffix_pairs ys n) hx
  | succ m ih =>
    cases n with
    | zero =>
      rw [List.replicate_zero, List.flatten_nil, List.append_nil] at eq
      exact absurd (eq ▸ brackets_suffix_pairs xs m) hy
    | succ n =>
      rw [pairs_succ, pairs_succ, ← List.append_assoc, ← List.append_assoc] at eq
      obtain ⟨same, count⟩ := ih (List.append_cancel_right eq)
      exact ⟨same, congrArg (· + 1) count⟩

theorem Unmistakable.eq_withDimensions {t : FieldType} (h : t.Unmistakable) (well : t.WellFormed) :
    ∃ e, t = withDimensions e t.dimensions := by
  obtain ⟨e, has⟩ := h.element
  exact ⟨e, well.eq_withDimensions has⟩

theorem eq_of_display_eq {t u : FieldType} (wellT : t.WellFormed) (wellU : u.WellFormed)
    (ht : t.Unmistakable) (hu : u.Unmistakable) (eq : t.display = u.display) : t = u := by
  obtain ⟨e, isT⟩ := ht.eq_withDimensions wellT
  obtain ⟨e', isU⟩ := hu.eq_withDimensions wellU
  rw [isT] at ht eq
  rw [isU] at hu eq
  rw [← String.toList_inj, toList_display_withDimensions, toList_display_withDimensions] at eq
  obtain ⟨elements, counts⟩ := append_pairs_inj (brackets_notSuffix_display ht.name)
    (brackets_notSuffix_display hu.name) eq
  rw [isT, isU, counts, element_eq_of_display_eq ht.name hu.name (String.toList_inj.1 elements)]

theorem same_iff_display {t u : FieldType} (wellT : t.WellFormed) (wellU : u.WellFormed)
    (ht : t.Unmistakable) (hu : u.Unmistakable) :
    t.same u = true ↔ t.display = u.display := by
  rw [wellT.same_iff_eq wellU]
  exact ⟨congrArg display, eq_of_display_eq wellT wellU ht hu⟩

end TypeDescriptors.FieldType

namespace TypeDescriptors.MethodType
open FieldType (Obtainable Unmistakable)

/-- A text that is told from its neighbours by a space or a comma between them. -/
structure Separable (text : List Char) : Prop where
  ne_nil : text ≠ []
  space : ' ' ∉ text
  comma : ',' ∉ text

theorem append_mark_inj {mark : Char} {xs ys more rest : List Char} (hx : mark ∉ xs)
    (hy : mark ∉ ys) (eq : xs ++ mark :: more = ys ++ mark :: rest) : xs = ys ∧ more = rest := by
  have pieces := congrArg (List.splitOn mark) eq
  rw [List.splitOn_append_cons_self_of_not_mem hx,
    List.splitOn_append_cons_self_of_not_mem hy] at pieces
  obtain ⟨rfl, -⟩ := List.cons.inj pieces
  exact ⟨rfl, (List.cons.inj (List.append_cancel_left eq)).2⟩

theorem intercalate_cons (x : List Char) (xs : List (List Char)) :
    [',', ' '].intercalate (x :: xs) = x ++ xs.flatMap fun y => ',' :: ' ' :: y := by
  induction xs generalizing x with
  | nil => simp
  | cons y ys ih => simp [ih]

theorem append_commas_inj {x y : List Char} {xs ys : List (List Char)} (hx : ∀ z ∈ x :: xs, ',' ∉ z)
    (hy : ∀ z ∈ y :: ys, ',' ∉ z)
    (eq : (x ++ xs.flatMap fun z => ',' :: ' ' :: z) = y ++ ys.flatMap fun z => ',' :: ' ' :: z) :
    x :: xs = y :: ys := by
  induction xs generalizing x y ys with
  | nil =>
    cases ys with
    | nil => simpa using eq
    | cons z zs =>
      have comma : ',' ∈ x := by
        rw [List.flatMap_nil, List.append_nil] at eq
        simp [eq]
      exact absurd comma (hx x List.mem_cons_self)
  | cons z zs ih =>
    cases ys with
    | nil =>
      have comma : ',' ∈ y := by
        rw [List.flatMap_nil, List.append_nil] at eq
        simp [← eq]
      exact absurd comma (hy y List.mem_cons_self)
    | cons z' zs' =>
      obtain ⟨firstX, othersX⟩ := List.forall_mem_cons.1 hx
      obtain ⟨firstY, othersY⟩ := List.forall_mem_cons.1 hy
      obtain ⟨rfl, behind⟩ := append_mark_inj firstX firstY eq
      rw [ih othersX othersY (List.cons.inj behind).2]

/-- Texts with separators in between are told apart, also those of lists of different lengths. -/
theorem intercalate_inj {xs ys : List (List Char)} (hx : ∀ x ∈ xs, Separable x)
    (hy : ∀ y ∈ ys, Separable y)
    (eq : [',', ' '].intercalate xs = [',', ' '].intercalate ys) : xs = ys := by
  cases xs with
  | nil =>
    cases ys with
    | nil => rfl
    | cons y ys =>
      rw [intercalate_cons, List.intercalate_nil] at eq
      exact absurd (List.append_eq_nil_iff.1 eq.symm).1 (hy y List.mem_cons_self).ne_nil
  | cons x xs =>
    cases ys with
    | nil =>
      rw [intercalate_cons, List.intercalate_nil] at eq
      exact absurd (List.append_eq_nil_iff.1 eq).1 (hx x List.mem_cons_self).ne_nil
    | cons y ys =>
      rw [intercalate_cons, intercalate_cons] at eq
      exact append_commas_inj (fun z mem => (hx z mem).comma) (fun z mem => (hy z mem).comma) eq

theorem toList_display (m : MethodType) :
    m.display.toList = m.returnType.display.toList ++
      ' ' :: '(' :: ([',', ' '].intercalate
        (m.argumentTypes.map fun t => t.display.toList) ++ [')']) := by
  simp [display, Function.comp_def]

theorem display_eq_iff_types {a b : MethodType} (ha : ∀ t ∈ a.types, Separable t.display.toList)
    (hb : ∀ t ∈ b.types, Separable t.display.toList) :
    a.display = b.display ↔ a.types.map FieldType.display = b.types.map FieldType.display := by
  obtain ⟨returnA, argumentsA⟩ := List.forall_mem_cons.1 ha
  obtain ⟨returnB, argumentsB⟩ := List.forall_mem_cons.1 hb
  unfold types
  rw [List.map_cons, List.map_cons, List.cons.injEq]
  constructor
  · intro eq
    have chars := String.toList_inj.2 eq
    rw [toList_display, toList_display] at chars
    obtain ⟨returned, behind⟩ := append_mark_inj returnA.space returnB.space chars
    have inside := List.append_cancel_right (List.cons.inj behind).2
    have arguments := intercalate_inj (List.forall_mem_map.2 argumentsA)
      (List.forall_mem_map.2 argumentsB) inside
    refine ⟨String.toList_inj.1 returned, ?_⟩
    apply (List.map_inj_right fun _ _ => String.toList_inj.1).1
    rw [List.map_map, List.map_map]
    exact arguments
  · rintro ⟨returned, arguments⟩
    unfold display
    rw [returned, arguments]

/-- A type whose class, if it names one, has no separator of a method's display in its name. -/
def SeparablyNamed (t : FieldType) : Prop :=
  ∀ c : ClassType, t.class? = some c → ' ' ∉ c.name.toList ∧ ',' ∉ c.name.toList

theorem separable_element {e : ElementType} (proper : FieldType.WellFormedElement e)
    (named : ∀ name, e = .object name → ' ' ∉ name.toList ∧ ',' ∉ name.toList) :
    Separable e.display.toList := by
  cases e with
  | base b => cases b <;> exact ⟨by decide, by decide, by decide⟩
  | object name =>
    obtain ⟨space, comma⟩ := named name rfl
    exact ⟨fun nil => proper.1 (String.toList_inj.1 nil), space, comma⟩

/-- A type that the display of a method tells from every other. -/
structure Displayable (t : FieldType) : Prop where
  obtainable : Obtainable t
  unmistakable : t.Unmistakable
  named : SeparablyNamed t

theorem Displayable.separable {t : FieldType} (h : Displayable t) :
    Separable t.display.toList := by
  have well := h.obtainable.wellFormed
  have named := h.named
  obtain ⟨e, eq⟩ := h.unmistakable.eq_withDimensions well
  rw [eq] at well named ⊢
  have element : Separable e.display.toList := by
    refine separable_element well.element ?_
    rintro name rfl
    exact named (.named name) (FieldType.class?_withDimensions _ _)
  have pair : ∀ c ∈ ['[', ']'], c ≠ ' ' ∧ c ≠ ',' := by simp
  have pairs : ∀ c ∈ (List.replicate t.dimensions ['[', ']']).flatten, c ≠ ' ' ∧ c ≠ ',' := by
    intro c mem
    obtain ⟨cs, inPairs, inPair⟩ := List.mem_flatten.1 mem
    rw [(List.mem_replicate.1 inPairs).2] at inPair
    exact pair c inPair
  rw [FieldType.toList_display_withDimensions]
  refine ⟨?_, ?_, ?_⟩
  · exact fun nil => element.ne_nil (List.append_eq_nil_iff.1 nil).1
  · exact fun mem => (List.mem_append.1 mem).elim element.space fun later => (pairs _ later).1 rfl
  · exact fun mem => (List.mem_append.1 mem).elim element.comma fun later => (pairs _ later).2 rfl

theorem displayable_base (b : BaseType) : Displayable (.base b) :=
  ⟨.base b, ⟨⟨_, rfl⟩, nofun⟩, nofun⟩

theorem displayable_of_class {name : String} {count : Nat}
    (made : Obtainable (.withDimensions (.object name) count))
    (plain : FieldType.UnmistakableName name) (marks : ' ' ∉ name.toList ∧ ',' ∉ name.toList) :
    Displayable (.withDimensions (.object name) count) := by
  have only : ∀ c, (FieldType.withDimensions (.object name) count).class? = some c →
      c.name = name := by
    intro c named
    rw [FieldType.class?_withDimensions] at named
    rw [← Option.some.inj named]
    rfl
  exact ⟨made,
    ⟨⟨_, FieldType.elementType?_withDimensions _ _⟩, fun c named => (only c named).symm ▸ plain⟩,
    fun c named => (only c named).symm ▸ marks⟩

theorem same_iff_display {a b : MethodType} (ha : ∀ t ∈ a.types, Displayable t)
    (hb : ∀ t ∈ b.types, Displayable t) : a.same b = true ↔ a.display = b.display := by
  rw [display_eq_iff_types (fun t mem => (ha t mem).separable) fun t mem => (hb t mem).separable]
  change sameTypes a.types b.types = true ↔ _
  apply sameTypes_iff_map
  intro t inA u inB
  exact FieldType.same_iff_display (ha t inA).obtainable.wellFormed (hb u inB).obtainable.wellFormed
    (ha t inA).unmistakable (hb u inB).unmistakable

/-- Types are the same if and only if they have one display, and so are methods. -/
theorem told_apart_by_display :
    (∀ t u : FieldType, Obtainable t → Obtainable u → t.Unmistakable → u.Unmistakable →
        (t.same u = true ↔ t.display = u.display)) ∧
      ∀ a b : MethodType, (∀ t ∈ a.types, Displayable t) → (∀ t ∈ b.types, Displayable t) →
        (a.same b = true ↔ a.display = b.display) :=
  ⟨fun _ _ ht hu => FieldType.same_iff_display ht.wellFormed hu.wellFormed,
    fun _ _ => same_iff_display⟩

theorem displayed_bracketed_class :
    (FieldType.withDimensions (.object "a[") 1).display = "a[[]" ∧
      (FieldType.withDimensions (.object "a[") 1).display ≠
        (FieldType.withDimensions (.object "(a[[") 0).display ∧
      display ⟨.base .void, [.withDimensions (.object "a[") 1, .object (.named "(a[[")]⟩ =
        "void (a[[], (a[[)" ∧
      display ⟨.base .void, [.withDimensions (.object "a[") 1, .object (.named "(a[[")]⟩ ≠
        display ⟨.base .void, [.withDimensions (.object "a[") 1]⟩ := by
  have named : FieldType.ofClassName "a[" = .ok (.object (.named "a[")) := by rfl
  have array : FieldType.arrayOf (.object (.named "a[")) 1 =
      .ok (.withDimensions (.object "a[") 1) := by rfl
  have named' : FieldType.ofClassName "(a[[" = .ok (.object (.named "(a[[")) := by rfl
  have first : Displayable (.withDimensions (.object "a[") 1) :=
    displayable_of_class (.array (.named named) array)
      ⟨by intro b; cases b <;> decide, by decide⟩ ⟨by decide, by decide⟩
  have second : Displayable (.withDimensions (.object "(a[[") 0) :=
    displayable_of_class (.named named') ⟨by intro b; cases b <;> decide, by decide⟩
      ⟨by decide, by decide⟩
  have void := displayable_base .void
  obtain ⟨types, methods⟩ := told_apart_by_display
  have told := types _ _ first.obtainable second.obtainable first.unmistakable second.unmistakable
  have told' := methods
    ⟨.base .void, [.withDimensions (.object "a[") 1, .withDimensions (.object "(a[[") 0]⟩
    ⟨.base .void, [.withDimensions (.object "a[") 1]⟩
    (by simpa [MethodType.types, first, void] using second)
    (by simp [MethodType.types, first, void])
  exact ⟨by rfl, mt told.2 (by decide), by rfl, mt told'.2 (by decide)⟩

end TypeDescriptors.MethodType
