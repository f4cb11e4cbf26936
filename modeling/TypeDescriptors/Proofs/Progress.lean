import TypeDescriptors.Proofs.Requests

set_option autoImplicit false

/-!
# Progress and depth of the rules

A field type takes at least one character and leaves an end of the text, so each loop over the
arguments is over after one round for each character and one more. It needs no look at whether an
argument took anything: the loops without it come to the same end (`itemsInRounds_eq`,
`slotsInRounds_eq`). The rule for field types calls itself for the elements of arrays, and never more
than once: what it would call at the third level is never asked (`CallsOnce.nested_eq`).
-/
namespace TypeDescriptors.Grammar

theorem EndsIn.proper {α : Type} {text rest : List Char} {a : α}
    (inside : EndsIn text (.ok (a, rest))) (less : rest.length < text.length) :
    rest <:+ text ∧ rest ≠ text := by
  refine ⟨inside, ?_⟩
  rintro rfl
  exact Nat.lt_irrefl _ less

theorem field_proper {text rest : List Char} {t : FieldType} (h : field text = .ok (t, rest)) :
    rest <:+ text ∧ rest ≠ text := by
  have inside := field_endsIn text
  rw [h] at inside
  exact inside.proper (field_shorter h)

theorem fieldSlots_proper {text rest : List Char} {n : Nat}
    (h : fieldSlots text = .ok (n, rest)) : rest <:+ text ∧ rest ≠ text := by
  have inside := fieldSlots_endsIn text
  rw [h] at inside
  exact inside.proper (fieldSlots_shorter h)

/-- The items up to a closing character, as a number of rounds finds them. An item that takes
nothing is read again, and no outcome means that the rounds were too few. -/
def itemsInRounds {α : Type} (item : Reader α) (close : Char) :
    Nat → List Char → Option (List α × Except Stop (List Char))
  | 0, _ => none
  | rounds + 1, text =>
    match char close text with
    | .ok (_, rest) => some ([], .ok rest)
    | .error _ =>
      match item text with
      | .error (.fault f) => some ([], fail (f.within text))
      | .error (.defect d) => some ([], .error (.defect d))
      | .ok (a, rest) =>
        (itemsInRounds item close rounds rest).map fun read => (a :: read.1, read.2)

def slotsInRounds : Nat → Nat → List Char → Option (Except Stop (Nat × List Char))
  | 0, _, _ => none
  | rounds + 1, sum, text =>
    match char ')' text with
    | .ok (_, rest) => some (.ok (sum, rest))
    | .error _ =>
      match fieldSlots text with
      | .ok (n, rest) => slotsInRounds rounds (sum + n) rest
      | .error stop => some (.error stop)

theorem itemsInRounds_eq {α : Type} {item : Reader α} (close : Char)
    (shorter : ∀ text a rest, item text = .ok (a, rest) → rest.length < text.length)
    {rounds : Nat} {text : List Char} (enough : text.length < rounds) :
    itemsInRounds item close rounds text = some (itemsUntil item close text) := by
  -- A round takes a character at least, so the rounds that are left are enough for what is left.
  induction rounds generalizing text with
  | zero => exact absurd enough (Nat.not_lt_zero _)
  | succ rounds ih =>
    rw [itemsInRounds, itemsUntil]
    cases char close text with
    | ok read => rfl
    | error stop =>
      cases read : item text with
      | error stop => cases stop <;> rfl
      | ok pair =>
        obtain ⟨a, rest⟩ := pair
        have less := shorter text a rest read
        have left : itemsInRounds item close rounds rest = some (itemsUntil item close rest) :=
          ih (by omega)
        simp [left, less]

theorem slotsInRounds_eq {rounds : Nat} {text : List Char} (enough : text.length < rounds)
    (sum : Nat) : slotsInRounds rounds sum text = some (slotsUntilClose sum text) := by
  induction rounds generalizing text sum with
  | zero => exact absurd enough (Nat.not_lt_zero _)
  | succ rounds ih =>
    rw [slotsInRounds]
    cases close : char ')' text with
    | ok read =>
      rw [slotsUntilClose, close]
    | error stop =>
      cases read : fieldSlots text with
      | error fault => rw [slotsUntilClose_of_error close read]
      | ok pair =>
        obtain ⟨n, rest⟩ := pair
        have less := fieldSlots_shorter read
        rw [slotsUntilClose_of_ok close read]
        exact ih (by omega) (sum + n)

/-- A rule that calls itself, down to a number of levels, and what is called at the level below. -/
def nested {α : Type} (rule : Reader α → Reader α) (beyond : Reader α) : Nat → Reader α
  | 0 => beyond
  | levels + 1 => rule (nested rule beyond levels)

/-- A rule that calls for another reading only on texts without a `[` in front, which it would
itself read without a call. -/
structure CallsOnce {α : Type} (rule : Reader α → Reader α) (flat : Reader α) : Prop where
  none : ∀ element text, text.head? ≠ some '[' → rule element text = flat text
  once : ∀ element, (∀ text, text.head? ≠ some '[' → element text = flat text) →
    rule element = rule flat

section CallsOnce
variable {α : Type} {rule : Reader α → Reader α} {flat : Reader α}

theorem CallsOnce.nested_eq (h : CallsOnce rule flat) (beyond : Reader α) (levels : Nat) :
    nested rule beyond (levels + 2) = rule flat :=
  h.once _ fun text head => h.none _ text head

theorem CallsOnce.eq_self_iff (h : CallsOnce rule flat) {reader : Reader α} :
    rule reader = reader ↔ reader = rule flat := by
  have described (element : Reader α) (same : element = rule element) : element = rule flat := by
    rw [same]
    apply h.once
    intro text head
    rw [same]
    exact h.none element text head
  constructor
  · exact fun same => described reader same.symm
  · rintro rfl
    exact h.once _ fun text head => h.none flat text head

end CallsOnce

theorem fieldOver_callsOnce : CallsOnce fieldOver scalar where
  none := by
    intro element text head
    unfold fieldOver
    split
    · exact absurd rfl head
    · rfl
  once := fun _ same => fieldOver_eq_field same

theorem fieldSlotsOver_callsOnce : CallsOnce fieldSlotsOver scalarSlots where
  none := by
    intro element text head
    unfold fieldSlotsOver
    split
    · exact absurd rfl head
    · rfl
  once := by
    intro element same
    funext text
    unfold fieldSlotsOver
    split
    · unfold arraySlotsOver
      cases run : dimensions _ with
      | error stop => rfl
      | ok pair =>
        obtain ⟨count, inner⟩ := pair
        simp only [bind, Except.bind, elementAfter_congr (same _ (dimensions_head run))]
    · rfl

/-- The rules take something whenever they succeed, so the loops over the arguments end within a
round for each character and one more, without a look at that. Behind the dimensions of an array
there is no bracket, so two levels of the rules are all that is ever called, and the readers are the
only ones that the rules describe. -/
theorem progress_within_two_levels :
    ((∀ text rest t, field text = .ok (t, rest) → rest <:+ text ∧ rest ≠ text) ∧
        ∀ text rest n, fieldSlots text = .ok (n, rest) → rest <:+ text ∧ rest ≠ text) ∧
      (∀ (rounds : Nat) (text : List Char), text.length < rounds →
        itemsInRounds field ')' rounds text = some (itemsUntil field ')' text) ∧
          ∀ sum, slotsInRounds rounds sum text = some (slotsUntilClose sum text)) ∧
      (∀ text rest count, dimensions text = .ok (count, rest) → rest.head? ≠ some '[' ∧
        (∀ element, fieldOver element rest = scalar rest) ∧
          ∀ element, fieldSlotsOver element rest = scalarSlots rest) ∧
      (∀ beyond levels, nested fieldOver beyond (levels + 2) = field) ∧
      (∀ beyond levels, nested fieldSlotsOver beyond (levels + 2) = fieldSlots) ∧
      (∀ reader, fieldOver reader = reader ↔ reader = field) ∧
      ∀ reader, fieldSlotsOver reader = reader ↔ reader = fieldSlots := by
  refine ⟨⟨fun _ _ _ => field_proper, fun _ _ _ => fieldSlots_proper⟩, ?_, ?_,
    fieldOver_callsOnce.nested_eq, fieldSlotsOver_callsOnce.nested_eq,
    fun _ => fieldOver_callsOnce.eq_self_iff, fun _ => fieldSlotsOver_callsOnce.eq_self_iff⟩
  · intro rounds text enough
    have shorter : ∀ text t rest, field text = .ok (t, rest) → rest.length < text.length :=
      fun _ _ _ read => field_shorter read
    exact ⟨itemsInRounds_eq ')' shorter enough, slotsInRounds_eq enough⟩
  · intro text rest count run
    have head := dimensions_head run
    exact ⟨head, fun element => fieldOver_callsOnce.none element rest head,
      fun element => fieldSlotsOver_callsOnce.none element rest head⟩

theorem progress_over_array_of_class :
    field "[[La;I)V".toList = .ok (.withDimensions (.object "a") 2, "I)V".toList) ∧
      "I)V".toList <:+ "[[La;I)V".toList ∧ "I)V".toList ≠ "[[La;I)V".toList ∧
      itemsUntil field ')' "[[La;I)V".toList =
        ([.withDimensions (.object "a") 2, .base .int], .ok ['V']) ∧
      slotsUntilClose 0 "[[La;I)V".toList = .ok (2, ['V']) ∧
      ∀ element, fieldOver element "La;I)V".toList = scalar "La;I)V".toList := by
  have read : field "[[La;I)V".toList = .ok (.withDimensions (.object "a") 2, "I)V".toList) := by
    rfl
  have run : dimensions "[[La;I)V".toList = .ok (2, "La;I)V".toList) := by rfl
  obtain ⟨⟨proper, -⟩, loops, arrays, -⟩ := progress_within_two_levels
  obtain ⟨inside, less⟩ := proper _ _ _ read
  obtain ⟨items, slots⟩ := loops 9 "[[La;I)V".toList (by decide)
  obtain ⟨-, element, -⟩ := arrays _ _ _ run
  have found : itemsInRounds field ')' 9 "[[La;I)V".toList =
      some ([.withDimensions (.object "a") 2, .base .int], .ok ['V']) := by rfl
  have counted : slotsInRounds 9 0 "[[La;I)V".toList = some (.ok (2, ['V'])) := by rfl
  exact ⟨read, inside, less, Option.some.inj (items.symm.trans found),
    Option.some.inj ((slots 0).symm.trans counted), element⟩

end TypeDescriptors.Grammar
