import TypeDescriptors.Proofs.Representation
import TypeDescriptors.Session

set_option autoImplicit false

namespace TypeDescriptors.FieldType

section WithDimensions
variable (e : ElementType) (count : Nat)

theorem signature_withDimensions_succ :
    (withDimensions e (count + 1)).signature = "[" ++ (withDimensions e count).signature := by
  rw [← String.toList_inj, String.toList_append, toList_signature_withDimensions,
    toList_signature_withDimensions]
  rfl

theorem display_withDimensions_succ :
    (withDimensions e (count + 1)).display = (withDimensions e count).display ++ "[]" := by
  rw [← String.toList_inj, String.toList_append, toList_display_withDimensions,
    toList_display_withDimensions, pairs_succ, List.append_assoc]
  rfl

end WithDimensions

theorem WellFormed.exists_withDimensions_succ {a : FieldType} (h : a.WellFormed)
    (array : a.kind = .array) : ∃ e count, a = withDimensions e (count + 1) := by
  obtain ⟨element, count, signature, rfl⟩ := kind_eq_array_iff.1 array
  obtain ⟨e, eq⟩ := h.exists_elementType
  obtain ⟨n, rfl⟩ := Nat.exists_eq_add_of_le' h.2.2.1
  exact ⟨e, n, eq⟩

theorem WellFormed.withDimensions_of_le {e : ElementType} {count fewer : Nat}
    (h : (withDimensions e count).WellFormed) (le : fewer ≤ count) :
    (withDimensions e fewer).WellFormed := by
  obtain ⟨element, notVoid, limit⟩ := wellFormed_withDimensions_iff.1 h
  exact wellFormed_withDimensions_iff.2
    ⟨element, fun pos => notVoid (Nat.le_trans pos le), Nat.le_trans le limit⟩

theorem arrayOf_withDimensions_one {e : ElementType} {count : Nat}
    (h : (withDimensions e (count + 1)).WellFormed) :
    arrayOf (withDimensions e count) 1 = .ok (withDimensions e (count + 1)) := by
  obtain ⟨-, notVoid, limit⟩ := wellFormed_withDimensions_iff.1 h
  exact arrayOf_withDimensions_eq_ok_iff.2 ⟨by decide, limit, notVoid (by omega), rfl⟩

/-- An array over an array is the array with both counts of dimensions at once, or neither is. -/
theorem arrayOf_arrayOf_eq_ok_iff {t a : FieldType} {m n : UInt64} (hm : 1 ≤ m.toNat)
    (hn : 1 ≤ n.toNat) (bound : t.dimensions + m.toNat + n.toNat < UInt64.size) :
    (do arrayOf (← arrayOf t m) n) = .ok a ↔ arrayOf t (m + n) = .ok a := by
  have sum : (m + n).toNat = m.toNat + n.toNat := by
    have small : m.toNat + n.toNat < UInt64.size := by omega
    rw [UInt64.toNat_add]
    exact Nat.mod_eq_of_lt small
  rw [Grammar.bind_eq_ok_iff, arrayOf_eq_ok_iff, sum, ← Nat.add_assoc]
  constructor
  · rintro ⟨u, first, second⟩
    obtain ⟨-, -, has, rfl⟩ := arrayOf_eq_ok_iff.1 first
    obtain ⟨-, limit, -, rfl⟩ := arrayOf_eq_ok_iff.1 second
    exact ⟨one_le_toNat_iff.1 (by omega), limit, has, rfl⟩
  · rintro ⟨-, limit, has, rfl⟩
    exact ⟨_, arrayOf_eq_ok_iff.2 ⟨one_le_toNat_iff.1 hm, by omega, has, rfl⟩,
      arrayOf_eq_ok_iff.2 ⟨one_le_toNat_iff.1 hn, limit, has, rfl⟩⟩

end TypeDescriptors.FieldType

namespace TypeDescriptors.Session
open FieldType (Obtainable arrayOf withDimensions)

/-- The type that a number of steps from arrays to their members lead to. -/
def descend : Nat → FieldType → Except Refusal FieldType
  | 0, t => .ok t
  | steps + 1, t => do descend steps (← elementOf t)

theorem elementOf_withDimensions_succ {e : ElementType} {count : Nat}
    (h : (withDimensions e (count + 1)).WellFormed) :
    elementOf (withDimensions e (count + 1)) = .ok (withDimensions e count) := by
  have member := FieldType.component_eq (Nat.le_add_left 1 count) h
  change orRefuse (Failure.ofDefect (FieldType.component e.type (count + 1))) = _
  rw [member]
  rfl

theorem descend_withDimensions {e : ElementType} {count : Nat}
    (h : (withDimensions e count).WellFormed) (steps : Nat) :
    descend steps (withDimensions e count) =
      if steps ≤ count then .ok (withDimensions e (count - steps)) else .error .notArray := by
  -- A step is taken from the front, so the dimensions left are those of the hypothesis.
  induction steps generalizing count with
  | zero => simp [descend]
  | succ steps ih =>
    cases count with
    | zero => cases e <;> rfl
    | succ count =>
      have step : descend (steps + 1) (withDimensions e (count + 1)) =
          descend steps (withDimensions e count) := by
        rw [descend, elementOf_withDimensions_succ h]
        rfl
      rw [step, ih (h.withDimensions_of_le (Nat.le_succ count))]
      simp only [Nat.add_le_add_iff_right, Nat.add_sub_add_right]

theorem descend_eq_ok_innermost_iff {e : ElementType} {count : Nat}
    (h : (withDimensions e count).WellFormed) (steps : Nat) :
    descend steps (withDimensions e count) = .ok (withDimensions e count).innermost ↔
      steps = count := by
  rw [descend_withDimensions h, FieldType.innermost_withDimensions,
    ← FieldType.withDimensions_zero]
  split
  · rw [Except.ok.injEq]
    constructor
    · intro eq
      have none := congrArg FieldType.dimensions eq
      rw [FieldType.dimensions_withDimensions, FieldType.dimensions_withDimensions] at none
      omega
    · rintro rfl
      rw [Nat.sub_self]
  · constructor
    · intro eq
      cases eq
    · omega

theorem elementOf_of_arrayOf_one {t a : FieldType} (h : t.WellFormed)
    (made : arrayOf t 1 = .ok a) : elementOf a = .ok t := by
  have well := h.arrayOf made
  obtain ⟨e, eq, -, -, -, rfl⟩ := h.arrayOf_eq_ok_iff.1 made
  rw [eq, FieldType.dimensions_withDimensions]
  exact elementOf_withDimensions_succ well

/-- Requests for arrays add dimensions, and steps to the members of an array take them off again
one by one, until the innermost type is left. -/
theorem dimensions_added_and_taken_off :
    (∀ (t a : FieldType) (m n : UInt64), 1 ≤ m.toNat → 1 ≤ n.toNat →
        t.dimensions + m.toNat + n.toNat < UInt64.size →
          ((do arrayOf (← arrayOf t m) n) = .ok a ↔ arrayOf t (m + n) = .ok a)) ∧
      (∀ a : FieldType, Obtainable a → a.kind = .array →
        (∃ t, elementOf a = .ok t ∧ Obtainable t ∧ arrayOf t 1 = .ok a ∧
          a.signature = "[" ++ t.signature ∧ a.display = t.display ++ "[]") ∧
        (∀ steps, descend steps a = .ok a.innermost ↔ steps = a.dimensions) ∧
        ∀ steps, steps ≤ a.dimensions →
          ∃ t, descend steps a = .ok t ∧ Obtainable t ∧ t.dimensions + steps = a.dimensions) ∧
      ∀ t a : FieldType, Obtainable t → arrayOf t 1 = .ok a → elementOf a = .ok t := by
  refine ⟨fun _ _ _ _ => FieldType.arrayOf_arrayOf_eq_ok_iff, ?_,
    fun t a h => elementOf_of_arrayOf_one h.wellFormed⟩
  intro a h array
  have well := h.wellFormed
  obtain ⟨e, count, rfl⟩ := well.exists_withDimensions_succ array
  rw [FieldType.dimensions_withDimensions]
  refine ⟨⟨withDimensions e count, ?_⟩, descend_eq_ok_innermost_iff well, ?_⟩
  · have member := well.withDimensions_of_le (Nat.le_succ count)
    exact ⟨elementOf_withDimensions_succ well, member.obtainable,
      FieldType.arrayOf_withDimensions_one well,
      FieldType.signature_withDimensions_succ e count,
      FieldType.display_withDimensions_succ e count⟩
  · intro steps le
    refine ⟨withDimensions e (count + 1 - steps), ?_, ?_, ?_⟩
    · rw [descend_withDimensions well, if_pos le]
    · exact (well.withDimensions_of_le (Nat.sub_le ..)).obtainable
    · rw [FieldType.dimensions_withDimensions]
      omega

theorem class_array_added_and_taken_off :
    (do arrayOf (← arrayOf (.object (.named "a.b")) 200) 55) =
        .ok (.withDimensions (.object "a.b") 255) ∧
      (∀ a : FieldType, (do arrayOf (← arrayOf (.object (.named "a.b")) 200) 56) ≠ .ok a) ∧
      descend 255 (.withDimensions (.object "a.b") 255) = .ok (.object (.named "a.b")) ∧
      descend 254 (.withDimensions (.object "a.b") 255) ≠ .ok (.object (.named "a.b")) ∧
      elementOf (.withDimensions (.object "a.b") 1) = .ok (.object (.named "a.b")) := by
  have named : FieldType.ofClassName "a/b" = .ok (.object (.named "a.b")) := by rfl
  have most : arrayOf (.object (.named "a.b")) 255 = .ok (.withDimensions (.object "a.b") 255) :=
    @FieldType.arrayOf_count (.object "a.b") 255 (by decide) (by decide) (by decide)
  have beyond : ∀ a : FieldType, arrayOf (.object (.named "a.b")) 256 ≠ .ok a := by
    intro a made
    cases made
  obtain ⟨added, taken, converse⟩ := dimensions_added_and_taken_off
  obtain ⟨-, steps, -⟩ := taken _ (.array (.named named) most) rfl
  refine ⟨?_, ?_, (steps 255).2 rfl, ?_, converse _ _ (.named named) rfl⟩
  · exact (added _ _ 200 55 (by decide) (by decide) (by decide)).2 most
  · intro a
    exact mt (added _ a 200 56 (by decide) (by decide) (by decide)).1 (beyond a)
  · exact mt (steps 254).1 (by decide)

end TypeDescriptors.Session
