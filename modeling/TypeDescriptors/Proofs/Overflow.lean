import TypeDescriptors.Proofs.WellFormedness

set_option autoImplicit false

namespace TypeDescriptors

/-- A word added to a small number gives the exact sum if that is a word. An unchecked sum that is
none comes out smaller by 2⁶⁴. -/
theorem Arithmetic.add_eq_ok_iff {arithmetic : Arithmetic} {own total : Nat} {more : UInt64}
    (small : own ≤ 255) :
    arithmetic.add own more = .ok total ↔
      total = own + more.toNat ∧ total < UInt64.size ∨
        arithmetic = .wrapping ∧ total + UInt64.size = own + more.toNat := by
  have word := more.toNat_lt_size
  have most : 255 < UInt64.size := by decide
  cases arithmetic with
  | checked =>
    by_cases fits : own + more.toNat < UInt64.size
    · simp only [add, fits, ↓reduceIte, Except.ok.injEq, reduceCtorEq, false_and, or_false]
      omega
    · simp only [add, fits, ↓reduceIte, reduceCtorEq, false_and, or_false, false_iff]
      omega
  | wrapping =>
    have sum : (UInt64.ofNat own + more).toNat = (own + more.toNat) % UInt64.size := by
      simp [UInt64.toNat_add]
    simp only [add, sum, Except.ok.injEq, true_and]
    by_cases fits : own + more.toNat < UInt64.size
    · rw [Nat.mod_eq_of_lt fits]
      omega
    · rw [Nat.mod_eq_sub_mod (Nat.not_lt.1 fits), Nat.mod_eq_of_lt (by omega)]
      omega

namespace FieldType

/-- The types of a build: those that one with checked arithmetic has, and those that its own
requests for arrays make of its types. -/
inductive Built (arithmetic : Arithmetic) : FieldType → Prop where
  | obtainable {t : FieldType} : Obtainable t → Built arithmetic t
  | array {element t : FieldType} {more : UInt64} :
      Built arithmetic element → arrayOfIn arithmetic element more = .ok t → Built arithmetic t
  | component {element t : FieldType} {dimensions : Nat} {signature : String} :
      Built arithmetic (.array element dimensions signature) →
        componentIn arithmetic element dimensions = .ok t → Built arithmetic t
  | innermost {t : FieldType} : Built arithmetic t → Built arithmetic t.innermost

structure Bounded (t : FieldType) : Prop where
  dimensions_le : t.dimensions ≤ 255
  innermost_wellFormed : t.innermost.WellFormed
  innermost_kind : t.innermost.kind ≠ .array

theorem Bounded.innermost {t : FieldType} (h : t.Bounded) : t.innermost.Bounded := by
  have self := innermost_eq_self h.innermost_kind
  have none := dimensions_eq_zero h.innermost_kind
  exact ⟨by omega, self.symm ▸ h.innermost_wellFormed, self.symm ▸ h.innermost_kind⟩

theorem WellFormed.bounded {t : FieldType} (h : t.WellFormed) : t.Bounded := by
  cases t with
  | array element count signature =>
    obtain ⟨well, kind, -, limit, -⟩ := h
    exact ⟨limit, well, fun (eq : element.kind = .array) => kind (by simp [eq])⟩
  | _ => exact ⟨Nat.zero_le 255, h, nofun⟩

theorem Bounded.arrayOfIn {arithmetic : Arithmetic} {element t : FieldType} {more : UInt64}
    (h : element.Bounded) (made : arrayOfIn arithmetic element more = .ok t) : t.Bounded := by
  obtain ⟨-, total, -, limit, -, rfl⟩ := arrayOfIn_eq_ok_iff.1 made
  exact ⟨limit, h.innermost_wellFormed, h.innermost_kind⟩

theorem Built.bounded {arithmetic : Arithmetic} {t : FieldType} (h : Built arithmetic t) :
    t.Bounded := by
  induction h with
  | obtainable h => exact h.wellFormed.bounded
  | array _ made ih => exact ih.arrayOfIn made
  | innermost _ ih => exact ih.innermost
  | @component element t count signature _ made ih =>
    have element_bounded : element.Bounded := ih.innermost
    unfold componentIn at made
    split at made
    · exact Except.ok.inj made ▸ element_bounded
    · split at made
      · cases made
      · exact element_bounded.arrayOfIn made

def requestedDimensions (element : FieldType) (more : UInt64) : Nat :=
  element.dimensions + more.toNat

theorem Bounded.arrayOfIn_eq_ok_iff {arithmetic : Arithmetic} {element t : FieldType}
    {more : UInt64} (h : element.Bounded) :
    FieldType.arrayOfIn arithmetic element more = .ok t ↔
      more ≠ 0 ∧ element.innermost.hasArrays = true ∧ ∃ count,
        (count = requestedDimensions element more ∧ count ≤ 255 ∨
          arithmetic = .wrapping ∧ count + UInt64.size = requestedDimensions element more) ∧
        t = .array element.innermost count (openBrackets count ++ element.innermost.signature) := by
  have word := more.toNat_lt_size
  have most : 255 < UInt64.size := by decide
  have own := h.dimensions_le
  rw [FieldType.arrayOfIn_eq_ok_iff]
  unfold requestedDimensions
  constructor
  · rintro ⟨nonzero, total, sum, limit, has, rfl⟩
    obtain ⟨exactly, -⟩ | ⟨wrapping, beyond⟩ := (Arithmetic.add_eq_ok_iff own).1 sum
    · exact ⟨nonzero, has, total, .inl ⟨exactly, limit⟩, rfl⟩
    · exact ⟨nonzero, has, total, .inr ⟨wrapping, beyond⟩, rfl⟩
  · rintro ⟨nonzero, has, count, ⟨exactly, limit⟩ | ⟨wrapping, beyond⟩, rfl⟩
    · have sum := (@Arithmetic.add_eq_ok_iff arithmetic _ _ _ own).2 (.inl ⟨exactly, by omega⟩)
      exact ⟨nonzero, count, sum, limit, has, rfl⟩
    · have sum := (Arithmetic.add_eq_ok_iff own).2 (.inr ⟨wrapping, beyond⟩)
      exact ⟨nonzero, count, sum, by omega, has, rfl⟩

theorem Bounded.brackets_signature {t : FieldType} (h : t.Bounded) (count : Nat) :
    ((openBrackets count ++ t.innermost.signature).toList.takeWhile fun c => c == '[').length =
      count := by
  have behind : t.innermost.signature.toList.head? ≠ some '[' := by
    obtain (eq | eq) | ⟨e, eq⟩ := h.innermost_wellFormed.cases
    · rw [eq]
      decide
    · rw [eq]
      decide
    · have none := dimensions_eq_zero h.innermost_kind
      obtain ⟨c, cs, head, bracket, -⟩ := element_signature_head e
      rw [eq, none, toList_signature_withDimensions, head]
      simpa using bracket
  rw [String.toList_append, openBrackets, String.toList_ofList,
    (Grammar.brackets_split count behind).1, List.length_replicate]

/-- What a request for an array is answered with, in a build with either arithmetic. The dimensions
are those asked for, one to the most, as long as these are a word. Beyond that the request is a
defect where sums are checked, and where they are not it is answered with fewer dimensions than the
element has. -/
theorem answered_exactly_iff (arithmetic : Arithmetic) (element : FieldType) (more : UInt64)
    (built : Built arithmetic element) :
    ((∃ t, arrayOfIn arithmetic element more = .ok t) ↔
        more ≠ 0 ∧ (element.innermost ≠ .base .void ∧ element.innermost ≠ .null ∧
            element.innermost ≠ .unknown) ∧
          (requestedDimensions element more ≤ 255 ∨
            arithmetic = .wrapping ∧ UInt64.size ≤ requestedDimensions element more)) ∧
      ∀ t, arrayOfIn arithmetic element more = .ok t →
        (t.signature.toList.takeWhile fun c => c == '[').length = t.dimensions ∧
          (t.dimensions = requestedDimensions element more ∧ 1 ≤ t.dimensions ∧
              t.dimensions ≤ 255 ↔
            requestedDimensions element more < UInt64.size) ∧
          (UInt64.size ≤ requestedDimensions element more →
            t.dimensions + UInt64.size = requestedDimensions element more ∧
              t.dimensions < element.dimensions) := by
  have bounded := built.bounded
  have most : 255 < UInt64.size := by decide
  have word := more.toNat_lt_size
  have sum : requestedDimensions element more = element.dimensions + more.toNat := rfl
  rw [← hasArrays_iff]
  constructor
  · constructor
    · rintro ⟨t, answered⟩
      obtain ⟨nonzero, has, count, answer, -⟩ := bounded.arrayOfIn_eq_ok_iff.1 answered
      refine ⟨nonzero, has, ?_⟩
      obtain ⟨exactly, limit⟩ | ⟨wrapping, beyond⟩ := answer
      · exact .inl (exactly ▸ limit)
      · exact .inr ⟨wrapping, by omega⟩
    · rintro ⟨nonzero, has, limit | ⟨wrapping, overflow⟩⟩
      · exact ⟨_, bounded.arrayOfIn_eq_ok_iff.2 ⟨nonzero, has, _, .inl ⟨rfl, limit⟩, rfl⟩⟩
      · have beyond := Nat.sub_add_cancel overflow
        exact ⟨_, bounded.arrayOfIn_eq_ok_iff.2
          ⟨nonzero, has, _, .inr ⟨wrapping, beyond⟩, rfl⟩⟩
  · intro t answered
    obtain ⟨nonzero, has, count, answer, rfl⟩ := bounded.arrayOfIn_eq_ok_iff.1 answered
    have pos := one_le_toNat_iff.2 nonzero
    refine ⟨bounded.brackets_signature count, ?_, ?_⟩
    · change count = _ ∧ 1 ≤ count ∧ count ≤ 255 ↔ _
      constructor
      · rintro ⟨same, -, limit⟩
        omega
      · intro fits
        exact ⟨by omega, by omega, by omega⟩
    · intro overflow
      change count + _ = _ ∧ count < _
      exact ⟨by omega, by omega⟩

theorem answered_at_limits :
    (∀ arithmetic, ∃ t,
        arrayOfIn arithmetic (withDimensions (.object "a.b") 1) 254 = .ok t ∧ t.dimensions = 255 ∧
          (t.signature.toList.takeWhile fun c => c == '[').length = 255) ∧
      (∃ t, arrayOfIn .wrapping (withDimensions (.object "a.b") 255) 18446744073709551362 = .ok t ∧
        t.dimensions = 1) ∧
      ∀ t,
        arrayOfIn .checked (withDimensions (.object "a.b") 255) 18446744073709551362 ≠ .ok t := by
  have named : ofClassName "a.b" = .ok (ElementType.object "a.b").type := by rfl
  have one := @arrayOf_count (.object "a.b") 1 (by decide) (by decide) (by decide)
  have most := @arrayOf_count (.object "a.b") 255 (by decide) (by decide) (by decide)
  have madeOne := Obtainable.array (.named named) one
  have madeMost := Obtainable.array (.named named) most
  have all : requestedDimensions (withDimensions (.object "a.b") 255) 18446744073709551362 =
      1 + UInt64.size := by rfl
  refine ⟨?_, ?_, ?_⟩
  · intro arithmetic
    obtain ⟨answers, within⟩ := answered_exactly_iff arithmetic _ 254 (.obtainable madeOne)
    obtain ⟨t, answered⟩ := answers.2 ⟨by decide, by decide, .inl (by decide)⟩
    obtain ⟨brackets, same, -⟩ := within t answered
    have count : t.dimensions = 255 := (same.2 (by decide)).1
    exact ⟨t, answered, count, brackets.trans count⟩
  · obtain ⟨answers, beyond⟩ :=
      answered_exactly_iff .wrapping _ 18446744073709551362 (.obtainable madeMost)
    obtain ⟨t, answered⟩ := answers.2 ⟨by decide, by decide, .inr ⟨rfl, by decide⟩⟩
    obtain ⟨-, -, overflow⟩ := beyond t answered
    obtain ⟨sum, -⟩ := overflow (by decide)
    exact ⟨t, answered, Nat.add_right_cancel (sum.trans all)⟩
  · intro t answered
    obtain ⟨answers, -⟩ :=
      answered_exactly_iff .checked _ 18446744073709551362 (.obtainable madeMost)
    obtain ⟨-, -, limit | ⟨wrapping, -⟩⟩ := answers.1 ⟨t, answered⟩
    · rw [all] at limit
      exact absurd limit (by decide)
    · cases wrapping

/-- Over an `int` array of two dimensions 2⁶⁴ - 1 more are answered with one where sums are not
checked. Where they are, it is the sum that fails, and the limit is not looked at. -/
theorem overflowed_request_answered :
    Built .wrapping (withDimensions (.base .int) 2) ∧
      arrayOfIn .wrapping (withDimensions (.base .int) 2) 18446744073709551615 =
        .ok (withDimensions (.base .int) 1) ∧
      255 < requestedDimensions (withDimensions (.base .int) 2) 18446744073709551615 ∧
      (withDimensions (.base .int) 1).dimensions ≠
        requestedDimensions (withDimensions (.base .int) 2) 18446744073709551615 ∧
      arrayOf (withDimensions (.base .int) 2) 18446744073709551615 = .error .sumOverflow := by
  have two : arrayOf (.base .int) 2 = .ok (withDimensions (.base .int) 2) := by rfl
  exact ⟨.obtainable (.array (.base .int) two), by rfl, by decide, by decide, by rfl⟩

end FieldType
end TypeDescriptors
