import TypeDescriptors.Defect
import TypeDescriptors.FieldType.Shape

set_option autoImplicit false

namespace TypeDescriptors

/-- What becomes of a sum or a difference of machine words that is no word: a defect in a build that
checks its arithmetic, and the rest modulo 2⁶⁴ in one that does not. -/
inductive Arithmetic where
  | checked
  | wrapping
  deriving DecidableEq, Repr

namespace Arithmetic

def add (arithmetic : Arithmetic) (own : Nat) (more : UInt64) : Except Defect Nat :=
  match arithmetic with
  | .checked =>
    if own + more.toNat < UInt64.size then .ok (own + more.toNat) else .error .sumOverflow
  | .wrapping => .ok (UInt64.ofNat own + more).toNat

def oneLess (arithmetic : Arithmetic) (own : Nat) : Except Defect UInt64 :=
  match arithmetic with
  | .checked => if own = 0 then .error .differenceOverflow else .ok (UInt64.ofNat (own - 1))
  | .wrapping => .ok (UInt64.ofNat own - 1)

end Arithmetic

namespace FieldType

def maxDimensions : Nat := 255

def ofClassName (name : String) : Except Defect FieldType :=
  match ClassType.ofName? name with
  | some c => .ok (.object c)
  | none => .error .emptyClassName

def hasArrays : FieldType → Bool
  | .base .void | .null | .unknown => false
  | _ => true

def folded (arithmetic : Arithmetic) (more : UInt64) : FieldType → Except Defect (FieldType × Nat)
  | .array element own _ => (arithmetic.add own more).map fun total => (element, total)
  | t => .ok (t, more.toNat)

/-- The array type with `more` dimensions over a type. The number of dimensions is checked before
the element type. -/
def arrayOfIn (arithmetic : Arithmetic) (t : FieldType) (more : UInt64) : Except Defect FieldType :=
  if more = 0 then .error (.dimensions 0)
  else
    match folded arithmetic more t with
    | .error d => .error d
    | .ok (element, total) =>
      if maxDimensions < total then .error (.dimensions total)
      else if element.hasArrays then
        .ok (.array element total (openBrackets total ++ element.signature))
      else .error (.elementType element)

def componentIn (arithmetic : Arithmetic) (element : FieldType) (dimensions : Nat) :
    Except Defect FieldType :=
  if dimensions = 1 then .ok element
  else
    match arithmetic.oneLess dimensions with
    | .error d => .error d
    | .ok fewer => arrayOfIn arithmetic element fewer

/-- Arithmetic is checked here unless it is said not to be. -/
def arrayOf (t : FieldType) (more : UInt64) : Except Defect FieldType :=
  arrayOfIn .checked t more

def component (element : FieldType) (dimensions : Nat) : Except Defect FieldType :=
  componentIn .checked element dimensions

theorem one_le_toNat_iff {more : UInt64} : 1 ≤ more.toNat ↔ more ≠ 0 := by
  rw [Nat.one_le_iff_ne_zero, ← UInt64.toNat_zero]
  exact not_congr UInt64.toNat_inj

theorem ofClassName_eq_ok_iff {name : String} {t : FieldType} :
    ofClassName name = .ok t ↔
      name ≠ "" ∧ t = (ElementType.object (ClassName.dotted name)).type := by
  unfold ofClassName ClassType.ofName?
  by_cases h : name = "" <;> simp [h, eq_comm, ClassType.make_eq_named, ElementType.type]

theorem ofClassName_of_ne {name : String} (ne : name ≠ "") :
    ofClassName name = .ok (ElementType.object (ClassName.dotted name)).type :=
  ofClassName_eq_ok_iff.2 ⟨ne, rfl⟩

theorem folded_eq (arithmetic : Arithmetic) (more : UInt64) (t : FieldType) :
    folded arithmetic more t =
      (arithmetic.add t.dimensions more).map fun total => (t.innermost, total) := by
  have none : arithmetic.add 0 more = .ok more.toNat := by
    cases arithmetic with
    | checked =>
      have word := more.toNat_lt_size
      simp [Arithmetic.add, word]
    | wrapping => simp [Arithmetic.add]
  cases t with
  | array element own signature => rfl
  | base | object | null | unknown =>
    change _ = (arithmetic.add 0 more).map _
    rw [none]
    rfl

theorem arrayOfIn_eq_ok_iff {arithmetic : Arithmetic} {t a : FieldType} {more : UInt64} :
    arrayOfIn arithmetic t more = .ok a ↔
      more ≠ 0 ∧ ∃ total, arithmetic.add t.dimensions more = .ok total ∧ total ≤ 255 ∧
        t.innermost.hasArrays = true ∧
          a = .array t.innermost total (openBrackets total ++ t.innermost.signature) := by
  unfold arrayOfIn maxDimensions
  rw [folded_eq]
  by_cases zero : more = 0
  · simp [zero]
  · cases arithmetic.add t.dimensions more with
    | error d => simp [zero, Except.map]
    | ok total =>
      by_cases beyond : 255 < total
      · simp [zero, Except.map, beyond, Nat.not_le.2 beyond]
      · cases has : t.innermost.hasArrays <;>
          simp [zero, Except.map, beyond, Nat.not_lt.1 beyond, has, eq_comm]

/-- A request for an array is answered where the exact number of dimensions is within the limit and
the element has arrays. -/
theorem arrayOf_eq_ok_iff {t a : FieldType} {more : UInt64} :
    arrayOf t more = .ok a ↔
      more ≠ 0 ∧ t.dimensions + more.toNat ≤ 255 ∧ t.innermost.hasArrays = true ∧
        a = .array t.innermost (t.dimensions + more.toNat)
          (openBrackets (t.dimensions + more.toNat) ++ t.innermost.signature) := by
  have sum (total : Nat) : Arithmetic.checked.add t.dimensions more = .ok total ∧ total ≤ 255 ↔
      t.dimensions + more.toNat = total ∧ total ≤ 255 := by
    unfold Arithmetic.add
    by_cases word : t.dimensions + more.toNat < UInt64.size
    · simp [word]
    · have most : 255 < UInt64.size := by decide
      simp only [word, ↓reduceIte, reduceCtorEq, false_and, false_iff, not_and]
      omega
  unfold arrayOf
  simp only [arrayOfIn_eq_ok_iff, ← and_assoc, sum]
  simp [and_assoc]

theorem hasArrays_iff {t : FieldType} :
    t.hasArrays = true ↔ t ≠ .base .void ∧ t ≠ .null ∧ t ≠ .unknown := by
  cases t with
  | base b => cases b <;> decide
  | _ => simp [hasArrays]

theorem hasArrays_type_iff {e : ElementType} : e.type.hasArrays = true ↔ e ≠ .base .void := by
  rw [hasArrays_iff]
  cases e <;> simp [ElementType.type]

theorem array_openBrackets (e : ElementType) {count : Nat} (pos : 1 ≤ count) :
    .array e.type count (openBrackets count ++ e.type.signature) = withDimensions e count := by
  have text : openBrackets count ++ e.type.signature = (withDimensions e count).signature := by
    rw [← String.toList_inj, toList_signature_withDimensions]
    simp [openBrackets, ElementType.signature]
  rw [text, ← withDimensions_of_pos e count pos]

theorem arrayOf_withDimensions_eq_ok_iff {e : ElementType} {own : Nat} {more : UInt64}
    {a : FieldType} :
    arrayOf (withDimensions e own) more = .ok a ↔
      more ≠ 0 ∧ own + more.toNat ≤ 255 ∧ e ≠ .base .void ∧
        a = withDimensions e (own + more.toNat) := by
  rw [arrayOf_eq_ok_iff, dimensions_withDimensions, innermost_withDimensions, hasArrays_type_iff]
  refine and_congr_right fun nonzero => ?_
  have pos := one_le_toNat_iff.2 nonzero
  rw [array_openBrackets e (by omega)]

theorem toNat_ofNat_count {count : Nat} (limit : count ≤ 255) :
    (UInt64.ofNat count).toNat = count :=
  UInt64.toNat_ofNat_of_lt' (Nat.lt_of_le_of_lt limit (by decide))

theorem arrayOf_count {e : ElementType} {count : Nat} (notVoid : e ≠ .base .void)
    (pos : 1 ≤ count) (limit : count ≤ 255) :
    arrayOf e.type (UInt64.ofNat count) = .ok (withDimensions e count) := by
  have word := toNat_ofNat_count limit
  have nonzero : UInt64.ofNat count ≠ 0 := one_le_toNat_iff.1 (word.symm ▸ pos)
  rw [← withDimensions_zero e, arrayOf_withDimensions_eq_ok_iff, word, Nat.zero_add]
  exact ⟨nonzero, limit, notVoid, rfl⟩

end FieldType
end TypeDescriptors
