import TypeDescriptors.BaseType
import TypeDescriptors.Text.Length

set_option autoImplicit false

namespace TypeDescriptors.ClassName

def dotOf (c : Char) : Char := if c = '/' then '.' else c

def slashOf (c : Char) : Char := if c = '.' then '/' else c

def dotted (name : String) : String := String.ofList (name.toList.map dotOf)

def slashed (name : String) : String := String.ofList (name.toList.map slashOf)

def packageOf (name : String) : String := String.ofList (Text.beforeLast '.' name.toList)

/-- Whether an internal name is a signature already: empty, the letter of a base type, the name of
an array, or wrapped as the signature of a class or a type variable. -/
def isSignature : List Char → Bool
  | [] => true
  | c :: cs =>
    (cs.isEmpty && (BaseType.ofLetter? c).isSome) || c == '[' ||
      ((c == 'L' || c == 'T') && cs.getLast? == some ';')

/-- The signature for an internal name, as class constants store it: a plain name is wrapped, a
name that is a signature stays. -/
def signatureOf (name : String) : String :=
  if isSignature name.toList then name else "L" ++ name ++ ";"

@[simp] theorem toList_dotted (name : String) : (dotted name).toList = name.toList.map dotOf := by
  simp [dotted]

@[simp] theorem toList_slashed (name : String) :
    (slashed name).toList = name.toList.map slashOf := by
  simp [slashed]

theorem dotOf_ne_slash (c : Char) : dotOf c ≠ '/' := by
  unfold dotOf
  split
  · decide
  · assumption

theorem slashOf_ne_dot (c : Char) : slashOf c ≠ '.' := by
  unfold slashOf
  split
  · decide
  · assumption

theorem dotOf_slashOf (c : Char) : dotOf (slashOf c) = dotOf c := by
  by_cases h : c = '.'
  · subst h
    decide
  · simp [slashOf, h]

theorem slashOf_dotOf (c : Char) : slashOf (dotOf c) = slashOf c := by
  by_cases h : c = '/'
  · subst h
    decide
  · simp [dotOf, h]

theorem slashed_dotted (name : String) : slashed (dotted name) = slashed name := by
  have same : slashOf ∘ dotOf = slashOf := funext slashOf_dotOf
  rw [← String.toList_inj, toList_slashed, toList_dotted, List.map_map, same, toList_slashed]

theorem dotted_slashed (name : String) : dotted (slashed name) = dotted name := by
  have same : dotOf ∘ slashOf = dotOf := funext dotOf_slashOf
  rw [← String.toList_inj, toList_dotted, toList_slashed, List.map_map, same, toList_dotted]

theorem mem_dotted_iff {c : Char} (dot : c ≠ '.') (slash : c ≠ '/') {name : String} :
    c ∈ (dotted name).toList ↔ c ∈ name.toList := by
  have kept : ∀ d, dotOf d = c ↔ d = c := by
    intro d
    unfold dotOf
    grind
  simp only [toList_dotted, List.mem_map, kept, exists_eq_right]

theorem mem_slashed_iff {c : Char} (dot : c ≠ '.') (slash : c ≠ '/') {name : String} :
    c ∈ (slashed name).toList ↔ c ∈ name.toList := by
  have kept : ∀ d, slashOf d = c ↔ d = c := by
    intro d
    unfold slashOf
    grind
  simp only [toList_slashed, List.mem_map, kept, exists_eq_right]

theorem slash_notMem_dotted (name : String) : '/' ∉ (dotted name).toList := by
  simp only [toList_dotted, List.mem_map, not_exists, not_and]
  exact fun c _ => dotOf_ne_slash c

theorem dotted_eq_self {name : String} (slash : '/' ∉ name.toList) : dotted name = name := by
  have same : ∀ c ∈ name.toList, dotOf c = id c := by
    intro c mem
    have other : c ≠ '/' := fun eq => slash (eq ▸ mem)
    simp [dotOf, other]
  rw [← String.toList_inj, toList_dotted, List.map_congr_left same, List.map_id]

theorem dotted_eq_empty_iff {name : String} : dotted name = "" ↔ name = "" := by
  rw [← String.toList_inj, toList_dotted, ← String.toList_inj]
  simp

end TypeDescriptors.ClassName
