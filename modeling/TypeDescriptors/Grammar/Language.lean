import TypeDescriptors.FieldType.Shape

set_option autoImplicit false

/-!
# The language of field types

What a signature is and what it denotes, said without reading it. A body is a sequence of plain
characters and of blocks of type arguments, at least one of them plain. It spells the name of a
class by its plain characters, of which a dot after the first block is the `$` of an inner class. A
core is a letter, or a body between `L` or `T` and `;`; a field type is a core after a `[` for each
dimension (`Denotes`).
-/
namespace TypeDescriptors.Grammar

inductive Inside : List Char → Prop where
  | nil : Inside []
  | char {c : Char} {cs : List Char} : c ≠ '<' → c ≠ '>' → Inside cs → Inside (c :: cs)
  | block {inner cs : List Char} : Inside inner → Inside cs → Inside ('<' :: inner ++ '>' :: cs)

inductive Part where
  | plain (c : Char)
  | block (inner : List Char)
  deriving DecidableEq, Repr

namespace Part

def text : Part → List Char
  | .plain c => [c]
  | .block inner => '<' :: inner ++ ['>']

def Legal : Part → Prop
  | .plain c => c ≠ '<' ∧ c ≠ '>' ∧ c ≠ ';'
  | .block inner => Inside inner

end Part

def bodyText (parts : List Part) : List Char := parts.flatMap Part.text

structure Body (parts : List Part) : Prop where
  legal : ∀ part ∈ parts, part.Legal
  named : ∃ c, Part.plain c ∈ parts

/-- The name that parts spell; `inner` tells whether a block stands before them. -/
def spelledFrom (inner : Bool) : List Part → List Char
  | [] => []
  | .plain c :: parts => (if c = '.' && inner then '$' else c) :: spelledFrom inner parts
  | .block _ :: parts => spelledFrom true parts

/-- The name of the class that a body names: a `/` in what it spells separates as a dot does. -/
def spelled (parts : List Part) : String :=
  String.ofList ((spelledFrom false parts).map fun c => if c = '/' then '.' else c)

def letters : List (Char × BaseType) :=
  [('B', .byte), ('C', .char), ('D', .double), ('F', .float), ('I', .int), ('J', .long),
   ('S', .short), ('Z', .boolean), ('V', .void)]

inductive Core : List Char → ElementType → Prop where
  | letter {c : Char} {b : BaseType} : (c, b) ∈ letters → Core [c] (.base b)
  | reference {parts : List Part} :
      Body parts → Core ('L' :: bodyText parts ++ [';']) (.object (spelled parts))
  | typeVariable {parts : List Part} :
      Body parts → Core ('T' :: bodyText parts ++ [';']) (.object "java.lang.Object")

inductive Denotes : List Char → FieldType → Prop where
  | scalar {core : List Char} {e : ElementType} : Core core e → Denotes core e.type
  | array {core : List Char} {e : ElementType} {dimensions : Nat} :
      Core core e → e ≠ .base .void → 1 ≤ dimensions → dimensions ≤ 255 →
        Denotes (List.replicate dimensions '[' ++ core) (FieldType.withDimensions e dimensions)

theorem mem_letters_iff {c : Char} {b : BaseType} : (c, b) ∈ letters ↔ c = b.letter := by
  cases b <;> simp [letters, BaseType.letter]

theorem Core.base (b : BaseType) : Core [b.letter] (.base b) := .letter (mem_letters_iff.2 rfl)

theorem Inside.append {xs ys : List Char} (hx : Inside xs) (hy : Inside ys) :
    Inside (xs ++ ys) := by
  induction hx with
  | nil => exact hy
  | char opening closing _ ih => exact .char opening closing ih
  | block inner _ _ ih =>
    rw [List.append_assoc, List.cons_append]
    exact .block inner ih

end TypeDescriptors.Grammar
