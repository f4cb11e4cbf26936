import TypeDescriptors.Defect

set_option autoImplicit false

/-!
# The table of classes

A class that is asked for again is the same instance. The table holds one instance for each dotted
name, in the order of first requests; entries are only added, and an instance is told from the
others by its serial number. A request that fails leaves the table as it was.
-/
namespace TypeDescriptors

structure Instance where
  serial : Nat
  type : ClassType
  deriving DecidableEq, Repr

structure ClassTable where
  entries : List (String × Instance)
  deriving DecidableEq, Repr

namespace ClassTable

def empty : ClassTable := ⟨[]⟩

def size (table : ClassTable) : Nat := table.entries.length

def find? (table : ClassTable) (key : String) : Option Instance :=
  (table.entries.find? fun entry => entry.1 == key).map Prod.snd

def adopt (table : ClassTable) (c : ClassType) : Instance × ClassTable :=
  match table.find? c.name with
  | some held => (held, table)
  | none =>
    let made : Instance := ⟨table.size, c⟩
    (made, ⟨table.entries ++ [(c.name, made)]⟩)

def intern (table : ClassTable) (name : String) : Except Defect (Instance × ClassTable) :=
  match ClassType.ofName? name with
  | some c => .ok (table.adopt c)
  | none => .error .emptyClassName

def after (table : ClassTable) (name : String) : ClassTable :=
  match table.intern name with
  | .ok (_, table') => table'
  | .error _ => table

def internEach (table : ClassTable) : List String → List (Except Defect Instance)
  | [] => []
  | name :: names =>
    (table.intern name).map Prod.fst :: internEach (table.after name) names

/-- The classes of a list that the table does not hold yet, each once and in order, and the table
that holds them all. -/
def adoptAll (table : ClassTable) : List ClassType → List ClassType × ClassTable
  | [] => ([], table)
  | c :: classes =>
    let (made, table') := table.adopt c
    let (new, final) := table'.adoptAll classes
    (if table.size = made.serial then c :: new else new, final)

/-- For each success among the answers, the number of the first success with the same instance,
where successes are numbered from 0; `given` holds the instances of the successes before. -/
def sameAs (given : List Instance) :
    List (Except Defect Instance) → List (Except Defect (Instance × Nat))
  | [] => []
  | .error d :: answers => .error d :: sameAs given answers
  | .ok i :: answers =>
    let given' := given ++ [i]
    .ok (i, given'.idxOf i) :: sameAs given' answers

theorem adopt_cases (table : ClassTable) (c : ClassType) :
    (∃ held, table.find? c.name = some held ∧ table.adopt c = (held, table)) ∨
      (table.find? c.name = none ∧ table.adopt c =
        (⟨table.size, c⟩, ⟨table.entries ++ [(c.name, ⟨table.size, c⟩)]⟩)) := by
  unfold adopt
  cases table.find? c.name with
  | some held => exact .inl ⟨held, rfl, rfl⟩
  | none => exact .inr ⟨rfl, rfl⟩

theorem find?_adopt (table : ClassTable) (c : ClassType) :
    (table.adopt c).2.find? c.name = some (table.adopt c).1 := by
  obtain ⟨held, found, eq⟩ | ⟨missing, eq⟩ := table.adopt_cases c
  · rw [eq]
    exact found
  · simp only [find?, Option.map_eq_none_iff] at missing
    simp [eq, find?, List.find?_append, missing]

theorem entries_adopt (table : ClassTable) (c : ClassType) :
    table.entries <+: (table.adopt c).2.entries := by
  obtain ⟨held, -, eq⟩ | ⟨-, eq⟩ := table.adopt_cases c
  · exact ⟨[], by rw [eq, List.append_nil]⟩
  · rw [eq]
    exact List.prefix_append _ _

end ClassTable
end TypeDescriptors
