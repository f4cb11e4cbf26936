import TypeDescriptors.ClassTable.History
import TypeDescriptors.Proofs.StrictMethod

set_option autoImplicit false

namespace TypeDescriptors.ClassTable
open Signature

/-- The invariant of tables: an entry has a properly named class under its own name, is what is
found under that name, and is numbered by its place. -/
structure Sound (table : ClassTable) : Prop where
  proper : ∀ entry : String × Instance, entry ∈ table.entries →
    entry.2.type.WellFormed ∧ entry.2.type.name = entry.1
  found : ∀ entry : String × Instance, entry ∈ table.entries →
    table.find? entry.1 = some entry.2
  numbered : ∀ (n : Nat) (entry : String × Instance), table.entries[n]? = some entry →
    entry.2.serial = n

theorem sound_empty : empty.Sound where
  proper := by simp [empty]
  found := by simp [empty]
  numbered := by simp [empty]

theorem mem_of_find? {table : ClassTable} {key : String} {i : Instance}
    (h : table.find? key = some i) : (key, i) ∈ table.entries := by
  obtain ⟨entry, first, rfl⟩ := Option.map_eq_some_iff.1 h
  have same : entry.1 = key := by simpa using List.find?_some first
  exact same ▸ List.mem_of_find?_eq_some first

theorem find?_of_prefix {table later : ClassTable} (kept : table.entries <+: later.entries)
    {key : String} {i : Instance} (h : table.find? key = some i) : later.find? key = some i := by
  obtain ⟨entry, first, rfl⟩ := Option.map_eq_some_iff.1 h
  obtain ⟨added, eq⟩ := kept
  simp [find?, ← eq, List.find?_append, first]

section Sound

variable {table : ClassTable}

theorem Sound.type_name (h : table.Sound) {key : String} {i : Instance}
    (held : table.find? key = some i) : i.type.name = key :=
  (h.proper _ (mem_of_find? held)).2

theorem Sound.eq_of_serial_eq (h : table.Sound) {a b : String} {x y : Instance}
    (hx : table.find? a = some x) (hy : table.find? b = some y) (eq : x.serial = y.serial) :
    x = y := by
  obtain ⟨m, atM⟩ := List.mem_iff_getElem?.1 (mem_of_find? hx)
  obtain ⟨n, atN⟩ := List.mem_iff_getElem?.1 (mem_of_find? hy)
  have serialX : x.serial = m := h.numbered m _ atM
  have serialY : y.serial = n := h.numbered n _ atN
  have places : m = n := by omega
  rw [places, atN] at atM
  exact (Prod.mk.inj (Option.some.inj atM)).2.symm

theorem Sound.adopt (h : table.Sound) {c : ClassType} (proper : c.WellFormed) :
    (table.adopt c).2.Sound := by
  have kept := table.entries_adopt c
  have here := table.find?_adopt c
  obtain ⟨held, -, eq⟩ | ⟨-, eq⟩ := table.adopt_cases c
  · rw [eq]
    exact h
  · rw [eq] at kept here ⊢
    constructor
    · intro entry mem
      obtain old | new := List.mem_append.1 mem
      · exact h.proper entry old
      · obtain rfl := List.mem_singleton.1 new
        exact ⟨proper, rfl⟩
    · intro entry mem
      obtain old | new := List.mem_append.1 mem
      · exact find?_of_prefix kept (h.found entry old)
      · obtain rfl := List.mem_singleton.1 new
        exact here
    · intro n entry place
      dsimp only at place
      rw [List.getElem?_append] at place
      split at place
      · exact h.numbered n entry place
      · rw [List.getElem?_singleton] at place
        split at place
        · obtain rfl := Option.some.inj place
          change table.entries.length = n
          omega
        · cases place

end Sound

theorem intern_cases (table : ClassTable) (name : String) :
    (name = "" ∧ table.intern name = .error .emptyClassName ∧ table.after name = table) ∨
      (name ≠ "" ∧ table.intern name = .ok (table.adopt (.named (ClassName.dotted name))) ∧
        table.after name = (table.adopt (.named (ClassName.dotted name))).2) := by
  by_cases empty : name = ""
  · subst empty
    exact .inl ⟨rfl, rfl, rfl⟩
  · have made : table.intern name = .ok (table.adopt (.named (ClassName.dotted name))) := by
      unfold intern
      rw [ClassType.ofName?_of_ne empty]
    refine .inr ⟨empty, made, ?_⟩
    unfold after
    rw [made]

theorem Sound.after {table : ClassTable} (h : table.Sound) (name : String) :
    (table.after name).Sound := by
  obtain ⟨-, -, eq⟩ | ⟨ne, -, eq⟩ := table.intern_cases name
  · rw [eq]
    exact h
  · rw [eq]
    exact h.adopt (ClassType.wellFormed_named_dotted ne)

theorem entries_after (table : ClassTable) (name : String) :
    table.entries <+: (table.after name).entries := by
  obtain ⟨-, -, eq⟩ | ⟨-, -, eq⟩ := table.intern_cases name
  · exact ⟨[], by rw [eq, List.append_nil]⟩
  · rw [eq]
    exact table.entries_adopt _

theorem Sound.afterNames {table : ClassTable} (h : table.Sound) (names : List String) :
    (table.afterNames names).Sound := by
  induction names generalizing table with
  | nil => exact h
  | cons name names ih => exact ih (h.after name)

theorem entries_afterNames (table : ClassTable) (names : List String) :
    table.entries <+: (table.afterNames names).entries := by
  induction names generalizing table with
  | nil => exact List.prefix_refl _
  | cons name names ih => exact (table.entries_after name).trans (ih _)

/-- What the answer to a request says of a table: the table has the instance under the dotted name,
or the name is empty. -/
def Answered (table : ClassTable) (name : String) : Except Defect Instance → Prop
  | .ok i => name ≠ "" ∧ table.find? (ClassName.dotted name) = some i
  | .error d => name = "" ∧ d = .emptyClassName

theorem Answered.later {table final : ClassTable} (kept : table.entries <+: final.entries)
    {name : String} {answer : Except Defect Instance} (h : table.Answered name answer) :
    final.Answered name answer := by
  cases answer with
  | ok i => exact ⟨h.1, find?_of_prefix kept h.2⟩
  | error d => exact h

theorem intern_answered (table : ClassTable) (name : String) :
    (table.after name).Answered name ((table.intern name).map Prod.fst) := by
  obtain ⟨empty, made, -⟩ | ⟨ne, made, eq⟩ := table.intern_cases name
  · rw [made]
    exact ⟨empty, rfl⟩
  · rw [made, eq]
    exact ⟨ne, table.find?_adopt _⟩

theorem internEach_answered (table : ClassTable) (names : List String) :
    ∀ asked ∈ names.zip (table.internEach names),
      (table.afterNames names).Answered asked.1 asked.2 := by
  induction names generalizing table with
  | nil => simp
  | cons name names ih =>
    intro asked mem
    obtain rfl | later := List.mem_cons.1 mem
    · exact (table.intern_answered name).later ((table.after name).entries_afterNames names)
    · exact ih _ asked later

theorem length_internEach (table : ClassTable) (names : List String) :
    (table.internEach names).length = names.length := by
  induction names generalizing table with
  | nil => rfl
  | cons name names ih => simp [internEach, ih]

def transcript (calls : List Call) : List (String × Except Defect Instance) :=
  (calls.flatMap Call.names).zip (empty.internEach (calls.flatMap Call.names))

theorem transcript_fst (calls : List Call) :
    (transcript calls).map Prod.fst = calls.flatMap Call.names :=
  List.map_fst_zip (Nat.le_of_eq (length_internEach _ _).symm)

theorem transcript_answered (calls : List Call) :
    ∀ asked ∈ transcript calls, (empty.afterCalls calls).Answered asked.1 asked.2 := by
  rw [afterCalls_eq]
  exact empty.internEach_answered _

theorem afterCalls_append (table : ClassTable) (calls more : List Call) :
    table.afterCalls (calls ++ more) = (table.afterCalls calls).afterCalls more :=
  List.foldl_append

theorem intern_of_ofClassName {name : String} {t : FieldType}
    (made : FieldType.ofClassName name = .ok t) :
    ∃ c, t = FieldType.object c ∧
      ∀ table : ClassTable, table.intern name = table.intern c.name := by
  obtain ⟨ne, rfl⟩ := FieldType.ofClassName_eq_ok_iff.1 made
  refine ⟨_, rfl, ?_⟩
  intro table
  unfold intern
  rw [ClassType.ofName?_of_ne ne, ClassType.named_name,
    ClassType.ofName?_of_ne (mt ClassName.dotted_eq_empty_iff.1 ne),
    ClassName.dotted_eq_self (ClassName.slash_notMem_dotted name)]

def classNames (types : List FieldType) : List String :=
  (types.filterMap FieldType.class?).map ClassType.name

/-- What a successful reading asks the table for is the classes of its answer, in order. -/
structure AsksForAnswer (text : String) : Prop where
  type : ∀ reading, readType text = .ok reading →
    (Call.type text).names = classNames [reading.value]
  returned : ∀ reading, readReturn text = .ok reading →
    (Call.returned text).names = classNames [reading.value]
  arguments : ∀ reading, readArguments text = .ok reading →
    (Call.arguments text).names = classNames reading.value
  method : ∀ m, parseMethod text = .ok m →
    (Call.method text).names = classNames (m.argumentTypes ++ [m.returnType])

theorem classesOfField_of_complete {text : String} {input : List Char} {reading : Reading FieldType}
    (h : complete text Grammar.field input = .ok reading) :
    (classesOfField input).map ClassType.name = classNames [reading.value] := by
  obtain ⟨rest, read, -⟩ := complete_eq_ok_iff.1 h
  unfold classesOfField classNames
  rw [read]
  cases named : reading.value.class? <;> simp [named]

theorem asksForAnswer (text : String) : AsksForAnswer text where
  type _ h := classesOfField_of_complete h
  returned _ h := classesOfField_of_complete h
  arguments := by
    intro reading h
    obtain ⟨rest, read, -⟩ := complete_eq_ok_iff.1 h
    change (classesOfArguments text).map ClassType.name = _
    rw [classesOfArguments, Grammar.argumentsRead_of_arguments read]
    rfl
  method := by
    intro m h
    obtain ⟨left, opened, read⟩ := Grammar.method_eq_ok_iff.1 (parseMethod_eq_ok_iff_method.1 h)
    change (classesOfMethod text).map ClassType.name = _
    rw [classesOfMethod, Grammar.methodTypesRead, Grammar.argumentsRead_of_arguments opened]
    dsimp only
    rw [read]
    rfl

theorem Sound.intern_eq_ok {table : ClassTable} (h : table.Sound) {name : String} (ne : name ≠ "") :
    ∃ i, table.intern name = .ok (i, table.after name) ∧
      i.type.name.toList = (name.toList.map fun c => if c = '/' then '.' else c) ∧
      i.type.signature.toList =
        'L' :: (name.toList.map fun c => if c = '.' then '/' else c) ++ [';'] ∧
      (table.after name).find? i.type.name = some i := by
  obtain ⟨empty, -⟩ | ⟨-, made, eq⟩ := table.intern_cases name
  · exact absurd empty ne
  · have held := table.find?_adopt (.named (ClassName.dotted name))
    rw [← eq, ClassType.named_name] at held
    have later := h.after name
    have dotted := later.type_name held
    have proper := (later.proper _ (mem_of_find? held)).1
    refine ⟨_, by rw [made, eq], ?_, ?_, by rwa [dotted]⟩
    · rw [dotted, ClassName.toList_dotted]
      rfl
    · rw [proper.eq_named, ClassType.toList_signature_named_slashed, dotted,
        ClassName.slashed_dotted, ClassName.toList_slashed]
      rfl

theorem intern_eq_error {table : ClassTable} {name : String} {d : Defect}
    (h : table.intern name = .error d) :
    name = "" ∧ d = .emptyClassName ∧ table.after name = table := by
  obtain ⟨empty, made, eq⟩ | ⟨-, made, -⟩ := table.intern_cases name
  · rw [made] at h
    exact ⟨empty, (Except.error.inj h).symm, eq⟩
  · rw [made] at h
    cases h

/-- Two answers of a run are one instance exactly when the names asked for are one class, and it is
by their serial numbers that instances are told apart. -/
theorem Sound.same_instance_iff {table : ClassTable} (h : table.Sound) {a b : String}
    {x y : Instance} (hx : table.Answered a (.ok x)) (hy : table.Answered b (.ok y)) :
    (x = y ↔ (a.toList.map fun c => if c = '/' then '.' else c) =
        b.toList.map fun c => if c = '/' then '.' else c) ∧
      (x.serial = y.serial ↔ x = y) := by
  obtain ⟨-, heldX⟩ := hx
  obtain ⟨-, heldY⟩ := hy
  change (x = y ↔ a.toList.map ClassName.dotOf = b.toList.map ClassName.dotOf) ∧ _
  rw [← ClassName.toList_dotted, ← ClassName.toList_dotted, String.toList_inj]
  refine ⟨⟨?_, ?_⟩, h.eq_of_serial_eq heldX heldY, congrArg Instance.serial⟩
  · rintro rfl
    rw [← h.type_name heldX, h.type_name heldY]
  · intro eq
    rw [eq, heldY] at heldX
    exact (Option.some.inj heldX).symm

/-- After any history of calls, failed requests and failed readings among them, each class that was
asked for has one instance, properly made and under its dotted name. It is kept from then on and is
what the requests for that class are answered with. -/
theorem one_instance_for_each_class (calls : List Call) :
    (∀ key i, (key, i) ∈ (empty.afterCalls calls).entries →
      key ≠ "" ∧ '/' ∉ key.toList ∧ i.type.name = key ∧
        i.type.signature.toList =
          'L' :: (key.toList.map fun c => if c = '.' then '/' else c) ++ [';'] ∧
        (empty.afterCalls calls).find? key = some i) ∧
      (∀ more, (empty.afterCalls calls).entries <+: (empty.afterCalls (calls ++ more)).entries) ∧
      (∀ name d, (empty.afterCalls calls).intern name = .error d →
        name = "" ∧ d = .emptyClassName ∧
          (empty.afterCalls calls).after name = empty.afterCalls calls) ∧
      (∀ name, name ≠ "" → ∃ i,
        (empty.afterCalls calls).intern name = .ok (i, (empty.afterCalls calls).after name) ∧
          i.type.name.toList = (name.toList.map fun c => if c = '/' then '.' else c) ∧
          i.type.signature.toList =
            'L' :: (name.toList.map fun c => if c = '.' then '/' else c) ++ [';'] ∧
          ((empty.afterCalls calls).after name).find? i.type.name = some i) ∧
      (∀ name t, FieldType.ofClassName name = .ok t → ∃ c, t = FieldType.object c ∧
        ∀ table : ClassTable, table.intern name = table.intern c.name) ∧
      (∀ text, AsksForAnswer text) ∧
      (transcript calls).map Prod.fst = calls.flatMap Call.names ∧
      ∀ a b x y, (a, .ok x) ∈ transcript calls → (b, .ok y) ∈ transcript calls →
        (x = y ↔ (a.toList.map fun c => if c = '/' then '.' else c) =
            b.toList.map fun c => if c = '/' then '.' else c) ∧
          (x.serial = y.serial ↔ x = y) := by
  have sound : (empty.afterCalls calls).Sound := by
    rw [afterCalls_eq]
    exact sound_empty.afterNames _
  refine ⟨?_, ?_, fun _ _ => intern_eq_error, fun _ => sound.intern_eq_ok,
    fun _ _ => intern_of_ofClassName, asksForAnswer, transcript_fst calls, ?_⟩
  · intro key i mem
    obtain ⟨proper, named⟩ := sound.proper _ mem
    dsimp only at proper named
    subst named
    exact ⟨proper.ne_empty, proper.slash_notMem, rfl, proper.signature_eq, sound.found _ mem⟩
  · intro more
    rw [afterCalls_append, afterCalls_eq _ more]
    exact entries_afterNames _ _
  · intro a b x y askedX askedY
    have answered := transcript_answered calls
    exact sound.same_instance_iff (answered _ askedX) (answered _ askedY)

/-- A reading that fails behind a class has asked for it all the same, and shares its instance with
the request that spells it with slashes. -/
theorem failed_reading_shares_instance :
    Signature.parseType "La/B<I>;x" =
        .error (.malformed ⟨"La/B<I>;x", .trailingCharacters, 8⟩) ∧
      ∃ x y z : Instance,
        transcript [.name "a/B", .name "", .type "La/B<I>;x", .name "c"] =
          [("a/B", .ok x), ("", .error .emptyClassName), ("a.B", .ok y), ("c", .ok z)] ∧
        x = y ∧ x.serial ≠ z.serial := by
  obtain ⟨-, -, -, -, -, -, -, told⟩ :=
    one_instance_for_each_class [.name "a/B", .name "", .type "La/B<I>;x", .name "c"]
  obtain ⟨x, y, z, asked⟩ : ∃ x y z : Instance,
      transcript [.name "a/B", .name "", .type "La/B<I>;x", .name "c"] =
        [("a/B", .ok x), ("", .error .emptyClassName), ("a.B", .ok y), ("c", .ok z)] :=
    ⟨⟨0, .named "a.B"⟩, ⟨0, .named "a.B"⟩, ⟨1, .named "c"⟩, by rfl⟩
  rw [asked] at told
  obtain ⟨spellings, -⟩ := told "a/B" "a.B" x y (by simp) (by simp)
  obtain ⟨classes, serials⟩ := told "a/B" "c" x z (by simp) (by simp)
  refine ⟨by rfl, x, y, z, asked, spellings.2 (by rfl), ?_⟩
  intro eq
  have one := classes.1 (serials.1 eq)
  exact absurd one (by decide)

end TypeDescriptors.ClassTable
