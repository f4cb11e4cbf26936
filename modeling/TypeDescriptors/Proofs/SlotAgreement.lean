import TypeDescriptors.Proofs.ArgumentLists

set_option autoImplicit false

namespace TypeDescriptors.Grammar

def mapValue {α β : Type} (f : α → β) (outcome : Except Stop (α × List Char)) :
    Except Stop (β × List Char) :=
  outcome.map fun read => (f read.1, read.2)

theorem cut_mapValue {α β : Type} (f : α → β) {a : Reader α} {b : Reader β} {text : List Char}
    (h : b text = mapValue f (a text)) : cut b text = mapValue f (cut a text) := by
  unfold cut
  rw [h]
  cases a text with
  | ok read => rfl
  | error stop => cases stop <;> rfl

theorem elementAfter_mapValue {α β : Type} (f : α → β) {a : Reader α} {b : Reader β}
    {text : List Char} (h : b text = mapValue f (a text)) :
    elementAfter b text = mapValue f (elementAfter a text) := by
  unfold elementAfter
  split
  · rfl
  · exact cut_mapValue f h

theorem baseSlots_eq_map (text : List Char) :
    baseSlots text = mapValue FieldType.slots (baseType text) := by
  unfold baseSlots baseType
  cases baseLetter text with
  | error stop => rfl
  | ok read => rfl

theorem classSlots_eq_map (text : List Char) :
    referenceSlots text = mapValue FieldType.slots (classReference text) := by
  unfold referenceSlots classReference
  cases read : referenceBody text with
  | error stop => rfl
  | ok pair =>
    obtain ⟨body, rest⟩ := pair
    obtain ⟨parts, legal, rfl, -⟩ := referenceBody_eq_ok_iff_parts.1 read
    have named := ofClassName_erase_bodyText legal
    simp only [bind, Except.bind, named]
    rfl

theorem variableSlots_eq_map (text : List Char) :
    referenceSlots text = mapValue FieldType.slots (variableReference text) := by
  unfold referenceSlots variableReference
  cases referenceBody text with
  | error stop => rfl
  | ok read => rfl

theorem scalarSlots_eq_map (text : List Char) :
    scalarSlots text = mapValue FieldType.slots (scalar text) := by
  unfold scalar
  split
  · exact classSlots_eq_map _
  · exact variableSlots_eq_map _
  · rename_i notClass notVariable
    have letter : scalarSlots text = baseSlots text := by
      unfold scalarSlots
      split
      · exact absurd rfl (notClass _)
      · exact absurd rfl (notVariable _)
      · rfl
    rw [letter, baseSlots_eq_map]

theorem arraySlots_eq_map (text : List Char) :
    arraySlotsOver scalarSlots text = mapValue FieldType.slots (arrayOver scalar text) := by
  unfold arraySlotsOver arrayOver
  cases run : dimensions text with
  | error stop => rfl
  | ok pair =>
    obtain ⟨count, text'⟩ := pair
    obtain ⟨pos, limit, -, -⟩ := dimensions_eq_ok_iff_replicate.1 run
    have same := elementAfter_mapValue FieldType.slots (scalarSlots_eq_map text')
    simp only [bind, Except.bind, same]
    cases read : elementAfter scalar text' with
    | error stop => rfl
    | ok pair =>
      obtain ⟨t, rest⟩ := pair
      obtain ⟨core, e, denotes, ne, rfl, -⟩ := elementAfter_scalar_eq_ok_iff.1 read
      simp only [mapValue, Except.map, FieldType.arrayOf_count ne pos limit, request,
        FieldType.slots_withDimensions_of_pos e count pos]

theorem fieldSlots_eq_map (text : List Char) :
    fieldSlots text = mapValue FieldType.slots (field text) := by
  by_cases head : text.head? = some '['
  · obtain ⟨cs, rfl⟩ := List.head?_eq_some_iff.1 head
    exact arraySlots_eq_map _
  · have scalars : fieldSlots text = scalarSlots text := by
      unfold fieldSlots fieldSlotsOver
      split
      · simp at head
      · rfl
    rw [scalars, field_of_head_ne head, scalarSlots_eq_map]

/-- How the reading of arguments ended, with their slots added to those counted before. -/
def totalSlots (sum : Nat) :
    List FieldType × Except Stop (List Char) → Except Stop (Nat × List Char)
  | (types, .ok rest) => .ok (sum + FieldType.slotSum types, rest)
  | (_, .error stop) => .error stop

theorem totalSlots_cons (sum : Nat) (t : FieldType) (types : List FieldType)
    (ending : Except Stop (List Char)) :
    totalSlots sum (t :: types, ending) = totalSlots (sum + t.slots) (types, ending) := by
  cases ending with
  | error stop => rfl
  | ok rest => simp [totalSlots, FieldType.slotSum, Nat.add_assoc]

theorem slotsUntilClose_of_ok {text rest : List Char} {stop : Stop} {sum n : Nat}
    (close : char ')' text = .error stop) (read : fieldSlots text = .ok (n, rest)) :
    slotsUntilClose sum text = slotsUntilClose (sum + n) rest := by
  rw [slotsUntilClose, close]
  dsimp only
  split
  · rename_i found
    obtain ⟨rfl, rfl⟩ := Prod.mk.inj (Except.ok.inj (read.symm.trans found))
    rfl
  · rename_i found
    rw [read] at found
    cases found

theorem slotsUntilClose_of_error {text : List Char} {stop fault : Stop} {sum : Nat}
    (close : char ')' text = .error stop) (read : fieldSlots text = .error fault) :
    slotsUntilClose sum text = .error fault := by
  rw [slotsUntilClose, close]
  dsimp only
  split
  · rename_i found
    rw [read] at found
    cases found
  · rename_i found
    rw [← read, found]

theorem slotsUntilClose_eq (sum : Nat) (text : List Char) :
    slotsUntilClose sum text = totalSlots sum (itemsUntil field ')' text) := by
  -- By the steps of the list loop, for any sum counted so far, since the other loop passes it on.
  fun_induction itemsUntil field ')' text generalizing sum with
  | case1 text c rest close =>
    rw [slotsUntilClose, close]
    rfl
  | case2 text stop close f read | case3 text stop close f read =>
    have slots := fieldSlots_eq_map text
    rw [read] at slots
    rw [slotsUntilClose_of_error close slots]
    rfl
  | case4 text stop close t rest read _ types ending next ih =>
    have slots := fieldSlots_eq_map text
    rw [read] at slots
    rw [slotsUntilClose_of_ok close slots, ih, next, totalSlots_cons]
  | case5 text stop close t rest read longer => exact absurd (field_shorter read) longer

theorem argumentSlots_eq_map (text : List Char) :
    argumentSlots text = mapValue FieldType.slotSum (arguments text) := by
  unfold argumentSlots arguments argumentsRead
  cases openParen text with
  | error stop => rfl
  | ok inside =>
    simp only [bind, Except.bind, slotsUntilClose_eq]
    obtain ⟨types, ending⟩ := itemsUntil field ')' inside
    cases ending with
    | error stop => rfl
    | ok rest => simp [totalSlots, mapValue, Except.map]

end TypeDescriptors.Grammar

namespace TypeDescriptors.Signature
open Grammar

def Reading.map {α β : Type} (f : α → β) (reading : Reading α) : Reading β :=
  ⟨f reading.value, reading.consumed⟩

theorem complete_mapValue {α β : Type} (f : α → β) {a : Reader α} {b : Reader β}
    {input : List Char} (text : String) (h : b input = mapValue f (a input)) :
    complete text b input = (complete text a input).map (Reading.map f) := by
  unfold complete
  rw [h]
  cases a input with
  | error stop => rfl
  | ok read => rfl

theorem readTypeSlots_eq_map (text : String) :
    readTypeSlots text = (readType text).map (Reading.map FieldType.slots) :=
  complete_mapValue _ text (fieldSlots_eq_map _)

theorem readArgumentSlots_eq_map (text : String) :
    readArgumentSlots text = (readArguments text).map (Reading.map FieldType.slotSum) :=
  complete_mapValue _ text (argumentSlots_eq_map _)

theorem readReturnSlots_eq_map (text : String) :
    readReturnSlots text = (readReturn text).map (Reading.map FieldType.slots) :=
  complete_mapValue _ text (fieldSlots_eq_map _)

/-- The readings for slots alone give the slots of what the readings for types give, from as many
bytes, and the same failure where those fail. -/
theorem slot_readings_eq_map (text : String) :
    readTypeSlots text = (readType text).map (Reading.map FieldType.slots) ∧
      readArgumentSlots text = (readArguments text).map (Reading.map FieldType.slotSum) ∧
      readReturnSlots text = (readReturn text).map (Reading.map FieldType.slots) ∧
      (∀ types consumed, readArguments text = .ok ⟨types, consumed⟩ →
        ∃ taken rest, text.toList = taken ++ rest ∧ arguments text.toList = .ok (types, rest) ∧
          consumed = Text.byteLength taken) ∧
      ∀ cs : List Char, fieldSlots cs = (field cs).map fun read => (read.1.slots, read.2) := by
  refine ⟨readTypeSlots_eq_map text, readArgumentSlots_eq_map text, readReturnSlots_eq_map text,
    ?_, fieldSlots_eq_map⟩
  intro types consumed h
  obtain ⟨rest, read, rfl⟩ := complete_eq_ok_iff.1 h
  obtain ⟨before, segments, -, -, eq⟩ := arguments_eq_ok_iff.1 read
  have split : text.toList = before ++ '(' :: (Segment.chars segments ++ [')']) ++ rest := by
    simp [eq]
  refine ⟨_, rest, split, read, ?_⟩
  rw [split, Text.byteLength_append]
  omega

end TypeDescriptors.Signature
