import TypeDescriptors.Proofs.ArgumentLists

set_option autoImplicit false

namespace TypeDescriptors.Grammar

/-- An outcome inside of a text, with nothing asked for that does not exist. -/
def EndsIn {α : Type} (text : List Char) : Except Stop (α × List Char) → Prop
  | .ok (_, rest) => rest <:+ text
  | .error (.fault f) => f.rest <:+ text
  | .error (.defect _) => False

theorem EndsIn.mono {α : Type} {inner text : List Char} {outcome : Except Stop (α × List Char)}
    (h : EndsIn inner outcome) (inside : inner <:+ text) : EndsIn text outcome := by
  match outcome, h with
  | .ok _, h => exact h.trans inside
  | .error (.fault _), h => exact h.trans inside

theorem EndsIn.bind {α β : Type} {text : List Char} {first : Except Stop (α × List Char)}
    {next : α × List Char → Except Stop (β × List Char)} (h : EndsIn text first)
    (step : ∀ a rest, first = .ok (a, rest) → rest <:+ text → EndsIn text (next (a, rest))) :
    EndsIn text (first >>= next) := by
  match first, h, step with
  | .ok (a, rest), h, step => exact step a rest rfl h
  | .error (.fault _), h, _ => exact h

theorem EndsIn.cut {α : Type} {reader : Reader α} {text : List Char}
    (h : EndsIn text (reader text)) : EndsIn text (cut reader text) := by
  unfold Grammar.cut
  split
  · rename_i f found
    rw [found] at h
    exact h
  · exact h

theorem EndsIn.keep {c : Char} {cs : List Char} {outcome : Except Stop (List Char × List Char)}
    (h : EndsIn cs outcome) : EndsIn (c :: cs) (keep c outcome) := by
  match outcome, h with
  | .ok _, h => exact h.trans (List.suffix_cons c cs)
  | .error (.fault _), h => exact h.trans (List.suffix_cons c cs)

theorem EndsIn.ne_defect {α : Type} {text : List Char} {outcome : Except Stop (α × List Char)}
    (h : EndsIn text outcome) (d : Defect) : outcome ≠ .error (.defect d) := by
  intro defect
  rw [defect] at h
  exact h

theorem unexpected_endsIn (α : Type) (text : List Char) :
    EndsIn (α := α) text (fail (.unexpected text)) := by
  cases text with
  | nil => exact List.suffix_refl _
  | cons c cs => exact List.suffix_refl _

theorem baseLetter_endsIn (text : List Char) : EndsIn text (baseLetter text) := by
  cases text with
  | nil => exact unexpected_endsIn _ []
  | cons c cs =>
    simp only [baseLetter]
    split
    · exact List.suffix_cons c cs
    · exact unexpected_endsIn _ (c :: cs)

theorem splitBody_endsIn (depth : Nat) (text : List Char) :
    EndsIn text (splitBody depth text) := by
  fun_induction splitBody depth text with
  | case1 => exact List.suffix_refl []
  | case2 => exact List.suffix_refl []
  | case4 cs => exact List.suffix_refl _
  | case5 cs => exact List.suffix_cons _ cs
  | case3 | case6 | case7 | case8 | case9 =>
    rename_i ih
    exact ih.keep

theorem referenceBody_endsIn (text : List Char) : EndsIn text (referenceBody text) := by
  apply (splitBody_endsIn 0 text).bind
  intro body rest _ inside
  dsimp only
  split
  · exact inside
  · -- An empty name is found behind the body, but its fault is laid at the beginning.
    exact List.suffix_refl text

theorem classReference_endsIn (text : List Char) : EndsIn text (classReference text) := by
  apply (referenceBody_endsIn text).bind
  intro body rest read inside
  obtain ⟨parts, legal, rfl, -⟩ := referenceBody_eq_ok_iff_parts.1 read
  simp only [ofClassName_erase_bodyText legal, request]
  exact inside

theorem variableReference_endsIn (text : List Char) : EndsIn text (variableReference text) := by
  apply (referenceBody_endsIn text).bind
  intro body rest _ inside
  exact inside

theorem baseType_endsIn (text : List Char) : EndsIn text (baseType text) := by
  apply (baseLetter_endsIn text).bind
  intro b rest _ inside
  exact inside

theorem scalar_endsIn (text : List Char) : EndsIn text (scalar text) := by
  unfold scalar
  split
  · exact (classReference_endsIn _).mono (List.suffix_cons _ _)
  · exact (variableReference_endsIn _).mono (List.suffix_cons _ _)
  · exact baseType_endsIn _

theorem dimensions_endsIn (text : List Char) : EndsIn text (dimensions text) := by
  unfold dimensions
  dsimp only
  split
  · exact unexpected_endsIn _ text
  · split
    · exact List.suffix_refl text
    · exact List.dropWhile_suffix _

theorem elementAfter_endsIn {α : Type} {element : Reader α} {text : List Char}
    (h : EndsIn text (element text)) : EndsIn text (elementAfter element text) := by
  unfold elementAfter
  split
  · exact List.suffix_refl _
  · exact h.cut

theorem arrayOver_endsIn (text : List Char) : EndsIn text (arrayOver scalar text) := by
  apply (dimensions_endsIn text).bind
  intro count text' run inside
  have element := elementAfter_endsIn (scalar_endsIn text')
  apply (element.mono inside).bind
  intro t rest read within
  obtain ⟨pos, limit, -, -⟩ := dimensions_eq_ok_iff_replicate.1 run
  obtain ⟨core, e, -, ne, rfl, -⟩ := elementAfter_scalar_eq_ok_iff.1 read
  simp only [FieldType.arrayOf_count ne pos limit, request]
  exact within

theorem field_endsIn (text : List Char) : EndsIn text (field text) := by
  unfold field fieldOver
  split
  · exact arrayOver_endsIn _
  · exact scalar_endsIn _

theorem itemsUntil_endsIn (text : List Char) :
    EndsIn text ((itemsUntil field ')' text).2.map fun rest => ((), rest)) := by
  -- By the steps of the loop, which reads on in what the last argument has left.
  fun_induction itemsUntil field ')' text with
  | case1 text c rest close =>
    obtain ⟨-, rfl⟩ := char_eq_ok_iff.1 close
    exact List.suffix_cons _ rest
  | case2 text stop close f read =>
    have inside := field_endsIn text
    rw [read] at inside
    exact inside
  | case3 text stop close d read => exact absurd read ((field_endsIn text).ne_defect d)
  | case4 text stop close t rest read shorter types ending next ih =>
    have inside := field_endsIn text
    rw [read] at inside
    rw [next] at ih
    exact ih.mono inside
  | case5 text stop close t rest read longer => exact absurd (field_shorter read) longer

theorem arguments_endsIn (text : List Char) : EndsIn text (arguments text) := by
  unfold arguments argumentsRead
  cases opened : openParen text with
  | error stop =>
    unfold openParen at opened
    split at opened
    · obtain rfl := Except.error.inj opened
      exact List.suffix_refl text
    · cases opened
  | ok inner =>
    obtain ⟨before, -, rfl⟩ := openParen_eq_ok_iff.1 opened
    have inside : inner <:+ before ++ '(' :: inner :=
      (List.suffix_cons '(' inner).trans (List.suffix_append before _)
    have items := itemsUntil_endsIn inner
    dsimp only
    split
    · rename_i types rest ending
      rw [ending] at items
      exact items.trans inside
    · rename_i types stop ending
      rw [ending] at items
      cases stop with
      | fault f => exact items.trans inside
      | defect d => exact items

end TypeDescriptors.Grammar

namespace TypeDescriptors.Signature
open Grammar

theorem failure_of_complete {α : Type} {text : String} {reader : Reader α} {input : List Char}
    {failed : Failure} (inside : EndsIn input (reader input))
    (h : complete text reader input = .error failed) :
    ∃ f : Fault, reader input = .error (.fault f) ∧ f.rest <:+ input ∧
      failed = .malformed
        ⟨text, f.reason, Text.byteLength text.toList - Text.byteLength f.rest⟩ := by
  unfold complete at h
  match read : reader input with
  | .ok _ =>
    rw [read] at h
    cases h
  | .error (.fault f) =>
    rw [read] at h inside
    exact ⟨f, rfl, inside, (Except.error.inj h).symm⟩
  | .error (.defect d) => exact absurd read (inside.ne_defect d)

end TypeDescriptors.Signature
