import TypeDescriptors.Erasure
import TypeDescriptors.FieldType.Construction
import TypeDescriptors.Grammar.Reader

set_option autoImplicit false

/-!
# The grammar of field types

A field type is a run of `[`, one for each dimension, and a scalar: the letter of a base type, or a
reference from `L` or `T` to the first `;` outside its type arguments. `L` is followed by the name
of a class, which is erased; `T` by the name of a type variable, whose erasure is the class of all
objects, since its bound is not known here.

The run of `[` is read to its end, so what follows never begins with `[`
(`dimensions_head`), and a reader for the element need not read arrays (`fieldOver_eq_field`).
Every reader takes at least one character (`field_shorter`).
-/
namespace TypeDescriptors.Grammar

def baseLetter : Reader BaseType
  | [] => fail (.unexpected [])
  | c :: rest =>
    match BaseType.ofLetter? c with
    | some b => .ok (b, rest)
    | none => fail (.unexpected (c :: rest))

def keep (c : Char) : Except Stop (List Char × List Char) → Except Stop (List Char × List Char)
  | .ok (body, rest) => .ok (c :: body, rest)
  | .error stop => .error stop

/-- Splits at the first `;` outside every block, from inside `depth` blocks: the body before it, and
the text after it. -/
def splitBody : Nat → Reader (List Char)
  | 0, [] => fail (.fatal .unterminatedReference [])
  | _ + 1, [] => fail (.fatal .unbalancedTypeArguments [])
  | 0, c :: cs =>
    if c = '<' then keep c (splitBody 1 cs)
    else if c = '>' then fail (.fatal .unbalancedTypeArguments (c :: cs))
    else if c = ';' then .ok ([], cs)
    else keep c (splitBody 0 cs)
  | depth + 1, c :: cs =>
    if c = '<' then keep c (splitBody (depth + 2) cs)
    else if c = '>' then keep c (splitBody depth cs)
    else keep c (splitBody (depth + 1) cs)

/-- Whether a body has a character outside every block, from inside `depth` blocks. -/
def isNamed : Nat → List Char → Bool
  | _, [] => false
  | depth, c :: cs =>
    if c = '<' then isNamed (depth + 1) cs
    else if c = '>' then isNamed (depth - 1) cs
    else depth == 0 || isNamed depth cs

def referenceBody : Reader (List Char) := fun text => do
  let (body, rest) ← splitBody 0 text
  if isNamed 0 body then .ok (body, rest) else fail (.fatal .emptyClassName text)

def request (outcome : Except Defect FieldType) (rest : List Char) :
    Except Stop (FieldType × List Char) :=
  match outcome with
  | .ok t => .ok (t, rest)
  | .error d => .error (.defect d)

def classReference : Reader FieldType := fun text => do
  let (body, rest) ← referenceBody text
  request (FieldType.ofClassName (String.ofList (Erasure.erase body))) rest

def variableReference : Reader FieldType := fun text => do
  let (_, rest) ← referenceBody text
  request (FieldType.ofClassName "java.lang.Object") rest

def baseType : Reader FieldType := fun text => do
  let (b, rest) ← baseLetter text
  .ok (FieldType.base b, rest)

def scalar : Reader FieldType
  | 'L' :: text => classReference text
  | 'T' :: text => variableReference text
  | text => baseType text

def dimensions : Reader Nat := fun text =>
  let count := (text.takeWhile fun c => c == '[').length
  let rest := text.dropWhile fun c => c == '['
  if count = 0 then fail (.unexpected text)
  else if FieldType.maxDimensions < count then fail (.fatal (.tooManyDimensions count) text)
  else .ok (count, rest)

/-- The element after the dimensions of an array. Only an array begins with `[`, so a fault here is
final. -/
def elementAfter {α : Type} (element : Reader α) : Reader α
  | 'V' :: rest => fail (.fatal .voidArrayElement ('V' :: rest))
  | text => cut element text

def arrayOver (element : Reader FieldType) : Reader FieldType := fun text => do
  let (count, text') ← dimensions text
  let (t, rest) ← elementAfter element text'
  request (FieldType.arrayOf t (UInt64.ofNat count)) rest

/-- A field type, with a reader for the elements of arrays. -/
def fieldOver (element : Reader FieldType) : Reader FieldType
  | '[' :: text => arrayOver element ('[' :: text)
  | text => scalar text

def field : Reader FieldType := fieldOver scalar

theorem baseLetter_eq_ok_iff {text rest : List Char} {b : BaseType} :
    baseLetter text = .ok (b, rest) ↔ text = b.letter :: rest := by
  cases text with
  | nil => simp [baseLetter, fail]
  | cons c cs =>
    simp only [baseLetter]
    split
    · rename_i b' h
      have letter := BaseType.ofLetter?_eq_some_iff.1 h
      simp only [Except.ok.injEq, Prod.mk.injEq, List.cons.injEq, and_congr_left_iff]
      rintro -
      constructor
      · rintro rfl
        exact letter.symm
      · intro eq
        exact Option.some.inj (h.symm.trans (BaseType.ofLetter?_eq_some_iff.2 eq.symm))
    · rename_i h
      have none := BaseType.ofLetter?_eq_none_iff.1 h b
      simp [fail, Ne.symm none]

theorem keep_eq_ok_iff {c : Char} {outcome : Except Stop (List Char × List Char)}
    {body rest : List Char} :
    keep c outcome = .ok (body, rest) ↔ ∃ tail, body = c :: tail ∧ outcome = .ok (tail, rest) := by
  cases outcome with
  | error stop => simp [keep]
  | ok pair =>
    obtain ⟨tail, rest'⟩ := pair
    simp only [keep, Except.ok.injEq, Prod.mk.injEq]
    constructor
    · rintro ⟨rfl, rfl⟩
      exact ⟨tail, rfl, rfl, rfl⟩
    · rintro ⟨_, rfl, rfl, rfl⟩
      exact ⟨rfl, rfl⟩

theorem splitBody_append {depth : Nat} {text body rest : List Char}
    (h : splitBody depth text = .ok (body, rest)) : text = body ++ ';' :: rest := by
  fun_induction splitBody depth text generalizing body with
  | case1 => simp [fail] at h
  | case2 => simp [fail] at h
  | case4 => simp [fail] at h
  | case5 =>
    simp only [Except.ok.injEq, Prod.mk.injEq] at h
    obtain ⟨rfl, rfl⟩ := h
    rfl
  | case3 | case6 | case7 | case8 | case9 =>
    rename_i ih
    obtain ⟨tail, rfl, read⟩ := keep_eq_ok_iff.1 h
    simp [ih read]

theorem referenceBody_eq_ok_iff {text body rest : List Char} :
    referenceBody text = .ok (body, rest) ↔
      splitBody 0 text = .ok (body, rest) ∧ isNamed 0 body = true := by
  constructor
  · intro h
    obtain ⟨⟨body', rest'⟩, read, h⟩ := bind_eq_ok_iff.1 h
    by_cases named : isNamed 0 body' = true
    · simp only [named, ↓reduceIte, Except.ok.injEq, Prod.mk.injEq] at h
      obtain ⟨rfl, rfl⟩ := h
      exact ⟨read, named⟩
    · simp [named, fail] at h
  · rintro ⟨read, named⟩
    exact bind_eq_ok_iff.2 ⟨(body, rest), read, by simp [named]⟩

theorem referenceBody_append {text body rest : List Char}
    (h : referenceBody text = .ok (body, rest)) : text = body ++ ';' :: rest :=
  splitBody_append (referenceBody_eq_ok_iff.1 h).1

theorem referenceBody_shorter {text body rest : List Char}
    (h : referenceBody text = .ok (body, rest)) : rest.length < text.length := by
  simp only [referenceBody_append h, List.length_append, List.length_cons]
  omega

theorem request_eq_ok_iff {outcome : Except Defect FieldType} {rest rest' : List Char}
    {t : FieldType} :
    request outcome rest = .ok (t, rest') ↔ outcome = .ok t ∧ rest = rest' := by
  cases outcome <;> simp [request]

theorem classReference_eq_ok_iff {text rest : List Char} {t : FieldType} :
    classReference text = .ok (t, rest) ↔
      ∃ body, referenceBody text = .ok (body, rest) ∧
        FieldType.ofClassName (String.ofList (Erasure.erase body)) = .ok t := by
  simp only [classReference, bind_eq_ok_iff, request_eq_ok_iff, Prod.exists]
  constructor
  · rintro ⟨body, _, read, named, rfl⟩
    exact ⟨body, read, named⟩
  · rintro ⟨body, read, named⟩
    exact ⟨body, rest, read, named, rfl⟩

theorem variableReference_eq_ok_iff {text rest : List Char} {t : FieldType} :
    variableReference text = .ok (t, rest) ↔
      t = (ElementType.object "java.lang.Object").type ∧
        ∃ body, referenceBody text = .ok (body, rest) := by
  have object : FieldType.ofClassName "java.lang.Object" =
      .ok (ElementType.object "java.lang.Object").type := by rfl
  simp only [variableReference, bind_eq_ok_iff, request_eq_ok_iff, Prod.exists, object,
    Except.ok.injEq]
  constructor
  · rintro ⟨body, _, read, rfl, rfl⟩
    exact ⟨rfl, body, read⟩
  · rintro ⟨rfl, body, read⟩
    exact ⟨body, rest, read, rfl, rfl⟩

theorem baseType_eq_ok_iff {text rest : List Char} {t : FieldType} :
    baseType text = .ok (t, rest) ↔ ∃ b, t = FieldType.base b ∧ text = b.letter :: rest := by
  simp only [baseType, bind_eq_ok_iff, baseLetter_eq_ok_iff, Prod.exists, Except.ok.injEq,
    Prod.mk.injEq]
  constructor
  · rintro ⟨b, _, read, rfl, rfl⟩
    exact ⟨b, rfl, read⟩
  · rintro ⟨b, rfl, read⟩
    exact ⟨b, rest, read, rfl, rfl⟩

theorem scalar_shorter {text rest : List Char} {t : FieldType}
    (h : scalar text = .ok (t, rest)) : rest.length < text.length := by
  unfold scalar at h
  split at h
  · obtain ⟨body, read, -⟩ := classReference_eq_ok_iff.1 h
    exact Nat.lt_succ_of_lt (referenceBody_shorter read)
  · obtain ⟨-, body, read⟩ := variableReference_eq_ok_iff.1 h
    exact Nat.lt_succ_of_lt (referenceBody_shorter read)
  · obtain ⟨b, -, rfl⟩ := baseType_eq_ok_iff.1 h
    simp

theorem dimensions_eq_ok_iff {text rest : List Char} {count : Nat} :
    dimensions text = .ok (count, rest) ↔
      count ≠ 0 ∧ count ≤ 255 ∧
        count = (text.takeWhile fun c => c == '[').length ∧
        rest = text.dropWhile fun c => c == '[' := by
  unfold dimensions FieldType.maxDimensions
  grind [fail]

theorem dimensions_append {text rest : List Char} {count : Nat}
    (h : dimensions text = .ok (count, rest)) : text = List.replicate count '[' ++ rest := by
  obtain ⟨-, -, rfl, rfl⟩ := dimensions_eq_ok_iff.1 h
  have run : (text.takeWhile fun c => c == '[') =
      List.replicate (text.takeWhile fun c => c == '[').length '[' := by
    refine List.eq_replicate_iff.2 ⟨rfl, fun c mem => ?_⟩
    simpa using List.all_eq_true.1 (List.all_takeWhile (l := text)) c mem
  rw [← run, List.takeWhile_append_dropWhile]

theorem dimensions_head {text rest : List Char} {count : Nat}
    (h : dimensions text = .ok (count, rest)) : rest.head? ≠ some '[' := by
  obtain ⟨-, -, -, rfl⟩ := dimensions_eq_ok_iff.1 h
  intro head
  have := List.head?_dropWhile_not (fun c => c == '[') text
  simp [head] at this

theorem dimensions_shorter {text rest : List Char} {count : Nat}
    (h : dimensions text = .ok (count, rest)) : rest.length < text.length := by
  obtain ⟨pos, -⟩ := dimensions_eq_ok_iff.1 h
  have length := congrArg List.length (dimensions_append h)
  simp at length
  omega

theorem elementAfter_eq_ok {α : Type} {element : Reader α} {text rest : List Char} {a : α}
    (h : elementAfter element text = .ok (a, rest)) : element text = .ok (a, rest) := by
  unfold elementAfter at h
  split at h
  · simp [fail] at h
  · exact cut_eq_ok_iff.1 h

theorem elementAfter_congr {α : Type} {a b : Reader α} {text : List Char} (h : a text = b text) :
    elementAfter a text = elementAfter b text := by
  unfold elementAfter
  split
  · rfl
  · simp only [cut, h]

theorem arrayOver_eq_ok_iff {element : Reader FieldType} {text rest : List Char} {t : FieldType} :
    arrayOver element text = .ok (t, rest) ↔
      ∃ count text' e, dimensions text = .ok (count, text') ∧
        elementAfter element text' = .ok (e, rest) ∧
        FieldType.arrayOf e (UInt64.ofNat count) = .ok t := by
  simp only [arrayOver, bind_eq_ok_iff, request_eq_ok_iff, Prod.exists]
  constructor
  · rintro ⟨count, text', run, e, _, read, made, rfl⟩
    exact ⟨count, text', e, run, read, made⟩
  · rintro ⟨count, text', e, run, read, made⟩
    exact ⟨count, text', run, e, rest, read, made, rfl⟩

theorem field_shorter {text rest : List Char} {t : FieldType}
    (h : field text = .ok (t, rest)) : rest.length < text.length := by
  unfold field fieldOver at h
  split at h
  · obtain ⟨count, text', e, run, read, -⟩ := arrayOver_eq_ok_iff.1 h
    exact Nat.lt_trans (scalar_shorter (elementAfter_eq_ok read)) (dimensions_shorter run)
  · exact scalar_shorter h

theorem fieldOver_eq_field {element : Reader FieldType}
    (h : ∀ text : List Char, text.head? ≠ some '[' → element text = scalar text) :
    fieldOver element = field := by
  funext text
  unfold field fieldOver
  split
  · unfold arrayOver
    cases run : dimensions _ with
    | error stop => rfl
    | ok pair =>
      obtain ⟨count, text'⟩ := pair
      simp only [bind, Except.bind, elementAfter_congr (h _ (dimensions_head run))]
  · rfl

end TypeDescriptors.Grammar
