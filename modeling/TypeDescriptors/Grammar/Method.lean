import TypeDescriptors.Grammar.Slots
import TypeDescriptors.MethodType

set_option autoImplicit false

/-!
# The grammar of method signatures

The arguments of a method stand between the first `(` of the text and the first `)` at which no
argument begins; what precedes the `(`, such as formal type parameters, is skipped. The return type
follows the `)`. The types of the arguments that were read are kept also where a later one has a
fault (`itemsUntil`).
-/
namespace TypeDescriptors.Grammar

def openParen (text : List Char) : Except Stop (List Char) :=
  match text.dropWhile fun c => c != '(' with
  | [] => fail ⟨.missingOpenParen, text, .recoverable⟩
  | _ :: rest => .ok rest

/-- The items that a reader takes up to a closing character, and how their reading ended: with the
text after that character, or with the fault of the next item. An item that takes no character would
be read forever and is refused. -/
def itemsUntil {α : Type} (item : Reader α) (close : Char) (text : List Char) :
    List α × Except Stop (List Char) :=
  match char close text with
  | .ok (_, rest) => ([], .ok rest)
  | .error _ =>
    match item text with
    | .error (.fault f) => ([], fail (f.within text))
    | .error (.defect d) => ([], .error (.defect d))
    | .ok (a, rest) =>
      if rest.length < text.length then
        let (items, ending) := itemsUntil item close rest
        (a :: items, ending)
      else ([a], fail (.unexpected rest))
termination_by text.length

def argumentsRead (text : List Char) : List FieldType × Except Stop (List Char) :=
  match openParen text with
  | .ok rest => itemsUntil field ')' rest
  | .error stop => ([], .error stop)

def arguments : Reader (List FieldType) := fun text =>
  match argumentsRead text with
  | (types, .ok rest) => .ok (types, rest)
  | (_, .error stop) => .error stop

def slotsUntilClose (sum : Nat) (text : List Char) : Except Stop (Nat × List Char) :=
  match char ')' text with
  | .ok (_, rest) => .ok (sum, rest)
  | .error _ =>
    match read : fieldSlots text with
    | .ok (n, rest) =>
      have : rest.length < text.length := fieldSlots_shorter read
      slotsUntilClose (sum + n) rest
    | .error stop => .error stop
termination_by text.length

def argumentSlots : Reader Nat := fun text => do
  let rest ← openParen text
  slotsUntilClose 0 rest

def method : Reader MethodType := fun text => do
  let (argumentTypes, text') ← arguments text
  let (returnType, rest) ← cut field text'
  .ok (⟨returnType, argumentTypes⟩, rest)

def methodTypesRead (text : List Char) : List FieldType :=
  match argumentsRead text with
  | (types, .ok rest) =>
    match field rest with
    | .ok (returnType, _) => types ++ [returnType]
    | .error _ => types
  | (types, .error _) => types

theorem argumentsRead_of_arguments {text rest : List Char} {types : List FieldType}
    (h : arguments text = .ok (types, rest)) : argumentsRead text = (types, .ok rest) := by
  unfold arguments at h
  split at h
  · rename_i read
    rw [read]
    obtain ⟨rfl, rfl⟩ := Prod.mk.inj (Except.ok.inj h)
    rfl
  · cases h

end TypeDescriptors.Grammar
