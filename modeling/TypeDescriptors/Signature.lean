import TypeDescriptors.Grammar.Method

set_option autoImplicit false

/-!
# Reading signatures

The readings of a signature, on whole texts. The lenient readings (`readType`, `readArguments`,
`readReturn` and those for slots alone) take what they need and say how many bytes it was; the
strict ones (`parseType`, `parseMethod`) take the whole text. A failure holds the whole text and the
byte offset of the fault in it, also where only a suffix was read.
-/
namespace TypeDescriptors.Signature

structure Reading (α : Type) where
  value : α
  consumed : Nat
  deriving DecidableEq, Repr

def failure (text : String) : Grammar.Stop → Failure
  | .fault f =>
    .malformed ⟨text, f.reason, Text.byteLength text.toList - Text.byteLength f.rest⟩
  | .defect d => .defect d

def complete {α : Type} (text : String) (reader : Grammar.Reader α) (input : List Char) :
    Except Failure (Reading α) :=
  match reader input with
  | .ok (value, rest) => .ok ⟨value, Text.byteLength input - Text.byteLength rest⟩
  | .error stop => .error (failure text stop)

/-- The text of the return type: what follows the last `)`, or all if there is none. -/
def returnText (text : String) : List Char := Text.afterLast ')' text.toList

def readType (text : String) : Except Failure (Reading FieldType) :=
  complete text Grammar.field text.toList

def readArguments (text : String) : Except Failure (Reading (List FieldType)) :=
  complete text Grammar.arguments text.toList

def readReturn (text : String) : Except Failure (Reading FieldType) :=
  complete text Grammar.field (returnText text)

def readTypeSlots (text : String) : Except Failure (Reading Nat) :=
  complete text Grammar.fieldSlots text.toList

def readArgumentSlots (text : String) : Except Failure (Reading Nat) :=
  complete text Grammar.argumentSlots text.toList

def readReturnSlots (text : String) : Except Failure (Reading Nat) :=
  complete text Grammar.fieldSlots (returnText text)

def parseType (text : String) : Except Failure FieldType :=
  (complete text (Grammar.whole Grammar.field) text.toList).map Reading.value

def parseMethod (text : String) : Except Failure MethodType :=
  (complete text (Grammar.whole Grammar.method) text.toList).map Reading.value

def displayOf (text : String) : Except Failure String := (parseType text).map FieldType.display

def classesOfField (input : List Char) : List ClassType :=
  match Grammar.field input with
  | .ok (t, _) => t.class?.toList
  | .error _ => []

def classesOfType (text : String) : List ClassType := classesOfField text.toList

def classesOfReturn (text : String) : List ClassType := classesOfField (returnText text)

def classesOfArguments (text : String) : List ClassType :=
  (Grammar.argumentsRead text.toList).1.filterMap FieldType.class?

/-- The classes met while the method of a text is read, in order and with repetitions. -/
def classesOfMethod (text : String) : List ClassType :=
  (Grammar.methodTypesRead text.toList).filterMap FieldType.class?

def traceMessage (text : String) (reading : Reading FieldType) : String :=
  Text.quoted text ++ ": parsed " ++ reading.value.display ++ " from " ++
    toString reading.consumed ++ " characters"

end TypeDescriptors.Signature
