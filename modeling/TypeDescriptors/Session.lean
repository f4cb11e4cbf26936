import TypeDescriptors.TypeRequest

set_option autoImplicit false

namespace TypeDescriptors

/-- A stack of types, the top first, and the text still to read. -/
structure Session where
  stack : List FieldType
  cursor : String
  deriving DecidableEq, Repr

namespace Session

inductive Step where
  | push (r : TypeRequest)
  | pop
  | array (dimensions : UInt64)
  | normalize
  | element
  | innermost
  | reparse
  | totalSlots
  | describe
  | method
  | setCursor (text : String)
  | next
  | nextSlots
  | arguments
  deriving DecidableEq, Repr

inductive Answer where
  | done
  | reparsed (same : Bool) (consumed : Nat)
  | total (slots : Nat)
  | type (t : FieldType)
  | method (m : MethodType)
  | consumed (bytes : Nat)
  | slots (reading : Signature.Reading Nat)
  deriving DecidableEq, Repr

inductive Refusal where
  | emptyStack
  | notArray
  | failure (f : Failure)
  deriving DecidableEq, Repr

def Refusal.message : Refusal → String
  | .emptyStack => "empty stack"
  | .notArray => "not an array"
  | .failure f => f.message

def start : Session := ⟨[], ""⟩

def fromBottom (s : Session) : List FieldType := s.stack.reverse

def advance (s : Session) (bytes : Nat) : String :=
  String.ofList (Text.dropBytes bytes s.cursor.toList)

def orRefuse {α : Type} (outcome : Except Failure α) : Except Refusal α :=
  outcome.mapError .failure

def replaceTop (s : Session) (f : FieldType → Except Refusal FieldType) :
    Except Refusal (Answer × Session) :=
  match s.stack with
  | [] => .error .emptyStack
  | top :: below => do
    let t ← f top
    return (.done, { s with stack := t :: below })

def elementOf : FieldType → Except Refusal FieldType
  | .array element dimensions _ =>
    orRefuse (Failure.ofDefect (FieldType.component element dimensions))
  | _ => .error .notArray

def innermostOf : FieldType → Except Refusal FieldType
  | .array element _ _ => .ok element
  | _ => .error .notArray

def step (s : Session) : Step → Except Refusal (Answer × Session)
  | .push r => do
    let t ← orRefuse r.answer
    return (.done, { s with stack := t :: s.stack })
  | .pop =>
    match s.stack with
    | [] => .error .emptyStack
    | _ :: below => .ok (.done, { s with stack := below })
  | .array dimensions =>
    s.replaceTop fun t => orRefuse (Failure.ofDefect (FieldType.arrayOf t dimensions))
  | .normalize => s.replaceTop fun t => .ok t.normalized
  | .element => s.replaceTop elementOf
  | .innermost => s.replaceTop innermostOf
  | .reparse =>
    match s.stack with
    | [] => .error .emptyStack
    | top :: below => do
      let reading ← orRefuse (Signature.readType top.signature)
      return (.reparsed (reading.value.same top) reading.consumed,
        { s with stack := reading.value :: below })
  | .totalSlots => .ok (.total (FieldType.slotSum s.stack), s)
  | .describe =>
    match s.stack with
    | [] => .error .emptyStack
    | top :: _ => .ok (.type top, s)
  | .method =>
    match s.stack with
    | [] => .error .emptyStack
    | top :: below =>
      let m : MethodType := ⟨top, below.reverse⟩
      .ok (.method m, { s with cursor := m.signature })
  | .setCursor text => .ok (.done, { s with cursor := text })
  | .next => do
    let reading ← orRefuse (Signature.readType s.cursor)
    return (.consumed reading.consumed,
      ⟨reading.value :: s.stack, s.advance reading.consumed⟩)
  | .nextSlots => do
    let reading ← orRefuse (Signature.readTypeSlots s.cursor)
    return (.slots reading, { s with cursor := s.advance reading.consumed })
  | .arguments => do
    let types ← orRefuse (Signature.readArguments s.cursor)
    let reading ← orRefuse (Signature.readArgumentSlots s.cursor)
    return (.slots reading,
      ⟨types.value.reverse ++ s.stack, s.advance reading.consumed⟩)

/-- Each answer with the session after it, which is the one before it if the step fails. -/
def run (s : Session) : List Step → List (Except Refusal Answer × Session)
  | [] => []
  | x :: steps =>
    match s.step x with
    | .ok (answer, s') => (.ok answer, s') :: s'.run steps
    | .error refusal => (.error refusal, s) :: s.run steps

end Session
end TypeDescriptors
