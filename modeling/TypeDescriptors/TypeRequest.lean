import TypeDescriptors.RuntimeClass

set_option autoImplicit false

namespace TypeDescriptors

inductive TypeRequest where
  | base (b : BaseType)
  | null
  | unknown
  | object (name : String)
  | signature (text : String)
  | array (element : TypeRequest) (dimensions : UInt64)
  | runtime (c : RuntimeClass)
  deriving DecidableEq, Repr

namespace TypeRequest

def answer : TypeRequest → Except Failure FieldType
  | .base b => .ok (FieldType.base b)
  | .null => .ok .null
  | .unknown => .ok .unknown
  | .object name => Failure.ofDefect (FieldType.ofClassName name)
  | .signature text => Signature.parseType text
  | .array element dimensions => do
    let t ← element.answer
    Failure.ofDefect (FieldType.arrayOf t dimensions)
  | .runtime c => c.type

def answers (requests : List TypeRequest) : Except Failure (List FieldType) :=
  requests.mapM answer

end TypeRequest
end TypeDescriptors
