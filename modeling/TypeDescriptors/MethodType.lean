import TypeDescriptors.FieldType

set_option autoImplicit false

namespace TypeDescriptors

structure MethodType where
  returnType : FieldType
  argumentTypes : List FieldType
  deriving DecidableEq, Repr

namespace MethodType

def signature (m : MethodType) : String :=
  "(" ++ String.join (m.argumentTypes.map FieldType.signature) ++ ")" ++ m.returnType.signature

def argumentSlots (m : MethodType) : Nat := FieldType.slotSum m.argumentTypes

def display (m : MethodType) : String :=
  m.returnType.display ++ " (" ++ ", ".intercalate (m.argumentTypes.map FieldType.display) ++ ")"

def outline (m : MethodType) : Outline :=
  .fields "MethodSignature"
    [("return_type", m.returnType.outline),
      ("argument_types", .sequence (m.argumentTypes.map FieldType.outline))]

def sameTypes : List FieldType → List FieldType → Bool
  | [], [] => true
  | a :: as, b :: bs => a.same b && sameTypes as bs
  | _, _ => false

/-- Methods are the same when their return types and their argument types are. -/
def same (a b : MethodType) : Bool :=
  a.returnType.same b.returnType && sameTypes a.argumentTypes b.argumentTypes

@[simp] theorem toList_signature (m : MethodType) :
    m.signature.toList =
      '(' :: m.argumentTypes.flatMap (fun t => t.signature.toList) ++ ')' ::
        m.returnType.signature.toList := by
  simp [signature, String.toList_join, List.flatMap_map]

end MethodType
end TypeDescriptors
