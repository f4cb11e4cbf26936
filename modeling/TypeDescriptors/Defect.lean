import TypeDescriptors.FieldType

set_option autoImplicit false

namespace TypeDescriptors

/-- Why a request for a type cannot be met, whatever text it came from. -/
inductive Defect where
  | emptyClassName
  | dimensions (count : Nat)
  /-- The dimensions of an array and those asked for do not add up to a machine word. -/
  | sumOverflow
  /-- A dimension was to be taken off where there is none. -/
  | differenceOverflow
  | elementType (t : FieldType)
  | unknownPrimitive (name : String)
  deriving DecidableEq, Repr

def Defect.message : Defect → String
  | .emptyClassName => "empty class name"
  | .dimensions count => "invalid number of array dimensions: " ++ toString count
  | .sumOverflow => "attempt to add with overflow"
  | .differenceOverflow => "attempt to subtract with overflow"
  | .elementType t => "invalid array element type: " ++ t.display
  | .unknownPrimitive name => "unknown primitive type " ++ name

end TypeDescriptors
