import TypeDescriptors.BaseType

set_option autoImplicit false

namespace TypeDescriptors

inductive Kind where
  | base (b : BaseType)
  | array
  | object
  | null
  | unknown
  deriving DecidableEq, Repr

namespace Kind

def all : List Kind := BaseType.all.map .base ++ [.array, .object, .null, .unknown]

def label : Kind → String
  | .base b => b.label
  | .array => "Array"
  | .object => "Object"
  | .null => "Null"
  | .unknown => "Unknown"

def tag : Kind → Nat
  | .base b => b.tag
  | .array => 13
  | .object | .null => 14
  | .unknown => 15

def rank : Kind → Nat
  | .base b => b.tag
  | .array => 13
  | .object => 14
  | .null => 15
  | .unknown => 16

def compare (a b : Kind) : Ordering := Ord.compare a.rank b.rank

def sort (kinds : List Kind) : List Kind := kinds.mergeSort fun a b => decide (a.rank ≤ b.rank)

def ofLabel? (text : String) : Option Kind := all.find? fun k => decide (k.label = text)

end Kind
end TypeDescriptors
