import TypeDescriptors.ClassName
import TypeDescriptors.Outline
import TypeDescriptors.Text.Quoted

set_option autoImplicit false

namespace TypeDescriptors

/-- A class or interface by its dotted name, with its signature held beside the name. -/
structure ClassType where
  name : String
  signature : String
  deriving DecidableEq, Repr

namespace ClassType

def make (name : String) : ClassType := ⟨name, "L" ++ ClassName.slashed name ++ ";"⟩

def ofName? (name : String) : Option ClassType :=
  if name = "" then none else some (make (ClassName.dotted name))

def packageName (c : ClassType) : String := ClassName.packageOf c.name

def outline (c : ClassType) : Outline :=
  .fields "ObjectType"
    [("class_name", .leaf (Text.quoted c.name)), ("signature", .leaf (Text.quoted c.signature))]

/-- The class of a dotted name, said without making it: the signature is the name between `L` and
`;`, with a `/` for each dot. -/
def named (name : String) : ClassType :=
  ⟨name, String.ofList ('L' :: (name.toList.map fun c => if c = '.' then '/' else c) ++ [';'])⟩

structure WellFormed (c : ClassType) : Prop where
  ne_empty : c.name ≠ ""
  slash_notMem : '/' ∉ c.name.toList
  signature_eq : c.signature.toList =
    'L' :: (c.name.toList.map fun x => if x = '.' then '/' else x) ++ [';']

@[simp] theorem named_name (name : String) : (named name).name = name := rfl

@[simp] theorem toList_signature_named (name : String) :
    (named name).signature.toList =
      'L' :: (name.toList.map fun c => if c = '.' then '/' else c) ++ [';'] :=
  String.toList_ofList

theorem toList_signature_named_slashed (name : String) :
    (named name).signature.toList = 'L' :: (ClassName.slashed name).toList ++ [';'] := by
  rw [toList_signature_named, ClassName.toList_slashed]
  rfl

theorem make_eq_named (name : String) : make name = named name := by
  have text : (make name).signature = (named name).signature := by
    rw [← String.toList_inj, toList_signature_named_slashed]
    simp [make]
  exact congrArg (mk name) text

theorem ofName?_eq_some_iff {name : String} {c : ClassType} :
    ofName? name = some c ↔ name ≠ "" ∧ c = named (ClassName.dotted name) := by
  simp [ofName?, make_eq_named, eq_comm]

theorem ofName?_of_ne {name : String} (ne : name ≠ "") :
    ofName? name = some (named (ClassName.dotted name)) :=
  ofName?_eq_some_iff.2 ⟨ne, rfl⟩

theorem WellFormed.eq_named {c : ClassType} (h : c.WellFormed) : c = named c.name := by
  have text : c.signature = (named c.name).signature := by
    rw [← String.toList_inj, h.signature_eq, toList_signature_named]
  obtain ⟨name, signature⟩ := c
  exact congrArg (ClassType.mk name) text

theorem wellFormed_named_iff {name : String} :
    (named name).WellFormed ↔ name ≠ "" ∧ '/' ∉ name.toList :=
  ⟨fun h => ⟨h.ne_empty, h.slash_notMem⟩, fun h => ⟨h.1, h.2, toList_signature_named name⟩⟩

theorem wellFormed_named_dotted {name : String} (ne : name ≠ "") :
    (named (ClassName.dotted name)).WellFormed :=
  wellFormed_named_iff.2
    ⟨mt ClassName.dotted_eq_empty_iff.1 ne, ClassName.slash_notMem_dotted name⟩

end ClassType
end TypeDescriptors
