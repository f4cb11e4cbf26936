import TypeDescriptors.ClassTable
import TypeDescriptors.RuntimeClass

set_option autoImplicit false

namespace TypeDescriptors

/-- What asks the table for classes. A reading asks for those that it met, also if it fails
later. -/
inductive ClassTable.Call where
  | name (text : String)
  | type (text : String)
  | returned (text : String)
  | arguments (text : String)
  | method (text : String)
  | runtime (c : RuntimeClass)
  deriving DecidableEq, Repr

namespace ClassTable

def Call.names : Call → List String
  | .name text => [text]
  | .type text => (Signature.classesOfType text).map ClassType.name
  | .returned text => (Signature.classesOfReturn text).map ClassType.name
  | .arguments text => (Signature.classesOfArguments text).map ClassType.name
  | .method text => (Signature.classesOfMethod text).map ClassType.name
  | .runtime (.array text) => (Signature.classesOfType text).map ClassType.name
  | .runtime (.reference text) => [text]
  | .runtime (.primitive _) => []

def afterNames (table : ClassTable) (names : List String) : ClassTable :=
  names.foldl ClassTable.after table

def afterCalls (table : ClassTable) (calls : List Call) : ClassTable :=
  calls.foldl (fun t call => t.afterNames call.names) table

theorem afterCalls_eq (table : ClassTable) (calls : List Call) :
    table.afterCalls calls = table.afterNames (calls.flatMap Call.names) := by
  induction calls generalizing table with
  | nil => rfl
  | cons call calls ih =>
    simp only [afterCalls, List.foldl_cons, afterNames, List.flatMap_cons, List.foldl_append]
    exact ih _

end ClassTable
end TypeDescriptors
