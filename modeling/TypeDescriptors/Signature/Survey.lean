import TypeDescriptors.Signature

set_option autoImplicit false

namespace TypeDescriptors.Signature

structure Survey where
  type : Except Failure (Reading FieldType)
  typeSlots : Except Failure (Reading Nat)
  arguments : Except Failure (Reading (List FieldType))
  argumentSlots : Except Failure (Reading Nat)
  returnType : Except Failure (Reading FieldType)
  returnSlots : Except Failure (Reading Nat)
  wholeType : Except Failure FieldType
  wholeMethod : Except Failure MethodType

def survey (text : String) : Survey where
  type := readType text
  typeSlots := readTypeSlots text
  arguments := readArguments text
  argumentSlots := readArgumentSlots text
  returnType := readReturn text
  returnSlots := readReturnSlots text
  wholeType := parseType text
  wholeMethod := parseMethod text

def failure? {α : Type} : Except Failure α → Option Failure
  | .ok _ => none
  | .error f => some f

theorem failure?_eq_some_iff {α : Type} {outcome : Except Failure α} {failed : Failure} :
    failure? outcome = some failed ↔ outcome = .error failed := by
  cases outcome <;> simp [failure?]

theorem failure?_eq_none_iff {α : Type} {outcome : Except Failure α} :
    failure? outcome = none ↔ ∃ a, outcome = .ok a := by
  cases outcome <;> simp [failure?]

namespace Survey

def lenientFailures (s : Survey) : List Failure :=
  [failure? s.type, failure? s.typeSlots, failure? s.arguments, failure? s.argumentSlots,
    failure? s.returnType, failure? s.returnSlots].filterMap id

theorem mem_lenientFailures_iff {s : Survey} {failed : Failure} :
    failed ∈ s.lenientFailures ↔
      s.type = .error failed ∨ s.typeSlots = .error failed ∨ s.arguments = .error failed ∨
        s.argumentSlots = .error failed ∨ s.returnType = .error failed ∨
          s.returnSlots = .error failed := by
  simp only [lenientFailures, List.mem_filterMap, id_eq, List.mem_cons, List.not_mem_nil, or_false,
    exists_eq_right, @eq_comm _ (some failed), failure?_eq_some_iff]

def strictFailures (s : Survey) : List Failure :=
  [failure? s.wholeType, failure? s.wholeMethod].filterMap id

theorem mem_strictFailures_iff {s : Survey} {failed : Failure} :
    failed ∈ s.strictFailures ↔ s.wholeType = .error failed ∨ s.wholeMethod = .error failed := by
  simp only [strictFailures, List.mem_filterMap, id_eq, List.mem_cons, List.not_mem_nil, or_false,
    exists_eq_right, @eq_comm _ (some failed), failure?_eq_some_iff]

end Survey
end TypeDescriptors.Signature
