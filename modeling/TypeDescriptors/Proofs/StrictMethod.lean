import TypeDescriptors.Proofs.Endings
import TypeDescriptors.Proofs.Segmentation

set_option autoImplicit false

namespace TypeDescriptors.Grammar

theorem method_eq_ok_iff {text rest : List Char} {m : MethodType} :
    method text = .ok (m, rest) ↔
      ∃ left, arguments text = .ok (m.argumentTypes, left) ∧
        field left = .ok (m.returnType, rest) := by
  obtain ⟨returnType, argumentTypes⟩ := m
  simp only [method, bind_eq_ok_iff, cut_eq_ok_iff, Prod.exists, Except.ok.injEq, Prod.mk.injEq,
    MethodType.mk.injEq]
  constructor
  · rintro ⟨types, left, opened, t, _, read, ⟨rfl, rfl⟩, rfl⟩
    exact ⟨left, opened, read⟩
  · rintro ⟨left, opened, read⟩
    exact ⟨argumentTypes, left, opened, returnType, rest, read, ⟨rfl, rfl⟩, rfl⟩

theorem method_of_arguments_error {text : List Char} {stop : Stop}
    (h : arguments text = .error stop) : method text = .error stop := by
  simp [method, bind, Except.bind, h]

theorem method_of_return_fault {text left : List Char} {types : List FieldType} {f : Fault}
    (opened : arguments text = .ok (types, left)) (found : field left = .error (.fault f)) :
    method text = fail { f with severity := .fatal } := by
  simp [method, bind, Except.bind, opened, cut_of_fault found, fail]

end TypeDescriptors.Grammar

namespace TypeDescriptors.Signature
open Grammar

def leftAfter (n : Nat) (text : String) : String := String.ofList (Text.dropBytes n text.toList)

theorem readArguments_eq_ok_iff {text : String} {types : List FieldType} {n : Nat} :
    readArguments text = .ok ⟨types, n⟩ ↔
      arguments text.toList = .ok (types, (leftAfter n text).toList) ∧
        n + Text.byteLength (leftAfter n text).toList = Text.byteLength text.toList := by
  constructor
  · intro h
    obtain ⟨left, read, rfl⟩ := complete_eq_ok_iff.1 h
    have inside := arguments_endsIn text.toList
    rw [read] at inside
    obtain ⟨taken, split⟩ := inside
    rw [← split, Text.byteLength_append, Nat.add_sub_cancel, leftAfter, String.toList_ofList,
      ← split, Text.dropBytes_append, split]
    exact ⟨read, rfl⟩
  · rintro ⟨read, total⟩
    refine complete_eq_ok_iff.2 ⟨_, read, ?_⟩
    rw [← total, Nat.add_sub_cancel]

theorem exists_readArguments {text : String} {types : List FieldType} {left : List Char}
    (opened : arguments text.toList = .ok (types, left)) :
    ∃ n, readArguments text = .ok ⟨types, n⟩ ∧ (leftAfter n text).toList = left ∧
      n + Text.byteLength left = Text.byteLength text.toList := by
  have counted : readArguments text =
      .ok ⟨types, Text.byteLength text.toList - Text.byteLength left⟩ :=
    complete_eq_ok_iff.2 ⟨left, opened, rfl⟩
  obtain ⟨again, total⟩ := readArguments_eq_ok_iff.1 counted
  obtain ⟨-, behind⟩ := Prod.mk.inj (Except.ok.inj (again.symm.trans opened))
  rw [behind] at total
  exact ⟨_, counted, behind, total⟩

theorem parseMethod_eq_ok_iff_method {text : String} {m : MethodType} :
    parseMethod text = .ok m ↔ method text.toList = .ok (m, []) :=
  complete_whole_eq_ok_iff

theorem parseMethod_of_error {text : String} {stop : Stop}
    (h : whole method text.toList = .error stop) :
    parseMethod text = .error (failure text stop) := by
  simp [parseMethod, complete, h, Except.map]

theorem parseMethod_of_arguments_failure {text : String} {failed : Failure}
    (h : readArguments text = .error failed) :
    ∃ reason offset, failed = .malformed ⟨text, reason, offset⟩ ∧
      parseMethod text = .error failed := by
  obtain ⟨f, found, -, rfl⟩ := failure_of_complete (arguments_endsIn _) h
  exact ⟨_, _, rfl, parseMethod_of_error (whole_of_error (method_of_arguments_error found))⟩

theorem parseMethod_of_rest {text : String} {m : MethodType} {rest : List Char}
    (read : method text.toList = .ok (m, rest)) (more : rest ≠ []) :
    parseMethod text = .error (.malformed ⟨text, .trailingCharacters,
      Text.byteLength text.toList - Text.byteLength rest⟩) :=
  parseMethod_of_error (whole_of_rest read more)

section ReturnType

variable {text : String} {types : List FieldType} {n : Nat}

theorem parseMethod_of_return_failure {failed : Failure}
    (opened : readArguments text = .ok ⟨types, n⟩)
    (h : readType (leftAfter n text) = .error failed) :
    ∃ reason offset, failed = .malformed ⟨leftAfter n text, reason, offset⟩ ∧
      parseMethod text = .error (.malformed ⟨text, reason, n + offset⟩) := by
  obtain ⟨read, total⟩ := readArguments_eq_ok_iff.1 opened
  obtain ⟨f, found, inside, rfl⟩ := failure_of_complete (field_endsIn _) h
  refine ⟨_, _, rfl, ?_⟩
  rw [parseMethod_of_error (whole_of_error (method_of_return_fault read found))]
  -- The fault lies in what is left, so its offset there is short of that in the text by `n`.
  have shorter := Text.byteLength_le_of_suffix inside
  have offset : Text.byteLength text.toList - Text.byteLength f.rest =
      n + (Text.byteLength (leftAfter n text).toList - Text.byteLength f.rest) := by
    omega
  rw [← offset]
  rfl

theorem method_of_return_reading {returnType : FieldType} {consumed : Nat}
    (opened : readArguments text = .ok ⟨types, n⟩)
    (h : readType (leftAfter n text) = .ok ⟨returnType, consumed⟩) :
    ∃ rest, method text.toList = .ok (⟨returnType, types⟩, rest) ∧
      n + consumed + Text.byteLength rest = Text.byteLength text.toList := by
  obtain ⟨read, total⟩ := readArguments_eq_ok_iff.1 opened
  obtain ⟨rest, found, rfl⟩ := complete_eq_ok_iff.1 h
  have inside := field_endsIn (leftAfter n text).toList
  rw [found] at inside
  have shorter := Text.byteLength_le_of_suffix inside
  refine ⟨rest, method_eq_ok_iff.2 ⟨_, read, found⟩, ?_⟩
  omega

end ReturnType

/-- The strict reading of a method says what the lenient readings of its arguments and of the type
behind them say, failures with their offsets included. -/
theorem parseMethod_of_readings (text : String) :
    (∀ failed, readArguments text = .error failed →
      ∃ reason offset, failed = .malformed ⟨text, reason, offset⟩ ∧
        parseMethod text = .error failed) ∧
      ∀ types n, readArguments text = .ok ⟨types, n⟩ →
        ∃ slots, readArgumentSlots text = .ok ⟨slots, n⟩ ∧
          n + Text.byteLength (leftAfter n text).toList = Text.byteLength text.toList ∧
          (∀ failed, readType (leftAfter n text) = .error failed →
            ∃ reason offset, failed = .malformed ⟨leftAfter n text, reason, offset⟩ ∧
              parseMethod text = .error (.malformed ⟨text, reason, n + offset⟩)) ∧
          ∀ returnType consumed, readType (leftAfter n text) = .ok ⟨returnType, consumed⟩ →
            n + consumed ≤ Text.byteLength text.toList ∧
              (n + consumed < Text.byteLength text.toList →
                parseMethod text =
                  .error (.malformed ⟨text, .trailingCharacters, n + consumed⟩)) ∧
              (n + consumed = Text.byteLength text.toList →
                parseMethod text = .ok ⟨returnType, types⟩ ∧
                  (MethodType.mk returnType types).argumentSlots = slots) := by
  refine ⟨fun _ => parseMethod_of_arguments_failure, ?_⟩
  intro types n opened
  refine ⟨FieldType.slotSum types, ?_, (readArguments_eq_ok_iff.1 opened).2,
    fun _ => parseMethod_of_return_failure opened, ?_⟩
  · rw [readArgumentSlots_eq_map, opened]
    rfl
  intro returnType consumed h
  obtain ⟨rest, read, total⟩ := method_of_return_reading opened h
  refine ⟨by omega, ?_, ?_⟩
  · intro fewer
    have more : rest ≠ [] := by
      rintro rfl
      rw [Text.byteLength_nil] at total
      omega
    have offset : Text.byteLength text.toList - Text.byteLength rest = n + consumed := by omega
    rw [parseMethod_of_rest read more, offset]
  · intro all
    have nothing : rest = [] := Text.eq_nil_of_byteLength_eq_zero (by omega)
    rw [nothing] at read
    exact ⟨parseMethod_eq_ok_iff_method.2 read, rfl⟩

end TypeDescriptors.Signature
