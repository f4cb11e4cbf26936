import TypeDescriptors.Defect

set_option autoImplicit false

namespace TypeDescriptors

inductive Reason where
  | unexpectedEnd
  | unexpectedCharacter (c : Char)
  | expected (wanted found : Char)
  | missingOpenParen
  | unterminatedReference
  | emptyClassName
  | unbalancedTypeArguments
  | tooManyDimensions (count : Nat)
  | voidArrayElement
  | trailingCharacters
  deriving DecidableEq, Repr

namespace Reason

def label : Reason → String
  | .unexpectedEnd => "UnexpectedEnd"
  | .unexpectedCharacter _ => "UnexpectedCharacter"
  | .expected _ _ => "Expected"
  | .missingOpenParen => "MissingOpenParen"
  | .unterminatedReference => "UnterminatedReference"
  | .emptyClassName => "EmptyClassName"
  | .unbalancedTypeArguments => "UnbalancedTypeArguments"
  | .tooManyDimensions _ => "TooManyDimensions"
  | .voidArrayElement => "VoidArrayElement"
  | .trailingCharacters => "TrailingCharacters"

def message : Reason → String
  | .unexpectedEnd => "unexpected end of signature"
  | .unexpectedCharacter c => "unexpected character " ++ Text.quotedChar c
  | .expected wanted found =>
    "expected " ++ Text.quotedChar wanted ++ ", found " ++ Text.quotedChar found
  | .missingOpenParen => "method signature has no '('"
  | .unterminatedReference => "reference type is not terminated by ';'"
  | .emptyClassName => "reference type has an empty class name"
  | .unbalancedTypeArguments => "unbalanced '<' and '>' in type arguments"
  | .tooManyDimensions count => toString count ++ " array dimensions exceed the maximum of 255"
  | .voidArrayElement => "array element type cannot be void"
  | .trailingCharacters => "unexpected characters after the signature"

def outline (reason : Reason) : Outline :=
  match reason with
  | .unexpectedCharacter c => .wrap reason.label (.leaf (Text.quotedChar c))
  | .expected wanted found =>
    .fields reason.label
      [("expected", .leaf (Text.quotedChar wanted)), ("found", .leaf (Text.quotedChar found))]
  | .tooManyDimensions count => .wrap reason.label (.number count)
  | _ => .leaf reason.label

end Reason

/-- A whole text that was read, with the byte offset of the fault in it and the reason. -/
structure Malformed where
  signature : String
  reason : Reason
  offset : Nat
  deriving DecidableEq, Repr

namespace Malformed

def message (m : Malformed) : String :=
  "invalid signature " ++ Text.quoted m.signature ++ " at offset " ++ toString m.offset ++ ": " ++
    m.reason.message

def outline (m : Malformed) : Outline :=
  .fields "InvalidSignature"
    [("signature", .leaf (Text.quoted m.signature)), ("reason", m.reason.outline),
      ("offset", .number m.offset)]

end Malformed

/-- Why a type could not be had: its signature is malformed, or the request itself is a defect. -/
inductive Failure where
  | malformed (m : Malformed)
  | defect (d : Defect)
  deriving DecidableEq, Repr

def Failure.message : Failure → String
  | .malformed m => m.message
  | .defect d => d.message

def Failure.ofDefect {α : Type} (outcome : Except Defect α) : Except Failure α :=
  outcome.mapError .defect

theorem Failure.ofDefect_eq_ok_iff {α : Type} {outcome : Except Defect α} {a : α} :
    Failure.ofDefect outcome = .ok a ↔ outcome = .ok a := by
  cases outcome with
  | ok b =>
    constructor
    · intro h
      rw [Except.ok.inj h]
    · intro h
      rw [Except.ok.inj h]
      rfl
  | error d =>
    constructor
    · intro h
      cases h
    · intro h
      cases h

theorem Failure.map_eq_ok_iff {α β : Type} {f : α → β} {outcome : Except Failure α} {b : β} :
    outcome.map f = .ok b ↔ ∃ a, outcome = .ok a ∧ f a = b := by
  cases outcome <;> simp [Except.map]

end TypeDescriptors
