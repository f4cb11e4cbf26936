set_option autoImplicit false

namespace TypeDescriptors

inductive Bracket where
  | round | curly | square
  deriving DecidableEq, Repr

inductive Outline where
  | leaf (text : String)
  | named (name : String) (value : Outline)
  | group (label : String) (bracket : Bracket) (parts : List Outline)

namespace Bracket

def compactOpen : Bracket → String
  | .round => "("
  | .curly => " \x7b "
  | .square => "["

def compactClose : Bracket → String
  | .round => ")"
  | .curly => " \x7d"
  | .square => "]"

def prettyOpen : Bracket → String
  | .round => "("
  | .curly => " \x7b"
  | .square => "["

def prettyClose : Bracket → String
  | .round => ")"
  | .curly => "\x7d"
  | .square => "]"

end Bracket

namespace Outline

def number (n : Nat) : Outline := .leaf (toString n)

def wrap (label : String) (part : Outline) : Outline := .group label .round [part]

def fields (label : String) (parts : List (String × Outline)) : Outline :=
  .group label .curly (parts.map fun part => .named part.1 part.2)

def sequence (parts : List Outline) : Outline := .group "" .square parts

def indent (level : Nat) : String := String.ofList (List.replicate (4 * level) ' ')

mutual

def compact : Outline → String
  | .leaf text => text
  | .named name value => name ++ ": " ++ value.compact
  | .group label bracket parts =>
    label ++ bracket.compactOpen ++ ", ".intercalate (compactParts parts) ++ bracket.compactClose

def compactParts : List Outline → List String
  | [] => []
  | part :: parts => part.compact :: compactParts parts

end

mutual

/-- The outline over several lines, from inside `level` groups. A group without parts stays on its
line. -/
def prettyAt (level : Nat) : Outline → String
  | .leaf text => text
  | .named name value => name ++ ": " ++ value.prettyAt level
  | .group label bracket [] => label ++ bracket.prettyOpen ++ bracket.prettyClose
  | .group label bracket (part :: parts) =>
    label ++ bracket.prettyOpen ++ "\n" ++ prettyLines (level + 1) (part :: parts) ++
      indent level ++ bracket.prettyClose

def prettyLines (level : Nat) : List Outline → String
  | [] => ""
  | part :: parts => indent level ++ part.prettyAt level ++ ",\n" ++ prettyLines level parts

end

def pretty (outline : Outline) : String := outline.prettyAt 0

end Outline
end TypeDescriptors
