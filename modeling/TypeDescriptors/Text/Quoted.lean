import TypeDescriptors.Text.Unprintable
import TypeDescriptors.Text.GraphemeExtend

set_option autoImplicit false

namespace TypeDescriptors.Text

/-- A character is shown by its code point if it would not be seen for itself: if it is not
printable, or is drawn upon the character before it. -/
def isHidden (c : Char) : Bool := isGraphemeExtend c || isUnprintable c

def codePointEscape (c : Char) : List Char :=
  ['\\', 'u', '\x7b'] ++ Nat.toDigits 16 c.toNat ++ ['\x7d']

/-- The letter that stands for a character after a backslash. -/
def escapeLetter? (quote : Char) (c : Char) : Option Char :=
  if c = '\x00' then some '0'
  else if c = '\t' then some 't'
  else if c = '\r' then some 'r'
  else if c = '\n' then some 'n'
  else if c = '\\' then some '\\'
  else if c = quote then some quote
  else none

def escapeChar (quote : Char) (c : Char) : List Char :=
  match escapeLetter? quote c with
  | some letter => ['\\', letter]
  | none => if isHidden c then codePointEscape c else [c]

def enclose (quote : Char) (cs : List Char) : String :=
  String.ofList (quote :: cs.flatMap (escapeChar quote) ++ [quote])

def quoted (text : String) : String := enclose '\x22' text.toList

def quotedChar (c : Char) : String := enclose '\x27' [c]

end TypeDescriptors.Text
