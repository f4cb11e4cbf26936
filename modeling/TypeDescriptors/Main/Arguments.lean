import TypeDescriptors.CommandLine.Report

set_option autoImplicit false

/-!
# Arguments of the program

Arguments are taken from left to right. An argument that begins with two dashes is a long option,
one that begins with a single dash and goes on is a run of short options, and every other one is a
signature, a lone dash and the empty text among them. After `--` all arguments are signatures. An
unknown option, a second `--method` or `--sizes`, or the lack of a signature has the arguments
rejected; a request for version or help is answered where it is met.
-/
namespace TypeDescriptors.CommandLine

inductive Flag where
  | method | sizes | verbose | version | help
  deriving DecidableEq, Repr

inductive Ending where
  | version
  | help
  | rejected
  deriving DecidableEq, Repr

def Flag.ofName? (name : String) : Option Flag :=
  if name = "method" then some .method
  else if name = "sizes" then some .sizes
  else if name = "verbose" then some .verbose
  else if name = "version" then some .version
  else if name = "help" then some .help
  else none

def Flag.ofLetter? (c : Char) : Option Flag :=
  if c = 'm' then some .method
  else if c = 's' then some .sizes
  else if c = 'v' then some .verbose
  else if c = 'V' then some .version
  else if c = 'h' then some .help
  else none

namespace Options

def initial : Options := ⟨false, false, 0, []⟩

def give (o : Options) : Flag → Except Ending Options
  | .method => if o.method then .error .rejected else .ok { o with method := true }
  | .sizes => if o.sizes then .error .rejected else .ok { o with sizes := true }
  | .verbose => .ok { o with verbosity := o.verbosity + 1 }
  | .version => .error .version
  | .help => .error .help

def give? (o : Options) : Option Flag → Except Ending Options
  | some flag => o.give flag
  | none => .error .rejected

def giveLetters (o : Options) : List Char → Except Ending Options
  | [] => .ok o
  | c :: cs =>
    match o.give? (Flag.ofLetter? c) with
    | .ok o' => o'.giveLetters cs
    | .error ending => .error ending

def addSignature (o : Options) (text : String) : Options :=
  { o with signatures := o.signatures ++ [text] }

def addArgument (o : Options) (argument : String) : Except Ending Options :=
  match argument.toList with
  | '-' :: '-' :: name => o.give? (Flag.ofName? (String.ofList name))
  | '-' :: c :: letters => o.giveLetters (c :: letters)
  | _ => .ok (o.addSignature argument)

def addArguments (o : Options) : List String → Except Ending Options
  | [] => .ok o
  | argument :: arguments =>
    if argument = "--" then .ok (arguments.foldl addSignature o)
    else
      match o.addArgument argument with
      | .ok o' => o'.addArguments arguments
      | .error ending => .error ending

def ofArguments (arguments : List String) : Except Ending Options :=
  match initial.addArguments arguments with
  | .ok o => if o.signatures.isEmpty then .error .rejected else .ok o
  | .error ending => .error ending

end Options

def versionText : String := "jvm-sig 0.1.0\n"

def helpText : String :=
  "Parses JVM field and method signatures and prints what they denote\n\n" ++
  "Usage: jvm-sig [OPTIONS] <SIGNATURES>...\n\n" ++
  "Arguments:\n" ++
  "  <SIGNATURES>...  The signatures to parse\n\n" ++
  "Options:\n" ++
  "  -m, --method      Parse each signature as a method descriptor\n" ++
  "  -s, --sizes       Also print stack slot sizes and consumed lengths\n" ++
  "  -v, --verbose...  Log more; repeat for debug and trace output\n" ++
  "  -h, --help        Print help\n" ++
  "  -V, --version     Print version\n"

def outcome (arguments : List String) : Outcome :=
  match Options.ofArguments arguments with
  | .ok o => o.outcome
  | .error .version => ⟨0, versionText, ""⟩
  | .error .help => ⟨0, helpText, ""⟩
  | .error .rejected => ⟨2, "", helpText⟩

end TypeDescriptors.CommandLine
