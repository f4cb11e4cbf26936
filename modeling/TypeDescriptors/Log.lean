set_option autoImplicit false

namespace TypeDescriptors.Log

inductive Level where
  | error | warn | info | debug | trace
  deriving DecidableEq, Repr

namespace Level

def all : List Level := [.error, .warn, .info, .debug, .trace]

def rank : Level → Nat
  | .error => 1
  | .warn => 2
  | .info => 3
  | .debug => 4
  | .trace => 5

def label : Level → String
  | .error => "ERROR"
  | .warn => "WARN"
  | .info => "INFO"
  | .debug => "DEBUG"
  | .trace => "TRACE"

/-- The last level that a verbosity allows. -/
def ofVerbosity : Nat → Level
  | 0 => .warn
  | 1 => .info
  | 2 => .debug
  | _ => .trace

def enabled (limit level : Level) : Bool := decide (level.rank ≤ limit.rank)

theorem enabled_warn (verbosity : Nat) : (ofVerbosity verbosity).enabled .warn = true := by
  unfold ofVerbosity
  split <;> decide

theorem enabled_debug_iff (verbosity : Nat) :
    (ofVerbosity verbosity).enabled .debug = true ↔ 2 ≤ verbosity := by
  match verbosity with
  | 0 => decide
  | 1 => decide
  | 2 => decide
  | n + 3 => exact ⟨fun _ => by omega, fun _ => rfl⟩

end Level

structure Record where
  target : String
  level : Level
  message : String
  deriving DecidableEq, Repr

def Record.line (r : Record) : String :=
  "[" ++ r.target ++ "] [" ++ r.level.label ++ "] " ++ r.message ++ "\n"

def written (limit : Level) (records : List Record) : String :=
  String.join ((records.filter fun r => limit.enabled r.level).map Record.line)

def orWarn {ε α : Type} (target : String) (text : ε → String) :
    Except ε α → Option α × List Record
  | .ok a => (some a, [])
  | .error e => (none, [⟨target, .warn, text e⟩])

end TypeDescriptors.Log
