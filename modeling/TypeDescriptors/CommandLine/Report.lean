import TypeDescriptors.ClassTable
import TypeDescriptors.Log
import TypeDescriptors.Signature

set_option autoImplicit false

namespace TypeDescriptors.CommandLine

structure Options where
  method : Bool
  sizes : Bool
  verbosity : Nat
  signatures : List String
  deriving DecidableEq, Repr

structure Report where
  accepted : Bool
  output : String
  records : List Log.Record
  deriving DecidableEq, Repr

structure Outcome where
  exit : Nat
  output : String
  errors : String
  deriving DecidableEq, Repr

def orWarn {α : Type} (outcome : Except Failure α) : Option α × List Log.Record :=
  Log.orWarn "jvm_sig" Failure.message outcome

def classRecord (c : ClassType) : Log.Record :=
  ⟨"rust_jvm_signature::model::types", .debug, "interned object type " ++ c.name⟩

def sizeLine (subject : String) (outcome : Except Failure (Signature.Reading Nat)) :
    String × List Log.Record :=
  match orWarn outcome with
  | (some reading, records) =>
    (subject ++ ": " ++ toString reading.value ++ ", consumed: " ++ toString reading.consumed ++
      "\n", records)
  | (none, records) => ("", records)

def sizeLines (lines : List (String × Except Failure (Signature.Reading Nat))) :
    String × List Log.Record :=
  let written := lines.map fun line => sizeLine line.1 line.2
  (String.join (written.map Prod.fst), written.flatMap Prod.snd)

def reportOn {α : Type} (parsed : Except Failure α) (outline : α → Outline) (display : α → String)
    (sizes : List (String × Except Failure (Signature.Reading Nat))) : Report :=
  match orWarn parsed with
  | (some a, records) =>
    let (lines, more) := sizeLines sizes
    ⟨true, (outline a).pretty ++ "\n" ++ display a ++ "\n" ++ lines, records ++ more⟩
  | (none, records) => ⟨false, "", records⟩

def fieldReport (sizes : Bool) (text : String) : Report :=
  reportOn (Signature.parseType text) FieldType.outline FieldType.display
    (if sizes then [("size", Signature.readTypeSlots text)] else [])

def methodReport (sizes : Bool) (text : String) : Report :=
  reportOn (Signature.parseMethod text) MethodType.outline MethodType.display
    (if sizes then
      [("arguments size", Signature.readArgumentSlots text),
        ("return size", Signature.readReturnSlots text)]
    else [])

def report (o : Options) (text : String) : Report :=
  if o.method then methodReport o.sizes text else fieldReport o.sizes text

def classesMet (o : Options) (text : String) : List ClassType :=
  if o.method then Signature.classesOfMethod text else Signature.classesOfType text

/-- The reports on the signatures in order, each with the notes on the classes that are new. -/
def reports (o : Options) (table : ClassTable) : List String → List Report
  | [] => []
  | text :: texts =>
    let (new, table') := table.adoptAll (classesMet o text)
    let r := report o text
    { r with records := new.map classRecord ++ r.records } :: reports o table' texts

def Options.outcome (o : Options) : Outcome :=
  let all := reports o ClassTable.empty o.signatures
  { exit := if all.all Report.accepted then 0 else 1
    output := String.join (all.map Report.output)
    errors := Log.written (Log.Level.ofVerbosity o.verbosity) (all.flatMap Report.records) }

end TypeDescriptors.CommandLine
