import MarketSnapshot.Journal.FileTree
import MarketSnapshot.Journal.Record
import MarketSnapshot.Journal.Registry
import MarketSnapshot.Journal.Rotation

namespace MarketSnapshot

structure LogHandle where
  logger : LoggerId
  name : Value
  component : Value
  level : Value
  toFile : Value
  toConsole : Value
  dir : Value
  filename : Option Text
  file : Option Place
  grain : Option Grain
  context : Entries

structure Surroundings where
  exception : Text
  stack : Text
  /-- The time that the name of the backup tells, if the file of a handle is rotated. -/
  rotates : Nat → Option Int

structure Delivery where
  handle : Nat
  record : LogRecord
  rolls : Option Int

/-- What a console or a file holds is a view of the deliveries. -/
structure Journal where
  registry : Registry
  tree : FileTree
  handles : List LogHandle
  deliveries : List Delivery
  /-- Records of at least a warning that found no handle on their way. -/
  strays : List LogRecord
  /-- Whether records pass, as was found for the first of a severity at a logger. -/
  decided : Table (LoggerId × Severity) Bool

inductive LogError where
  | repeated (method argument : String)
  | reserved (name : String)
deriving DecidableEq

def LogError.message : LogError → String
  | .repeated method argument =>
    "PipelineLogger." ++ method ++ "() got multiple values for argument '" ++ argument ++ "'"
  | .reserved name =>
    let detail := "Attempt to overwrite " ++ (Text.ofString name).quoted ++ " in LogRecord"
    (Text.ofString detail).quoted

def Severity.method : Severity → String
  | .debug => "debug"
  | .info => "info"
  | .warning => "warning"
  | .error => "error"
  | .critical => "critical"

namespace LogHandle

/-- The attributes of a record. For each name the arguments go before the context, the context
before the nested attributes, and these before the component. -/
def attributes (handle : LogHandle) (nested arguments : Entries) : Entries :=
  let component := handle.component.orElse (.string "main")
  Table.merge (Table.merge (Table.merge [("component", component)] nested) handle.context) arguments

def nestedOf (arguments : Entries) : Entries :=
  match Table.find? arguments "extra" with
  | some (.dict entries) => entries
  | _ => []

def callNames : List String := ["exc_info", "stack_info", "extra"]

def plainArguments (arguments : Entries) : Entries :=
  arguments.filter fun entry => entry.1 ∉ callNames

def isSet (arguments : Entries) (name : String) : Bool :=
  ((Table.find? arguments name).getD .null).isTrue

def record (handle : LogHandle) (severity : Severity) (message : Value) (arguments : Entries)
    (around : Surroundings) : LogRecord where
  logger := handle.logger.name
  severity := severity
  message := message
  extra := handle.attributes (nestedOf arguments) (plainArguments arguments)
  exception := if isSet arguments "exc_info" then some around.exception else none
  stack := if isSet arguments "stack_info" then some around.stack else none

end LogHandle

namespace Journal

def initial (tree : FileTree) : Journal := ⟨Registry.initial, tree, [], [], [], []⟩

/-- Whether records of a severity pass at a logger. The first of them decides for those after it,
until the level of some logger is set. -/
def passes (journal : Journal) (id : LoggerId) (severity : Severity) : Bool :=
  (Table.find? journal.decided (id, severity)).getD (journal.registry.passes id severity)

def remember (journal : Journal) (id : LoggerId) (severity : Severity) : Journal :=
  let decided := Table.put journal.decided (id, severity) (journal.passes id severity)
  { journal with decided := decided }

def deliver (journal : Journal) (id : LoggerId) (record : LogRecord) (rotates : Nat → Option Int) :
    Journal :=
  let sinks := journal.registry.sinks id
  let stray := sinks = [] ∧ Severity.warning.rank ≤ record.severity.rank
  { journal with
    deliveries := journal.deliveries ++ sinks.map fun i => ⟨i, record, rotates i⟩
    strays := journal.strays ++ if stray then [record] else [] }

def emit (journal : Journal) (id : LoggerId) (record : LogRecord) (rotates : Nat → Option Int) :
    Journal × Except LogError Unit :=
  let known := journal.remember id record.severity
  if journal.passes id record.severity then
    match LogRecord.clash? record.extra with
    | some name => (known, .error (.reserved name))
    | none => (known.deliver id record rotates, .ok ())
  else (known, .ok ())

def log (journal : Journal) (handle : LogHandle) (severity : Severity) (message : Value)
    (arguments : Entries) (around : Surroundings) : Journal × Except LogError Unit :=
  match (Table.keys arguments).find? (· ∈ ["self", "msg"]) with
  | some argument => (journal, .error (.repeated severity.method argument))
  | none =>
    journal.emit handle.logger (handle.record severity message arguments around) around.rotates

def modifyHandle (journal : Journal) (i : Nat) (f : LogHandle → LogHandle) : Journal :=
  { journal with handles := journal.handles.modify i f }

def setContext (journal : Journal) (i : Nat) (more : Entries) : Except LogError Journal :=
  if "self" ∈ Table.keys more then .error (.repeated "set_context" "self")
  else .ok (journal.modifyHandle i fun handle =>
    { handle with context := Table.merge handle.context more })

def clearContext (journal : Journal) (i : Nat) : Journal :=
  journal.modifyHandle i fun handle => { handle with context := [] }

def recordsSince (journal : Journal) (count : Nat) : List LogRecord :=
  (journal.deliveries.drop count).map Delivery.record

def passedOn (journal : Journal) (takes : Nat → LogHandle → Bool) : List Delivery :=
  journal.deliveries.filter fun delivery =>
    delivery.record.isPassedOn && journal.handles[delivery.handle]?.any (takes delivery.handle)

def console (journal : Journal) (i : Nat) : Text :=
  ((journal.passedOn fun j handle => j == i && handle.toConsole.isTrue).filterMap
    (·.record.line?)).flatten

/-- What is written to a file for a delivery. A line without a UTF-8 form is lost. -/
def fileText (delivery : Delivery) : Text :=
  (delivery.record.line?.filter (decide ·.Encodable)).getD []

def rolled (journal : Journal) (delivery : Delivery) : Option (Grain × Int) := do
  let handle ← journal.handles[delivery.handle]?
  let grain ← handle.grain
  let stamp ← delivery.rolls
  return (grain, stamp)

def file (journal : Journal) (place : Place) : LogFile :=
  (journal.passedOn fun _ handle => handle.file = some place).foldl
    (fun file delivery => file.write (journal.rolled delivery) (fileText delivery)) LogFile.empty

def files (journal : Journal) : List (Text × Text) :=
  (journal.tree.files.map fun file => (file.2, (journal.file file.1).content)).mergeSort
    fun a b => !Text.precedes b.1 a.1

end Journal

end MarketSnapshot
