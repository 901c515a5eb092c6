import MarketSnapshot.Journal.Basic
import MarketSnapshot.Settings.Basic
import MarketSnapshot.Time.Calendar

namespace MarketSnapshot

/-- A request with the defaults that do not depend on settings. A null stands for a choice that is
left to the settings. -/
structure LogRequest where
  name : Value
  component : Value
  level : Value
  toFile : Value
  toConsole : Value
  dir : Value
  rotation : Value

inductive RequestError where
  | repeated (argument : String)
  | nameMissing
  | unexpected (argument : String)
  | nameNotText
  | noText
  | level (e : LevelError)
  | file (fault : FileFault)
  | rotation (e : RotationError)

namespace RequestError

def message : RequestError → Text
  | .repeated "cls" => "PipelineLogger.get_logger() got multiple values for argument 'cls'"
  | .repeated argument =>
    "PipelineLogger.__init__() got multiple values for argument '" ++ argument ++ "'"
  | .nameMissing => "PipelineLogger.get_logger() missing 1 required positional argument: 'name'"
  | .unexpected argument =>
    "PipelineLogger.__init__() got an unexpected keyword argument '" ++ argument ++ "'"
  | .nameNotText => "A logger name must be a string"
  | .noText => Value.noText
  | .level e => e.message
  | .file fault => fault.message
  | .rotation e => e.message

end RequestError

namespace LogRequest

def argumentNames : List String :=
  ["name", "component", "level", "log_to_file", "log_to_console", "log_dir", "rotation"]

def read (arguments : Entries) : Except RequestError LogRequest :=
  let given name default := (Table.find? arguments name).getD default
  if "cls" ∈ Table.keys arguments then .error (.repeated "cls")
  else
    match Table.find? arguments "name" with
    | none => .error .nameMissing
    | some name =>
      match (Table.keys arguments).find? (· ∉ argumentNames) with
      | some "self" => .error (.repeated "self")
      | some argument => .error (.unexpected argument)
      | none => .ok {
          name := name
          component := given "component" .null
          level := given "level" .null
          toFile := given "log_to_file" .null
          toConsole := given "log_to_console" (.bool true)
          dir := given "log_dir" .null
          rotation := given "rotation" (.string "midnight") }

def loggerName (request : LogRequest) : Value :=
  if request.component.isTrue then
    .text (request.name.display ++ "." ++ request.component.display)
  else request.name

def loggerId? (name : Value) : Option LoggerId :=
  if name.isTrue then
    match name with
    | .text t => some (LoggerId.ofName t)
    | _ => none
  else some .root

def logger (request : LogRequest) : Except RequestError LoggerId :=
  if request.component.isTrue && !(request.name.hasText && request.component.hasText) then
    .error .noText
  else
    match loggerId? request.loggerName with
    | none => .error .nameNotText
    | some id => .ok id

def effectiveLevel (request : LogRequest) (settings : LoggingSettings) : Value :=
  request.level.orElse (.text settings.level.upper)

def effectiveToFile (request : LogRequest) (settings : LoggingSettings) : Value :=
  match request.toFile with
  | .null => .bool settings.toFile
  | v => v

def effectiveDir (request : LogRequest) (settings : LoggingSettings) : Value :=
  request.dir.orElse (.text settings.dir)

def filename (request : LogRequest) (settings : LoggingSettings) (today : Date) : Option Text := do
  let dir ← (request.effectiveDir settings).text?
  let folder : Text ←
    if request.component.isTrue then request.component.text?.map (· ++ "/") else some []
  let name ← request.name.text?
  return dir ++ "/" ++ folder ++ name ++ "_" ++ Text.ofString today.text ++ ".log"

def handle (request : LogRequest) (settings : LoggingSettings) (today : Date) (id : LoggerId)
    (file : Option Place) : LogHandle where
  logger := id
  name := request.loggerName
  component := request.component
  level := request.effectiveLevel settings
  toFile := request.effectiveToFile settings
  toConsole := request.toConsole
  dir := request.effectiveDir settings
  filename := request.filename settings today
  file := file
  grain := (Rotation.grain request.rotation).toOption
  context := []

end LogRequest

namespace Journal

/-- Opens the log file of a request, if it wants one. The rotation is checked when the file is
there. -/
def openLog (journal : Journal) (request : LogRequest) (settings : LoggingSettings) (today : Date) :
    Journal × Except RequestError (Option Place) :=
  if (request.effectiveToFile settings).isTrue then
    match request.filename settings today with
    | none => (journal, .error (.file .noText))
    | some filename =>
      match journal.tree.create filename with
      | (tree, .error fault) => ({ journal with tree := tree }, .error (.file fault))
      | (tree, .ok place) =>
        match Rotation.grain request.rotation with
        | .error e => ({ journal with tree := tree }, .error (.rotation e))
        | .ok _ => ({ journal with tree := tree }, .ok (some place))
  else (journal, .ok none)

def attach (journal : Journal) (handle : LogHandle) : Journal :=
  { journal with
    registry := journal.registry.setSink handle.logger (some journal.handles.length)
    handles := journal.handles ++ [handle] }

/-- Carries out a request. The new handle is the last one. A level that is accepted lets all
loggers decide anew what passes. -/
def carryOut (journal : Journal) (request : LogRequest) (settings : LoggingSettings)
    (today : Date) : Journal × Except RequestError LogHandle :=
  match request.logger with
  | .error e => (journal, .error e)
  | .ok id =>
    let enrolled := { journal with registry := journal.registry.enrol id }
    match Level.read (request.effectiveLevel settings) with
    | .error e => (enrolled, .error (.level e))
    | .ok level =>
      let cleared := { enrolled with
        registry := (enrolled.registry.setLevel id level).setSink id none
        decided := [] }
      match cleared.openLog request settings today with
      | (journal, .error e) => (journal, .error e)
      | (journal, .ok file) =>
        let handle := request.handle settings today id file
        (journal.attach handle, .ok handle)

def request (journal : Journal) (settings : LoggingSettings) (today : Date)
    (arguments : Entries) : Journal × Except RequestError LogHandle :=
  match LogRequest.read arguments with
  | .error e => (journal, .error e)
  | .ok request => journal.carryOut request settings today

end Journal

end MarketSnapshot
