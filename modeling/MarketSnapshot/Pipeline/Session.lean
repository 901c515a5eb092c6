import MarketSnapshot.Journal.Request
import MarketSnapshot.Pipeline.Basic

namespace MarketSnapshot

structure Session where
  pipeline : Pipeline
  journal : Journal

namespace Session

def arguments (origin : Origin) : Entries :=
  [("component", .string Origin.component), ("name", .string origin.name)]

def logger (origin : Origin) : LoggerId :=
  LoggerId.ofName (Text.ofString origin.name ++ "." ++ Text.ofString Origin.component)

/-- A journal in which both parts of a pipeline have their handles. -/
def openJournal (tree : FileTree) (settings : LoggingSettings) (today : Date) :
    Except RequestError Journal :=
  match (Journal.initial tree).request settings today (arguments .book) with
  | (_, .error e) => .error e
  | (journal, .ok _) =>
    match journal.request settings today (arguments .pipeline) with
    | (_, .error e) => .error e
    | (journal, .ok _) => .ok journal

def start (tree : FileTree) (settings : Settings) (today : Date) (withTime channelPrefix : Value) :
    Except RequestError Session :=
  (openJournal tree settings.logging today).map fun journal =>
    ⟨Pipeline.new settings.serializer withTime channelPrefix, journal⟩

def record (note : Note) : LogRecord where
  logger := (logger note.origin).name
  severity := note.severity
  message := .text note.message
  extra := Table.merge [("component", .string Origin.component)] note.extra
  exception := none
  stack := none

abbrev Clock := Nat → Nat → Option Int

/-- Logs a note. The names of its attributes are free, so nothing hinders the record. -/
def log (clock : Clock) (journal : Journal) (note : Note) : Journal :=
  (journal.emit (logger note.origin) (record note) (clock journal.deliveries.length)).1

def take {α : Type} (clock : Clock) (session : Session) (step : Pipeline.Step α) : Session :=
  ⟨step.pipeline, step.notes.foldl (log clock) session.journal⟩

end Session

end MarketSnapshot
