import MarketSnapshot.Text.Quoted
import MarketSnapshot.Value.Display

namespace MarketSnapshot

inductive Severity where
  | debug
  | info
  | warning
  | error
  | critical
deriving DecidableEq

namespace Severity

def rank : Severity → Int
  | .debug => 10
  | .info => 20
  | .warning => 30
  | .error => 40
  | .critical => 50

def label : Severity → String
  | .debug => "DEBUG"
  | .info => "INFO"
  | .warning => "WARNING"
  | .error => "ERROR"
  | .critical => "CRITICAL"

end Severity

inductive LevelError where
  | unknownName (name : Text)
  | notLevel (v : Value)
  | noText

namespace LevelError

def message : LevelError → String
  | .unknownName name => "Unknown level: " ++ name.quoted
  | .notLevel v => "Level not an integer or a valid string: " ++ v.literal
  | .noText => Value.noText

end LevelError

namespace Level

def names : List (String × Int) :=
  [("CRITICAL", 50), ("FATAL", 50), ("ERROR", 40), ("WARN", 30), ("WARNING", 30), ("INFO", 20),
    ("DEBUG", 10), ("NOTSET", 0)]

def ofName? (t : Text) : Option Int :=
  (names.find? fun entry => Text.ofString entry.1 = t).map Prod.snd

def read (v : Value) : Except LevelError Int :=
  match v with
  | .bool b => .ok (if b then 1 else 0)
  | .int n => .ok n
  | .text t =>
    match ofName? t with
    | some level => .ok level
    | none => .error (.unknownName t)
  | v => .error (if v.hasText then .notLevel v else .noText)

end Level

end MarketSnapshot
