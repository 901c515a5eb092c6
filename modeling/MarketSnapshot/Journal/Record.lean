import MarketSnapshot.Journal.Severity

namespace MarketSnapshot

structure LogRecord where
  logger : Text
  severity : Severity
  message : Value
  extra : Entries
  exception : Option Text
  stack : Option Text

namespace LogRecord

def reservedNames : List String :=
  ["message", "asctime", "name", "msg", "args", "levelname", "levelno", "pathname", "filename",
    "module", "exc_info", "exc_text", "stack_info", "lineno", "funcName", "created", "msecs",
    "relativeCreated", "thread", "threadName", "processName", "process"]

def clash? (extra : Entries) : Option String := (Table.keys extra).find? (· ∈ reservedNames)

def messageName : String := "getMessage"

def hiding? (extra : Entries) : Option Value := Table.find? extra messageName

/-- A record is copied before it is written. An attribute `__reduce_ex__` takes the place of the
copying procedure and `__getstate__` that of the content to copy, so neither can be copied. A null
in place of the procedure leads to a simpler one, which besides refuses an attribute `__reduce__`
and any `__slots__` that counts as true. -/
def isCopyable (extra : Entries) : Bool :=
  let given name := Table.contains extra name
  let holds name := ((Table.find? extra name).getD .null).isTrue
  match Table.find? extra "__reduce_ex__" with
  | none => !given "__getstate__"
  | some .null => !given "__getstate__" && !given "__reduce__" && !holds "__slots__"
  | some _ => false

/-- Whether a handle passes the record on to its console and its file. It does so once the record
is put into words and copied, and gives it up if it fails in that. -/
def isPassedOn (record : LogRecord) : Bool :=
  (hiding? record.extra).isNone && record.message.hasText && isCopyable record.extra

def component (record : LogRecord) : Value := (Table.find? record.extra "component").getD .null

def newline : Glyph := .char '\n'

def below (text more : Text) : Text :=
  if more = [] then text
  else if text.getLast? = some newline then text ++ more
  else text ++ [newline] ++ more

def body (record : LogRecord) : Text :=
  below (below record.message.display (record.exception.getD [])) (record.stack.getD [])

def line? (record : LogRecord) : Option Text :=
  record.component.text?.map fun tag =>
    Text.ofString record.severity.label ++ " " ++ record.logger ++ " [" ++ tag ++ "] "
      ++ record.body ++ [newline]

end LogRecord

def Text.splitLines : Text → List Text
  | [] => [[]]
  | g :: rest =>
    match splitLines rest with
    | [] => [[g]]
    | part :: parts =>
      if g = LogRecord.newline then [] :: part :: parts else (g :: part) :: parts

end MarketSnapshot
