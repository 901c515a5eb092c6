import MarketSnapshot.Settings.EnvFile
import MarketSnapshot.Text.SystemForm
import MarketSnapshot.Value.Basic

namespace MarketSnapshot

abbrev Environment := Table Text Text

inductive EnvironmentError where
  | notText (kind : String)
  | noSystemForm (fault : Text.SystemFault)
  | nullCharacter
  | equalsSign
  | emptyName
deriving DecidableEq

namespace EnvironmentError

def message : EnvironmentError → String
  | .notText kind => "str expected, not " ++ kind
  | .noSystemForm fault => fault.message
  | .nullCharacter => "embedded null byte"
  | .equalsSign => "illegal environment variable name"
  | .emptyName => "[Errno 22] Invalid argument"

end EnvironmentError

namespace Environment

def readText : Value → Except EnvironmentError Text
  | .text t =>
    match t.systemFault? with
    | some fault => .error (.noSystemForm fault)
    | none => .ok t.systemName
  | v => .error (.notText v.kind)

def set (env : Environment) (name value : Value) : Except EnvironmentError Environment :=
  match readText name, readText value with
  | .error e, _ => .error e
  | _, .error e => .error e
  | .ok name, .ok value =>
    if name.hasNull || value.hasNull then .error .nullCharacter
    else if name.contains (.char '=') then .error .equalsSign
    else if name.isEmpty then .error .emptyName
    else .ok (Table.put env name value)

def ofList (settings : List (Value × Value)) : Except EnvironmentError Environment :=
  settings.foldlM (fun env setting => env.set setting.1 setting.2) []

end Environment

structure Sources where
  environment : Environment
  file : Table (List Char) (Option Text)

namespace Sources

/-- The sources given by an environment and the text of an environment file. -/
def of (environment : Environment) (file : String) : Sources :=
  ⟨environment, EnvFile.load environment file.toList⟩

def matchesName (name : String) (other : List Char) : Bool :=
  name.toList.map Char.toLower == other.map Char.toLower

def last? {α : Type} (entries : List (List Char × α)) (name : String) : Option α :=
  (entries.reverse.find? fun entry => matchesName name entry.1).map Prod.snd

def named (environment : Environment) : List (List Char × Text) :=
  environment.filterMap fun entry => (Text.chars? entry.1).map fun name => (name, entry.2)

def value? (sources : Sources) (name : String) : Option Text :=
  match last? (named sources.environment) name with
  | some value => some value
  | none => (last? sources.file name).join

def fields (sources : Sources) (group : String) (names : List String) : Entries :=
  names.filterMap fun name => (sources.value? (group ++ name)).map fun value => (name, .text value)

end Sources

end MarketSnapshot
