import MarketSnapshot.Text.Uppercase
import MarketSnapshot.Value.Basic

namespace MarketSnapshot

inductive RotationError where
  | notText (kind : String)
  | weekLength (name : Text)
  | weekday (name : Text)
  | unknown (name : Text)
deriving DecidableEq

namespace RotationError

def message : RotationError → Text
  | .notText kind => "'" ++ kind ++ "' object has no attribute 'upper'"
  | .weekLength name =>
    Text.ofString "You must specify a day for weekly rollover from 0 to 6 (0 is Monday): " ++ name
  | .weekday name => Text.ofString "Invalid day specified for weekly rollover: " ++ name
  | .unknown name => Text.ofString "Invalid rollover interval specified: " ++ name

end RotationError

inductive Grain where
  | second
  | minute
  | hour
  | day
deriving DecidableEq

namespace Rotation

def intervals : List (String × Grain) :=
  [("S", .second), ("M", .minute), ("H", .hour), ("D", .day), ("MIDNIGHT", .day)]

/-- A name in capitals: an interval, or `W` and a day from 0, which is Monday, to 6. -/
def grainOfName (name : Text) : Except RotationError Grain :=
  match intervals.find? fun interval => Text.ofString interval.1 = name with
  | some interval => .ok interval.2
  | none =>
    match name with
    | .char 'W' :: day =>
      match day with
      | [g] =>
        if '0'.toNat ≤ g.code ∧ g.code ≤ '6'.toNat then .ok .day else .error (.weekday name)
      | _ => .error (.weekLength name)
    | _ => .error (.unknown name)

def grain (v : Value) : Except RotationError Grain :=
  match v with
  | .text t => grainOfName t.upper
  | v => .error (.notText v.kind)

end Rotation

/-- What a log file held before a rotation, under a name that tells a time as precisely as its grain
does. -/
structure Backup where
  grain : Grain
  stamp : Int
  content : Text

namespace Backup

def limit : Nat := 7

def isOlder (backup other : Backup) : Bool :=
  backup.grain = other.grain ∧ backup.stamp < other.stamp

def isLate (backups : List Backup) (backup : Backup) : Bool :=
  backups.countP backup.isOlder < limit

/-- Removes the oldest backups of each grain beyond the limit. -/
def thin (backups : List Backup) : List Backup := backups.filter (isLate backups)

end Backup

structure LogFile where
  /-- All backups that were made, also those that are removed by now. -/
  made : List Backup
  kept : List Backup
  content : Text

namespace LogFile

def empty : LogFile := ⟨[], [], []⟩

/-- Writes to the file. Where a grain and a time are given, it is rotated before. -/
def write (file : LogFile) (rolled : Option (Grain × Int)) (line : Text) : LogFile :=
  match rolled with
  | none => { file with content := file.content ++ line }
  | some (grain, stamp) =>
    let backup : Backup := ⟨grain, stamp, file.content⟩
    ⟨file.made ++ [backup], Backup.thin (file.kept ++ [backup]), line⟩

def whole (file : LogFile) : Text := (file.made.map Backup.content).flatten ++ file.content

end LogFile

end MarketSnapshot
