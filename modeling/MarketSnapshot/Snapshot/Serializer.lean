import MarketSnapshot.Json.Writer
import MarketSnapshot.Settings.Basic
import MarketSnapshot.Snapshot.Schema
import MarketSnapshot.Time.Stamp

namespace MarketSnapshot

structure Serializer where
  withTime : Bool
deriving DecidableEq

namespace Serializer

def plain : Serializer := ⟨false⟩

def choice (settings : SerializerSettings) (given : Value) : Value :=
  match given with
  | .null => .bool settings.includeIsoTime
  | v => v

def choose (settings : SerializerSettings) (given : Value) : Serializer :=
  ⟨(choice settings given).isTrue⟩

def timeValue (s : InstrumentState) : Value :=
  match Stamp.format s.latestTimestamp with
  | .ok text => .string text
  | .error _ => .null

def document (serializer : Serializer) (s : InstrumentState) : Branch :=
  let branch := Snapshot.schema.build (Snapshot.content s)
  if serializer.withTime then Branch.put branch ["time"] (timeValue s) else branch

def writeBranch (branch : Branch) : Except Json.WriteError String :=
  (Json.write (Document.node branch).toValue).map String.ofList

def write (serializer : Serializer) (s : InstrumentState) : Except Json.WriteError String :=
  writeBranch (serializer.document s)

end Serializer

end MarketSnapshot
