import MarketSnapshot.Field.Form
import MarketSnapshot.Settings.Environment

namespace MarketSnapshot

structure SerializerSettings where
  channelPrefix : Text
  includeIsoTime : Bool
deriving DecidableEq

namespace SerializerSettings

def subject : String := "SerializerSettings"

def fieldNames : List String := ["channel_prefix", "include_iso_time"]

def load (sources : Sources) : Except Field.Rejection SerializerSettings :=
  open MarketSnapshot.Field in
  let entries := sources.fields "serializer_" fieldNames
  Checked.result subject <|
    Checked.valid SerializerSettings.mk
      |>.apply (optional entries "channel_prefix" readText "TWS:TICKS:")
      |>.apply (optional entries "include_iso_time" readFlag false)

end SerializerSettings

structure LoggingSettings where
  level : Text
  toFile : Bool
  dir : Text
deriving DecidableEq

namespace LoggingSettings

def subject : String := "LoggingSettings"

def fieldNames : List String := ["level", "to_file", "dir"]

def load (sources : Sources) : Except Field.Rejection LoggingSettings :=
  open MarketSnapshot.Field in
  let entries := sources.fields "log_" fieldNames
  Checked.result subject <|
    Checked.valid LoggingSettings.mk
      |>.apply (optional entries "level" readText "INFO")
      |>.apply (optional entries "to_file" readFlag false)
      |>.apply (optional entries "dir" readText "logs")

end LoggingSettings

structure Settings where
  serializer : SerializerSettings
  logging : LoggingSettings
deriving DecidableEq

namespace Settings

def load (sources : Sources) : Except Field.Rejection Settings :=
  match SerializerSettings.load sources with
  | .error rejection => .error rejection
  | .ok serializer =>
    match LoggingSettings.load sources with
    | .error rejection => .error rejection
    | .ok logging => .ok ⟨serializer, logging⟩

end Settings

end MarketSnapshot
