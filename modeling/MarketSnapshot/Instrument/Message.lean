import MarketSnapshot.Field.Form

namespace MarketSnapshot

structure SnapshotMessage where
  channel : Text
  symbol : Text
  payload : Text
deriving DecidableEq

namespace SnapshotMessage

def subject : String := "SnapshotMessage"

def fieldNames : List String := ["channel", "symbol", "payload"]

def check (entries : Entries) : Field.Checked SnapshotMessage :=
  open MarketSnapshot.Field in
  Checked.valid SnapshotMessage.mk
    |>.apply (required entries "channel" readText)
    |>.apply (required entries "symbol" readText)
    |>.apply (required entries "payload" readText)
    |>.also (unexpected entries fieldNames)

def read (entries : Entries) : Except Field.Rejection SnapshotMessage :=
  (check entries).result subject

def entries (m : SnapshotMessage) : Entries :=
  [("channel", .text m.channel), ("symbol", .text m.symbol), ("payload", .text m.payload)]

end SnapshotMessage

end MarketSnapshot
