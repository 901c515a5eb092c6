import MarketSnapshot.Text.Quoted
import MarketSnapshot.Value.Order

namespace MarketSnapshot

def Text.within (part : Text) : Text → Bool
  | [] => part.isEmpty
  | g :: rest => part.isPrefixOf (g :: rest) || within part rest

namespace Value

inductive AccessError where
  | notContainer (kind : String)
  | notIndexed (kind : String)
  | listPosition
  | textPosition
  | notAssignable (kind : String)
  | missingKey (key : String)
  | noMethod (kind method : String)
  | notCallable (kind : String)
deriving DecidableEq

def AccessError.message : AccessError → String
  | .notContainer kind => "argument of type '" ++ kind ++ "' is not iterable"
  | .notIndexed kind => "'" ++ kind ++ "' object is not subscriptable"
  | .listPosition => "list indices must be integers or slices, not str"
  | .textPosition => "string indices must be integers, not 'str'"
  | .notAssignable kind => "'" ++ kind ++ "' object does not support item assignment"
  | .missingKey key => (Text.ofString key).quoted
  | .noMethod kind method => "'" ++ kind ++ "' object has no attribute '" ++ method ++ "'"
  | .notCallable kind => "'" ++ kind ++ "' object is not callable"

def has (v : Value) (name : String) : Except AccessError Bool :=
  match v with
  | .dict entries => .ok (Table.contains entries name)
  | .list items => .ok (items.any fun item => item.agrees (.string name))
  | .text t => .ok (Text.within (Text.ofString name) t)
  | v => .error (.notContainer v.kind)

def item (v : Value) (name : String) : Except AccessError Value :=
  match v with
  | .dict entries =>
    match Table.find? entries name with
    | some w => .ok w
    | none => .error (.missingKey name)
  | .list _ => .error .listPosition
  | .text _ => .error .textPosition
  | v => .error (.notIndexed v.kind)

def withItem (v : Value) (name : String) (w : Value) : Except AccessError Value :=
  match v with
  | .dict entries => .ok (.dict (Table.put entries name w))
  | .list _ => .error .listPosition
  | v => .error (.notAssignable v.kind)

def entriesFor (v : Value) (method : String) : Except AccessError Entries :=
  match v with
  | .dict entries => .ok entries
  | v => .error (.noMethod v.kind method)

def notCallable (v : Value) : AccessError := .notCallable v.kind

end Value

end MarketSnapshot
