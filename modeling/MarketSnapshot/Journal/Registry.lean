import MarketSnapshot.Journal.Severity

namespace MarketSnapshot

inductive LoggerId where
  | root
  | named (name : Text)
deriving DecidableEq

namespace LoggerId

def name : LoggerId → Text
  | .root => "root"
  | .named name => name

def ofName (name : Text) : LoggerId :=
  if name = [] ∨ name = LoggerId.root.name then .root else .named name

end LoggerId

namespace Registry

def dot : Glyph := .char '.'

/-- The names left when a dotted name is cut at one of its dots, nearest first. The reversed name
is read, so what follows a dot is the part before it. The dot right before a cut is no cut. -/
def cutsOfReversed : List Glyph → List Text
  | [] => []
  | [_] => []
  | g :: h :: rest =>
    if g = dot then (h :: rest).reverse :: cutsOfReversed rest else cutsOfReversed (h :: rest)

def outerNames (name : Text) : List Text := cutsOfReversed name.reverse

end Registry

structure LoggerNode where
  level : Int
  outward : LoggerId
  sink : Option Nat
deriving DecidableEq

structure Registry where
  rootLevel : Int
  rootSink : Option Nat
  nodes : Table Text LoggerNode

namespace Registry

def initial : Registry := ⟨Severity.warning.rank, none, []⟩

def level (registry : Registry) : LoggerId → Int
  | .root => registry.rootLevel
  | .named name => (Table.find? registry.nodes name).elim 0 LoggerNode.level

def sink (registry : Registry) : LoggerId → Option Nat
  | .root => registry.rootSink
  | .named name => (Table.find? registry.nodes name).bind LoggerNode.sink

def outward (registry : Registry) (name : Text) : LoggerId :=
  (Table.find? registry.nodes name).elim .root LoggerNode.outward

def nearest (registry : Registry) (names : List Text) : LoggerId :=
  match names.find? (Table.contains registry.nodes) with
  | some name => .named name
  | none => .root

/-- Whether a new logger comes between a logger and the one it links to. It does not if the name
of the latter begins with the new name, as every name between the two does. -/
def comesBetween (name other : Text) (node : LoggerNode) : Bool :=
  (outerNames other).any (· = name) && !name.isPrefixOf node.outward.name

def insert (registry : Registry) (name : Text) : Registry :=
  let linked := registry.nodes.map fun entry =>
    if comesBetween name entry.1 entry.2 then (entry.1, { entry.2 with outward := .named name })
    else entry
  let node : LoggerNode := ⟨0, registry.nearest (outerNames name), none⟩
  { registry with nodes := Table.put linked name node }

def enrol (registry : Registry) : LoggerId → Registry
  | .root => registry
  | .named name =>
    if Table.contains registry.nodes name then registry else registry.insert name

def update (registry : Registry) (name : Text) (f : LoggerNode → LoggerNode) : Registry :=
  match Table.find? registry.nodes name with
  | none => registry
  | some node => { registry with nodes := Table.put registry.nodes name (f node) }

def setLevel (registry : Registry) (id : LoggerId) (level : Int) : Registry :=
  match id with
  | .root => { registry with rootLevel := level }
  | .named name => registry.update name fun node => { node with level := level }

def setSink (registry : Registry) (id : LoggerId) (sink : Option Nat) : Registry :=
  match id with
  | .root => { registry with rootSink := sink }
  | .named name => registry.update name fun node => { node with sink := sink }

def lineageWithin (registry : Registry) : Nat → LoggerId → List LoggerId
  | fuel + 1, .named name => .named name :: lineageWithin registry fuel (registry.outward name)
  | _, _ => [.root]

/-- A logger and all loggers outward of it, the root last. Each link leads to a shorter name, so
the length of a name bounds the number of links. -/
def lineage (registry : Registry) (id : LoggerId) : List LoggerId :=
  registry.lineageWithin id.name.length id

def effectiveLevel (registry : Registry) (id : LoggerId) : Int :=
  (((registry.lineage id).map registry.level).find? (· ≠ 0)).getD 0

def passes (registry : Registry) (id : LoggerId) (severity : Severity) : Bool :=
  registry.effectiveLevel id ≤ severity.rank

def sinks (registry : Registry) (id : LoggerId) : List Nat :=
  (registry.lineage id).filterMap registry.sink

end Registry

end MarketSnapshot
