import MarketSnapshot.Value.Basic

namespace MarketSnapshot

inductive Document where
  | leaf (v : Value)
  | node (children : List (String × Document))

abbrev Branch := Table String Document

abbrev Schema (σ : Type) := List (List String × (σ → Value))

namespace Branch

def below (branch : Branch) (key : String) : Branch :=
  match Table.find? branch key with
  | some (.node children) => children
  | _ => []

/-- Writes a value at a path and makes the branches on the way. -/
def put (branch : Branch) : List String → Value → Branch
  | [], _ => branch
  | [key], v => Table.put branch key (.leaf v)
  | key :: rest, v => Table.put branch key (.node (put (below branch key) rest v))

def at? (branch : Branch) : List String → Option Document
  | [] => some (.node branch)
  | [key] => Table.find? branch key
  | key :: rest => at? (below branch key) rest

end Branch

def Schema.build {σ : Type} (schema : Schema σ) (s : σ) : Branch :=
  schema.foldl (fun branch entry => Branch.put branch entry.1 (entry.2 s)) []

def Schema.paths {σ : Type} (schema : Schema σ) : List (List String) := schema.map Prod.fst

namespace Document

mutual

def leaves : Document → List (List String × Value)
  | .leaf v => [([], v)]
  | .node children => branchLeaves children

def branchLeaves : List (String × Document) → List (List String × Value)
  | [] => []
  | (key, d) :: rest => (leaves d).map (fun leaf => (key :: leaf.1, leaf.2)) ++ branchLeaves rest

end

mutual

def toValue : Document → Value
  | .leaf v => v
  | .node children => .dict (branchValues children)

def branchValues : List (String × Document) → List (String × Value)
  | [] => []
  | (key, d) :: rest => (key, toValue d) :: branchValues rest

end

end Document

end MarketSnapshot
