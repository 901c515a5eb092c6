import MarketSnapshot.Value.Basic

namespace MarketSnapshot.Value

def agreesScalar : Value → Value → Bool
  | .null, .null => true
  | .text s, .text t => s == t
  | .float x, .float y => x.same y
  | .float x, v => v.int?.any x.sameInt
  | v, .float y => v.int?.any y.sameInt
  | v, w =>
    match v.int?, w.int? with
    | some m, some n => m == n
    | _, _ => false

mutual

def agrees : Value → Value → Bool
  | .list xs, .list ys => agreesItems xs ys
  | .list _, _ => false
  | .dict xs, .dict ys => xs.length == ys.length && agreesEntries xs ys
  | .dict _, _ => false
  | v, w => agreesScalar v w

def agreesItems : List Value → List Value → Bool
  | [], [] => true
  | x :: xs, y :: ys => agrees x y && agreesItems xs ys
  | _, _ => false

def agreesEntries : List (String × Value) → List (String × Value) → Bool
  | [], _ => true
  | (k, v) :: rest, ys =>
    (match Table.find? ys k with
      | some w => agrees v w
      | none => false) && agreesEntries rest ys

end

@[simp] theorem agrees_int (m n : Int) : agrees (.int m) (.int n) = (m == n) := by
  simp [agrees, agreesScalar, int?]

structure Unordered where
  left : String
  right : String

def Unordered.message (e : Unordered) : String :=
  "'>' not supported between instances of '" ++ e.left ++ "' and '" ++ e.right ++ "'"

def exceedsScalar (v w : Value) : Except Unordered Bool :=
  match v, w with
  | .text s, .text t => .ok (t.precedes s)
  | .float x, .float y => .ok (y.less x)
  | v, w =>
    match v.int?, v, w.int?, w with
    | some m, _, some n, _ => .ok (n < m)
    | some m, _, none, .float y => .ok (y.lessInt m)
    | none, .float x, some n, _ => .ok (Binary64.intLess n x)
    | _, _, _, _ => .error ⟨v.kind, w.kind⟩

mutual

def exceeds : Value → Value → Except Unordered Bool
  | .list xs, .list ys => exceedsItems xs ys
  | v, w => exceedsScalar v w

def exceedsItems : List Value → List Value → Except Unordered Bool
  | [], _ => .ok false
  | _ :: _, [] => .ok true
  | x :: xs, y :: ys => if agrees x y then exceedsItems xs ys else exceeds x y

end

end MarketSnapshot.Value
