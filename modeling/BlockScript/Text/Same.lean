import BlockScript.Number
import BlockScript.Text.Data

/-!
When two pieces of data are the same. Numbers are compared by value, whatever their kind, and a
truth value counts as one or zero.
-/

namespace BlockScript.Data

def number? : Data → Option Number
  | .bool b => some (.int (if b then 1 else 0))
  | .int n => some (.int n)
  | .float x => some (.float x)
  | _ => Option.none

def sameNumber (a b : Data) : Bool :=
  match number? a, number? b with
  | some m, some n => m.order? n == some .eq
  | _, _ => false

mutual
def same : Data → Data → Bool
  | .none, other => match other with | .none => true | _ => false
  | .text s, other => match other with | .text t => s == t | _ => false
  | .list xs, other => match other with | .list ys => sameAll xs ys | _ => false
  | .tuple xs, other => match other with | .tuple ys => sameAll xs ys | _ => false
  | .dict xs, other =>
    match other with
    | .dict ys => xs.length == ys.length && allWithin xs ys
    | _ => false
  | .bool b, other => sameNumber (.bool b) other
  | .int n, other => sameNumber (.int n) other
  | .float x, other => sameNumber (.float x) other

def sameAll : List Data → List Data → Bool
  | [], ys => ys.isEmpty
  | x :: xs, ys =>
    match ys with
    | [] => false
    | y :: ys => same x y && sameAll xs ys

def allWithin : List (Data × Data) → List (Data × Data) → Bool
  | [], _ => true
  | (k, v) :: rest, ys => ys.any (fun e => same k e.1 && same v e.2) && allWithin rest ys
end

end BlockScript.Data
