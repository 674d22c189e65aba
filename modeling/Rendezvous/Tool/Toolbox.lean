import Rendezvous.Tool.Toolset
import Rendezvous.Failure.Described

/-!
# The toolbox

A small toolset that exercises everything a tool can do: compute, take any number of arguments, fail,
look at the call it is part of, and call itself.  A tool that calls itself does so inside a call that is
not routed, so its inner calls are not routed either.
-/

namespace Rendezvous.Toolbox

/-- The complaint that two values cannot be combined. -/
def noOperation (operator : String) (a b : Value) : Failure :=
  .of (.mismatch ("unsupported operand type(s) for " ++ operator ++ ": '" ++ a.kindName ++ "' and '"
    ++ b.kindName ++ "'"))

/-- The sum of two numbers of any kind. -/
def addNumbers : Value.Number → Value.Number → Value
  | .exact a, .exact b => .int (a + b)
  | .inexact a, .inexact b => .float (a + b)
  | .exact a, .inexact b => .float (Decimal.ofInt a + b)
  | .inexact a, .exact b => .float (a + Decimal.ofInt b)

/-- The sum of two values: numbers are added, texts and lists are joined. -/
def add : Value → Value → Result Value
  | .text a, .text b => .ok (.text (a ++ b))
  | .list as, .list bs => .ok (.list (as ++ bs))
  | .text _, b => .error (.of (.mismatch ("can only concatenate str (not \"" ++ b.kindName ++ "\") to str")))
  | .list _, b => .error (.of (.mismatch ("can only concatenate list (not \"" ++ b.kindName ++ "\") to list")))
  | a, b =>
    match a.number?, b.number? with
    | some m, some n => .ok (addNumbers m n)
    | _, _ => .error (noOperation "+" a b)

/-- The texts of some values, counted from `n`. -/
def textsFrom (n : Nat) : List Value → Result (List String)
  | [] => .ok []
  | .text s :: rest => (textsFrom (n + 1) rest).map (s :: ·)
  | v :: _ => .error (.of (.mismatch ("sequence item " ++ toString n ++ ": expected str instance, "
      ++ v.kindName ++ " found")))

/-- Texts with a separator between them. -/
def concat (parts : List Value) : Value → Result Value
  | .text sep => (textsFrom 0 parts).map fun ss => .text (joined sep ss)
  | v => .error (.of (.noAttribute ("'" ++ v.kindName ++ "' object has no attribute 'join'")))

/-- How many calls a depth takes before it is no longer above zero. -/
def levels (depth : Value) : Nat :=
  match depth.number? with
  | some (.exact n) => n.toNat
  | some (.inexact x) => if x ≤ 0.0 then 0 else x.ceil.toUInt64.toNat
  | none => 0

/-- One less than a depth. -/
def oneLess (depth : Value) : Value :=
  match depth.number? with
  | some (.exact n) => .int (n - 1)
  | some (.inexact x) => .float (x - 1.0)
  | none => depth

/-- A value inside as many lists as it takes to go down from a depth, each with its own depth. -/
def nestFrom (value : Value) : (levels : Nat) → (depth : Value) → Value
  | 0, _ => value
  | n + 1, depth => .list [depth, nestFrom value n (oneLess depth)]

/-- A value nested by its depth, which has to be a number, as it is compared with zero. -/
def nest (depth value : Value) : Result Value :=
  match depth.number? with
  | some _ => .ok (nestFrom value (levels depth) depth)
  | none => .error (.of (.mismatch ("'<=' not supported between instances of '" ++ depth.kindName
      ++ "' and 'int'")))

/-- What the tools and the other operations do; `guarded` tells whether a call is the execution that the
call activity has asked for. -/
def perform (guarded : Bool) (operation : String) (b : Bound) : Result Value :=
  match operation with
  | "add" => add (b.get "a") (b.get "b")
  | "concat" => concat b.rest (b.get "sep")
  | "echo" => .ok (b.get "value")
  | "fail" => .error (.described (b.get "error"))
  | "guarded" => .ok (.bool guarded)
  | "nest" => nest (b.get "depth") (b.get "value")
  | "nothing" => .ok .null
  | "describe" => .ok (.text "a toolbox")
  | "__repr__" | "__str__" => .ok (.text "Toolbox()")
  | _ => .error (Toolset.noAttribute "Toolbox" operation)

/-- The tools of the toolbox, in alphabetical order, the operations that show it, and one attribute. -/
def toolset : Toolset where
  kind := "Toolbox"
  tools := [
    { name := "add", documentation := some "Add two integers."
      signature := [{ name := "a", type := .integer },
        { name := "b", type := .integer, default := some (.int 1) }] },
    { name := "concat"
      signature := [{ name := "parts", kind := .restPositional },
        { name := "sep", kind := .named, default := some (.text "") }] },
    { name := "echo", signature := [{ name := "value" }] },
    { name := "fail", signature := [{ name := "error" }] },
    { name := "guarded" },
    { name := "nest", signature := [{ name := "depth" }, { name := "value" }] },
    { name := "nothing" }]
  operations := [("describe", []), ("__repr__", []), ("__str__", [])]
  attributes := [("label", .text "toolbox")]
  perform := perform

end Rendezvous.Toolbox
