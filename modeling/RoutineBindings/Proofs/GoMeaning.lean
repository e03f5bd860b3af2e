import Mathlib.Logic.Function.Basic
import RoutineBindings.Proofs.Scopes

/-!
# The meaning of generated Go

An evaluator for the part of Go that the bodies of wrappers are made of. The answers of the
database are given beforehand, and so are the functions of the package. What Go gives no meaning
to has no result here.
-/
namespace RoutineBindings.Go

/-- The decoding of one row: its content, or a failure that may have written something. -/
inductive Scan (δ ε : Type) where
  | done (content : δ)
  | failed (error : ε) (written : Option δ)

namespace Scan
variable {δ ε : Type}

def written : Scan δ ε → Option δ
  | .done d => some d
  | .failed _ d => d

def failure : Scan δ ε → Option ε
  | .done _ => none
  | .failed e _ => some e

end Scan

/-- The rows of a result in their order, and the error that ends them if any does. -/
structure RowSet (δ ε : Type) where
  rows : List (Scan δ ε)
  ending : Option ε

/-- The first failure while rows are read. -/
def RowSet.failure {δ ε : Type} (set : RowSet δ ε) : Option ε :=
  (set.rows.findSome? Scan.failure).or set.ending

/-- How every call to the outside ends. -/
structure Answers (δ ε : Type) where
  accessor : Option ε
  exec : Option ε
  query : Except ε (RowSet δ ε)
  row : Scan δ ε

/-- A function declared outside of the wrappers: the one that gives the connection, or the one that
formats a slice of identifiers. -/
inductive OuterFunction where
  | accessor | arrayFormatter
  deriving DecidableEq

abbrev Package := PackageBlock OuterFunction

inductive Value (δ ε : Type) where
  | nil
  | bool (b : Bool)
  | text (s : String)
  /-- What an operand stands for outside of the function, such as `time.Time{}`. -/
  | outer (text : String)
  /-- The zero value of a type, unless that is nil. -/
  | zero (type : String)
  | decoded (content : δ)
  | slice (elements : List (Value δ ε))
  | pointer (cell : Nat)
  | error (e : ε)
  | formatted (slice : Value δ ε)
  | connection
  /-- Rows or a row; only the extended ones decode into structures. -/
  | rows (extended : Bool)
  | row (extended : Bool)

namespace Value
variable {δ ε : Type}

def isNil : Value δ ε → Bool
  | .nil => true
  | _ => false

def ofError : Option ε → Value δ ε
  | none => .nil
  | some e => .error e

/-- The value of an operand that the function does not declare. -/
def ofOuter (text : String) : Value δ ε := if text = "nil" then .nil else .outer text

def zeroOf (type : String) : Value δ ε :=
  if isSlice type || isPointer type || type = "error" then .nil else .zero type

/-- The elements of a slice; the zero value of a slice has none. -/
def elements? : Value δ ε → Option (List (Value δ ε))
  | .nil => some []
  | .slice vs => some vs
  | _ => none

end Value

structure State (δ ε : Type) where
  /-- The cells of the declared names. -/
  blocks : Blocks Nat
  cells : Nat → Value δ ε
  /-- The first cell that is not in use. -/
  next : Nat
  /-- The calls to be made at the end, the last first. -/
  deferred : List (Value δ ε × String)
  /-- The rows that have not been reached yet. -/
  ahead : RowSet δ ε
  current : Option (Scan δ ε)
  /-- How often rows have been closed. -/
  closed : Nat

namespace State
variable {δ ε : Type}

def find (s : State δ ε) (name : String) : Option Nat := s.blocks.find? name

def isClear (s : State δ ε) (text : String) : Bool := s.blocks.isClear text

def write (s : State δ ε) (cell : Nat) (v : Value δ ε) : State δ ε :=
  { s with cells := Function.update s.cells cell v }

def allocate (s : State δ ε) (v : Value δ ε) : State δ ε :=
  { s with cells := Function.update s.cells s.next v, next := s.next + 1 }

/-- Declares a name in the innermost block. -/
def declare (s : State δ ε) (name : String) (v : Value δ ε) : State δ ε :=
  { s.allocate v with
    blocks := ((name, s.next) :: s.blocks.headD []) :: s.blocks.tail }

/-- `names := values`. At least one name has to be new in its block; the others are assigned. -/
def define (s : State δ ε) (names : List String) (values : List (Value δ ε)) :
    Option (State δ ε) :=
  let isNew x := x ≠ "_" && ((s.blocks.headD []).lookup x).isNone
  if names.length = values.length && names.any isNew then
    some ((names.zip values).foldl (fun t (x, v) =>
      if x = "_" then t
      else match (s.blocks.headD []).lookup x with
        | some k => t.write k v
        | none => t.declare x v) s)
  else none

/-- `names = values`, where a blank name takes nothing. -/
def assign (s : State δ ε) : List String → List (Value δ ε) → Option (State δ ε)
  | [], [] => some s
  | x :: xs, v :: vs =>
    if x = "_" then s.assign xs vs
    else match s.find x with
      | some k => (s.write k v).assign xs vs
      | none => none
  | _, _ => none

/-- Decodes a row into a cell. -/
def scan (s : State δ ε) (row : Scan δ ε) (cell : Nat) : List (Value δ ε) × State δ ε :=
  ([.ofError row.failure],
    match row.written with
    | some d => s.write cell (.decoded d)
    | none => s)

/-- Sends a statement that gives rows. -/
def query (s : State δ ε) (a : Answers δ ε) (extended : Bool) : List (Value δ ε) × State δ ε :=
  match a.query with
  | .ok set => ([.rows extended, .nil], { s with ahead := set })
  | .error e => ([.nil, .error e], s)

/-- Calls a method of the database. -/
def call (s : State δ ε) (a : Answers δ ε) :
    Value δ ε → String → List (Value δ ε) → Option (List (Value δ ε) × State δ ε)
  | .connection, "Exec", _ => some ([.outer "sql.Result", .ofError a.exec], s)
  | .connection, "QueryRow", _ => some ([.row false], s)
  | .connection, "QueryRowx", _ => some ([.row true], s)
  | .connection, "Query", _ => some (s.query a false)
  | .connection, "Queryx", _ => some (s.query a true)
  | .row _, "Scan", [.pointer k] => some (s.scan a.row k)
  | .row true, "StructScan", [.pointer k] => some (s.scan a.row k)
  | .rows _, "Next", [] =>
    match s.ahead.rows with
    | [] => some ([.bool false], { s with current := none })
    | r :: rs =>
      some ([.bool true], { s with current := some r, ahead := { s.ahead with rows := rs } })
  | .rows _, "Scan", [.pointer k] => s.current.map (s.scan · k)
  | .rows true, "StructScan", [.pointer k] => s.current.map (s.scan · k)
  | .rows _, "Err", [] => some ([.ofError s.ahead.ending], s)
  | .rows _, "Close", [] => some ([], { s with closed := s.closed + 1 })
  | _, _, _ => none

end State

section Evaluation
variable {δ ε : Type} (p : Package) (a : Answers δ ε)

def State.isPredeclared (s : State δ ε) (text : String) : Bool := s.blocks.isPredeclared p text

mutual
def Expr.eval (s : State δ ε) : Expr → Option (List (Value δ ε) × State δ ε)
  | .name t =>
    if s.isPredeclared p t then some ([.ofOuter t], s)
    else (s.find t).map fun k => ([s.cells k], s)
  | .text v => some ([.text v], s)
  | .call f as =>
    if s.isClear f then
      match p f with
      | some .accessor =>
        match as, a.accessor with
        | [], none => some ([.connection, .nil], s)
        | [], some e => some ([.nil, .error e], s)
        | _ :: _, _ => none
      | some .arrayFormatter => do
        match ← evalAll s as with
        | ([v], s) => some ([.formatted v], s)
        | _ => none
      | none =>
        if f = "new" then
          match as with
          | [.name t] =>
            if s.isPredeclared p t then some ([.pointer s.next], s.allocate (.zeroOf t)) else none
          | _ => none
        else if f = "append" then do
          match ← evalAll s as with
          | ([v, x], s) => v.elements?.map fun vs => ([.slice (vs ++ [x])], s)
          | _ => none
        else none
    else none
  | .method r m as => do
    match ← r.eval s with
    | ([v], s) =>
      let (vs, s) ← evalAll s as
      s.call a v m vs
    | _ => none
  | .address (.name x) => (s.find x).map fun k => ([.pointer k], s)
  | .address _ => none
  | .binary l op r => do
    let (vs, s) ← l.eval s
    let (ws, s) ← r.eval s
    match vs, op, ws with
    | [v], "!=", [.nil] => some ([.bool !v.isNil], s)
    | _, _, _ => none

/-- Evaluates expressions that have one value each. -/
def evalAll (s : State δ ε) : List Expr → Option (List (Value δ ε) × State δ ε)
  | [] => some ([], s)
  | e :: es => do
    match ← e.eval s with
    | ([v], s) =>
      let (vs, s) ← evalAll s es
      some (v :: vs, s)
    | _ => none
end

inductive Flow (δ ε : Type) where
  | next
  | returned (values : List (Value δ ε))

/-- Evaluates a condition. -/
def Expr.test (s : State δ ε) (e : Expr) : Option (Bool × State δ ε) := do
  match ← e.eval p a s with
  | ([.bool b], s) => some (b, s)
  | _ => none

/-- Runs a body in a block of its own. -/
def inBlock (run : State δ ε → Option (Flow δ ε × State δ ε)) (s : State δ ε) :
    Option (Flow δ ε × State δ ε) :=
  (run { s with blocks := [] :: s.blocks }).map fun (f, t) => (f, { t with blocks := s.blocks })

/-- Runs a body as long as a condition holds, at most the given number of times. -/
def iterate (test : State δ ε → Option (Bool × State δ ε))
    (body : State δ ε → Option (Flow δ ε × State δ ε)) :
    Nat → State δ ε → Option (Flow δ ε × State δ ε)
  | 0, _ => none
  | n + 1, s => do
    let (b, s) ← test s
    if b then
      match ← body s with
      | (.next, s) => iterate test body n s
      | (.returned vs, s) => some (.returned vs, s)
    else some (.next, s)

mutual
/-- Runs a statement, where a loop runs at most `fuel` times. -/
def Stmt.exec (fuel : Nat) (s : State δ ε) : Stmt → Option (Flow δ ε × State δ ε)
  | .define xs e => do
    let (vs, s) ← e.eval p a s
    (s.define xs vs).map fun s => (.next, s)
  | .assign xs e => do
    let (vs, s) ← e.eval p a s
    (s.assign xs vs).map fun s => (.next, s)
  | .declare x t => if s.isPredeclared p t then some (.next, s.declare x (.zeroOf t)) else none
  | .branch c body => do
    let (b, s) ← c.test p a s
    if b then inBlock (fun s => execBlock fuel s body) s else some (.next, s)
  | .loop c body => iterate (c.test p a) (inBlock fun s => execBlock fuel s body) fuel s
  | .defer (.method r m []) => do
    match ← r.eval p a s with
    | ([v], s) => some (.next, { s with deferred := (v, m) :: s.deferred })
    | _ => none
  | .ret es => do
    let (vs, s) ← evalAll p a s es
    some (.returned vs, s)
  | _ => none

def execBlock (fuel : Nat) (s : State δ ε) : List Stmt → Option (Flow δ ε × State δ ε)
  | [] => some (.next, s)
  | b :: bs => do
    match ← b.exec fuel s with
    | (.next, s) => execBlock fuel s bs
    | (.returned vs, s) => some (.returned vs, s)
end

/-- Makes the deferred calls. -/
def leave (s : State δ ε) : List (Value δ ε × String) → Option (State δ ε)
  | [] => some s
  | (v, m) :: ds => do
    let (_, s) ← s.call a v m []
    leave s ds

def Results.names : Results → List String
  | .unnamed _ => []
  | .named ps => ps.map Param.name

def Results.types : Results → List String
  | .unnamed ts => ts
  | .named ps => ps.map Param.type

def FuncDecl.names (f : FuncDecl) : List String := f.params.map Param.name ++ f.results.names

/-- The state at the start of a function: one block with the parameters and the named results. -/
def FuncDecl.start (f : FuncDecl) (arguments : List (Value δ ε)) : State δ ε :=
  let zeros := f.results.names.zipWith (fun _ t => .zeroOf t) f.results.types
  { blocks := [f.names.zipIdx]
    cells := fun i => ((arguments ++ zeros)[i]?).getD .nil
    next := f.names.length
    deferred := []
    ahead := ⟨[], none⟩
    current := none
    closed := 0 }

/-- Calls a function: what it returns, and the state that it leaves. Parameters and named results
have to differ in name. -/
def FuncDecl.run (f : FuncDecl) (fuel : Nat) (arguments : List (Value δ ε)) :
    Option (List (Value δ ε) × State δ ε) :=
  if f.names.Nodup then do
    match ← execBlock p a fuel (f.start arguments) f.body with
    | (.returned vs, s) =>
      if vs.length = f.results.types.length then
        let t ← leave a s s.deferred
        some (vs, t)
      else none
    | (.next, _) => none
  else none

end Evaluation

section Sequences
variable {δ ε : Type} {p : Package} {a : Answers δ ε} {s t u : State δ ε} {n : Nat}

theorem eval_outer {x : String} (h : s.isPredeclared p x = true) :
    (Expr.name x).eval p a s = some ([.ofOuter x], s) := by
  simp [Expr.eval, h]

theorem evalAll_cons {e : Expr} {es : List Expr} {v : Value δ ε} {vs : List (Value δ ε)}
    (he : e.eval p a s = some ([v], t)) (hes : evalAll p a t es = some (vs, u)) :
    evalAll p a s (e :: es) = some (v :: vs, u) := by
  simp [evalAll, he, hes]

theorem evalAll_stuck {e : Expr} {es : List Expr} {v : Value δ ε}
    (he : e.eval p a s = some ([v], t)) (hes : evalAll p a t es = none) :
    evalAll p a s (e :: es) = none := by
  simp [evalAll, he, hes]

theorem exec_ret {es : List Expr} {vs : List (Value δ ε)} (h : evalAll p a s es = some (vs, t)) :
    (Stmt.ret es).exec p a n s = some (.returned vs, t) := by
  simp [Stmt.exec, h]

theorem execBlock_next {b : Stmt} {bs : List Stmt} (h : b.exec p a n s = some (.next, t)) :
    execBlock p a n s (b :: bs) = execBlock p a n t bs := by
  simp [execBlock, h]

theorem execBlock_returned {b : Stmt} {bs : List Stmt} {vs : List (Value δ ε)}
    (h : b.exec p a n s = some (.returned vs, t)) :
    execBlock p a n s (b :: bs) = some (.returned vs, t) := by
  simp [execBlock, h]

theorem execBlock_stuck {b : Stmt} {bs : List Stmt} (h : b.exec p a n s = none) :
    execBlock p a n s (b :: bs) = none := by
  simp [execBlock, h]

end Sequences
end RoutineBindings.Go
