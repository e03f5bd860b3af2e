/-!
# Syntax of generated Go

The part of Go that a generated file is made of: expressions, statements, declarations and
the source file. Types and operators are kept as the text they print as.
-/
namespace RoutineBindings.Go

inductive Expr where
  /-- A name, or any operand that is written down as it is, such as `time.Time{}`. -/
  | name (text : String)
  /-- A string literal with the given value. -/
  | text (value : String)
  | call (callee : String) (arguments : List Expr)
  | method (receiver : Expr) (name : String) (arguments : List Expr)
  | address (operand : Expr)
  | binary (left : Expr) (operator : String) (right : Expr)
  deriving Inhabited

mutual
inductive Stmt where
  /-- `a, b := value` -/
  | define (names : List String) (value : Expr)
  /-- `a, b = value` -/
  | assign (names : List String) (value : Expr)
  /-- `var name type` -/
  | declare (name type : String)
  | branch (condition : Expr) (body : List Stmt)
  | loop (condition : Expr) (body : List Stmt)
  /-- `for key, value := range subject`, where the value may be left out. -/
  | range (key : String) (value : Option String) (subject : Expr) (body : List Stmt)
  | choose (subject : Expr) (clauses : List Clause)
  | defer (call : Expr)
  | ret (values : List Expr)
  | expr (value : Expr)

/-- One `case` of a switch. -/
inductive Clause where
  | mk (values : List Expr) (body : List Stmt)
end

/-- `if err != nil { return values }` -/
def Stmt.returnOnError (values : List Expr) : Stmt :=
  .branch (.binary (.name "err") "!=" (.name "nil")) [.ret values]

/-- A parameter, a receiver or a named result. -/
structure Param where
  name : String
  type : String
  deriving Repr, DecidableEq

inductive Results where
  | unnamed (types : List String)
  | named (results : List Param)
  deriving Repr, DecidableEq

structure FuncDecl where
  doc : List String
  receiver : Option Param
  name : String
  params : List Param
  results : Results
  body : List Stmt

structure Field where
  name : String
  type : String
  tag : Option String
  deriving Repr, DecidableEq

structure ConstSpec where
  name : String
  type : String
  value : Expr

inductive Decl where
  | type (doc : List String) (name underlying : String)
  | const (specs : List ConstSpec)
  /-- A variable of an unnamed structure type. -/
  | record (doc : List String) (name : String) (embedded : List String) (fields : List Field)
  | func (decl : FuncDecl)

structure SourceFile where
  package : String
  imports : List String
  decls : List Decl

end RoutineBindings.Go
