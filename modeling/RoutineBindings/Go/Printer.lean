import RoutineBindings.Go.LineWriter
import RoutineBindings.Go.Syntax
import RoutineBindings.Text.Cut

/-!
# Printing Go

A text becomes a one-line interpreted string literal. Five characters have to be escaped:
the backslash, the double quote, the line feed, the carriage return and the tab. Every other
character stands for itself.

Expressions print on one line. Statements and declarations go through the line writer, which
indents them with tabs: the body of a block stands one level deeper than its header, and the
clauses of a switch stand at the level of the switch.
-/
namespace RoutineBindings.Go
open Text (joined)

/-- The letter that follows the backslash when a character is escaped. -/
def escapeLetter? : Char → Option Char
  | '\\' => some '\\'
  | '"' => some '"'
  | '\n' => some 'n'
  | '\r' => some 'r'
  | '\t' => some 't'
  | _ => none

/-- The characters between the quotes of a literal. -/
def literalBody : List Char → List Char
  | [] => []
  | c :: s =>
    match escapeLetter? c with
    | some e => '\\' :: e :: literalBody s
    | none => c :: literalBody s

/-- The literal whose value is the given text. -/
def quote (s : String) : String :=
  String.ofList ('"' :: literalBody s.toList ++ ['"'])

mutual
def Expr.print : Expr → String
  | .name s => s
  | .text v => quote v
  | .call f as => f ++ "(" ++ joined ", " (printAll as) ++ ")"
  | .method r m as => r.print ++ "." ++ m ++ "(" ++ joined ", " (printAll as) ++ ")"
  | .address e => "&" ++ e.print
  | .binary l op r => l.print ++ " " ++ op ++ " " ++ r.print

/-- The printed forms of several expressions. -/
def printAll : List Expr → List String
  | [] => []
  | e :: es => e.print :: printAll es
end

theorem printAll_eq_map (es : List Expr) : printAll es = es.map Expr.print := by
  induction es with
  | nil => rw [printAll, List.map_nil]
  | cons e es ih => rw [printAll, List.map_cons, ih]

def printList (es : List Expr) : String := joined ", " (printAll es)

def Param.print (p : Param) : String := p.name ++ " " ++ p.type

def printParams (ps : List Param) : String := joined ", " (ps.map Param.print)

/-- The results of a signature with the blank before them. -/
def Results.print : Results → String
  | .unnamed [] => ""
  | .unnamed [t] => " " ++ t
  | .unnamed ts => " (" ++ joined ", " ts ++ ")"
  | .named ps => " (" ++ printParams ps ++ ")"

def rangeHeader (key : String) (value : Option String) (subject : Expr) : String :=
  match value with
  | some v => "for " ++ key ++ ", " ++ v ++ " := range " ++ subject.print
  | none => "for " ++ key ++ " := range " ++ subject.print

def printReturn : List Expr → String
  | [] => "return"
  | es => "return " ++ printList es

mutual
def Stmt.write (w : LineWriter) : Stmt → LineWriter.Result
  | .define ns e => w.writeln (joined ", " ns ++ " := " ++ e.print)
  | .assign ns e => w.writeln (joined ", " ns ++ " = " ++ e.print)
  | .declare n t => w.writeln ("var " ++ n ++ " " ++ t)
  | .branch c body => do
    let w ← w.writeln ("if " ++ c.print ++ " \x7b")
    let w ← writeStmts w.indent body
    w.dedent.writeln "\x7d"
  | .loop c body => do
    let w ← w.writeln ("for " ++ c.print ++ " \x7b")
    let w ← writeStmts w.indent body
    w.dedent.writeln "\x7d"
  | .range k v e body => do
    let w ← w.writeln (rangeHeader k v e ++ " \x7b")
    let w ← writeStmts w.indent body
    w.dedent.writeln "\x7d"
  | .choose e clauses => do
    let w ← w.writeln ("switch " ++ e.print ++ " \x7b")
    let w ← writeClauses w clauses
    w.writeln "\x7d"
  | .defer e => w.writeln ("defer " ++ e.print)
  | .ret es => w.writeln (printReturn es)
  | .expr e => w.writeln e.print

def writeStmts (w : LineWriter) : List Stmt → LineWriter.Result
  | [] => .ok w
  | s :: ss => do writeStmts (← s.write w) ss

def writeClauses (w : LineWriter) : List Clause → LineWriter.Result
  | [] => .ok w
  | .mk es body :: cs => do
    let w ← w.writeln ("case " ++ printList es ++ ":")
    let w ← writeStmts w.indent body
    writeClauses w.dedent cs
end

/-- Writes each doc text as comment lines. -/
def writeDoc (w : LineWriter) : List String → LineWriter.Result
  | [] => .ok w
  | d :: ds => do writeDoc (← w.comment d) ds

def Field.print (f : Field) : String :=
  match f.tag with
  | some tag => f.name ++ " " ++ f.type ++ " `" ++ tag ++ "`"
  | none => f.name ++ " " ++ f.type

def ConstSpec.print (s : ConstSpec) : String :=
  s.name ++ " " ++ s.type ++ " = " ++ s.value.print

/-- The line that opens a function, up to its brace. -/
def FuncDecl.write (w : LineWriter) (f : FuncDecl) : LineWriter.Result := do
  let w ← writeDoc w f.doc
  let w ← w.write "func "
  let w ← match f.receiver with
    | some r => w.write ("(" ++ r.print ++ ") ")
    | none => .ok w
  let w ← w.write (f.name ++ "(" ++ printParams f.params ++ ")")
  let w ← w.write f.results.print
  let w ← w.writeln " \x7b"
  let w ← writeStmts w.indent f.body
  w.dedent.writeln "\x7d"

def Decl.write (w : LineWriter) : Decl → LineWriter.Result
  | .type doc name underlying => do
    let w ← writeDoc w doc
    w.writeln ("type " ++ name ++ " " ++ underlying)
  | .const specs => do
    let w ← w.writeln "const ("
    let w ← w.indent.writeLines (specs.map ConstSpec.print)
    w.dedent.writeln ")"
  | .record doc name embedded fields => do
    let w ← writeDoc w doc
    let w ← w.writeln ("var " ++ name ++ " struct \x7b")
    let w ← w.indent.writeLines embedded
    let w ← if embedded.isEmpty || fields.isEmpty then .ok w else w.blankLine
    let w ← w.writeLines (fields.map Field.print)
    w.dedent.writeln "\x7d"
  | .func f => f.write w

/-- Writes declarations with an empty line between them. -/
def writeDecls (w : LineWriter) : List Decl → LineWriter.Result
  | [] => .ok w
  | [d] => d.write w
  | d :: e :: ds => do
    let w ← d.write w
    let w ← w.blankLine
    writeDecls w (e :: ds)

def writeImports (w : LineWriter) : List String → LineWriter.Result
  | [] => .ok w
  | paths => do
    let w ← w.writeln "import ("
    let w ← w.indent.writeLines (paths.map quote)
    let w ← w.dedent.writeln ")"
    w.blankLine

def SourceFile.write (w : LineWriter) (f : SourceFile) : LineWriter.Result := do
  let w ← w.writeln ("package " ++ f.package)
  let w ← w.blankLine
  let w ← writeImports w f.imports
  writeDecls w f.decls

def Decl.print (d : Decl) : String := (d.write .withTabs).state.held

def SourceFile.print (f : SourceFile) : String := (f.write .withTabs).state.held

end RoutineBindings.Go
