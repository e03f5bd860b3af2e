import RoutineBindings.Go.Enum
import RoutineBindings.Proofs.DocComments

/-!
# How the declarations of an enum are written

An enum is written as a type, a group of constants with one line for each label, and the method
`Valid` with one case for all of them. The constants and the case come from two traversals of the
labels, which list the same names.
-/
namespace RoutineBindings.Go
open Text LineWriter

/-- The constants that are declared, from first to last. -/
def constSpecs (ds : List Decl) : List ConstSpec :=
  ds.flatMap fun
    | .const specs => specs
    | _ => []

/-- The methods of a name. -/
def methodsNamed (name : String) (ds : List Decl) : List FuncDecl :=
  ds.filterMap fun
    | .func f => if f.name = name ∧ f.receiver.isSome then some f else none
    | _ => none

mutual
/-- The values that the clauses of switches list, clause by clause. -/
def Stmt.caseLists : Stmt → List (List Expr)
  | .branch _ body | .loop _ body | .range _ _ _ body => blockCaseLists body
  | .choose _ clauses => clauseCaseLists clauses
  | _ => []

def blockCaseLists : List Stmt → List (List Expr)
  | [] => []
  | s :: ss => s.caseLists ++ blockCaseLists ss

def clauseCaseLists : List Clause → List (List Expr)
  | [] => []
  | .mk values body :: cs => values :: blockCaseLists body ++ clauseCaseLists cs
end

section Statements
variable {s : Stmt} {ss : List Stmt} {level : Nat} {t u : String}

theorem writeStmts_cons_writes (hs : Writes (Stmt.write · s) level t)
    (hss : Writes (writeStmts · ss) level u) : Writes (writeStmts · (s :: ss)) level (t ++ u) := by
  simp only [writeStmts]
  exact hs.bind hss

theorem writeStmts_single_writes (hs : Writes (Stmt.write · s) level t) :
    Writes (writeStmts · [s]) level t := by
  have hwrite := hs.bind writes_ok
  rw [String.append_empty] at hwrite
  simp only [writeStmts]
  exact hwrite

theorem return_writes (x : String) :
    Writes (Stmt.write · (.ret [.name x])) level (tabbed level ("return " ++ x)) := by
  have hline : "return " ++ x ≠ "" := by simp
  simp only [Stmt.write]
  exact writeln_writes hline

/-- A switch with one clause that lists names. -/
theorem switch_writes (subject : String) (names : List String)
    (hbody : Writes (writeStmts · ss) (level + 1) t) :
    Writes (Stmt.write · (.choose (.name subject) [.mk (names.map .name) ss])) level
      (tabbed level ("switch " ++ subject ++ " \x7b") ++
        (tabbed level ("case " ++ joined ", " names ++ ":") ++ t ++ tabbed level "\x7d")) := by
  have hheader : "switch " ++ subject ++ " \x7b" ≠ "" := by simp
  have hcase : "case " ++ joined ", " names ++ ":" ≠ "" := by simp
  have hnames : printList (names.map .name) = joined ", " names := by
    simp [printList, printAll_eq_map, Function.comp_def, Expr.print]
  have hclause : Writes (writeClauses · [.mk (names.map .name) ss]) level
      (tabbed level ("case " ++ joined ", " names ++ ":") ++ t) := by
    have hlisted := hbody.nested writes_ok
    rw [String.append_empty] at hlisted
    simp only [writeClauses, hnames]
    exact (writeln_writes hcase).bind hlisted
  have hclosing : Writes (writeln · "\x7d") level (tabbed level "\x7d") :=
    writeln_writes (by decide)
  simp only [Stmt.write]
  exact (writeln_writes hheader).bind (hclause.bind hclosing)

end Statements

/-- The lines that declare the constants. -/
def constLines (specs : List ConstSpec) : List String :=
  "const (" ::
    (specs.map fun spec => "\t" ++ (spec.name ++ " " ++ spec.type ++ " = " ++ spec.value.print)) ++
    [")"]

/-- The lines of the method, which has one case for the names. -/
def validLines (type : String) (names : List String) : List String :=
  ["func (c " ++ type ++ ") Valid() bool \x7b",
   "\tswitch c \x7b",
   "\tcase " ++ joined ", " names ++ ":",
   "\t\treturn true",
   "\t\x7d",
   "\treturn false",
   "\x7d"]

namespace Enum

/-- The constant of a label. -/
def constSpec (e : Enum) (label : String) : ConstSpec :=
  ⟨e.goName ++ exportedName label, e.goName, .text label⟩

def valid (e : Enum) : FuncDecl where
  doc := ["Valid indicates if c is a valid " ++ e.goName]
  receiver := some ⟨"c", e.goName⟩
  name := "Valid"
  params := []
  results := .unnamed ["bool"]
  body :=
    [.choose (.name "c")
      [.mk (e.labels.map fun label => .name (e.constSpec label).name) [.ret [.name "true"]]],
     .ret [.name "false"]]

section Declarations
variable (e : Enum)

theorem constSpecs_decls : constSpecs e.decls = e.labels.map e.constSpec := by
  simp [constSpecs, decls, typeDecl, constDecl, validDecl, consts, constSpec]

theorem validDecl_eq : e.validDecl = .func e.valid := by
  simp [validDecl, valid, consts, constSpec, Function.comp_def]

theorem methodsNamed_decls : methodsNamed "Valid" e.decls = [e.valid] := by
  rw [decls, validDecl_eq]
  simp [methodsNamed, typeDecl, constDecl, valid]

theorem caseLists_valid :
    blockCaseLists e.valid.body = [(constSpecs e.decls).map fun spec => .name spec.name] := by
  rw [constSpecs_decls]
  simp [valid, blockCaseLists, Stmt.caseLists, clauseCaseLists, Function.comp_def]

end Declarations

section Texts
variable (e : Enum)

theorem typeDecl_print : e.typeDecl.print = block ["type " ++ e.goName ++ " string"] := by
  have hline : "type " ++ e.goName ++ " " ++ "string" ≠ "" := by simp
  have hprint : e.typeDecl.print = tabbed 0 ("type " ++ e.goName ++ " " ++ "string") :=
    Decl.print_of_writes (writeln_writes hline)
  simp [hprint, tabbed_zero, block, String.append_assoc]

theorem constDecl_print : e.constDecl.print = block (constLines (constSpecs e.decls)) := by
  have hdecl : e.constDecl = .const (constSpecs e.decls) := by
    simp [constSpecs_decls, constDecl, consts, constSpec]
  have hlines : ∀ l ∈ (constSpecs e.decls).map ConstSpec.print, l ≠ "" := by
    intro l hl
    obtain ⟨spec, -, rfl⟩ := List.mem_map.1 hl
    simp [ConstSpec.print]
  have hopening : "const (" ≠ "" := by decide
  have hclosing : Writes (writeln · ")") 0 (tabbed 0 ")") := writeln_writes (by decide)
  have hgroup := writeGroup_writes hopening hlines hclosing
  rw [hdecl, Decl.print_of_writes (d := .const (constSpecs e.decls)) hgroup]
  simp [block, constLines, tabbed_zero, String.join_append, Function.comp_def, ConstSpec.print]

theorem valid_print : (Decl.func { e.valid with doc := [] }).print =
    block (validLines e.goName ((constSpecs e.decls).map ConstSpec.name)) := by
  have hvalues : e.labels.map (fun label => Expr.name (e.constSpec label).name) =
      ((constSpecs e.decls).map ConstSpec.name).map .name := by
    simp [constSpecs_decls, Function.comp_def]
  have htrue : Writes (writeStmts · [.ret [.name "true"]]) 2 (tabbed 2 ("return " ++ "true")) :=
    writeStmts_single_writes (return_writes "true")
  have hbody := writeStmts_cons_writes
    (switch_writes "c" ((constSpecs e.decls).map ConstSpec.name) htrue)
    (writeStmts_single_writes (return_writes "false"))
  rw [← hvalues] at hbody
  rw [FuncDecl.print_eq (f := { e.valid with doc := [] }) rfl hbody]
  rw [← String.toList_inj]
  simp [block, validLines, FuncDecl.header, valid, Param.print, printParams, Results.print, joined,
    tabbed]

/-- The texts of the declarations, of which only the method has a comment. -/
theorem decls_print : e.decls.map Decl.print =
    [block ["type " ++ e.goName ++ " string"], block (constLines (constSpecs e.decls)),
      block (commentLines e.valid.doc ++
        validLines e.goName ((constSpecs e.decls).map ConstSpec.name))] := by
  rw [block_append, ← valid_print, ← FuncDecl.print_doc, ← validDecl_eq, ← typeDecl_print,
    ← constDecl_print]
  rfl

end Texts
end Enum
end RoutineBindings.Go
