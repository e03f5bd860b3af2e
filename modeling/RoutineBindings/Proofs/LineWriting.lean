import RoutineBindings.Go.Printer
import RoutineBindings.Proofs.Outcomes

/-!
# Writing after other text

An unlimited sink refuses nothing, and what the writer adds never depends on the text that it
holds already. So the printed file is the package clause, the import block and the declarations,
each as it would print on its own.
-/
namespace RoutineBindings.Go
namespace LineWriter

section Unlimited
variable {w : LineWriter}

theorem offer_free (h : w.sink = .unlimited) (piece : String) :
    w.offer piece = .ok { w with held := w.held ++ piece, offered := w.offered + 1 } := by
  simp [offer, h, Sink.unlimited]

theorem offerUnits_free (h : w.sink = .unlimited) (n : Nat) :
    w.offerUnits n = .ok { w with
      held := w.held ++ String.join (List.replicate n w.unit), offered := w.offered + n } := by
  induction n generalizing w with
  | zero => simp [offerUnits]
  | succ n ih =>
    rw [offerUnits, offer_free h]
    refine (ih (w := { w with held := w.held ++ w.unit, offered := w.offered + 1 }) h).trans ?_
    simp [List.replicate_succ, String.append_assoc, Nat.add_assoc, Nat.add_comm 1 n]

theorem write_start (h : w.sink = .unlimited) (hstart : w.atLineStart = true) {text : String}
    (ht : text ≠ "") :
    w.write text = .ok { w with
      held := w.held ++ String.join (List.replicate w.level w.unit) ++ text
      offered := w.offered + w.level + 1
      atLineStart := false } := by
  rw [LineWriter.write, if_neg (by simpa using ht), if_pos hstart, offerUnits_free h]
  exact offer_free (w := { w with
    held := w.held ++ String.join (List.replicate w.level w.unit)
    offered := w.offered + w.level
    atLineStart := false }) h text

theorem newline_free (h : w.sink = .unlimited) :
    w.newline = .ok { w with
      held := w.held ++ "\n", offered := w.offered + 1, atLineStart := true } := by
  rw [newline, offer_free h]
  rfl

end Unlimited

/-- Both writers are in the same state, but the second holds `p` in front of the text. -/
structure Preceded (p : String) (w v : LineWriter) : Prop where
  free : w.sink = .unlimited
  free' : v.sink = .unlimited
  unit : v.unit = w.unit
  level : v.level = w.level
  atLineStart : v.atLineStart = w.atLineStart
  held : v.held = p ++ w.held

/-- The operation is never refused and does the same after any text. -/
def Additive (f : LineWriter → Result) : Prop :=
  ∀ p w v, Preceded p w v → ∃ w' v', f w = .ok w' ∧ f v = .ok v' ∧ Preceded p w' v'

section Operations
variable {f g : LineWriter → Result}

theorem additive_ok : Additive .ok := fun _ w v h => ⟨w, v, rfl, rfl, h⟩

theorem Additive.bind (hf : Additive f) (hg : Additive g) : Additive fun w => f w >>= g := by
  intro p w v h
  obtain ⟨w₁, v₁, hw, hv, h₁⟩ := hf p w v h
  obtain ⟨w₂, v₂, hw₂, hv₂, h₂⟩ := hg p w₁ v₁ h₁
  refine ⟨w₂, v₂, ?_, ?_, h₂⟩
  · simp only [hw]
    exact hw₂
  · simp only [hv]
    exact hv₂

theorem Additive.indented (hf : Additive f) : Additive fun w => f w.indent := by
  intro p w v h
  exact hf p w.indent v.indent
    ⟨h.free, h.free', h.unit, by simp [indent, h.level], h.atLineStart, h.held⟩

theorem Additive.dedented (hf : Additive f) : Additive fun w => f w.dedent := by
  intro p w v h
  exact hf p w.dedent v.dedent
    ⟨h.free, h.free', h.unit, by simp [dedent, h.level], h.atLineStart, h.held⟩

theorem Additive.ite (b : Bool) (hf : Additive f) (hg : Additive g) :
    Additive fun w => if b then f w else g w := by
  cases b
  · exact hg
  · exact hf

theorem offer_additive (piece : String) : Additive (offer · piece) := by
  intro p w v h
  refine ⟨_, _, offer_free h.free piece, offer_free h.free' piece, ?_⟩
  exact ⟨h.free, h.free', h.unit, h.level, h.atLineStart, by simp [h.held, String.append_assoc]⟩

theorem offerUnits_additive (n : Nat) : Additive (offerUnits · n) := by
  induction n with
  | zero => exact additive_ok
  | succ n ih =>
    intro p w v h
    have hunit := (offer_additive w.unit).bind ih p w v h
    simpa only [offerUnits, h.unit] using hunit

theorem lineStart_additive (b : Bool) (hf : Additive f) :
    Additive fun w => f { w with atLineStart := b } := by
  intro p w v h
  exact hf p _ _ ⟨h.free, h.free', h.unit, h.level, rfl, h.held⟩

theorem write_additive (text : String) : Additive (write · text) := by
  intro p w v h
  by_cases ht : text.isEmpty
  · exact ⟨w, v, by simp [write, ht], by simp [write, ht], h⟩
  · have hpiece := offer_additive text p w v h
    have hstart := ((offerUnits_additive w.level).bind
      (lineStart_additive false (offer_additive text))) p w v h
    cases hw : w.atLineStart with
    | false => simpa [write, ht, h.atLineStart, hw] using hpiece
    | true => simpa [write, ht, h.atLineStart, hw, h.level] using hstart

theorem newline_additive : Additive newline :=
  (offer_additive "\n").bind (lineStart_additive true additive_ok)

theorem writeln_additive (text : String) : Additive (writeln · text) :=
  (write_additive text).bind newline_additive

theorem blankLine_additive : Additive blankLine := by
  intro p w v h
  cases hw : w.atLineStart with
  | true => simpa [blankLine, h.atLineStart, hw] using newline_additive p w v h
  | false =>
    simpa [blankLine, h.atLineStart, hw] using newline_additive.bind newline_additive p w v h

theorem writeLines_additive (ls : List String) : Additive (writeLines · ls) := by
  induction ls with
  | nil => exact additive_ok
  | cons l ls ih => exact (writeln_additive l).bind ih

theorem comment_additive (text : String) : Additive (comment · text) := writeLines_additive _

end Operations
end LineWriter

section Printing
open LineWriter

mutual
theorem Stmt.write_additive : (s : Stmt) → Additive (Stmt.write · s)
  | .define _ _ | .assign _ _ | .declare _ _ | .defer _ | .ret _ | .expr _ => by
    simp only [Stmt.write]
    exact writeln_additive _
  | .branch _ body | .loop _ body | .range _ _ _ body => by
    simp only [Stmt.write]
    exact (writeln_additive _).bind
      ((writeStmts_additive body).indented.bind (writeln_additive _).dedented)
  | .choose _ clauses => by
    simp only [Stmt.write]
    exact (writeln_additive _).bind ((writeClauses_additive clauses).bind (writeln_additive _))

theorem writeStmts_additive : (ss : List Stmt) → Additive (writeStmts · ss)
  | [] => by
    simp only [writeStmts]
    exact additive_ok
  | s :: ss => by
    simp only [writeStmts]
    exact s.write_additive.bind (writeStmts_additive ss)

theorem writeClauses_additive : (cs : List Clause) → Additive (writeClauses · cs)
  | [] => by
    simp only [writeClauses]
    exact additive_ok
  | .mk _ body :: cs => by
    simp only [writeClauses]
    exact (writeln_additive _).bind
      ((writeStmts_additive body).indented.bind (writeClauses_additive cs).dedented)
end

theorem writeDoc_additive (doc : List String) : Additive (writeDoc · doc) := by
  induction doc with
  | nil => exact additive_ok
  | cons d ds ih => exact (comment_additive d).bind ih

theorem FuncDecl.write_additive (f : FuncDecl) : Additive (FuncDecl.write · f) := by
  have hrest : Additive fun w => (do
      let w ← w.write (f.name ++ "(" ++ printParams f.params ++ ")")
      let w ← w.write f.results.print
      let w ← w.writeln " \x7b"
      let w ← writeStmts w.indent f.body
      w.dedent.writeln "\x7d") :=
    (LineWriter.write_additive _).bind ((LineWriter.write_additive _).bind
      ((writeln_additive _).bind
        ((writeStmts_additive f.body).indented.bind (writeln_additive _).dedented)))
  unfold FuncDecl.write
  cases f.receiver with
  | none => exact (writeDoc_additive _).bind ((LineWriter.write_additive _).bind hrest)
  | some r =>
    exact (writeDoc_additive _).bind ((LineWriter.write_additive _).bind
      ((LineWriter.write_additive _).bind hrest))

theorem Decl.write_additive (d : Decl) : Additive (Decl.write · d) := by
  cases d with
  | type doc name underlying => exact (writeDoc_additive doc).bind (writeln_additive _)
  | const specs =>
    exact (writeln_additive _).bind
      ((writeLines_additive _).indented.bind (writeln_additive _).dedented)
  | record doc name embedded fields =>
    have hrest : Additive fun w => (do
        let w ← w.writeLines (fields.map Field.print)
        w.dedent.writeln "\x7d") :=
      (writeLines_additive _).bind (writeln_additive _).dedented
    exact (writeDoc_additive doc).bind ((writeln_additive _).bind
      ((writeLines_additive _).indented.bind (.ite _ hrest (blankLine_additive.bind hrest))))
  | func f => exact f.write_additive

theorem writeDecls_additive (ds : List Decl) : Additive (writeDecls · ds) := by
  induction ds with
  | nil => exact additive_ok
  | cons d ds ih =>
    cases ds with
    | nil => exact d.write_additive
    | cons e ds => exact d.write_additive.bind (blankLine_additive.bind ih)

end Printing

section Files
open LineWriter

/-- The writer indents with tabs and has written the text; `b` says whether a line starts. -/
structure LineWriter.Holds (w : LineWriter) (text : String) (level : Nat) (b : Bool) : Prop where
  free : w.sink = .unlimited
  unit : w.unit = "\t"
  held : w.held = text
  level : w.level = level
  atLineStart : w.atLineStart = b

/-- A line with its indentation. -/
def tabbed (level : Nat) (line : String) : String :=
  String.join (List.replicate level "\t") ++ line ++ "\n"

theorem tabbed_zero (line : String) : tabbed 0 line = line ++ "\n" := by
  simp [tabbed]

theorem tabbed_one (line : String) : tabbed 1 line = "\t" ++ line ++ "\n" := by
  simp [tabbed]

/-- The import block with the empty line after it. No import, no block. -/
def importBlock : List String → String
  | [] => ""
  | paths => "import (\n" ++ String.join (paths.map fun p => "\t" ++ quote p ++ "\n") ++ ")\n\n"

/-- Declarations as they print on their own. -/
def printDecls (ds : List Decl) : String := (writeDecls .withTabs ds).state.held

section Lines
variable {w : LineWriter} {text : String} {level : Nat} {b : Bool}

theorem withTabs_holds : LineWriter.withTabs.Holds "" 0 true := ⟨rfl, rfl, rfl, rfl, rfl⟩

/-- Outside of all levels an operation adds to a text what it writes on its own. -/
theorem LineWriter.Additive.after {f : LineWriter → Result} (hf : Additive f)
    (h : w.Holds text 0 true) :
    ∃ w' v, f .withTabs = .ok w' ∧ f w = .ok v ∧ v.held = text ++ w'.held := by
  obtain ⟨w', v, hw', hv, hvw⟩ := hf w.held .withTabs w
    ⟨rfl, h.free, h.unit, h.level, h.atLineStart, by simp [withTabs, new]⟩
  exact ⟨w', v, hw', hv, by rw [hvw.held, h.held]⟩

theorem newline_holds (h : w.Holds text level b) :
    ∃ w', w.newline = .ok w' ∧ w'.Holds (text ++ "\n") level true :=
  ⟨_, newline_free h.free, h.free, h.unit, by rw [h.held], h.level, rfl⟩

/-- The first piece of a line stands after the indentation. -/
theorem write_holds (h : w.Holds text level true) {piece : String} (hpiece : piece ≠ "") :
    ∃ w', w.write piece = .ok w' ∧
      w'.Holds (text ++ String.join (List.replicate level "\t") ++ piece) level false := by
  refine ⟨_, write_start h.free h.atLineStart hpiece, h.free, h.unit, ?_, h.level, rfl⟩
  rw [h.held, h.unit, h.level]

/-- A further piece stands right after what the line holds. -/
theorem write_further (h : w.Holds text level false) (piece : String) :
    ∃ w', w.write piece = .ok w' ∧ w'.Holds (text ++ piece) level false := by
  by_cases hpiece : piece = ""
  · subst hpiece
    exact ⟨w, rfl, by simpa using h⟩
  · have hwrite : w.write piece = w.offer piece := by
      rw [LineWriter.write, if_neg (by simpa using hpiece), if_neg (by simp [h.atLineStart])]
    exact ⟨_, hwrite.trans (offer_free h.free piece),
      h.free, h.unit, by rw [h.held], h.level, h.atLineStart⟩

end Lines

/-- From the start of a line on, the operation completes and writes a text that ends its last line,
whatever was written before. -/
def LineWriter.Writes (f : LineWriter → Result) (level : Nat) (text : String) : Prop :=
  ∀ w before, w.Holds before level true →
    ∃ w', f w = .ok w' ∧ w'.Holds (before ++ text) level true

namespace LineWriter
variable {f g : LineWriter → Result} {level : Nat} {s t : String}

theorem writes_ok : Writes .ok level "" := fun w before h => ⟨w, rfl, by simpa using h⟩

theorem Writes.bind (hf : Writes f level s) (hg : Writes g level t) :
    Writes (fun w => f w >>= g) level (s ++ t) := by
  intro w before h
  obtain ⟨w₁, hw₁, h₁⟩ := hf w before h
  obtain ⟨w₂, hw₂, h₂⟩ := hg w₁ _ h₁
  refine ⟨w₂, bind_eq_ok.2 ⟨w₁, hw₁, hw₂⟩, ?_⟩
  rwa [← String.append_assoc]

/-- What is written one level below, and then what follows on the level itself. -/
theorem Writes.nested (hf : Writes f (level + 1) s) (hg : Writes g level t) :
    Writes (fun w => f w.indent >>= fun w => g w.dedent) level (s ++ t) := by
  intro w before h
  obtain ⟨w₁, hw₁, h₁⟩ := hf w.indent before
    ⟨h.free, h.unit, h.held, congrArg (· + 1) h.level, h.atLineStart⟩
  obtain ⟨w₂, hw₂, h₂⟩ := hg w₁.dedent _
    ⟨h₁.free, h₁.unit, h₁.held, congrArg (· - 1) h₁.level, h₁.atLineStart⟩
  refine ⟨w₂, bind_eq_ok.2 ⟨w₁, hw₁, hw₂⟩, ?_⟩
  rwa [← String.append_assoc]

theorem newline_writes : Writes newline level "\n" := fun _ _ h => newline_holds h

theorem blankLine_writes : Writes blankLine level "\n" := by
  intro w before h
  rw [blankLine, if_pos h.atLineStart]
  exact newline_holds h

theorem writeln_writes {line : String} (hline : line ≠ "") :
    Writes (writeln · line) level (tabbed level line) := by
  intro w before h
  obtain ⟨w₁, hw₁, h₁⟩ := write_holds h hline
  obtain ⟨w₂, hw₂, h₂⟩ := newline_holds h₁
  refine ⟨w₂, bind_eq_ok.2 ⟨w₁, hw₁, hw₂⟩, ?_⟩
  simpa only [tabbed, String.append_assoc] using h₂

theorem writeLines_writes {ls : List String} (hls : ∀ l ∈ ls, l ≠ "") :
    Writes (writeLines · ls) level (String.join (ls.map (tabbed level))) := by
  induction ls with
  | nil => exact writes_ok
  | cons l ls ih =>
    obtain ⟨hl, hls⟩ := List.forall_mem_cons.1 hls
    rw [List.map_cons, String.join_cons]
    exact (writeln_writes hl).bind (ih hls)

/-- A line, further lines one level below, and what closes them. -/
theorem writeGroup_writes {opening : String} (hopening : opening ≠ "") {ls : List String}
    (hls : ∀ l ∈ ls, l ≠ "") (hg : Writes g 0 t) :
    Writes (fun w => writeln w opening >>= fun w => writeLines w.indent ls >>= fun w => g w.dedent)
      0 (opening ++ "\n" ++ (String.join (ls.map fun l => "\t" ++ l ++ "\n") ++ t)) := by
  rw [← tabbed_zero, ← funext tabbed_one]
  exact (writeln_writes hopening).bind ((writeLines_writes hls).nested hg)

end LineWriter

theorem Decl.print_of_writes {d : Decl} {t : String} (h : Writes (Decl.write · d) 0 t) :
    d.print = t := by
  obtain ⟨w, hw, hheld⟩ := h .withTabs "" withTabs_holds
  have hw : d.write .withTabs = .ok w := hw
  rw [Decl.print, hw, Result.state, hheld.held, String.empty_append]

/-- The first line of a function without its brace. -/
def FuncDecl.header (f : FuncDecl) : String :=
  "func " ++ (f.receiver.elim "" fun r => "(" ++ r.print ++ ") ") ++
    (f.name ++ "(" ++ printParams f.params ++ ")") ++ f.results.print

/-- What follows on a line that holds the receiver of a function already. -/
theorem FuncDecl.write_named {f : FuncDecl} {body : String}
    (hbody : Writes (writeStmts · f.body) 1 body) {w : LineWriter} {text : String}
    (h : w.Holds text 0 false) :
    ∃ w', (do
        let w ← w.write (f.name ++ "(" ++ printParams f.params ++ ")")
        let w ← w.write f.results.print
        let w ← w.writeln " \x7b"
        let w ← writeStmts w.indent f.body
        w.dedent.writeln "\x7d") = .ok w' ∧
      w'.Holds (text ++ (f.name ++ "(" ++ printParams f.params ++ ")") ++ f.results.print ++
        " \x7b\n" ++ body ++ "\x7d\n") 0 true := by
  obtain ⟨w₁, hw₁, h₁⟩ := write_further h (f.name ++ "(" ++ printParams f.params ++ ")")
  obtain ⟨w₂, hw₂, h₂⟩ := write_further h₁ f.results.print
  obtain ⟨w₃, hw₃, h₃⟩ := write_further h₂ " \x7b"
  obtain ⟨w₄, hw₄, h₄⟩ := newline_holds h₃
  have hclosing : Writes (writeln · "\x7d") 0 "\x7d\n" := writeln_writes (by decide)
  obtain ⟨w₅, hw₅, h₅⟩ := hbody.nested hclosing w₄ _ h₄
  refine ⟨w₅, ?_, by simpa [String.append_assoc] using h₅⟩
  have hbrace : w₂.writeln " \x7b" = .ok w₄ := bind_eq_ok.2 ⟨w₃, hw₃, hw₄⟩
  simp only [hw₁, hw₂, hbrace, bind, Except.bind]
  exact hw₅

/-- A function without a comment is its first line, its body one level below, and a brace. -/
theorem FuncDecl.write_writes {f : FuncDecl} (hdoc : f.doc = []) {body : String}
    (hbody : Writes (writeStmts · f.body) 1 body) :
    Writes (FuncDecl.write · f) 0 (f.header ++ " \x7b\n" ++ body ++ "\x7d\n") := by
  intro w before h
  have hfunc : "func " ≠ "" := by decide
  obtain ⟨w₁, hw₁, h₁⟩ := write_holds h hfunc
  unfold FuncDecl.write FuncDecl.header
  rw [hdoc]
  cases f.receiver with
  | none =>
    obtain ⟨w₂, hw₂, h₂⟩ := FuncDecl.write_named hbody h₁
    refine ⟨w₂, ?_, by simpa [String.append_assoc] using h₂⟩
    simp only [writeDoc, hw₁, bind, Except.bind]
    exact hw₂
  | some r =>
    obtain ⟨w₂, hw₂, h₂⟩ := write_further h₁ ("(" ++ r.print ++ ") ")
    obtain ⟨w₃, hw₃, h₃⟩ := FuncDecl.write_named hbody h₂
    refine ⟨w₃, ?_, by simpa [String.append_assoc] using h₃⟩
    simp only [writeDoc, hw₁, hw₂, bind, Except.bind]
    exact hw₃

theorem FuncDecl.print_eq {f : FuncDecl} (hdoc : f.doc = []) {body : String}
    (hbody : Writes (writeStmts · f.body) 1 body) :
    (Decl.func f).print = f.header ++ " \x7b\n" ++ body ++ "\x7d\n" :=
  Decl.print_of_writes (d := .func f) (FuncDecl.write_writes hdoc hbody)

theorem quote_ne (s : String) : quote s ≠ "" := by
  intro h
  simpa [quote] using congrArg String.toList h

theorem writeImports_writes (paths : List String) :
    Writes (writeImports · paths) 0 (importBlock paths) := by
  cases paths with
  | nil => exact writes_ok
  | cons p ps =>
    have hopening : "import (" ≠ "" := by decide
    have hlines : ∀ l ∈ (p :: ps).map quote, l ≠ "" := by simp [quote_ne]
    have hclosing : Writes (fun w => writeln w ")" >>= blankLine) 0 (tabbed 0 ")" ++ "\n") :=
      (writeln_writes (by decide)).bind blankLine_writes
    have hgroup := writeGroup_writes hopening hlines hclosing
    have hblock : importBlock (p :: ps) = "import (" ++ "\n" ++
        (String.join (((p :: ps).map quote).map fun l => "\t" ++ l ++ "\n") ++
          (tabbed 0 ")" ++ "\n")) := by
      simp [importBlock, tabbed, Function.comp_def, String.append_assoc]
    rw [hblock]
    exact hgroup

/-- The printed file is the package clause, the import block and the declarations. -/
theorem SourceFile.print_eq (f : SourceFile) :
    f.print = "package " ++ f.package ++ "\n\n" ++ importBlock f.imports ++ printDecls f.decls := by
  have hclause : "package " ++ f.package ≠ "" := by simp
  obtain ⟨w₁, hw₁, h₁⟩ := writeln_writes hclause _ _ withTabs_holds
  obtain ⟨w₂, hw₂, h₂⟩ := blankLine_writes w₁ _ h₁
  obtain ⟨w₃, hw₃, h₃⟩ := writeImports_writes f.imports w₂ _ h₂
  obtain ⟨w, v, hw, hv, hheld⟩ := (writeDecls_additive f.decls).after h₃
  have hprint : f.write .withTabs = .ok v := by
    simp only [SourceFile.write, hw₁, hw₂, hw₃, bind, Except.bind, hv]
  have hdecls : printDecls f.decls = w.held := by simp [printDecls, hw, Result.state]
  rw [SourceFile.print, hprint, hdecls]
  simp only [Result.state, hheld, tabbed]
  simp [String.append_assoc]

end Files
end RoutineBindings.Go
