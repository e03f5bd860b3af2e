import RoutineBindings.Proofs.LineWriting
import RoutineBindings.Proofs.Outcomes

/-!
# Declarations one after the other

All declarations of a file go through one writer. Each of them closes the levels that it opens and
ends its last line, so the next one finds the writer as a new writer would be, and a file of
declarations is the texts of the single ones with an empty line between them.
-/
namespace RoutineBindings.Go
namespace LineWriter

/-- A completed operation leaves the sink and the unit as they were and the level as stated. -/
def Shifts (shift : Nat → Nat) (f : LineWriter → Result) : Prop :=
  ∀ w w', f w = .ok w' → w'.sink = w.sink ∧ w'.unit = w.unit ∧ w'.level = shift w.level

/-- A completed operation ends at the start of a line. -/
def EndsLine (f : LineWriter → Result) : Prop := ∀ w w', f w = .ok w' → w'.atLineStart = true

section Operations
variable {f g : LineWriter → Result} {s t : Nat → Nat}

theorem shifts_ok : Shifts id .ok := by
  intro w w' h
  cases h
  exact ⟨rfl, rfl, rfl⟩

theorem Shifts.bind (hf : Shifts s f) (hg : Shifts t g) : Shifts (t ∘ s) fun w => f w >>= g := by
  intro w w' h
  obtain ⟨w₁, hw₁, hw'⟩ := bind_eq_ok.1 h
  obtain ⟨hsink, hunit, hlevel⟩ := hf w w₁ hw₁
  obtain ⟨hsink', hunit', hlevel'⟩ := hg w₁ w' hw'
  exact ⟨hsink'.trans hsink, hunit'.trans hunit, hlevel'.trans (congrArg t hlevel)⟩

theorem Shifts.indented (hf : Shifts s f) : Shifts (fun n => s (n + 1)) fun w => f w.indent :=
  fun w w' h => hf w.indent w' h

theorem Shifts.dedented (hf : Shifts s f) : Shifts (fun n => s (n - 1)) fun w => f w.dedent :=
  fun w w' h => hf w.dedent w' h

theorem Shifts.ite (b : Bool) (hf : Shifts s f) (hg : Shifts s g) :
    Shifts s fun w => if b then f w else g w := by
  cases b
  · exact hg
  · exact hf

theorem offer_shifts (piece : String) : Shifts id (offer · piece) := by
  intro w w' h
  simp only [offer] at h
  split at h
  · cases h
    exact ⟨rfl, rfl, rfl⟩
  · cases h

theorem offerUnits_shifts (n : Nat) : Shifts id (offerUnits · n) := by
  induction n with
  | zero => exact shifts_ok
  | succ n ih =>
    intro w w' h
    exact (offer_shifts w.unit).bind ih w w' h

theorem lineStart_shifts (b : Bool) (hf : Shifts s f) :
    Shifts s fun w => f { w with atLineStart := b } :=
  fun w w' h => hf { w with atLineStart := b } w' h

theorem write_shifts (text : String) : Shifts id (write · text) := by
  intro w w' h
  simp only [write] at h
  split at h
  · exact shifts_ok w w' h
  · split at h
    · exact ((offerUnits_shifts w.level).bind
        (lineStart_shifts false (offer_shifts text))) w w' h
    · exact offer_shifts text w w' h

theorem newline_shifts : Shifts id newline :=
  (offer_shifts "\n").bind (lineStart_shifts true shifts_ok)

theorem writeln_shifts (text : String) : Shifts id (writeln · text) :=
  (write_shifts text).bind newline_shifts

theorem blankLine_shifts : Shifts id blankLine := by
  intro w w' h
  unfold blankLine at h
  split at h
  · exact newline_shifts w w' h
  · exact newline_shifts.bind newline_shifts w w' h

theorem writeLines_shifts (ls : List String) : Shifts id (writeLines · ls) := by
  induction ls with
  | nil => exact shifts_ok
  | cons l ls ih => exact (writeln_shifts l).bind ih

theorem EndsLine.bind (hg : EndsLine g) : EndsLine fun w => f w >>= g := by
  intro w w' h
  obtain ⟨w₁, -, hw'⟩ := bind_eq_ok.1 h
  exact hg w₁ w' hw'

theorem EndsLine.dedented (hf : EndsLine f) : EndsLine fun w => f w.dedent :=
  fun w w' h => hf w.dedent w' h

theorem EndsLine.ite (b : Bool) (hf : EndsLine f) (hg : EndsLine g) :
    EndsLine fun w => if b then f w else g w := by
  cases b
  · exact hg
  · exact hf

theorem newline_endsLine : EndsLine newline := by
  intro w w' h
  unfold newline at h
  obtain ⟨w₁, -, hw'⟩ := bind_eq_ok.1 h
  cases hw'
  rfl

theorem writeln_endsLine (text : String) : EndsLine (writeln · text) := newline_endsLine.bind

end Operations
end LineWriter

section Printing
open LineWriter

mutual
theorem Stmt.write_shifts : (s : Stmt) → Shifts id (Stmt.write · s)
  | .define _ _ | .assign _ _ | .declare _ _ | .defer _ | .ret _ | .expr _ => by
    simp only [Stmt.write]
    exact writeln_shifts _
  | .branch _ body | .loop _ body | .range _ _ _ body => by
    simp only [Stmt.write]
    exact (writeln_shifts _).bind
      ((writeStmts_shifts body).indented.bind (writeln_shifts _).dedented)
  | .choose _ clauses => by
    simp only [Stmt.write]
    exact (writeln_shifts _).bind ((writeClauses_shifts clauses).bind (writeln_shifts _))

theorem writeStmts_shifts : (ss : List Stmt) → Shifts id (writeStmts · ss)
  | [] => by
    simp only [writeStmts]
    exact shifts_ok
  | s :: ss => by
    simp only [writeStmts]
    exact s.write_shifts.bind (writeStmts_shifts ss)

theorem writeClauses_shifts : (cs : List Clause) → Shifts id (writeClauses · cs)
  | [] => by
    simp only [writeClauses]
    exact shifts_ok
  | .mk _ body :: cs => by
    simp only [writeClauses]
    exact (writeln_shifts _).bind
      ((writeStmts_shifts body).indented.bind (writeClauses_shifts cs).dedented)
end

theorem writeDoc_shifts (doc : List String) : Shifts id (writeDoc · doc) := by
  induction doc with
  | nil => exact shifts_ok
  | cons d ds ih => exact (writeLines_shifts _).bind ih

theorem FuncDecl.write_shifts (f : FuncDecl) : Shifts id (FuncDecl.write · f) := by
  have hrest : Shifts id fun w => (do
      let w ← w.write (f.name ++ "(" ++ printParams f.params ++ ")")
      let w ← w.write f.results.print
      let w ← w.writeln " \x7b"
      let w ← writeStmts w.indent f.body
      w.dedent.writeln "\x7d") :=
    (LineWriter.write_shifts _).bind ((LineWriter.write_shifts _).bind
      ((writeln_shifts _).bind
        ((writeStmts_shifts f.body).indented.bind (writeln_shifts _).dedented)))
  unfold FuncDecl.write
  cases f.receiver with
  | none => exact (writeDoc_shifts _).bind ((LineWriter.write_shifts _).bind hrest)
  | some r =>
    exact (writeDoc_shifts _).bind ((LineWriter.write_shifts _).bind
      ((LineWriter.write_shifts _).bind hrest))

theorem FuncDecl.write_endsLine (f : FuncDecl) : EndsLine (FuncDecl.write · f) := by
  have hclose := (writeln_endsLine "\x7d").dedented
  unfold FuncDecl.write
  cases f.receiver with
  | none => exact hclose.bind.bind.bind.bind.bind.bind
  | some r => exact hclose.bind.bind.bind.bind.bind.bind.bind

theorem Decl.write_shifts (d : Decl) : Shifts id (Decl.write · d) := by
  cases d with
  | type doc name underlying => exact (writeDoc_shifts doc).bind (writeln_shifts _)
  | const specs =>
    exact (writeln_shifts _).bind
      ((writeLines_shifts _).indented.bind (writeln_shifts _).dedented)
  | record doc name embedded fields =>
    have hrest : Shifts (· - 1) fun w => (do
        let w ← w.writeLines (fields.map Field.print)
        w.dedent.writeln "\x7d") :=
      (writeLines_shifts _).bind (writeln_shifts _).dedented
    exact (writeDoc_shifts doc).bind ((writeln_shifts _).bind
      ((writeLines_shifts _).indented.bind (.ite _ hrest (blankLine_shifts.bind hrest))))
  | func f => exact f.write_shifts

theorem Decl.write_endsLine (d : Decl) : EndsLine (Decl.write · d) := by
  cases d with
  | type doc name underlying => exact (writeln_endsLine _).bind
  | const specs => exact (writeln_endsLine _).dedented.bind.bind
  | record doc name embedded fields =>
    have hrest : EndsLine fun w => (do
        let w ← w.writeLines (fields.map Field.print)
        w.dedent.writeln "\x7d") := (writeln_endsLine _).dedented.bind
    exact EndsLine.bind (EndsLine.bind (EndsLine.bind (.ite _ hrest hrest.bind)))
  | func f => exact f.write_endsLine

/-- After a declaration the writer is as new, except for what it holds. -/
theorem Decl.write_withTabs (d : Decl) :
    ∃ w, d.write .withTabs = .ok w ∧ w.Holds d.print 0 true := by
  obtain ⟨w, -, hw, -, h⟩ := d.write_additive "" .withTabs .withTabs
    ⟨rfl, rfl, rfl, rfl, rfl, rfl⟩
  obtain ⟨hsink, hunit, hlevel⟩ := d.write_shifts .withTabs w hw
  have hstart := d.write_endsLine .withTabs w hw
  have hw : d.write .withTabs = .ok w := hw
  have hheld : w.held = d.print := by rw [Decl.print, hw, Result.state]
  exact ⟨w, hw, hsink, hunit, hheld, hlevel, hstart⟩

theorem printDecls_cons (d : Decl) {ds : List Decl} (h : ds ≠ []) :
    printDecls (d :: ds) = d.print ++ "\n" ++ printDecls ds := by
  obtain ⟨e, es, rfl⟩ := List.exists_cons_of_ne_nil h
  obtain ⟨w₁, hw₁, h₁⟩ := d.write_withTabs
  obtain ⟨w₂, hw₂, h₂⟩ := newline_holds h₁
  obtain ⟨w, v, hw, hv, hheld⟩ := (writeDecls_additive (e :: es)).after h₂
  have hfile : writeDecls .withTabs (d :: e :: es) = .ok v := by
    simp only [writeDecls, hw₁, bind, Except.bind, blankLine, h₁.atLineStart, if_true, hw₂]
    exact hv
  have hrest : printDecls (e :: es) = w.held := by simp only [printDecls, hw, Result.state]
  rw [hrest, printDecls, hfile, Result.state, hheld]

theorem printDecls_eq (ds : List Decl) :
    printDecls ds = Text.joined "\n" (ds.map Decl.print) := by
  induction ds with
  | nil => rfl
  | cons d ds ih =>
    by_cases h : ds = []
    · subst h
      rfl
    · have hrest : ds.map Decl.print ≠ [] := mt List.map_eq_nil_iff.1 h
      rw [printDecls_cons d h, List.map_cons, Text.joined_cons hrest, ih]

end Printing
end RoutineBindings.Go
