import RoutineBindings.Proofs.AllOrNothing
import RoutineBindings.Proofs.FileLayout

/-!
# Previews

A dry run shows the source without the blanks at its end, and the program ends what it prints with
a newline. Nothing is lost by that: the last declaration of a file is a function, so every source
ends with the line of a closing brace.
-/
namespace RoutineBindings.Go
namespace LineWriter

/-- After a completed operation the sink holds the text last. -/
def EndsWith (text : String) (f : LineWriter → Result) : Prop :=
  ∀ w w', f w = .ok w' → ∃ before, w'.held = before ++ text

section Operations
variable {f g : LineWriter → Result} {text : String}

theorem EndsWith.bind (hg : EndsWith text g) : EndsWith text fun w => f w >>= g := by
  intro w w' h
  obtain ⟨w₁, -, hw'⟩ := bind_eq_ok.1 h
  exact hg w₁ w' hw'

theorem EndsWith.dedented (hf : EndsWith text f) : EndsWith text fun w => f w.dedent :=
  fun w w' h => hf w.dedent w' h

theorem offer_endsWith (piece : String) : EndsWith piece (offer · piece) := by
  intro w w' h
  simp only [offer] at h
  split at h
  · cases h
    exact ⟨w.held, rfl⟩
  · cases h

theorem write_endsWith (htext : text ≠ "") : EndsWith text (write · text) := by
  intro w w' h
  have hfull : ¬ text.isEmpty = true := by simpa using htext
  simp only [write, if_neg hfull] at h
  split at h
  · obtain ⟨w₁, -, h₁⟩ := bind_eq_ok.1 h
    exact offer_endsWith text _ w' h₁
  · exact offer_endsWith text w w' h

theorem writeln_endsWith {line : String} (hline : line ≠ "") :
    EndsWith (line ++ "\n") (writeln · line) := by
  intro w w' h
  obtain ⟨w₁, hw₁, h⟩ := bind_eq_ok.1 h
  obtain ⟨before, hbefore⟩ := write_endsWith hline w w₁ hw₁
  obtain ⟨w₂, hw₂, h⟩ := bind_eq_ok.1 h
  cases h
  simp only [offer] at hw₂
  split at hw₂
  · cases hw₂
    exact ⟨before, by rw [hbefore, String.append_assoc]⟩
  · cases hw₂

end Operations
end LineWriter

section Files
open LineWriter

theorem FuncDecl.write_endsWith (f : FuncDecl) : EndsWith "\x7d\n" (FuncDecl.write · f) := by
  have hbrace : "\x7d" ≠ "" := by decide
  have hclose := (writeln_endsWith hbrace).dedented
  unfold FuncDecl.write
  cases f.receiver with
  | none => exact hclose.bind.bind.bind.bind.bind.bind
  | some r => exact hclose.bind.bind.bind.bind.bind.bind.bind

theorem FuncDecl.print_ends (f : FuncDecl) : ∃ text, (Decl.func f).print = text ++ "\x7d\n" := by
  obtain ⟨w, hw, h⟩ := (Decl.func f).write_withTabs
  obtain ⟨text, htext⟩ := f.write_endsWith .withTabs w hw
  exact ⟨text, h.held ▸ htext⟩

/-- A file whose last declaration is a function ends as the function does. -/
theorem SourceFile.print_ends {file : SourceFile} {ds : List Decl} {f : FuncDecl}
    (h : file.decls = ds ++ [.func f]) : ∃ text, file.print = text ++ "\x7d\n" := by
  obtain ⟨last, hlast⟩ := f.print_ends
  obtain ⟨before, hbefore⟩ := Text.joined_concat "\n" (ds.map Decl.print) (Decl.func f).print
  have hdecls : printDecls file.decls = before ++ (last ++ "\x7d\n") := by
    rw [printDecls_eq, h, List.map_append, List.map_singleton, hbefore, hlast]
  rw [SourceFile.print_eq, hdecls, ← String.append_assoc, ← String.append_assoc]
  exact ⟨_, rfl⟩

end Files
end RoutineBindings.Go

namespace RoutineBindings
open Go Text

theorem trimTextEnd_closed (text : String) :
    trimTextEnd (text ++ "\x7d\n") = text ++ "\x7d" := by
  have hbrace : trimEnd "\x7d".toList = "\x7d".toList := by decide
  have hnewline : ∀ c ∈ "\n".toList, isBlank c = true := forall_of_all (by decide)
  have hlist : (text ++ "\x7d\n").toList = (text.toList ++ "\x7d".toList) ++ "\n".toList := by
    simp
  rw [← String.toList_inj, trimTextEnd, String.toList_ofList, hlist,
    trimEnd_append_of_blank hnewline, trimEnd_append (hbrace ▸ List.cons_ne_nil _ _), hbrace,
    String.toList_append]

section Sources
variable (c : Catalog) (q : GenerationRequest) {rs : List Routine}

/-- The last declaration is the inline array function or the last wrapper. -/
theorem synthesizedFile_ends (h : rs ≠ []) :
    ∃ ds f, (synthesizedFile c q rs).decls = ds ++ [.func f] := by
  have hdecls : (synthesizedFile c q rs).decls = (fileEnums q.overrides c rs).decls ++
      rs.flatMap (fun r => Wrapper.decls q.options (resolvedRoutine q.overrides c r)) ++
        if callsInlineArray c q rs then [ArrayLiteral.inlineDecl] else [] := by
    rw [synthesizedFile_eq]
  obtain ⟨rs', r, rfl⟩ := (List.eq_nil_or_concat rs).resolve_left h
  rw [hdecls]
  split
  · exact ⟨_, _, rfl⟩
  · rw [List.concat_eq_append, List.flatMap_append, List.flatMap_singleton, List.append_nil,
      Wrapper.decls, ← List.append_assoc, ← List.append_assoc]
    exact ⟨_, _, rfl⟩

/-- Every source ends with the line of a closing brace. -/
theorem source_closed {made : Synthesis} (h : (synthesize c q).value = .ok made) :
    ∃ text, made.source = text ++ "\x7d\n" := by
  obtain ⟨hq, rs, hfound, rfl⟩ := synthesize_eq_ok.1 h
  obtain ⟨ds, f, hdecls⟩ := synthesizedFile_ends c q (found_ne_nil hfound hq)
  rw [synthesisOf_source]
  exact SourceFile.print_ends hdecls

end Sources

section Runs
variable {σ : Type}

/-- The same workbench with a list of the sources that it was given to write, and where. -/
def Workbench.noting (b : Workbench (StateM σ)) :
    Workbench (StateM (σ × List (String × String))) where
  write path source := fun (s, written) =>
    let (answer, s') := b.write path source s
    (answer, s', written ++ [(path, source)])
  format path := fun (s, written) =>
    let (answer, s') := b.format path s
    (answer, s', written)

theorem writeAndFormat_noting (b : Workbench (StateM σ)) (path source : String) (s : σ)
    (written : List (String × String)) :
    ∃ answer s', b.noting.writeAndFormat path source (s, written) =
      (answer, s', written ++ [(path, source)]) := by
  rcases hw : b.write path source s with ⟨wrote, s₁⟩
  cases wrote with
  | error e =>
    refine ⟨.error (.file e), s₁, ?_⟩
    simp [Workbench.writeAndFormat, Workbench.noting, hw, bind, StateT.bind, pure, StateT.pure]
  | ok u =>
    rcases hf : b.format path s₁ with ⟨formatted, s₂⟩
    refine ⟨formatted.mapError .formatter, s₂, ?_⟩
    cases formatted <;> simp [Workbench.writeAndFormat, Workbench.noting, hw, hf, bind,
      StateT.bind, pure, StateT.pure, Except.mapError]

variable {c : Catalog} {q : GenerationRequest} {made : Synthesis}

theorem generate_notes (b : Workbench (StateM σ)) (s : σ)
    (h : (synthesize c q).value = .ok made) :
    (generate c b.noting { q with dryRun := false } (s, [])).2.2 = [(q.output, made.source)] := by
  obtain ⟨answer, s', hwrite⟩ := writeAndFormat_noting b q.output made.source s []
  rw [generate_of_write (q := { q with dryRun := false }) h rfl hwrite]
  rfl

/-- What a dry run shows is, with the newline that ends the program's output, what a run that
writes hands to its writer, once and under the requested name. It is not blank and has no blank at
its end, so the source ends in one newline. -/
theorem preview_faithful (b : Workbench (StateM σ)) (c : Catalog) (q : GenerationRequest)
    (color : Bool) (s : σ) (h : (synthesize c q).value = .ok made) :
    ∃ report,
      generate c b { q with dryRun := true } s = (⟨.ok report, (synthesize c q).events⟩, s) ∧
      (generate c b.noting { q with dryRun := false } (s, [])).2.2 =
        [(q.output, report.render .text color ++ "\n")] ∧
      made.source = report.render .text color ++ "\n" ∧
      ∃ text last, report.render .text color = text ++ String.singleton last ∧
        isBlank last = false := by
  obtain ⟨text, htext⟩ := source_closed c q h
  have hshown : (made.report { q with dryRun := true }).render .text color = text ++ "\x7d" := by
    change trimTextEnd made.source = text ++ "\x7d"
    rw [htext, trimTextEnd_closed]
  have hsource : made.source = text ++ "\x7d" ++ "\n" := by
    rw [htext, String.append_assoc]
    rfl
  refine ⟨_, generate_of_dryRun b s (q := { q with dryRun := true }) h rfl, ?_, ?_, text, '\x7d',
    ?_, by decide⟩
  · rw [generate_notes b s h, hshown, hsource]
  · rw [hshown, hsource]
  · rw [hshown]
    rfl

/-- A directory without files other than the written one, where every write and every formatting
succeeds. -/
def oneFile : Workbench (StateM String) where
  write _ source := fun _ => (.ok (), source)
  format _ := fun held => (.ok (), held)

theorem preview_of_moods : ∃ made report,
    (synthesize moodCatalog (moodRequest ["log_mood", "drop_moods"])).value = .ok made ∧
    (generate moodCatalog oneFile (moodRequest ["log_mood", "drop_moods"]) "").1.value =
      .ok report ∧
    (generate moodCatalog oneFile.noting
      { moodRequest ["log_mood", "drop_moods"] with dryRun := false } ("", [])).2.2 =
      [("db.go", report.render .text false ++ "\n")] ∧
    made.source = report.render .text false ++ "\n" := by
  have hfound : List.Forall₂ (Found moodCatalog) ["log_mood", "drop_moods"]
      [moodRoutine "log_mood", moodRoutine "drop_moods"] := .cons rfl (.cons rfl .nil)
  have hs : (synthesize moodCatalog (moodRequest ["log_mood", "drop_moods"])).value = .ok _ :=
    synthesize_eq_ok.2 ⟨by decide, _, hfound, rfl⟩
  obtain ⟨report, hdry, hwritten, hsource, -⟩ :=
    preview_faithful oneFile moodCatalog (moodRequest ["log_mood", "drop_moods"]) false "" hs
  have hanswer : (generate moodCatalog oneFile (moodRequest ["log_mood", "drop_moods"]) "").1.value
      = .ok report := by
    exact congrArg (fun run => run.1.value) hdry
  exact ⟨_, report, hs, hanswer, hwritten, hsource⟩

end Runs
end RoutineBindings
