import Mathlib
import RoutineBindings.Command.Run
import RoutineBindings.Proofs.Synthesis

/-!
# All or nothing

A run either fails before it touches anything, or it has made the whole source and then writes
it once. To say what a run touches, the actions of a system are recorded with their outcomes:
the system may be any, and so may the state that it is in before the run.
-/
namespace RoutineBindings
open Text (Bytes)

/-- A change to files, or the start of a program, and how it ended. -/
inductive Deed where
  | makeDirectory (path : String) (outcome : Except FileFault Unit)
  | writeFile (path : String) (content : Bytes) (outcome : Except FileFault Unit)
  | removeFile (path : String) (outcome : Except FileFault Unit)
  | runProgram (program : String) (arguments : List String) (outcome : Except FileFault Outcome)

section Recording
variable {σ α : Type}

/-- An action that leaves no deed behind. -/
def unnoted (x : StateM σ α) : StateM (σ × List Deed) α := fun (s, ds) =>
  let (a, s') := x s
  (a, s', ds)

def noted (deed : α → Deed) (x : StateM σ α) : StateM (σ × List Deed) α := fun (s, ds) =>
  let (a, s') := x s
  (a, s', ds ++ [deed a])

def Files.recorded (f : Files (StateM σ)) : Files (StateM (σ × List Deed)) where
  isPresent path := unnoted (f.isPresent path)
  read path := unnoted (f.read path)
  write path content := noted (.writeFile path content) (f.write path content)
  createDirectories path := noted (.makeDirectory path) (f.createDirectories path)
  remove path := noted (.removeFile path) (f.remove path)

def Programs.recorded (p : Programs (StateM σ)) : Programs (StateM (σ × List Deed)) where
  run program arguments := noted (.runProgram program arguments) (p.run program arguments)

/-- The same system, where each state comes with the deeds so far. -/
def System.recorded (s : System (StateM σ)) : System (StateM (σ × List Deed)) where
  directory := s.directory
  environment := s.environment
  files := s.files.recorded
  programs := s.programs.recorded
  connect target := unnoted (s.connect target)
  color := s.color

end Recording

/-- What one call of the source writer does, and what it answers. -/
inductive Writing (path source : String) : List Deed → Except FileError Unit → Prop where
  | here {r} (h : Path.directory? path = none) :
      Writing path source [.writeFile path (Text.encode source) r]
        (r.mapError fun e => .write path e.message)
  | below {d r} (h : Path.directory? path = some d) :
      Writing path source [.makeDirectory d (.ok ()), .writeFile path (Text.encode source) r]
        (r.mapError fun e => .write path e.message)
  | noDirectory {d e} (h : Path.directory? path = some d) :
      Writing path source [.makeDirectory d (.error e)] (.error (.createDirectory d e.message))

/-- What one call of the formatter does, and what it answers. -/
inductive Formatting (path : String) :
    List String → List Deed → Except FormatterError Unit → Prop where
  | unset : Formatting path [] [] (.ok ())
  | refused {program arguments e} :
      Formatting path (program :: arguments)
        [.runProgram program (arguments ++ [path]) (.error e)] (.error (.spawn program e.message))
  | succeeded {program arguments o} (h : o.status.isSuccess = true) :
      Formatting path (program :: arguments)
        [.runProgram program (arguments ++ [path]) (.ok o)] (.ok ())
  | failed {program arguments o} (h : o.status.isSuccess = false) :
      Formatting path (program :: arguments)
        [.runProgram program (arguments ++ [path]) (.ok o)]
        (.error (.failed program o.status.message o.diagnostics))

section Outcomes
variable {σ : Type}

/-- The writer does the same on the recorded files, and notes what it does. -/
theorem writeSource_recorded (f : Files (StateM σ)) (path source : String) (s : σ)
    (log : List Deed) :
    ∃ ds r s', Writing path source ds r ∧ f.writeSource path source s = (r, s') ∧
      f.recorded.writeSource path source (s, log) = (r, s', log ++ ds) := by
  cases hd : Path.directory? path with
  | none =>
    rcases hw : f.write path (Text.encode source) s with ⟨r, s'⟩
    refine ⟨_, _, s', .here (r := r) hd, ?_, ?_⟩ <;>
      simp [Files.writeSource, Files.createParent, hd, Files.recorded, noted, hw, bind,
        StateT.bind, pure, StateT.pure]
  | some d =>
    rcases hc : f.createDirectories d s with ⟨made, s₁⟩
    cases made with
    | error e =>
      refine ⟨_, _, s₁, .noDirectory (e := e) hd, ?_, ?_⟩ <;>
        simp [Files.writeSource, Files.createParent, hd, Files.recorded, noted, hc, bind,
          StateT.bind, pure, StateT.pure, Except.mapError]
    | ok u =>
      rcases hw : f.write path (Text.encode source) s₁ with ⟨r, s'⟩
      refine ⟨_, _, s', .below (r := r) hd, ?_, ?_⟩ <;>
        simp [Files.writeSource, Files.createParent, hd, Files.recorded, noted, hc, hw, bind,
          StateT.bind, pure, StateT.pure, Except.mapError]

/-- The formatter does the same on the recorded programs, and notes what it does. -/
theorem format_recorded (p : Programs (StateM σ)) (formatter : List String) (path : String) (s : σ)
    (log : List Deed) :
    ∃ ds r s', Formatting path formatter ds r ∧ p.format formatter path s = (r, s') ∧
      p.recorded.format formatter path (s, log) = (r, s', log ++ ds) := by
  cases formatter with
  | nil => exact ⟨[], .ok (), s, .unset, rfl, by simp [Programs.format, pure, StateT.pure]⟩
  | cons program arguments =>
    rcases hr : p.run program (arguments ++ [path]) s with ⟨r, s'⟩
    cases r with
    | error e =>
      refine ⟨_, _, s', .refused (e := e), ?_, ?_⟩ <;>
        simp [Programs.format, Programs.recorded, noted, hr, bind, StateT.bind, pure, StateT.pure]
    | ok o =>
      cases hs : o.status.isSuccess with
      | true =>
        refine ⟨_, _, s', .succeeded hs, ?_, ?_⟩ <;>
          simp [Programs.format, Programs.recorded, noted, hr, hs, bind, StateT.bind, pure,
            StateT.pure]
      | false =>
        refine ⟨_, _, s', .failed hs, ?_, ?_⟩ <;>
          simp [Programs.format, Programs.recorded, noted, hr, hs, bind, StateT.bind, pure,
            StateT.pure]

/-- The source is written once, and only a source that was written is formatted. -/
theorem writeAndFormat_recorded (sys : System (StateM σ)) (formatter : List String)
    (path source : String) (s : σ) (log : List Deed) :
    ∃ ds w, Writing path source ds w ∧ ∃ ds' answer s',
      (sys.workbench formatter).writeAndFormat path source s = (answer, s') ∧
      (sys.recorded.workbench formatter).writeAndFormat path source (s, log) =
        (answer, s', log ++ (ds ++ ds')) ∧
      match w with
      | .error e => ds' = [] ∧ answer = .error (.file e)
      | .ok () => ∃ f, Formatting path formatter ds' f ∧ answer = f.mapError .formatter := by
  obtain ⟨ds, w, s₁, hw, hrun, hrec⟩ := writeSource_recorded sys.files path source s log
  refine ⟨ds, w, hw, ?_⟩
  cases w with
  | error e =>
    refine ⟨[], .error (.file e), s₁, ?_, ?_, rfl, rfl⟩
    · simp [Workbench.writeAndFormat, System.workbench, bind, StateT.bind, hrun, pure, StateT.pure]
    · simp [Workbench.writeAndFormat, System.workbench, System.recorded, bind, StateT.bind, hrec,
        pure, StateT.pure]
  | ok u =>
    obtain ⟨ds', f, s', hf, hrun', hrec'⟩ :=
      format_recorded sys.programs formatter path s₁ (log ++ ds)
    refine ⟨ds', f.mapError .formatter, s', ?_, ?_, f, hf, rfl⟩
    · cases f <;> simp [Workbench.writeAndFormat, System.workbench, bind, StateT.bind, hrun, hrun',
        pure, StateT.pure, Except.mapError]
    · cases f <;> simp [Workbench.writeAndFormat, System.workbench, System.recorded, bind,
        StateT.bind, hrec, hrec', pure, StateT.pure, Except.mapError]

variable {c : Catalog} {q : GenerationRequest}

theorem generate_of_error (b : Workbench (StateM σ)) (s : σ) {e : GenerateError}
    (h : (synthesize c q).value = .error e) :
    generate c b q s = (⟨.error e, (synthesize c q).events⟩, s) := by
  simp [generate, h, pure, StateT.pure]

theorem generate_of_dryRun (b : Workbench (StateM σ)) (s : σ) {made : Synthesis}
    (h : (synthesize c q).value = .ok made) (hd : q.dryRun = true) :
    generate c b q s = (⟨.ok (made.report q), (synthesize c q).events⟩, s) := by
  simp [generate, h, hd, pure, StateT.pure]

theorem generate_of_write {b : Workbench (StateM σ)} {s s' : σ} {made : Synthesis}
    {done : Except GenerateError Unit} (h : (synthesize c q).value = .ok made)
    (hd : q.dryRun = false) (hb : b.writeAndFormat q.output made.source s = (done, s')) :
    generate c b q s =
      (⟨done.map fun _ => made.report q, (synthesize c q).events⟩, s') := by
  cases done <;> simp [generate, h, hd, bind, StateT.bind, hb, pure, StateT.pure, Except.map]

/-- For any system, in any state, with any formatter: a request whose synthesis fails is
answered with that error and nothing is done. A dry run does nothing either. Otherwise the
writer is called once, with the synthesized source and the requested output, then the formatter
if the source was written, and the answer says that it was written if both succeeded. The
synthesis fails when nothing is requested or any of the names cannot be introspected. -/
theorem generate_all_or_nothing (sys : System (StateM σ)) (formatter : List String)
    (c : Catalog) (q : GenerationRequest) (s : σ) (log : List Deed) :
    ∃ answer ds s',
      generate c (sys.workbench formatter) q s = (answer, s') ∧
      generate c (sys.recorded.workbench formatter) q (s, log) = (answer, s', log ++ ds) ∧
      (∀ e, SynthesisFails c q e → answer.value = .error e ∧ ds = [] ∧ s' = s) ∧
      (∀ made, (synthesize c q).value = .ok made →
        if q.dryRun then
          ds = [] ∧ s' = s ∧ ∃ r, answer.value = .ok r ∧ r.source = made.source ∧ r.written = false
        else ∃ ds₁ w, Writing q.output made.source ds₁ w ∧ ∃ ds₂, ds = ds₁ ++ ds₂ ∧
          match w with
          | .error e => ds₂ = [] ∧ answer.value = .error (.file e)
          | .ok () => ∃ f, Formatting q.output formatter ds₂ f ∧
            match f with
            | .error e => answer.value = .error (.formatter e)
            | .ok () => ∃ r, answer.value = .ok r ∧ r.source = made.source ∧ r.written = true) ∧
      ((∃ e, SynthesisFails c q e) ↔
        q.routines = [] ∨ ∃ name ∈ q.routines, ∃ e, (introspect c name).value = .error e) := by
  cases hs : (synthesize c q).value with
  | error e =>
    refine ⟨_, [], s, generate_of_error _ s hs, by simpa using generate_of_error _ (s, log) hs,
      ?_, ?_, exists_synthesisFails_iff⟩
    · intro e' he
      cases hs.symm.trans (synthesize_eq_error.2 he)
      exact ⟨rfl, rfl, rfl⟩
    · intro made h
      cases h
  | ok made =>
    have hno : ∀ e, ¬ SynthesisFails c q e := fun e he =>
      nomatch hs.symm.trans (synthesize_eq_error.2 he)
    cases hd : q.dryRun with
    | true =>
      refine ⟨_, [], s, generate_of_dryRun _ s hs hd,
        by simpa using generate_of_dryRun _ (s, log) hs hd, fun e he => absurd he (hno e), ?_,
        exists_synthesisFails_iff⟩
      intro made' h
      cases h
      exact ⟨rfl, rfl, made.report q, rfl, rfl, by simp [Synthesis.report, hd]⟩
    | false =>
      obtain ⟨ds₁, w, hw, ds₂, done, s', hrun, hrec, hout⟩ :=
        writeAndFormat_recorded sys formatter q.output made.source s log
      refine ⟨_, ds₁ ++ ds₂, s', generate_of_write hs hd hrun, generate_of_write hs hd hrec,
        fun e he => absurd he (hno e), ?_, exists_synthesisFails_iff⟩
      intro made' h
      cases h
      refine ⟨ds₁, w, hw, ds₂, rfl, ?_⟩
      cases w with
      | error e =>
        obtain ⟨rfl, rfl⟩ := hout
        exact ⟨rfl, rfl⟩
      | ok u =>
        obtain ⟨f, hf, rfl⟩ := hout
        refine ⟨f, hf, ?_⟩
        cases f with
        | error e => rfl
        | ok u => exact ⟨made.report q, rfl, rfl, by simp [Synthesis.report, hd]⟩

end Outcomes
end RoutineBindings
