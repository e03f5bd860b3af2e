import RoutineBindings.Command.Project
import RoutineBindings.CommandLine.Parsing
import RoutineBindings.Proofs.Outcomes
import RoutineBindings.Settings.Connection

/-!
# Effective settings

Settings are checked when they are read; afterwards the environment and the command line come before
them. They cannot make the path of the output empty, since no option takes an empty path, but they
can give the database or the package an empty name.
-/
namespace RoutineBindings
namespace CommandLine
namespace Given

/-- Every recorded value is one that its option accepts. -/
def Accepted (g : Given) : Prop := ∀ e ∈ g.options, e.1.accepts e.2 = true

/-- The operation records accepted values only. -/
def Accepts (f : Given → Except UsageError Given) : Prop :=
  ∀ g g', g.Accepted → f g = .ok g' → g'.Accepted

theorem nothing_accepted : nothing.Accepted := fun _ h => nomatch h

theorem Accepted.value? {g : Given} (hg : g.Accepted) {o : OptionRule} {value : String}
    (h : g.value? o = some value) : o.accepts value = true := by
  obtain ⟨before, after, hoptions, -⟩ := List.lookup_eq_some_iff.1 h
  have hmem : (o, value) ∈ g.options := by
    rw [hoptions]
    exact List.mem_append_right before List.mem_cons_self
  exact hg _ hmem

section Operations
variable {f h : Given → Except UsageError Given}

theorem accepts_error (e : UsageError) : Accepts fun _ => .error e :=
  fun _ _ _ h => nomatch h

theorem Accepts.bind (hf : Accepts f) (hh : Accepts h) : Accepts fun g => f g >>= h := by
  intro g g' hg hrun
  obtain ⟨g₁, hg₁, hrun⟩ := bind_eq_ok.1 hrun
  exact hh g₁ g' (hf g g₁ hg hg₁) hrun

theorem record_accepts (o : OptionRule) (value : String) : Accepts (record · o value) := by
  intro g g' hg hrun
  simp only [record] at hrun
  split at hrun
  · cases hrun
  · split at hrun
    · rename_i haccepts
      cases hrun
      exact List.forall_mem_cons.2 ⟨haccepts, hg⟩
    · cases hrun

theorem settle_accepts : Accepts settle := by
  intro g g' hg hrun
  unfold settle at hrun
  split at hrun
  · cases hrun
    exact hg
  · cases hrun
  · exact record_accepts _ _ { g with waiting := none } g' hg hrun

theorem flag_accepts (o : OptionRule) : Accepts (flag · o) := by
  refine settle_accepts.bind ?_
  split
  · exact accepts_error _
  · exact accepts_error _
  · exact record_accepts o ""

theorem valued_accepts (o : OptionRule) (value : Option String) :
    Accepts (valued · o value) := by
  refine settle_accepts.bind ?_
  cases value with
  | some v => exact record_accepts o v
  | none =>
    intro g g' hg hrun
    cases hrun
    exact hg

theorem long_accepts (s : Scope) (name : String) (value : Option String) :
    Accepts (long · s name value) := by
  unfold long
  cases s.long? name with
  | none => exact accepts_error _
  | some o =>
    dsimp only
    split
    · exact valued_accepts o value
    · split
      · exact accepts_error _
      · exact flag_accepts o

theorem shorts_accepts (s : Scope) (cluster : List Char) : Accepts (shorts s cluster) := by
  induction cluster with
  | nil =>
    intro g g' hg hrun
    cases hrun
    exact hg
  | cons c cs ih =>
    intro g g' hg hrun
    simp only [shorts] at hrun
    split at hrun
    · cases hrun
    · rename_i o _
      split at hrun
      · split at hrun
        · exact valued_accepts o none g g' hg hrun
        · exact valued_accepts o _ g g' hg hrun
        · exact valued_accepts o _ g g' hg hrun
      · exact (flag_accepts o).bind ih g g' hg hrun

theorem plain_accepts (s : Scope) (text : String) : Accepts (plain · s text) := by
  intro g g' hg hrun
  simp only [plain] at hrun
  split at hrun
  · refine settle_accepts.bind ?_ g g' hg hrun
    intro g₁ g₂ hg₁ hrun₁
    cases hrun₁
    exact hg₁
  · split at hrun
    · cases hrun
    · cases hrun

theorem take_accepts (s : Scope) (text : String) : Accepts (take · s text) := by
  intro g g' hg hrun
  simp only [take] at hrun
  split at hrun
  · exact plain_accepts s text g g' hg hrun
  · split at hrun
    · cases hrun
      exact hg
    · exact long_accepts s _ _ g g' hg hrun
    · exact shorts_accepts s _ g g' hg hrun
    · cases hrun
      exact hg
    · exact plain_accepts s _ g g' hg hrun

end Operations
end Given

/-- After any arguments of a command, the values of its options are ones that they accept. -/
theorem readInner_accepts (s : Scope) (arguments : List String) :
    Given.Accepts (readInner s arguments) := by
  induction arguments with
  | nil => exact Given.settle_accepts
  | cons a as ih => exact (Given.take_accepts s a).bind ih

-- The arguments of a command are read from what follows its name; what is in front of it is settled
-- as well, but only gives the options of the whole invocation.
theorem parse_generate {arguments : List String} {i : Invocation} {g : GenerateArguments}
    (h : parse arguments = .ok i) (hg : i.command = .generate g) :
    ∃ given : Given, given.Accepted ∧ command .generate given = .generate g := by
  obtain ⟨⟨outer, _ | ⟨name, rest⟩⟩, -, h⟩ := bind_eq_ok.1 h
  · obtain ⟨settled, -, h⟩ := bind_eq_ok.1 h
    cases h
  · cases hname : CommandName.ofText? name with
    | none =>
      simp only [hname] at h
      cases h
    | some name =>
      simp only [hname] at h
      obtain ⟨inner, hinner, h⟩ := bind_eq_ok.1 h
      obtain ⟨settled, -, h⟩ := bind_eq_ok.1 h
      cases h
      cases name with
      | init => cases hg
      | generate =>
        exact ⟨inner, readInner_accepts _ rest _ inner Given.nothing_accepted hinner, hg⟩

/-- No command line gives an empty path for the output. -/
theorem parse_output {arguments : List String} {i : Invocation} {g : GenerateArguments}
    (h : parse arguments = .ok i) (hg : i.command = .generate g) : g.output ≠ some "" := by
  obtain ⟨given, haccepted, hcommand⟩ := parse_generate h hg
  cases hcommand
  intro hempty
  have haccepts := haccepted.value? hempty
  revert haccepts
  decide

end CommandLine

theorem Path.join_eq_empty {directory path : String} :
    join directory path = "" ↔ directory = "" ∧ path = "" := by
  unfold join
  split
  · rename_i h
    constructor
    · rintro rfl
      exact ⟨by simpa [isAbsolute] using h, rfl⟩
    · exact And.right
  · rename_i h
    have hdirectory : directory ≠ "" := by
      rintro rfl
      simp at h
    split <;> simp [hdirectory]

theorem DatabaseSettings.validate_eq_ok {d : DatabaseSettings} :
    d.validate = .ok () ↔ d.database ≠ "" := by
  unfold validate
  split <;> simp_all

theorem OutputSettings.validate_eq_ok {o : OutputSettings} :
    o.validate = .ok () ↔ o.file ≠ "" ∧ o.options.package ≠ "" ∧
      (o.options.connection = .accessor → o.options.dbAccessor ≠ "") := by
  unfold validate
  split
  · simp_all
  · split
    · simp_all
    · split <;> simp_all

theorem Settings.parts_of_validate {s : Settings} (h : s.validate = .ok ()) :
    s.database.validate = .ok () ∧ s.output.validate = .ok () := by
  simp only [validate] at h
  split at h
  · cases h
  · obtain ⟨_, hdatabase, h⟩ := bind_eq_ok.1 h
    obtain ⟨_, houtput, _⟩ := bind_eq_ok.1 h
    exact ⟨mapError_eq_ok.1 hdatabase, mapError_eq_ok.1 houtput⟩

/-- What the environment and the command line leave of valid settings is valid as well. A database
that is given by its URL needs no name. -/
structure StaysValid (p : Project) (g : GenerateArguments) (env : Environment) : Prop where
  database : connectionUrl? env = none → (p.settings.database.overriddenBy env).validate = .ok ()
  output : OutputSettings.validate ⟨(p.request g).output, (p.request g).options⟩ = .ok ()

section Overrides
variable {p : Project} {g : GenerateArguments} {env : Environment}

theorem overriddenBy_valid_iff {d : DatabaseSettings} (h : d.validate = .ok ()) :
    (d.overriddenBy env).validate = .ok () ↔ env "DB_DATABASE" ≠ some "" := by
  rw [DatabaseSettings.validate_eq_ok] at h ⊢
  change (env "DB_DATABASE").getD d.database ≠ "" ↔ _
  cases env "DB_DATABASE" with
  | none => simpa using h
  | some name => simp

theorem request_output_eq_empty (h : p.settings.output.validate = .ok ()) :
    (p.request g).output = "" ↔ g.output = some "" ∧ p.directory = "" := by
  have hfile : p.settings.output.file ≠ "" := (OutputSettings.validate_eq_ok.1 h).1
  change (g.output.map p.resolve).getD p.outputFile = "" ↔ _
  cases g.output with
  | none => simp [Project.outputFile, Project.resolve, Path.join_eq_empty, hfile]
  | some path => simp [Project.resolve, Path.join_eq_empty, and_comm]

theorem request_valid_iff (h : p.settings.output.validate = .ok ()) :
    OutputSettings.validate ⟨(p.request g).output, (p.request g).options⟩ = .ok () ↔
      (g.output = some "" → p.directory ≠ "") ∧ g.package ≠ some "" := by
  obtain ⟨-, hpackage, haccessor⟩ := OutputSettings.validate_eq_ok.1 h
  have hgiven : (p.request g).options.package ≠ "" ↔ g.package ≠ some "" := by
    change g.package.getD p.settings.output.options.package ≠ "" ↔ _
    cases g.package with
    | none => simpa using hpackage
    | some name => simp
  rw [OutputSettings.validate_eq_ok]
  dsimp only
  rw [ne_eq, request_output_eq_empty h, hgiven, not_and]
  exact ⟨fun ⟨houtput, hname, _⟩ => ⟨houtput, hname⟩,
    fun ⟨houtput, hname⟩ => ⟨houtput, hname, haccessor⟩⟩

theorem staysValid_iff (h : p.settings.validate = .ok ()) :
    StaysValid p g env ↔
      (connectionUrl? env = none → env "DB_DATABASE" ≠ some "") ∧
        (g.output = some "" → p.directory ≠ "") ∧ g.package ≠ some "" := by
  obtain ⟨hdatabase, houtput⟩ := Settings.parts_of_validate h
  rw [← overriddenBy_valid_iff hdatabase, ← request_valid_iff houtput]
  exact ⟨fun hs => ⟨hs.database, hs.output⟩, fun hs => ⟨hs.1, hs.2⟩⟩

/-- With any command line and in any environment, valid settings stay valid exactly if neither the
database nor the package is given an empty name. -/
theorem staysValid_commandLine_iff {arguments : List String} {i : Invocation}
    (h : p.settings.validate = .ok ()) (hparse : CommandLine.parse arguments = .ok i)
    (hcommand : i.command = .generate g) (env : Environment) :
    StaysValid p g env ↔
      (connectionUrl? env = none → env "DB_DATABASE" ≠ some "") ∧ g.package ≠ some "" := by
  have houtput : g.output = some "" → p.directory ≠ "" :=
    fun hempty => absurd hempty (CommandLine.parse_output hparse hcommand)
  rw [staysValid_iff h]
  exact ⟨fun ⟨hdatabase, _, hpackage⟩ => ⟨hdatabase, hpackage⟩,
    fun ⟨hdatabase, hpackage⟩ => ⟨hdatabase, houtput, hpackage⟩⟩

end Overrides

/-- A project with a database and an output of its own. -/
def shopProject : Project where
  directory := "/work"
  settingsPath := "/work/pgfuncgen.yaml"
  settings :=
    { version := "1"
      database := ⟨"localhost", 5432, "shop", none, none, none, none⟩
      output := ⟨"db.go", ⟨"db", false, .accessor, "getDB", none⟩⟩
      formatter := defaultFormatter
      overrides := ⟨[], []⟩
      routines := ["add_item"] }

def noArguments : GenerateArguments := ⟨[], none, none, false, false⟩

theorem shop_staysValid :
    shopProject.settings.validate = .ok () ∧
      CommandLine.parse ["generate", "-pitems"] =
        .ok ⟨none, false, false, .text, .generate { noArguments with package := some "items" }⟩ ∧
      StaysValid shopProject { noArguments with package := some "items" } fun _ => none := by
  have h : shopProject.settings.validate = .ok () := rfl
  have hparse : CommandLine.parse ["generate", "-pitems"] =
      .ok ⟨none, false, false, .text, .generate { noArguments with package := some "items" }⟩ :=
    rfl
  refine ⟨h, hparse, (staysValid_commandLine_iff h hparse rfl _).2 ⟨?_, ?_⟩⟩
  · intro _ hempty
    cases hempty
  · decide

/-- An environment that only has an empty name for the database. -/
def unnamedDatabase : Environment := fun name => if name = "DB_DATABASE" then some "" else none

theorem shop_loses_names :
    shopProject.settings.validate = .ok () ∧
      (CommandLine.parse ["generate"] =
        .ok ⟨none, false, false, .text, .generate noArguments⟩ ∧
        connectionUrl? unnamedDatabase = none ∧
        ¬ StaysValid shopProject noArguments unnamedDatabase) ∧
      (CommandLine.parse ["generate", "--package="] =
        .ok ⟨none, false, false, .text, .generate { noArguments with package := some "" }⟩ ∧
        ¬ StaysValid shopProject { noArguments with package := some "" } fun _ => none) := by
  have h : shopProject.settings.validate = .ok () := rfl
  have hurl : connectionUrl? unnamedDatabase = none := by decide
  refine ⟨h, ⟨rfl, hurl, fun hs => ?_⟩, rfl, fun hs => ?_⟩
  · exact ((staysValid_iff h).1 hs).1 hurl (by decide)
  · exact ((staysValid_iff h).1 hs).2.2 rfl

end RoutineBindings
