import RoutineBindings.Proofs.FileLayout

/-!
# Imports of the inline array function

The inline array function takes identifiers and builds a string, and its file has to import the
packages of both. That of the builder is required together with the function. That of the
identifiers is left to the types of the routines: one of them has to get a Go type of this package
from a table. The slice of identifiers is no such type, so an argument that gets it as a whole, by
its own entry or its own name, brings the function but not the package.
-/
namespace RoutineBindings
open Go

/-- If the file declares the inline array function, it imports the string builder and the package
that the identifiers come from. -/
def ImportsForArray (o : Overrides) (file : SourceFile) : Prop :=
  ArrayLiteral.inlineDecl ∈ file.decls →
    "strings" ∈ file.imports ∧ ∃ path ∈ file.imports, o.importFor "uuid.UUID" = some path

/-- What makes a file import the path besides the slices of identifiers: a type that one of the
tables gives, or the options. -/
inductive Brought (q : GenerationRequest) (rs : List Routine) (path : String) : Prop where
  | byType {r : Routine} {text host : String} (hr : r ∈ rs) (htext : text ∈ r.types)
      (hhost : q.overrides.hostType? text = some host)
      (hpath : q.overrides.importFor host = some path) : Brought q rs path
  | byBuilder (hpath : path = "strings") : Brought q rs path
  | byArgsDef (h : q.options.argsDef = true) (hpath : path = "github.com/ungerik/go-command") :
    Brought q rs path
  | byConnection (h : q.options.connection = .parameter)
      (hpath : path = "github.com/jmoiron/sqlx") : Brought q rs path

/-- An argument of the routines is a slice of identifiers, and the file has to format it. -/
def CallsInline (c : Catalog) (q : GenerationRequest) (rs : List Routine) : Prop :=
  q.options.arrayHelper = none ∧
    ∃ r ∈ rs, ∃ a ∈ r.arguments, goTypeOf q.overrides c a.type = "[]uuid.UUID"

section Declared
variable {c : Catalog} {q : GenerationRequest} {rs : List Routine}

theorem inlineDecl_not_mem_enums (es : List Enum) :
    ArrayLiteral.inlineDecl ∉ es.flatMap Enum.decls := by
  intro h
  obtain ⟨e, -, he⟩ := List.mem_flatMap.1 h
  simp [Enum.decls, Enum.typeDecl, Enum.constDecl, Enum.validDecl, ArrayLiteral.inlineDecl] at he

/-- A wrapper returns an error, alone or after its result. -/
theorem inlineDecl_not_mem_wrapper (w : WrapperOptions) (r : ResolvedRoutine) :
    ArrayLiteral.inlineDecl ∉ Wrapper.decls w r := by
  intro h
  have hresults : Wrapper.results r.result ≠ .unnamed ["string"] := by
    unfold Wrapper.results
    cases r.result.goType? <;> simp
  rcases List.mem_append.1 h with hargs | hfunc
  · cases hw : w.argsDef <;> simp [hw, Wrapper.argsDecl, ArrayLiteral.inlineDecl] at hargs
  · have hdecl := Decl.func.inj (List.mem_singleton.1 hfunc)
    exact hresults (congrArg FuncDecl.results hdecl).symm

/-- The function is declared exactly if some wrapper calls it. -/
theorem inlineDecl_mem_iff :
    ArrayLiteral.inlineDecl ∈ (synthesizedFile c q rs).decls ↔ CallsInline c q rs := by
  have hwrappers : ArrayLiteral.inlineDecl ∉
      rs.flatMap fun r => Wrapper.decls q.options (resolvedRoutine q.overrides c r) := by
    intro h
    obtain ⟨r, -, hr⟩ := List.mem_flatMap.1 h
    exact inlineDecl_not_mem_wrapper _ _ hr
  rw [CallsInline, ← callsInlineArray_iff, synthesizedFile_eq, EnumRegistry.decls]
  simp only [List.mem_append, inlineDecl_not_mem_enums, hwrappers, false_or]
  cases callsInlineArray c q rs <;> simp

/-- With a slice of identifiers among the arguments, the imports are the builder and what else is
brought. -/
theorem imported_iff_brought (h : CallsInline c q rs) {path : String} :
    Imported c q rs path ↔ Brought q rs path := by
  obtain ⟨hhelper, r, hr, a, ha, htype⟩ := h
  constructor
  · intro himported
    cases himported with
    | ofType hr htext hs hb hp => exact .byType hr htext (hostType_iff.2 ⟨_, hs, hb⟩) hp
    | argsDef h hp => exact .byArgsDef h hp
    | connection h hp => exact .byConnection h hp
    | array _ _ _ hp =>
      rw [hhelper] at hp
      exact .byBuilder hp
  · intro hbrought
    cases hbrought with
    | byType hr htext hhost hp =>
      obtain ⟨s, hs, hb⟩ := resolvedBase_of_hostType c hhost
      exact .ofType hr htext hs hb hp
    | byBuilder hp => exact .array hr ha htype (by rw [hp, hhelper]; rfl)
    | byArgsDef h hp => exact .argsDef h hp
    | byConnection h hp => exact .connection h hp

end Declared

/-- The file of a synthesis lacks an import of its inline array function exactly if it needs the
function and nothing but slices of identifiers asks for their package. -/
theorem importsForArray_iff {c : Catalog} {q : GenerationRequest} {s : Synthesis}
    (h : (synthesize c q).value = .ok s) :
    ∃ rs, List.Forall₂ (Found c) q.routines rs ∧ s.source = (synthesizedFile c q rs).print ∧
      (ImportsForArray q.overrides (synthesizedFile c q rs) ↔
        (CallsInline c q rs →
          ∃ path, q.overrides.importFor "uuid.UUID" = some path ∧ Brought q rs path)) := by
  obtain ⟨hne, rs, hfound, rfl⟩ := synthesize_eq_ok.1 h
  refine ⟨rs, hfound, synthesisOf_source c q rs, ?_⟩
  have hpaths : ∀ path, path ∈ (synthesizedFile c q rs).imports ↔ Imported c q rs path := by
    rw [synthesizedFile_eq]
    exact (file_contents c q rs (found_ne_nil hfound hne)).mem_paths
  rw [ImportsForArray, inlineDecl_mem_iff]
  refine imp_congr_right fun hcalls => ?_
  simp only [hpaths, imported_iff_brought hcalls]
  constructor
  · rintro ⟨-, path, hbrought, hpath⟩
    exact ⟨path, hpath, hbrought⟩
  · rintro ⟨path, hpath, hbrought⟩
    exact ⟨.byBuilder rfl, path, hbrought, hpath⟩

/-- A list of identifiers whose elements are of a type of the tables brings the package. -/
theorem touch_importsForArray : ∃ s, (synthesize touchCatalog touchRequest).value = .ok s ∧
    ∃ rs, List.Forall₂ (Found touchCatalog) ["touch"] rs ∧
      s.source = (synthesizedFile touchCatalog touchRequest rs).print ∧
      ImportsForArray ⟨[], []⟩ (synthesizedFile touchCatalog touchRequest rs) := by
  have hs : (synthesize touchCatalog touchRequest).value = .ok _ :=
    synthesize_eq_ok.2 ⟨by decide, _, .cons found_touch .nil, rfl⟩
  obtain ⟨rs, hrs, hsource, hiff⟩ := importsForArray_iff hs
  refine ⟨_, hs, rs, hrs, hsource, hiff.2 fun _ => ?_⟩
  have hr := (mem_found_iff hrs).2 ⟨"touch", List.mem_singleton_self _, found_touch⟩
  have hhost : Overrides.hostType? ⟨[], []⟩ "uuid[]" = some "uuid.UUID" := by decide +kernel
  exact ⟨"github.com/ungerik/go-uuid", by decide +kernel,
    .byType hr List.mem_cons_self hhost (by decide +kernel)⟩

/-- A catalog whose routines take a list of identifiers of a type of its own. -/
def listCatalog : Catalog where
  routines _ _ := .ok [⟨"ids uuid_list", "", "normal", none⟩]
  enumLabels _ _ := .ok []

/-- The request gives the Go type of the list as a whole. -/
def listRequest : GenerationRequest where
  routines := ["drop_users"]
  output := "db.go"
  options := ⟨"db", false, .accessor, "getDB", none⟩
  overrides := ⟨[("uuid_list", "[]uuid.UUID")], []⟩
  dryRun := true

def dropUsers : Routine :=
  ⟨"public", "drop_users", .normal, [⟨"ids", "uuid_list"⟩], "", none⟩

theorem dropUsers_lacks_import : ∃ s, (synthesize listCatalog listRequest).value = .ok s ∧
    s.source = (synthesizedFile listCatalog listRequest [dropUsers]).print ∧
    ArrayLiteral.inlineDecl ∈ (synthesizedFile listCatalog listRequest [dropUsers]).decls ∧
    ¬ ImportsForArray listRequest.overrides
      (synthesizedFile listCatalog listRequest [dropUsers]) := by
  have hfound : List.Forall₂ (Found listCatalog) listRequest.routines [dropUsers] := .cons rfl .nil
  have hs : (synthesize listCatalog listRequest).value = .ok _ :=
    synthesize_eq_ok.2 ⟨by decide, _, hfound, rfl⟩
  have hcalls : ArrayLiteral.inlineDecl ∈
      (synthesizedFile listCatalog listRequest [dropUsers]).decls :=
    inlineDecl_mem_iff.2 ⟨rfl, dropUsers, by simp, _, List.mem_singleton_self _, by decide +kernel⟩
  have himports : (synthesizedFile listCatalog listRequest [dropUsers]).imports = ["strings"] := by
    decide +kernel
  refine ⟨_, hs, synthesisOf_source _ _ _, hcalls, fun himported => ?_⟩
  obtain ⟨-, path, hmem, hpath⟩ := himported hcalls
  have hpackage : listRequest.overrides.importFor "uuid.UUID" =
      some "github.com/ungerik/go-uuid" := by decide +kernel
  rw [himports, List.mem_singleton] at hmem
  rw [hpackage] at hpath
  exact absurd ((Option.some.inj hpath).trans hmem) (by decide)

end RoutineBindings
