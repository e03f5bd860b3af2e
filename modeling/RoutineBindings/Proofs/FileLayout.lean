import RoutineBindings.Proofs.DeclarationTexts
import RoutineBindings.Proofs.EnumDeclarations
import RoutineBindings.Proofs.RoutineNames

/-!
# The layout of a file

A synthesized file is the package clause, the import block, the enums, the wrappers as each of
them prints on its own, and the inline array function. The wrappers follow the request, all the
rest follows from the set of the routines.
-/
namespace RoutineBindings
open Go Text

/-- The text of a file with these wrappers. -/
def fileText (package : String) (paths : List String) (enums : List Enum)
    (wrappers : List String) (inlineArray : Bool) : String :=
  "package " ++ package ++ "\n\n" ++ importBlock paths ++ joined "\n"
    (enums.flatMap (fun e => [e.typeDecl.print, e.constDecl.print, e.validDecl.print]) ++
      wrappers ++ if inlineArray then [ArrayLiteral.inlineDecl.print] else [])

/-- What the file of the routines holds besides their wrappers. -/
structure Contents (c : Catalog) (q : GenerationRequest) (rs : List Routine) (paths : List String)
    (enums : List Enum) (inlineArray : Bool) : Prop where
  paths_ascending : paths.Pairwise BytesBefore
  mem_paths : ∀ path, path ∈ paths ↔ Imported c q rs path
  enums_ascending : enums.Pairwise fun x y => BytesBefore x.name y.name
  mem_enums : ∀ e, e ∈ enums ↔ Discovered c q rs e
  inlineArray_iff : inlineArray = true ↔ q.options.arrayHelper = none ∧
    ∃ r ∈ rs, ∃ a ∈ r.arguments, goTypeOf q.overrides c a.type = "[]uuid.UUID"

/-- A wrapper prints as it does on its own, whatever declarations stand around it. -/
theorem printDecls_wrappers (w : WrapperOptions) (before : List Decl)
    (resolved : List ResolvedRoutine) (after : List Decl) :
    printDecls (before ++ resolved.flatMap (Wrapper.decls w) ++ after) =
      joined "\n"
        (before.map Decl.print ++ resolved.map (Wrapper.render w) ++ after.map Decl.print) := by
  have hne : ∀ r, (Wrapper.decls w r).map Decl.print ≠ [] := fun r => by simp [Wrapper.decls]
  rw [printDecls_eq, List.map_append, List.map_append, List.map_flatMap, joined_flatMap hne]
  rfl

/-- The text of a routine's wrapper on its own. -/
def wrapperText (o : Overrides) (c : Catalog) (w : WrapperOptions) (r : Routine) : String :=
  Wrapper.render w (resolveRoutine o c r .empty).value.1

section Files
variable (c : Catalog) (q : GenerationRequest) (rs : List Routine)

def filePaths : List String :=
  (ImportSet.empty.requireAll (rs.flatMap fun r => r.types.flatMap (typeImports q.overrides) ++
    Wrapper.imports q.options (resolvedRoutine q.overrides c r))).paths

def callsInlineArray : Bool :=
  rs.any fun r => Wrapper.usesInlineArray q.options (resolvedRoutine q.overrides c r)

theorem callsInlineArray_iff : callsInlineArray c q rs = true ↔ q.options.arrayHelper = none ∧
    ∃ r ∈ rs, ∃ a ∈ r.arguments, goTypeOf q.overrides c a.type = "[]uuid.UUID" := by
  have huses : ∀ r, Wrapper.usesInlineArray q.options (resolvedRoutine q.overrides c r) = true ↔
      q.options.arrayHelper = none ∧
        ∃ a ∈ r.arguments, goTypeOf q.overrides c a.type = "[]uuid.UUID" := by
    intro r
    rw [Wrapper.usesInlineArray, Bool.and_eq_true, Option.isNone_iff_eq_none,
      Wrapper.passesIdentifierSlice, resolvedRoutine, List.any_map, List.any_eq_true]
    exact and_congr_right fun _ => exists_congr fun a => and_congr_right fun _ => decide_eq_true_iff
  simp only [callsInlineArray, List.any_eq_true, huses]
  constructor
  · rintro ⟨r, hr, hhelper, ha⟩
    exact ⟨hhelper, r, hr, ha⟩
  · rintro ⟨hhelper, r, hr, ha⟩
    exact ⟨r, hr, hhelper, ha⟩

theorem file_contents (hrs : rs ≠ []) :
    Contents c q rs (filePaths c q rs) (fileEnums q.overrides c rs).entries
      (callsInlineArray c q rs) where
  paths_ascending := (requireAll_ascending List.Pairwise.nil _).imp bytesBefore_iff.2
  mem_paths _ := ImportSet.mem_requireAll.trans
    ((or_iff_left List.not_mem_nil).trans (mem_required hrs))
  enums_ascending := (fileEnums_ascending q.overrides c rs).imp bytesBefore_iff.2
  mem_enums _ := mem_fileEnums
  inlineArray_iff := callsInlineArray_iff c q rs

theorem synthesisOf_eq : synthesisOf c q rs =
    { functions := rs.map Routine.goName
      enumCount := (fileEnums q.overrides c rs).size
      source := fileText q.options.package (filePaths c q rs)
        (fileEnums q.overrides c rs).entries (rs.map (wrapperText q.overrides c q.options))
        (callsInlineArray c q rs) } := by
  have hmade := addWrappers_gathered q.overrides c rs (.new q.options) .empty
  have htexts : rs.map (wrapperText q.overrides c q.options) =
      (rs.map (resolvedRoutine q.overrides c)).map (Wrapper.render q.options) := by
    rw [List.map_map]
    exact List.map_congr_left fun r _ => congrArg _ (resolveRoutine_fst q.overrides c r .empty)
  have hprinted := printDecls_wrappers q.options (fileEnums q.overrides c rs).decls
    (rs.map (resolvedRoutine q.overrides c))
    (if callsInlineArray c q rs then [ArrayLiteral.inlineDecl] else [])
  rw [List.flatMap_map, ← htexts] at hprinted
  simp only [synthesisOf, hmade, WrapperFile.render, SourceFile.print_eq]
  refine congrArg (Synthesis.mk _ _) (congrArg (_ ++ importBlock _ ++ ·) (hprinted.trans ?_))
  rw [EnumRegistry.decls, List.map_flatMap, apply_ite (List.map Decl.print)]
  rfl

/-- The file that a synthesis prints. -/
def synthesizedFile : SourceFile :=
  let made := (addWrappers q.overrides c rs (.new q.options) .empty).value
  made.1.finish made.2

theorem synthesisOf_source : (synthesisOf c q rs).source = (synthesizedFile c q rs).print := rfl

theorem synthesizedFile_eq : synthesizedFile c q rs =
    { package := q.options.package
      imports := filePaths c q rs
      decls := (fileEnums q.overrides c rs).decls ++
        rs.flatMap (fun r => Wrapper.decls q.options (resolvedRoutine q.overrides c r)) ++
        if callsInlineArray c q rs then [ArrayLiteral.inlineDecl] else [] } := by
  rw [synthesizedFile, addWrappers_gathered]
  rfl

end Files

theorem found_ne_nil {c : Catalog} {names : List String} {rs : List Routine}
    (h : List.Forall₂ (Found c) names rs) (hne : names ≠ []) : rs ≠ [] := by
  rintro rfl
  exact hne (List.forall₂_nil_right_iff.1 h)

theorem goNames_of_found {c : Catalog} {names : List String} {rs : List Routine}
    (h : List.Forall₂ (Found c) names rs) :
    rs.map Routine.goName = names.map fun name => exportedName (RoutineName.parts name).2 := by
  induction h with
  | nil => rfl
  | cons hr _ ih =>
    rw [List.map_cons, List.map_cons, ih, found_name hr]
    rfl

/-- The source of a synthesis, and what it reports about it. Of the enums, the wrappers and the
inline array function every text stands in it once, in this order. -/
theorem synthesize_layout {c : Catalog} {q : GenerationRequest} {s : Synthesis}
    (h : (synthesize c q).value = .ok s) :
    ∃ rs paths enums inlineArray, List.Forall₂ (Found c) q.routines rs ∧
      Contents c q rs paths enums inlineArray ∧
      s.source = fileText q.options.package paths enums
        (rs.map (wrapperText q.overrides c q.options)) inlineArray ∧
      s.functions = rs.map Routine.goName ∧
      s.functions = q.routines.map (fun name => exportedName (RoutineName.parts name).2) ∧
      s.enumCount = enums.length := by
  obtain ⟨hq, rs, hfound, rfl⟩ := synthesize_eq_ok.1 h
  have hcontents := file_contents c q rs (found_ne_nil hfound hq)
  rw [synthesisOf_eq]
  exact ⟨rs, _, _, _, hfound, hcontents, rfl, rfl, goNames_of_found hfound, rfl⟩

/-- A catalog whose routines take a value of an enum and a list of identifiers. -/
def moodCatalog : Catalog where
  routines _ _ := .ok [⟨"felt mood, ids uuid[]", "", "normal", none⟩]
  enumLabels _ _ := .ok ["sad", "happy"]

def moodRequest (routines : List String) : GenerationRequest where
  routines := routines
  output := "db.go"
  options := ⟨"db", false, .parameter, "getDB", none⟩
  overrides := ⟨[], []⟩
  dryRun := true

def moodRoutine (name : String) : Routine :=
  ⟨"public", name, .normal, [⟨"felt", "mood"⟩, ⟨"ids", "uuid[]"⟩], "", none⟩

theorem layout_of_moods : ∃ s,
    (synthesize moodCatalog (moodRequest ["log_mood", "drop_moods"])).value = .ok s ∧
    ∃ rs paths enums inlineArray,
      List.Forall₂ (Found moodCatalog) ["log_mood", "drop_moods"] rs ∧
      Contents moodCatalog (moodRequest ["log_mood", "drop_moods"]) rs paths enums inlineArray ∧
      s.source = fileText "db" paths enums
        (rs.map (wrapperText ⟨[], []⟩ moodCatalog ⟨"db", false, .parameter, "getDB", none⟩))
        inlineArray ∧
      s.functions = ["LogMood", "DropMoods"] ∧ s.enumCount = enums.length := by
  have hfound : List.Forall₂ (Found moodCatalog) ["log_mood", "drop_moods"]
      [moodRoutine "log_mood", moodRoutine "drop_moods"] := .cons rfl (.cons rfl .nil)
  have hs : (synthesize moodCatalog (moodRequest ["log_mood", "drop_moods"])).value = .ok _ :=
    synthesize_eq_ok.2 ⟨by decide, _, hfound, rfl⟩
  obtain ⟨rs, paths, enums, inlineArray, hrs, hcontents, hsource, -, hfunctions, hcount⟩ :=
    synthesize_layout hs
  exact ⟨_, hs, rs, paths, enums, inlineArray, hrs, hcontents, hsource, hfunctions, hcount⟩

end RoutineBindings
