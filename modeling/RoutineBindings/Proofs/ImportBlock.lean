import RoutineBindings.Proofs.ByteOrder
import RoutineBindings.Proofs.Gathering
import RoutineBindings.Proofs.LineWriting
import RoutineBindings.Proofs.Synthesis

/-!
# The imports of a file

Imports are required on the way, by every type that one of the tables decides and by every
wrapper. What has been required is a function of the routines, and the finished import block
lists exactly that, each path once and in the order of the bytes.
-/
namespace RoutineBindings
open Go

namespace Go.ImportSet

theorem mem_requireAll {s : ImportSet} {ps : List String} {q : String} :
    q ∈ (s.requireAll ps).paths ↔ q ∈ ps ∨ q ∈ s.paths := by
  induction ps generalizing s with
  | nil => simp
  | cons p ps ih =>
    have hcons : s.requireAll (p :: ps) = (s.require p).requireAll ps := rfl
    rw [hcons, ih, require, mem_insertPath, List.mem_cons]
    exact or_left_comm.trans or_assoc.symm

end Go.ImportSet

theorem insertPath_ascending {path : String} {ps : List String}
    (h : ps.Pairwise (· < ·)) : (insertPath path ps).Pairwise (· < ·) := by
  induction ps with
  | nil => simp [insertPath]
  | cons p ps ih =>
    obtain ⟨hp, hps⟩ := List.pairwise_cons.1 h
    unfold insertPath
    split
    · rename_i hlt
      refine List.pairwise_cons.2 ⟨?_, h⟩
      intro q hq
      rcases List.mem_cons.1 hq with rfl | hq
      · exact hlt
      · exact String.lt_trans hlt (hp q hq)
    · split
      · exact h
      · rename_i hlt hne
        refine List.pairwise_cons.2 ⟨?_, ih hps⟩
        intro q hq
        rcases mem_insertPath.1 hq with rfl | hq
        · rcases Std.lt_trichotomy p q with h' | h' | h'
          · exact h'
          · exact absurd h'.symm hne
          · exact absurd h' hlt
        · exact hp q hq

theorem requireAll_ascending {s : ImportSet} (h : s.paths.Pairwise (· < ·)) (ps : List String) :
    (s.requireAll ps).paths.Pairwise (· < ·) := by
  induction ps generalizing s with
  | nil => exact h
  | cons p ps ih => exact ih (insertPath_ascending h)

section Resolving
variable (o : Overrides) (c : Catalog)

theorem importing_imports (n : Needs) (type : String) :
    (n.importing o type).imports = n.imports.requireAll (o.importFor type).toList := by
  rw [importing_eq, Needs.gather]

end Resolving

/-- A file for the routines needs the import. -/
inductive Imported (c : Catalog) (q : GenerationRequest) (rs : List Routine) (path : String) :
    Prop where
  /-- The base of a type resolved by one of the two tables, to a type of that package. -/
  | ofType {r : Routine} {text host : String} {strategy : Strategy} (hr : r ∈ rs)
      (htext : text ∈ r.types) (hs : strategy = .override ∨ strategy = .builtin)
      (hb : resolvedBase q.overrides c text = ⟨host, strategy⟩)
      (hp : q.overrides.importFor host = some path)
  | argsDef (h : q.options.argsDef = true) (hp : path = "github.com/ungerik/go-command")
  | connection (h : q.options.connection = .parameter) (hp : path = "github.com/jmoiron/sqlx")
  | array {r : Routine} {a : Argument} (hr : r ∈ rs) (ha : a ∈ r.arguments)
      (ht : goTypeOf q.overrides c a.type = "[]uuid.UUID")
      (hp : path = (q.options.arrayHelper.map ArrayHelper.importPath).getD "strings")

theorem mem_typeImports {o : Overrides} {c : Catalog} {text path : String} :
    path ∈ typeImports o text ↔ ∃ host s, (s = .override ∨ s = .builtin) ∧
      resolvedBase o c text = ⟨host, s⟩ ∧ o.importFor host = some path := by
  simp only [typeImports, Option.mem_toList, Option.bind_eq_some_iff, hostType_iff (c := c)]
  constructor
  · rintro ⟨host, ⟨s, hs, hb⟩, hp⟩
    exact ⟨host, s, hs, hb, hp⟩
  · rintro ⟨host, s, hs, hb, hp⟩
    exact ⟨host, ⟨s, hs, hb⟩, hp⟩

theorem mem_wrapperImports {w : WrapperOptions} {r : ResolvedRoutine} {path : String} :
    path ∈ Wrapper.imports w r ↔
      (w.argsDef = true ∧ path = "github.com/ungerik/go-command") ∨
      (w.connection = .parameter ∧ path = "github.com/jmoiron/sqlx") ∨
      (∃ a ∈ r.arguments, a.goType = "[]uuid.UUID") ∧
        path = (w.arrayHelper.map ArrayHelper.importPath).getD "strings" := by
  have harray : Wrapper.arrayPackage w =
      (w.arrayHelper.map ArrayHelper.importPath).getD "strings" := by
    unfold Wrapper.arrayPackage
    cases w.arrayHelper <;> rfl
  have hpasses : Wrapper.passesIdentifierSlice r = true ↔
      ∃ a ∈ r.arguments, a.goType = "[]uuid.UUID" := by
    rw [Wrapper.passesIdentifierSlice, List.any_eq_true]
    exact exists_congr fun a => and_congr_right fun _ => decide_eq_true_iff
  rw [← hpasses, ← harray]
  unfold Wrapper.imports Wrapper.usesAccessor
  cases w.argsDef <;> cases w.connection <;> cases Wrapper.passesIdentifierSlice r <;>
    simp [Wrapper.argsDefPackage, Wrapper.sqlxPackage]

theorem mem_required {c : Catalog} {q : GenerationRequest} {rs : List Routine} (hrs : rs ≠ [])
    {path : String} :
    path ∈ rs.flatMap (fun r => r.types.flatMap (typeImports q.overrides) ++
      Wrapper.imports q.options (resolvedRoutine q.overrides c r)) ↔ Imported c q rs path := by
  simp only [List.mem_flatMap, List.mem_append, mem_typeImports (c := c), mem_wrapperImports]
  constructor
  · rintro ⟨r, hr, ⟨text, htext, host, s, hs, hb, hp⟩ | ⟨h, hp⟩ | ⟨h, hp⟩ | ⟨⟨a, ha, ht⟩, hp⟩⟩
    · exact .ofType hr htext hs hb hp
    · exact .argsDef h hp
    · exact .connection h hp
    · obtain ⟨a', ha', rfl⟩ := List.mem_map.1 ha
      exact .array hr ha' ht hp
  · obtain ⟨r₀, hr₀⟩ := List.exists_mem_of_ne_nil rs hrs
    intro h
    cases h with
    | @ofType r text host s hr htext hs hb hp =>
      exact ⟨r, hr, .inl ⟨text, htext, host, s, hs, hb, hp⟩⟩
    | argsDef h hp => exact ⟨r₀, hr₀, .inr (.inl ⟨h, hp⟩)⟩
    | connection h hp => exact ⟨r₀, hr₀, .inr (.inr (.inl ⟨h, hp⟩))⟩
    | @array r a hr ha ht hp =>
      exact ⟨r, hr, .inr (.inr (.inr ⟨⟨_, List.mem_map_of_mem ha, ht⟩, hp⟩))⟩

/-- A catalog whose routines take a list of identifiers and give a time. -/
def touchCatalog : Catalog where
  routines _ _ := .ok [⟨"ids uuid[]", "timestamptz", "normal", none⟩]
  enumLabels _ _ := .ok []

def touchRequest : GenerationRequest where
  routines := ["touch"]
  output := "db.go"
  options := ⟨"db", false, .parameter, "getDB", none⟩
  overrides := ⟨[], []⟩
  dryRun := true

theorem found_touch : Found touchCatalog "touch"
    ⟨"public", "touch", .normal, [⟨"ids", "uuid[]"⟩], "timestamptz", none⟩ := rfl

end RoutineBindings
