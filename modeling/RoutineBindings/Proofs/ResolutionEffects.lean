import RoutineBindings.Proofs.ImportBlock

/-!
# What resolving a type does

The caller's table, the built-in types, the enums of the catalog and the name itself are tried
in this order, and the first that knows the base of the type decides. Each rule has its own
effect: on the imports, on the registry of enums, or none, and only the last two ask the catalog.
-/
namespace RoutineBindings
open Go Text

theorem beforeEnd_eq_some {ending text base : String} :
    beforeEnd ending.toList text.toList = some base.toList ↔ text = base ++ ending := by
  rw [beforeEnd_eq_some_iff, ← String.toList_inj, String.toList_append]

theorem afterStart_eq_some {start text base : String} :
    afterStart start.toList text.toList = some base.toList ↔ text = start ++ base := by
  rw [afterStart_eq_some_iff, ← String.toList_inj, String.toList_append]

/-- What is left of a type without its mark, and whether it had one. Of both marks that of an
array is taken. -/
inductive Stripped (text : String) : String → Bool → Prop where
  | array {base : String} (h : text = base ++ "[]") : Stripped text base true
  | setOf {base : String} (ha : ∀ b, text ≠ b ++ "[]") (h : text = "SETOF " ++ base) :
    Stripped text base true
  | plain (ha : ∀ b, text ≠ b ++ "[]") (hs : ∀ b, text ≠ "SETOF " ++ b) : Stripped text text false

namespace Descriptor

theorem ofText_array (base : String) : ofText (base ++ "[]") = ⟨base, some .array⟩ := by
  have h : beforeEnd arrayMark.toList (base ++ "[]").toList = some base.toList :=
    beforeEnd_eq_some.2 rfl
  simp only [ofText, h, String.ofList_toList]

theorem beforeEnd_arrayMark {text : String} (ha : ∀ b, text ≠ b ++ "[]") :
    beforeEnd arrayMark.toList text.toList = none := by
  cases h : beforeEnd arrayMark.toList text.toList with
  | none => rfl
  | some base =>
    have hb : beforeEnd arrayMark.toList text.toList = some (String.ofList base).toList := by
      rw [h, String.toList_ofList]
    exact absurd (beforeEnd_eq_some.1 hb) (ha _)

theorem ofText_setOf {base : String} (ha : ∀ b, "SETOF " ++ base ≠ b ++ "[]") :
    ofText ("SETOF " ++ base) = ⟨base, some .setOf⟩ := by
  have h : afterStart setMark.toList ("SETOF " ++ base).toList = some base.toList :=
    afterStart_eq_some.2 rfl
  simp only [ofText, beforeEnd_arrayMark ha, h, String.ofList_toList]

theorem ofText_plain {text : String} (ha : ∀ b, text ≠ b ++ "[]")
    (hs : ∀ b, text ≠ "SETOF " ++ b) : ofText text = ⟨text, none⟩ := by
  have h : afterStart setMark.toList text.toList = none := by
    cases h : afterStart setMark.toList text.toList with
    | none => rfl
    | some base =>
      have hb : afterStart setMark.toList text.toList = some (String.ofList base).toList := by
        rw [h, String.toList_ofList]
      exact absurd (afterStart_eq_some.1 hb) (hs _)
  simp only [ofText, beforeEnd_arrayMark ha, h]

theorem ofText_stripped (text : String) :
    Stripped text (ofText text).base (ofText text).isCollection := by
  by_cases ha : ∃ b, text = b ++ "[]"
  · obtain ⟨base, rfl⟩ := ha
    rw [ofText_array]
    exact .array rfl
  · have ha' : ∀ b, text ≠ b ++ "[]" := fun b h => ha ⟨b, h⟩
    by_cases hs : ∃ b, text = "SETOF " ++ b
    · obtain ⟨base, rfl⟩ := hs
      rw [ofText_setOf ha']
      exact .setOf ha' rfl
    · have hs' : ∀ b, text ≠ "SETOF " ++ b := fun b h => hs ⟨b, h⟩
      rw [ofText_plain ha' hs']
      exact .plain ha' hs'

end Descriptor

/-- The name of a type and its schema, if it is written with one: the part after the last dot and
the part before it. -/
structure Qualified (base : String) (schema : Option String) (name : String) : Prop where
  undotted : '.' ∉ name.toList
  base_eq : base = (schema.elim "" (· ++ ".")) ++ name

theorem Descriptor.qualified_spec (d : Descriptor) :
    Qualified d.base d.qualified.1 d.qualified.2 := by
  unfold Descriptor.qualified
  cases h : cutAtLast '.' d.base.toList with
  | none =>
    refine ⟨cutAtLast_eq_none_iff.1 h, ?_⟩
    simp
  | some parts =>
    obtain ⟨schema, name⟩ := parts
    obtain ⟨hbase, hname⟩ := cutAtLast_eq_some_iff.1 h
    refine ⟨by simpa using hname, ?_⟩
    rw [← String.toList_inj, hbase]
    simp

/-- The Go name of an enum comes from the part of its name that is looked up. -/
theorem Go.Enum.goName_eq (d : Descriptor) (labels : List String) :
    Enum.goName ⟨d.base, labels⟩ = exportedName d.qualified.2 := by
  unfold Enum.goName Descriptor.qualified
  cases cutAtLast '.' d.base.toList <;> rfl

section Registry

theorem get?_insertEnum (e : Enum) (es : List Enum) (x : String) :
    EnumRegistry.get? ⟨insertEnum e es⟩ x =
      if x = e.name then some e else EnumRegistry.get? ⟨es⟩ x := by
  unfold EnumRegistry.get?
  induction es with
  | nil =>
    by_cases hx : x = e.name
    · simp [insertEnum, hx]
    · simp [insertEnum, hx, Ne.symm hx]
  | cons y ys ih =>
    unfold insertEnum
    split
    · by_cases hx : x = e.name
      · simp [hx]
      · simp [hx, List.find?_cons, Ne.symm hx]
    · split
      · rename_i heq
        by_cases hx : x = e.name
        · simp [hx]
        · simp [hx, Ne.symm hx, ← heq]
      · rename_i hne
        by_cases hx : x = y.name
        · simp [hx, Ne.symm hne]
        · simp only [List.find?_cons, Ne.symm hx, decide_false, ih]

/-- The entries stand in ascending order of name, so that no name has two. -/
def Go.EnumRegistry.Ascending (r : EnumRegistry) : Prop :=
  r.entries.Pairwise (·.name < ·.name)

theorem mem_insertEnum {e x : Enum} {es : List Enum} (h : x ∈ insertEnum e es) :
    x = e ∨ x ∈ es := by
  induction es with
  | nil => exact .inl (List.mem_singleton.1 h)
  | cons y ys ih =>
    unfold insertEnum at h
    split at h
    · exact List.mem_cons.1 h
    · split at h
      · rcases List.mem_cons.1 h with rfl | h
        · exact .inl rfl
        · exact .inr (List.mem_cons_of_mem _ h)
      · rcases List.mem_cons.1 h with rfl | h
        · exact .inr List.mem_cons_self
        · exact (ih h).imp_right (List.mem_cons_of_mem _)

theorem insertEnum_ascending {e : Enum} {es : List Enum} (h : es.Pairwise (·.name < ·.name)) :
    (insertEnum e es).Pairwise (·.name < ·.name) := by
  induction es with
  | nil => exact List.pairwise_singleton _ _
  | cons y ys ih =>
    obtain ⟨hy, hys⟩ := List.pairwise_cons.1 h
    unfold insertEnum
    split
    · rename_i hlt
      refine List.pairwise_cons.2 ⟨fun x hx => ?_, h⟩
      rcases List.mem_cons.1 hx with rfl | hx
      · exact hlt
      · exact String.lt_trans hlt (hy x hx)
    · split
      · rename_i heq
        exact List.pairwise_cons.2 ⟨fun x hx => heq ▸ hy x hx, hys⟩
      · rename_i hlt hne
        refine List.pairwise_cons.2 ⟨fun x hx => ?_, ih hys⟩
        rcases mem_insertEnum hx with rfl | hx
        · rcases Std.lt_trichotomy y.name x.name with h' | h' | h'
          · exact h'
          · exact absurd h'.symm hne
          · exact absurd h' hlt
        · exact hy x hx

end Registry

namespace Needs

/-- The only change is that the path, if there is one, is imported. -/
structure Imports (n m : Needs) (path : Option String) : Prop where
  paths : ∀ p, p ∈ m.imports.paths ↔ path = some p ∨ p ∈ n.imports.paths
  ascending : n.imports.paths.Pairwise (· < ·) → m.imports.paths.Pairwise (· < ·)
  enums : m.enums = n.enums

/-- The only change is that the name stands for an enum with these labels. -/
structure Binds (n m : Needs) (name : String) (labels : List String) : Prop where
  get? : ∀ x, m.enums.get? x = if x = name then some ⟨name, labels⟩ else n.enums.get? x
  ascending : n.enums.Ascending → m.enums.Ascending
  imports : m.imports = n.imports

theorem importing_imports_only (n : Needs) (o : Overrides) (type : String) :
    n.Imports (n.importing o type) (o.importFor type) where
  paths p := by
    rw [importing_imports, ImportSet.mem_requireAll, Option.mem_toList]
  ascending h := by
    rw [importing_imports]
    exact requireAll_ascending h _
  enums := by
    unfold importing
    cases o.importFor type <;> rfl

theorem register_binds (n : Needs) (name : String) (labels : List String) :
    n.Binds { n with enums := ⟨insertEnum ⟨name, labels⟩ n.enums.entries⟩ } name labels where
  get? := get?_insertEnum ⟨name, labels⟩ n.enums.entries
  ascending := insertEnum_ascending
  imports := rfl

end Needs

/-- The rule that decides about a base, with its effects on the needs and the questions that it
asks the catalog. -/
inductive Decided (o : Overrides) (c : Catalog) (base : String) (n : Needs) :
    ResolvedType → Needs → List Event → Prop where
  | override {type : String} {m : Needs} (h : o.types.get? base = some type)
      (hm : n.Imports m (o.importFor type)) : Decided o c base n ⟨type, .override⟩ m []
  | builtin {type : String} {m : Needs} (ho : o.types.get? base = none)
      (h : builtinType? base = some type) (hm : n.Imports m (o.importFor type)) :
    Decided o c base n ⟨type, .builtin⟩ m []
  | catalogEnum {schema : Option String} {name : String} {labels : List String} {m : Needs}
      (ho : o.types.get? base = none) (hb : builtinType? base = none)
      (hq : Qualified base schema name) (h : c.enumLabels schema name = .ok labels)
      (hne : labels ≠ []) (hm : n.Binds m base labels) :
    Decided o c base n ⟨exportedName name, .catalogEnum⟩ m [.enumLookup schema name]
  | noEnum {schema : Option String} {name : String} (ho : o.types.get? base = none)
      (hb : builtinType? base = none) (hq : Qualified base schema name)
      (h : c.enumLabels schema name = .ok []) :
    Decided o c base n ⟨base, .passthrough⟩ n [.enumLookup schema name]
  | failed {schema : Option String} {name : String} {e : DatabaseError}
      (ho : o.types.get? base = none) (hb : builtinType? base = none)
      (hq : Qualified base schema name) (h : c.enumLabels schema name = .error e) :
    Decided o c base n ⟨base, .passthrough⟩ n
      [.enumLookup schema name, .warned (.enumLookupFailed base e)]

/-- One question is asked, and an answer without labels is none. -/
theorem lookupEnum_eq (c : Catalog) (d : Descriptor) :
    lookupEnum c d = ⟨match c.enumLabels d.qualified.1 d.qualified.2 with
      | .ok [] => .empty
      | .ok labels => .found labels
      | .error e => .failed e, [.enumLookup d.qualified.1 d.qualified.2]⟩ := by
  apply Journaled.eq_mk <;>
    simp only [lookupEnum, Catalog.askEnumLabels, Journaled.value_bind, Journaled.value_pure,
      Journaled.events_bind, Journaled.events_note, Journaled.events_pure, List.append_nil] <;>
    rcases c.enumLabels d.qualified.1 d.qualified.2 with e | (_ | ⟨label, labels⟩) <;> rfl

theorem resolveByCatalog_decided {o : Overrides} {d : Descriptor} (c : Catalog) (n : Needs)
    (ho : o.types.get? d.base = none) (hb : builtinType? d.base = none) :
    ∃ t m events, Decided o c d.base n t m events ∧
      resolveByCatalog c d n = ⟨(t, m), events⟩ := by
  have hq := d.qualified_spec
  have hl := lookupEnum_eq c d
  cases h : c.enumLabels d.qualified.1 d.qualified.2 with
  | error e =>
    rw [h] at hl
    refine ⟨_, _, _, .failed ho hb hq h, ?_⟩
    rw [resolveByCatalog, hl]
    rfl
  | ok labels =>
    rw [h] at hl
    cases labels with
    | nil =>
      refine ⟨_, _, _, .noEnum ho hb hq h, ?_⟩
      rw [resolveByCatalog, hl]
      rfl
    | cons label labels =>
      refine ⟨_, _, _, .catalogEnum ho hb hq h (List.cons_ne_nil _ _) (n.register_binds _ _), ?_⟩
      rw [resolveByCatalog, hl, ← Enum.goName_eq d (label :: labels)]
      rfl

theorem resolveBase_decided (o : Overrides) (c : Catalog) (d : Descriptor) (n : Needs) :
    ∃ t m events, Decided o c d.base n t m events ∧ resolveBase o c d n = ⟨(t, m), events⟩ := by
  unfold resolveBase
  cases ho : o.types.get? d.base with
  | some type => exact ⟨_, _, _, .override ho (n.importing_imports_only o type), rfl⟩
  | none =>
    cases hb : builtinType? d.base with
    | some type => exact ⟨_, _, _, .builtin ho hb (n.importing_imports_only o type), rfl⟩
    | none => exact resolveByCatalog_decided c n ho hb

/-- Resolving a type takes off one mark, lets the first rule that knows the base decide, and puts
the marker of a slice in front if there was a mark. -/
theorem resolveType_decided (o : Overrides) (c : Catalog) (text : String) (n : Needs) :
    ∃ base marked t m events, Stripped text base marked ∧ Decided o c base n t m events ∧
      resolveType o c text n =
        ⟨({ t with goType := (if marked then "[]" else "") ++ t.goType }, m), events⟩ := by
  obtain ⟨t, m, events, hdecided, hbase⟩ := resolveBase_decided o c (Descriptor.ofText text) n
  refine ⟨_, _, t, m, events, Descriptor.ofText_stripped text, hdecided, ?_⟩
  rw [resolveType, hbase]
  apply Journaled.eq_mk
  · simp only [Journaled.value_bind, Journaled.value_pure, Descriptor.wrap]
    cases (Descriptor.ofText text).isCollection <;> simp
  · simp only [Journaled.events_bind, Journaled.events_pure, List.append_nil]

end RoutineBindings
