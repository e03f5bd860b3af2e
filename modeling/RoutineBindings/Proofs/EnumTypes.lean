import RoutineBindings.Proofs.FileLayout

/-!
# Enum types in signatures

A signature names the type of an enum, and the declarations of enums name the types they declare.
Both names are made from the same base, so a type that the catalog decided as an enum is declared
in the file, with its labels, and no other type is.
-/
namespace RoutineBindings
open Go Text

/-- The rule decides about the type, whatever was gathered before. -/
def DecidedBy (o : Overrides) (c : Catalog) (text : String) (s : Strategy) : Prop :=
  ∀ n, (resolveType o c text n).value.1.strategy = s

/-- The types that a signature has in the place of the types of a routine: after the connection, if
it is a parameter, those of the other parameters, and that of the first result if it has a name. -/
def signatureTypes (w : WrapperOptions) (f : FuncDecl) : List String :=
  (f.params.drop (if w.connection = .parameter then 1 else 0)).map Param.type ++
    match f.results with
    | .named (result :: _) => [result.type]
    | _ => []

/-- The file declares a string type, and next to it the constants of the labels in their order. -/
def DeclaresEnum (file : SourceFile) (type : String) (labels : List String) : Prop :=
  ∃ before after, file.decls = before ++
    [.type [] type "string",
      .const (labels.map fun label => ⟨type ++ exportedName label, type, .text label⟩)] ++ after

def Go.Decl.typeName? : Decl → Option String
  | .type _ name _ => some name
  | _ => none

/-- The types that a file declares, from first to last. -/
def declaredTypes (file : SourceFile) : List String := file.decls.filterMap Decl.typeName?

/-- The Go type is, after one mark for that of the text, the name of a type which the file declares
with the labels that the catalog gives for the base of the text. -/
inductive NamesEnum (c : Catalog) (file : SourceFile) (text goType : String) : Prop where
  | mk {base name : String} {marked : Bool} {schema : Option String} {labels : List String}
      (hs : Stripped text base marked) (hq : Qualified base schema name)
      (hlabels : c.enumLabels schema name = .ok labels) (hne : labels ≠ [])
      (htype : goType = (if marked then "[]" else "") ++ exportedName name)
      (hdeclares : DeclaresEnum file (exportedName name) labels) : NamesEnum c file text goType

/-- The function that a routine adds to the file. -/
def wrapperFunction (c : Catalog) (q : GenerationRequest) (r : Routine) : FuncDecl :=
  Wrapper.funcDecl q.options (resolveRoutine q.overrides c r .empty).value.1

/-- Types of the routines that are enums of the catalog, and enums that the file declares. -/
structure EnumTypes (c : Catalog) (q : GenerationRequest) (rs : List Routine) (file : SourceFile)
    (enums : List Enum) : Prop where
  wrappers : ∀ r ∈ rs, Decl.func (wrapperFunction c q r) ∈ file.decls
  /-- Of each wrapper all places of the signature, in the order of the types of its routine. -/
  signatures : ∀ r ∈ rs, List.Forall₂
    (fun text goType => DecidedBy q.overrides c text .catalogEnum → NamesEnum c file text goType)
    r.types (signatureTypes q.options (wrapperFunction c q r))
  /-- The file declares no other types than those of the enums, in their order. -/
  declared : declaredTypes file = enums.map Enum.goName
  declares : ∀ e ∈ enums, c.Describes e ∧ DeclaresEnum file e.goName e.labels
  nodup : (enums.map Enum.name).Nodup
  mem_names : ∀ base, base ∈ enums.map Enum.name ↔
    ∃ r ∈ rs, ∃ text ∈ r.types, ∃ marked, Stripped text base marked ∧
      DecidedBy q.overrides c text .catalogEnum
  not_mem_of_strategy : ∀ text base marked s, Stripped text base marked →
    DecidedBy q.overrides c text s → s ≠ .catalogEnum → base ∉ enums.map Enum.name
  not_mem_of_labels : ∀ base schema name, Qualified base schema name →
    (c.enumLabels schema name = .ok [] ∨ ∃ e, c.enumLabels schema name = .error e) →
    base ∉ enums.map Enum.name

section Strategies
variable {o : Overrides} {c : Catalog} {text base : String} {marked : Bool} {s : Strategy}

theorem decidedBy_iff : DecidedBy o c text s ↔ (resolvedBase o c text).strategy = s := by
  unfold DecidedBy
  simp only [resolveType_fst]
  exact ⟨fun h => h .empty, fun h _ => h⟩

/-- The catalog has labels for a type that is decided as an enum. -/
theorem DecidedBy.labels (h : DecidedBy o c text .catalogEnum) :
    ∃ schema name labels, Qualified (Descriptor.ofText text).base schema name ∧
      c.enumLabels schema name = .ok labels ∧ labels ≠ [] ∧
      resolvedBase o c text = ⟨exportedName name, .catalogEnum⟩ ∧
      (⟨(Descriptor.ofText text).base, labels⟩ : Enum) ∈ typeEnums o c text := by
  obtain ⟨t, m, events, hdecided, hbase⟩ :=
    resolveBase_decided o c (Descriptor.ofText text) .empty
  have hresolved : resolvedBase o c text = t := by rw [resolvedBase, hbase]
  have hstrategy := decidedBy_iff.1 h
  rw [hresolved] at hstrategy ⊢
  cases hdecided with
  | @catalogEnum schema name labels m ho hb hq hlabels hne hm =>
    have hmem : (⟨(Descriptor.ofText text).base, labels⟩ : Enum) ∈ typeEnums o c text :=
      mem_typeEnums.2 ⟨⟨_, Descriptor.ofText_stripped text⟩, ho, hb, hne, schema, name, hq, hlabels⟩
    exact ⟨schema, name, labels, hq, hlabels, hne, rfl, hmem⟩
  | override | builtin | noEnum | failed => cases hstrategy

/-- A type that neither table knows is decided as an enum if the catalog describes it. -/
theorem DecidedBy.of_describes {e : Enum} (hs : Stripped text e.name marked)
    (ho : o.types.get? e.name = none) (hb : builtinType? e.name = none) (he : c.Describes e) :
    DecidedBy o c text .catalogEnum := by
  have hbase := hs.base_eq
  obtain ⟨hne, schema, name, hq, hlabels⟩ := he
  rw [decidedBy_iff, resolvedBase, resolveBase, hbase, ho, hb]
  simp only [resolveByCatalog, Journaled.value_bind]
  have hfound : (lookupEnum c (.ofText text)).value = .found e.labels :=
    lookupEnum_found.2 ⟨hne, schema, name, hbase ▸ hq, hlabels⟩
  rw [hfound]
  simp only [EnumRegistry.register, List.isEmpty_iff, hne, if_false]
  rfl

theorem DecidedBy.unique {s' : Strategy} (h : DecidedBy o c text s) (h' : DecidedBy o c text s') :
    s = s' := (h .empty).symm.trans (h' .empty)

end Strategies

section Signatures
variable (o : Overrides) (c : Catalog)

theorem resolvedResult_goType (r : Routine) : (resolvedResult o c r).goType? =
    if r.hasResult then some (goTypeOf o c r.result) else none := by
  unfold resolvedResult
  split
  · unfold ResultShape.ofResolved
    split <;> rfl
  · rfl

/-- A signature has the Go types of the types of its routine, one for one. -/
theorem signatureTypes_wrapper (w : WrapperOptions) (r : Routine) :
    signatureTypes w (Wrapper.funcDecl w (resolvedRoutine o c r)) = r.types.map (goTypeOf o c) := by
  have hparams : (Wrapper.params w (resolvedRoutine o c r)).drop
      (if w.connection = .parameter then 1 else 0) =
        r.arguments.map fun a => ⟨parameterName a.name, goTypeOf o c a.type⟩ := by
    rw [Wrapper.params, Wrapper.connectionParams_eq]
    split <;> simp [resolvedRoutine, resolvedArgument]
  have hresults : Wrapper.results (resolvedRoutine o c r).result =
      if r.hasResult then .named [⟨"result", goTypeOf o c r.result⟩, ⟨"err", "error"⟩]
      else .unnamed ["error"] := by
    rw [Wrapper.results, resolvedRoutine, resolvedResult_goType]
    cases r.hasResult <;> rfl
  rw [signatureTypes, Wrapper.funcDecl, hparams, hresults, Routine.types, List.map_append,
    List.map_map, List.map_map]
  cases r.hasResult <;> rfl

end Signatures

section Declarations
variable (c : Catalog) (q : GenerationRequest) (rs : List Routine)

theorem Go.Enum.decls_eq (e : Enum) : e.decls =
    [.type [] e.goName "string",
      .const (e.labels.map fun label => ⟨e.goName ++ exportedName label, e.goName, .text label⟩),
      e.validDecl] := by
  rw [Enum.decls, Enum.typeDecl, Enum.constDecl, Enum.consts, List.map_map]
  rfl

/-- An enum is declared wherever it stands among others. -/
theorem declaresEnum_of_mem {file : SourceFile} {es : List Enum} {rest : List Decl} {e : Enum}
    (hfile : file.decls = es.flatMap Enum.decls ++ rest) (h : e ∈ es) :
    DeclaresEnum file e.goName e.labels := by
  obtain ⟨before, after, rfl⟩ := List.append_of_mem h
  refine ⟨before.flatMap Enum.decls, e.validDecl :: (after.flatMap Enum.decls ++ rest), ?_⟩
  rw [hfile]
  simp [Enum.decls_eq e]

theorem typeNames_enums (es : List Enum) :
    (es.flatMap Enum.decls).filterMap Decl.typeName? = es.map Enum.goName := by
  induction es with
  | nil => rfl
  | cons e es ih => rw [List.flatMap_cons, List.filterMap_append, ih]; rfl

/-- Wrappers and what belongs to them declare no types. -/
theorem typeNames_wrapper (w : WrapperOptions) (r : ResolvedRoutine) :
    (Wrapper.decls w r).filterMap Decl.typeName? = [] := by
  cases h : w.argsDef <;> simp [Wrapper.decls, Wrapper.argsDecl, h, Decl.typeName?]

theorem declaredTypes_synthesized : declaredTypes (synthesizedFile c q rs) =
    (fileEnums q.overrides c rs).entries.map Enum.goName := by
  rw [declaredTypes, synthesizedFile_eq, List.filterMap_append, List.filterMap_append,
    EnumRegistry.decls, EnumRegistry.sorted, typeNames_enums, List.filterMap_flatMap]
  simp only [typeNames_wrapper]
  cases callsInlineArray c q rs <;> simp [ArrayLiteral.inlineDecl, Decl.typeName?]

/-- The enums stand before all other declarations. -/
theorem synthesizedFile_enums : ∃ rest, (synthesizedFile c q rs).decls =
    (fileEnums q.overrides c rs).entries.flatMap Enum.decls ++ rest := by
  rw [synthesizedFile_eq, EnumRegistry.decls, List.append_assoc]
  exact ⟨_, rfl⟩

theorem declaresEnum_synthesized {e : Enum} (h : e ∈ (fileEnums q.overrides c rs).entries) :
    DeclaresEnum (synthesizedFile c q rs) e.goName e.labels := by
  obtain ⟨rest, hfile⟩ := synthesizedFile_enums c q rs
  exact declaresEnum_of_mem hfile h

theorem mem_enumNames {base : String} :
    base ∈ (fileEnums q.overrides c rs).entries.map Enum.name ↔
      ∃ r ∈ rs, ∃ text ∈ r.types, ∃ marked, Stripped text base marked ∧
        DecidedBy q.overrides c text .catalogEnum := by
  rw [List.mem_map]
  constructor
  · rintro ⟨e, he, rfl⟩
    obtain ⟨⟨r, hr, text, htext, marked, hs⟩, ho, hb, hdescribed⟩ := mem_fileEnums.1 he
    exact ⟨r, hr, text, htext, marked, hs, .of_describes hs ho hb hdescribed⟩
  · rintro ⟨r, hr, text, htext, marked, hs, hdecided⟩
    obtain ⟨schema, name, labels, -, -, -, -, hmem⟩ := hdecided.labels
    obtain ⟨hused, ho, hb, hdescribed⟩ := mem_typeEnums.1 hmem
    exact ⟨_, mem_fileEnums.2 ⟨⟨r, hr, text, htext, hused⟩, ho, hb, hdescribed⟩, hs.base_eq⟩

/-- The place of an enum in a signature names a declaration of the file. -/
theorem namesEnum_of_decidedBy {r : Routine} {text : String} (hr : r ∈ rs) (htext : text ∈ r.types)
    (h : DecidedBy q.overrides c text .catalogEnum) :
    NamesEnum c (synthesizedFile c q rs) text (goTypeOf q.overrides c text) := by
  obtain ⟨schema, name, labels, hq, hlabels, hne, hresolved, hmem⟩ := h.labels
  obtain ⟨hused, ho, hb, hdescribed⟩ := mem_typeEnums.1 hmem
  have hentry := mem_fileEnums.2 ⟨⟨r, hr, text, htext, hused⟩, ho, hb, hdescribed⟩
  have hgoName : Enum.goName ⟨(Descriptor.ofText text).base, labels⟩ = exportedName name := by
    rw [Enum.goName_eq, hq.parts_eq]
  have hdeclares := declaresEnum_synthesized c q rs hentry
  refine .mk (Descriptor.ofText_stripped text) hq hlabels hne ?_ (hgoName ▸ hdeclares)
  rw [goTypeOf, hresolved, Descriptor.wrap]
  cases (Descriptor.ofText text).isCollection <;> simp

theorem enumTypes_synthesized :
    EnumTypes c q rs (synthesizedFile c q rs) (fileEnums q.overrides c rs).entries where
  wrappers r hr := by
    rw [synthesizedFile_eq, wrapperFunction, resolveRoutine_fst]
    refine List.mem_append_left _ (List.mem_append_right _ (List.mem_flatMap.2 ⟨r, hr, ?_⟩))
    exact List.mem_append_right _ (List.mem_singleton_self _)
  signatures r hr := by
    rw [wrapperFunction, resolveRoutine_fst, signatureTypes_wrapper, List.forall₂_map_right_iff,
      List.forall₂_same]
    exact fun text htext => namesEnum_of_decidedBy c q rs hr htext
  declared := declaredTypes_synthesized c q rs
  declares e he := ⟨(mem_fileEnums.1 he).described, declaresEnum_synthesized c q rs he⟩
  nodup := List.pairwise_map.2 ((fileEnums_ascending q.overrides c rs).imp String.ne_of_lt)
  mem_names _ := mem_enumNames c q rs
  not_mem_of_strategy text base marked s hs hdecided hne hmem := by
    obtain ⟨e, he, rfl⟩ := List.mem_map.1 hmem
    obtain ⟨-, ho, hb, hdescribed⟩ := mem_fileEnums.1 he
    exact hne (hdecided.unique (.of_describes hs ho hb hdescribed))
  not_mem_of_labels base schema name hq hlabels hmem := by
    obtain ⟨e, he, rfl⟩ := List.mem_map.1 hmem
    obtain ⟨hne, schema', name', hq', hfound⟩ := (mem_fileEnums.1 he).described
    have hparts : (schema, name) = (schema', name') :=
      (hq.parts_eq (d := ⟨e.name, none⟩)).symm.trans (hq'.parts_eq (d := ⟨e.name, none⟩))
    cases hparts
    rcases hlabels with hnone | ⟨error, herror⟩
    · exact hne (Except.ok.inj (hfound.symm.trans hnone))
    · cases hfound.symm.trans herror

end Declarations

/-- In the file of a synthesis every signature names, in the place of an enum, a type that the file
declares with the labels of that enum. The file declares one enum for each base that is decided as
one, and none for any other base. -/
theorem synthesize_enumTypes {c : Catalog} {q : GenerationRequest} {s : Synthesis}
    (h : (synthesize c q).value = .ok s) :
    ∃ rs enums, List.Forall₂ (Found c) q.routines rs ∧
      s.source = (synthesizedFile c q rs).print ∧
      EnumTypes c q rs (synthesizedFile c q rs) enums ∧ s.enumCount = enums.length := by
  obtain ⟨-, rs, hfound, rfl⟩ := synthesize_eq_ok.1 h
  refine ⟨rs, _, hfound, synthesisOf_source c q rs,
    enumTypes_synthesized c q rs, ?_⟩
  rw [synthesisOf_eq]
  rfl

theorem enumTypes_of_moods : ∃ s,
    (synthesize moodCatalog (moodRequest ["log_mood"])).value = .ok s ∧
    ∃ rs enums, List.Forall₂ (Found moodCatalog) ["log_mood"] rs ∧
      s.source = (synthesizedFile moodCatalog (moodRequest ["log_mood"]) rs).print ∧
      EnumTypes moodCatalog (moodRequest ["log_mood"]) rs
        (synthesizedFile moodCatalog (moodRequest ["log_mood"]) rs) enums ∧
      s.enumCount = enums.length ∧ "mood" ∈ enums.map Enum.name := by
  have hfound : List.Forall₂ (Found moodCatalog) ["log_mood"] [moodRoutine "log_mood"] :=
    .cons rfl .nil
  have hs : (synthesize moodCatalog (moodRequest ["log_mood"])).value = .ok _ :=
    synthesize_eq_ok.2 ⟨by decide, _, hfound, rfl⟩
  obtain ⟨rs, enums, hrs, hsource, htypes, hcount⟩ := synthesize_enumTypes hs
  refine ⟨_, hs, rs, enums, hrs, hsource, htypes, hcount, (htypes.mem_names "mood").2 ?_⟩
  have hmood : Found moodCatalog "log_mood" (moodRoutine "log_mood") := rfl
  have hr := (mem_found_iff hrs).2 ⟨"log_mood", List.mem_singleton_self _, hmood⟩
  refine ⟨_, hr, "mood", by decide, false, ?_, decidedBy_iff.2 rfl⟩
  exact Descriptor.ofText_stripped "mood"

end RoutineBindings
