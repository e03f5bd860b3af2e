import Mathlib.Data.List.Sort
import RoutineBindings.Proofs.FileLayout

/-!
# Requests for the same routines

What a routine adds to a file does not depend on the routines before it, and what is gathered is
sorted. So two requests that name the same routines, in any order and however often, give the same
imports and enums, and the same text for each wrapper.
-/
namespace RoutineBindings
open Go Text

/-- A list in ascending order of a key is determined by its members. -/
theorem ascending_ext {α : Type} {key : α → String} {xs ys : List α}
    (hx : xs.Pairwise fun a b => BytesBefore (key a) (key b))
    (hy : ys.Pairwise fun a b => BytesBefore (key a) (key b))
    (h : ∀ a, a ∈ xs ↔ a ∈ ys) : xs = ys := by
  have hirrefl : Std.Irrefl fun a b => BytesBefore (key a) (key b) :=
    ⟨fun a => List.lt_irrefl (encode (key a))⟩
  have hantisymm : Std.Antisymm fun a b => BytesBefore (key a) (key b) :=
    ⟨fun a b hab hba => absurd hba (List.lt_asymm hab)⟩
  exact List.Pairwise.eq_of_mem_iff hx hy h

section Gathered
variable {c : Catalog} {q q' : GenerationRequest} {rs rs' : List Routine}

theorem Imported.mono {path : String} (ho : q'.overrides = q.overrides)
    (hw : q'.options = q.options) (hrs : ∀ r ∈ rs, r ∈ rs') (h : Imported c q rs path) :
    Imported c q' rs' path := by
  cases h with
  | ofType hr htext hs hb hp => exact .ofType (hrs _ hr) htext hs (ho ▸ hb) (ho ▸ hp)
  | argsDef h hp => exact .argsDef (hw ▸ h) hp
  | connection h hp => exact .connection (hw ▸ h) hp
  | array hr ha ht hp => exact .array (hrs _ hr) ha (ho ▸ ht) (hw ▸ hp)

theorem Discovered.mono {e : Enum} (ho : q'.overrides = q.overrides) (hrs : ∀ r ∈ rs, r ∈ rs')
    (h : Discovered c q rs e) : Discovered c q' rs' e := by
  obtain ⟨⟨r, hr, hused⟩, hno, hbuiltin, hdescribed⟩ := h
  exact ⟨⟨r, hrs r hr, hused⟩, ho ▸ hno, hbuiltin, hdescribed⟩

theorem Contents.eq {paths paths' : List String} {enums enums' : List Enum} {b b' : Bool}
    (ho : q'.overrides = q.overrides) (hw : q'.options = q.options)
    (hrs : ∀ r, r ∈ rs ↔ r ∈ rs') (h : Contents c q rs paths enums b)
    (h' : Contents c q' rs' paths' enums' b') : paths = paths' ∧ enums = enums' ∧ b = b' := by
  refine ⟨?_, ?_, ?_⟩
  · apply ascending_ext h.paths_ascending h'.paths_ascending
    intro path
    rw [h.mem_paths, h'.mem_paths]
    exact ⟨.mono ho hw fun r => (hrs r).1, .mono ho.symm hw.symm fun r => (hrs r).2⟩
  · apply ascending_ext h.enums_ascending h'.enums_ascending
    intro e
    rw [h.mem_enums, h'.mem_enums]
    exact ⟨.mono ho fun r => (hrs r).1, .mono ho.symm fun r => (hrs r).2⟩
  · rw [Bool.eq_iff_iff, h.inlineArray_iff, h'.inlineArray_iff, ho, hw]
    simp only [hrs]

end Gathered

/-- The text of the wrapper that a requested name stands for. -/
def requestedText (o : Overrides) (c : Catalog) (w : WrapperOptions) (name : String) : String :=
  match (introspect c name).value with
  | .ok r => wrapperText o c w r
  | .error _ => ""

theorem texts_of_found {c : Catalog} {names : List String} {rs : List Routine} (o : Overrides)
    (w : WrapperOptions) (h : List.Forall₂ (Found c) names rs) :
    rs.map (wrapperText o c w) = names.map (requestedText o c w) := by
  induction h with
  | nil => rfl
  | @cons name r names rs hname _ ih =>
    have hhead : requestedText o c w name = wrapperText o c w r := by
      rw [requestedText, hname]
    rw [List.map_cons, List.map_cons, ih, hhead]

/-- Two requests with the same names, overrides and options: the imports, the enums and the inline
array function of both files are the same, and so is the text of the wrapper of each name. -/
theorem synthesize_same_names {c : Catalog} {q q' : GenerationRequest} {s s' : Synthesis}
    (ho : q'.overrides = q.overrides) (hw : q'.options = q.options)
    (hnames : ∀ name, name ∈ q.routines ↔ name ∈ q'.routines)
    (h : (synthesize c q).value = .ok s) (h' : (synthesize c q').value = .ok s') :
    ∃ rs paths enums inlineArray,
      (∀ r, r ∈ rs ↔ ∃ name ∈ q.routines, Found c name r) ∧
      Contents c q rs paths enums inlineArray ∧
      s.source = fileText q.options.package paths enums
        (q.routines.map (requestedText q.overrides c q.options)) inlineArray ∧
      s'.source = fileText q.options.package paths enums
        (q'.routines.map (requestedText q.overrides c q.options)) inlineArray ∧
      s'.enumCount = s.enumCount := by
  obtain ⟨hq, rs, hfound, rfl⟩ := synthesize_eq_ok.1 h
  obtain ⟨hq', rs', hfound', rfl⟩ := synthesize_eq_ok.1 h'
  have hrs : ∀ r, r ∈ rs ↔ r ∈ rs' := by
    intro r
    rw [mem_found_iff hfound, mem_found_iff hfound']
    simp only [hnames]
  have hcontents := file_contents c q rs (found_ne_nil hfound hq)
  have hcontents' := file_contents c q' rs' (found_ne_nil hfound' hq')
  obtain ⟨hpaths, henums, hinline⟩ := hcontents.eq ho hw hrs hcontents'
  rw [synthesisOf_eq, synthesisOf_eq]
  refine ⟨rs, _, _, _, fun r => mem_found_iff hfound, hcontents, ?_, ?_, ?_⟩
  · rw [texts_of_found q.overrides q.options hfound]
  · rw [hpaths, henums, hinline, ho, hw, texts_of_found q.overrides q.options hfound']
  · exact congrArg List.length henums.symm

theorem same_moods : ∃ s s',
    (synthesize moodCatalog (moodRequest ["log_mood", "drop_moods"])).value = .ok s ∧
    (synthesize moodCatalog (moodRequest ["drop_moods", "log_mood", "drop_moods"])).value = .ok s' ∧
    ∃ rs paths enums inlineArray,
      (∀ r, r ∈ rs ↔ ∃ name ∈ ["log_mood", "drop_moods"], Found moodCatalog name r) ∧
      Contents moodCatalog (moodRequest ["log_mood", "drop_moods"]) rs paths enums inlineArray ∧
      s.source = fileText "db" paths enums
        (["log_mood", "drop_moods"].map (requestedText ⟨[], []⟩ moodCatalog
          ⟨"db", false, .parameter, "getDB", none⟩)) inlineArray ∧
      s'.source = fileText "db" paths enums
        (["drop_moods", "log_mood", "drop_moods"].map (requestedText ⟨[], []⟩ moodCatalog
          ⟨"db", false, .parameter, "getDB", none⟩)) inlineArray ∧
      s'.enumCount = s.enumCount := by
  have hlog : Found moodCatalog "log_mood" (moodRoutine "log_mood") := rfl
  have hdrop : Found moodCatalog "drop_moods" (moodRoutine "drop_moods") := rfl
  have hs : (synthesize moodCatalog (moodRequest ["log_mood", "drop_moods"])).value = .ok _ :=
    synthesize_eq_ok.2 ⟨by decide, _, .cons hlog (.cons hdrop .nil), rfl⟩
  have hs' : (synthesize moodCatalog
      (moodRequest ["drop_moods", "log_mood", "drop_moods"])).value = .ok _ :=
    synthesize_eq_ok.2 ⟨by decide, _, .cons hdrop (.cons hlog (.cons hdrop .nil)), rfl⟩
  refine ⟨_, _, hs, hs', synthesize_same_names ?_ ?_ ?_ hs hs'⟩
  · rfl
  · rfl
  · intro name
    simp only [moodRequest, List.mem_cons, List.not_mem_nil, or_false]
    tauto

end RoutineBindings
