import Mathlib.Data.List.Induction
import RoutineBindings.Proofs.OrderIndependence

/-!
# Histories of the enum registry

Enums are registered under the same names again, with other labels or with none. Of each name the
last registration with labels is left, and the entries stand in the order of the names. So the
registry and its declarations follow from these last registrations alone, however they came about.
-/
namespace RoutineBindings.Go
open Text

/-- The enum has labels, and no later registration of its name has any. -/
structure LastLabelled (history : List Enum) (e : Enum) : Prop where
  labelled : e.labels ≠ []
  last : ∃ before after, history = before ++ e :: after ∧
    ∀ x ∈ after, x.name = e.name → x.labels = []

/-- The registry after the enums were registered one after the other. -/
def registered (history : List Enum) : EnumRegistry := EnumRegistry.empty.registerAll history

section Histories
variable {history : List Enum} {e x : Enum} {name : String}

theorem not_lastLabelled_nil : ¬ LastLabelled [] e := by
  rintro ⟨-, before, after, h, -⟩
  simp at h

/-- A new registration counts if it has labels, and then an earlier one of its name does not. -/
theorem lastLabelled_concat : LastLabelled (history ++ [x]) e ↔
    (e = x ∧ x.labels ≠ []) ∨ (LastLabelled history e ∧ (x.name = e.name → x.labels = [])) := by
  constructor
  · rintro ⟨hlabels, before, after, hsplit, hafter⟩
    rcases List.eq_nil_or_concat' after with rfl | ⟨after, y, rfl⟩
    · obtain ⟨-, rfl⟩ := List.append_singleton_inj.1 hsplit
      exact .inl ⟨rfl, hlabels⟩
    · rw [← List.cons_append, ← List.append_assoc] at hsplit
      obtain ⟨rfl, rfl⟩ := List.append_singleton_inj.1 hsplit
      obtain ⟨hafter, hx⟩ := List.forall_mem_append.1 hafter
      exact .inr ⟨⟨hlabels, before, after, rfl, hafter⟩, hx x List.mem_cons_self⟩
  · rintro (⟨rfl, hlabels⟩ | ⟨⟨hlabels, before, after, rfl, hafter⟩, hx⟩)
    · exact ⟨hlabels, history, [], rfl, List.forall_mem_nil _⟩
    · refine ⟨hlabels, before, after ++ [x], by simp, List.forall_mem_append.2 ⟨hafter, ?_⟩⟩
      exact List.forall_mem_singleton.2 hx

/-- Every name that was registered with labels has a last such registration. -/
theorem exists_lastLabelled_iff : (∃ e, LastLabelled history e ∧ e.name = name) ↔
    ∃ x ∈ history, x.name = name ∧ x.labels ≠ [] := by
  constructor
  · rintro ⟨e, ⟨hlabels, before, after, rfl, -⟩, hname⟩
    exact ⟨e, by simp, hname, hlabels⟩
  · rintro ⟨x, hx, hname, hlabels⟩
    induction history using List.reverseRecOn with
    | nil => exact absurd hx List.not_mem_nil
    | append_singleton history y ih =>
      by_cases hy : y.name = name ∧ y.labels ≠ []
      · exact ⟨y, lastLabelled_concat.2 (.inl ⟨rfl, hy.2⟩), hy.1⟩
      · rcases List.mem_append.1 hx with hx | hx
        · obtain ⟨e, he, hename⟩ := ih hx
          refine ⟨e, lastLabelled_concat.2 (.inr ⟨he, fun hsame => ?_⟩), hename⟩
          exact Decidable.byContradiction fun h => hy ⟨hsame.trans hename, h⟩
        · obtain rfl := List.mem_singleton.1 hx
          exact absurd ⟨hname, hlabels⟩ hy

end Histories

namespace EnumRegistry
variable {r : EnumRegistry} {history : List Enum} {e x : Enum} {name : String}

theorem Ascending.names_nodup (h : r.Ascending) : (r.entries.map Enum.name).Nodup := by
  refine List.pairwise_map.2 (h.imp ?_)
  intro e x hlt heq
  rw [heq] at hlt
  exact Std.lt_irrefl hlt

theorem Ascending.eq_of_name (h : r.Ascending) (he : e ∈ r.entries) (hx : x ∈ r.entries)
    (hname : e.name = x.name) : e = x :=
  List.inj_on_of_nodup_map h.names_nodup he hx hname

/-- In whatever order the entries are listed, to sort the list by name gives them in their order. -/
theorem Ascending.mergeSort_eq (h : r.Ascending) {es : List Enum} (hes : es.Nodup)
    (hmem : ∀ e, e ∈ es ↔ e ∈ r.entries) :
    es.mergeSort (fun x y => x.name ≤ y.name) = r.entries := by
  have hentries : r.entries.Nodup := h.names_nodup.of_map
  have hperm : (es.mergeSort (fun x y => x.name ≤ y.name)).Perm r.entries :=
    (List.mergeSort_perm es _).trans ((List.perm_ext_iff_of_nodup hes hentries).2 hmem)
  have hsorted : (es.mergeSort (fun x y => x.name ≤ y.name)).Pairwise
      fun x y => decide (x.name ≤ y.name) = true := by
    apply List.pairwise_mergeSort
    · intro x y z hxy hyz
      exact decide_eq_true (Std.le_trans (of_decide_eq_true hxy) (of_decide_eq_true hyz))
    · intro x y
      simpa using Std.le_total (a := x.name) (b := y.name)
  -- Two names that are not before each other are one name, and so one entry.
  refine hperm.eq_of_pairwise ?_ hsorted (h.imp fun hlt => decide_eq_true (Std.le_of_lt hlt))
  intro x y hx hy hxy hyx
  exact h.eq_of_name (hperm.mem_iff.1 hx) hy
    (Std.le_antisymm (of_decide_eq_true hxy) (of_decide_eq_true hyx))

theorem Ascending.get?_eq_some_iff (h : r.Ascending) :
    r.get? name = some e ↔ e ∈ r.entries ∧ e.name = name := by
  constructor
  · intro hget
    exact ⟨List.mem_of_find?_eq_some hget, by simpa using List.find?_some hget⟩
  · rintro ⟨he, rfl⟩
    cases hget : r.get? e.name with
    | none => simpa using List.find?_eq_none.1 hget e he
    | some x =>
      have hname : x.name = e.name := by simpa using List.find?_some hget
      rw [h.eq_of_name (List.mem_of_find?_eq_some hget) he hname]

theorem register_unlabelled (r : EnumRegistry) (he : e.labels = []) : r.register e = (none, r) :=
  if_pos (List.isEmpty_iff.2 he)

theorem register_labelled (r : EnumRegistry) (he : e.labels ≠ []) :
    r.register e = (some e.goName, ⟨insertEnum e r.entries⟩) :=
  if_neg (mt List.isEmpty_iff.1 he)

/-- A registration with labels takes the place of the entry of its name. -/
theorem Ascending.mem_register (h : r.Ascending) : x ∈ (r.register e).2.entries ↔
    (x = e ∧ e.labels ≠ []) ∨ (x ∈ r.entries ∧ (e.name = x.name → e.labels = [])) := by
  by_cases he : e.labels = []
  · rw [register_unlabelled r he]
    simp [he]
  · have hget : ∀ s : EnumRegistry, s.Ascending → (x ∈ s.entries ↔ s.get? x.name = some x) :=
      fun s hs => (and_iff_left rfl).symm.trans hs.get?_eq_some_iff.symm
    rw [hget _ (register_ascending h e), register_labelled r he, get?_insertEnum, hget r h]
    by_cases hname : x.name = e.name
    · simp [hname, he, eq_comm]
    · have hne : x ≠ e := fun h => hname (congrArg Enum.name h)
      simp [hname, hne, Ne.symm hname]

end EnumRegistry

section Registered
variable {history other : List Enum} {e : Enum}

theorem registered_concat (history : List Enum) (e : Enum) :
    registered (history ++ [e]) = ((registered history).register e).2 :=
  EnumRegistry.registerAll_append _ history [e]

theorem registered_ascending (history : List Enum) : (registered history).Ascending :=
  EnumRegistry.registerAll_ascending List.Pairwise.nil history

theorem mem_registered : e ∈ (registered history).entries ↔ LastLabelled history e := by
  induction history using List.reverseRecOn with
  | nil => exact iff_of_false List.not_mem_nil not_lastLabelled_nil
  | append_singleton history x ih =>
    rw [registered_concat, (registered_ascending history).mem_register, lastLabelled_concat, ih]

theorem registered_bytes (history : List Enum) :
    (registered history).sorted.Pairwise fun x y => BytesBefore x.name y.name :=
  (registered_ascending history).imp bytesBefore_iff.2

end Registered

/-- The registry holds what a history leaves of each name, sorted, and declares it. -/
structure KeepsLast (history : List Enum) (r : EnumRegistry) : Prop where
  /-- One entry for each name that was ever registered with labels, and for no other name. -/
  oneEach : ∀ name, (∃! e, e ∈ r.sorted ∧ e.name = name) ↔
    ∃ x ∈ history, x.name = name ∧ x.labels ≠ []
  get? : ∀ name e, r.get? name = some e ↔ LastLabelled history e ∧ e.name = name
  ascending : r.sorted.Pairwise fun x y => BytesBefore x.name y.name
  /-- In whatever order the last registrations are listed, the entries are that list sorted by name;
  none is lost or doubled. -/
  listed : ∀ es : List Enum, es.Nodup → (∀ e, e ∈ es ↔ LastLabelled history e) →
    r.sorted.Perm es ∧ es.mergeSort (fun x y => x.name ≤ y.name) = r.sorted
  decls : r.decls = (r.sorted.map fun e => [e.typeDecl, e.constDecl, e.validDecl]).flatten
  /-- An enum without labels changes nothing, not even if its name has an entry. -/
  unlabelled : ∀ e, e.labels = [] → r.register e = (none, r)
  labelled : ∀ e, e.labels ≠ [] → r.register e = (some e.goName, registered (history ++ [e]))

/-- Whatever was registered, the registry holds the last labels of each name, and histories with the
same last labels give the same entries in the same order, and the same declarations. -/
theorem registered_keepsLast (history : List Enum) :
    KeepsLast history (registered history) ∧
      ∀ other, (∀ e, LastLabelled other e ↔ LastLabelled history e) →
        (registered other).sorted = (registered history).sorted ∧
          (registered other).decls = (registered history).decls := by
  have hascending := registered_ascending history
  refine ⟨⟨fun name => ?_, fun name e => ?_, registered_bytes history, fun es hes hlast => ?_,
    List.flatMap_def, fun e he => ?_, fun e he => ?_⟩, fun other hother => ?_⟩
  · rw [← exists_lastLabelled_iff]
    constructor
    · rintro ⟨e, ⟨he, hname⟩, -⟩
      exact ⟨e, mem_registered.1 he, hname⟩
    · rintro ⟨e, he, hname⟩
      refine ⟨e, ⟨mem_registered.2 he, hname⟩, ?_⟩
      rintro x ⟨hx, hxname⟩
      exact hascending.eq_of_name hx (mem_registered.2 he) (hxname.trans hname.symm)
  · rw [hascending.get?_eq_some_iff, mem_registered]
  · have hsort := hascending.mergeSort_eq hes fun e => (hlast e).trans mem_registered.symm
    exact ⟨.trans (.of_eq hsort.symm) (List.mergeSort_perm es _), hsort⟩
  · exact EnumRegistry.register_unlabelled _ he
  · rw [registered_concat, EnumRegistry.register_labelled _ he]
  · have hsorted : (registered other).sorted = (registered history).sorted := by
      apply ascending_ext (registered_bytes other) (registered_bytes history)
      exact fun e => mem_registered.trans ((hother e).trans mem_registered.symm)
    exact ⟨hsorted, congrArg (List.flatMap Enum.decls) hsorted⟩

example : (registered [⟨"b", ["x"]⟩, ⟨"a", ["y"]⟩, ⟨"b", ["z"]⟩, ⟨"a", []⟩]).sorted =
    [⟨"a", ["y"]⟩, ⟨"b", ["z"]⟩] := by
  decide +kernel

end RoutineBindings.Go
