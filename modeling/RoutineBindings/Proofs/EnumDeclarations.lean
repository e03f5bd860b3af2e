import RoutineBindings.Proofs.ResolutionEffects

/-!
# The enums of a file

Enums are registered on the way, by every type that neither table knows and the catalog answers
with labels. The catalog gives one answer for a name, so the finished registry is the set of the
enums that were discovered, in the order of their names.
-/
namespace RoutineBindings
open Go Text

section Spellings
variable {text base name : String} {marked : Bool} {schema : Option String}

theorem Stripped.base_eq (h : Stripped text base marked) :
    (Descriptor.ofText text).base = base := by
  cases h with
  | array h => rw [h, Descriptor.ofText_array]
  | setOf ha h =>
    subst h
    rw [Descriptor.ofText_setOf ha]
  | plain ha hs => rw [Descriptor.ofText_plain ha hs]

theorem Qualified.parts_eq {d : Descriptor} (h : Qualified d.base schema name) :
    d.qualified = (schema, name) := by
  have hbase := h.base_eq
  unfold Descriptor.qualified
  cases schema with
  | none =>
    have hname : d.base = name := by simpa using hbase
    rw [hname, cutAtLast_eq_none_iff.2 h.undotted]
  | some schema =>
    have hcut : cutAtLast '.' d.base.toList = some (schema.toList, name.toList) := by
      refine cutAtLast_eq_some_iff.2 ⟨?_, h.undotted⟩
      rw [hbase]
      simp
    simp only [hcut, String.ofList_toList]

end Spellings

/-- The catalog answers the name of the enum with its labels. -/
def Catalog.Describes (c : Catalog) (e : Enum) : Prop :=
  e.labels ≠ [] ∧ ∃ schema name, Qualified e.name schema name ∧
    c.enumLabels schema name = .ok e.labels

theorem Catalog.Describes.eq_of_name {c : Catalog} {x y : Enum} (hx : c.Describes x)
    (hy : c.Describes y) (h : x.name = y.name) : x = y := by
  obtain ⟨-, schema, name, hq, hlabels⟩ := hx
  obtain ⟨-, schema', name', hq', hlabels'⟩ := hy
  have hparts : (schema, name) = (schema', name') :=
    (hq.parts_eq (d := ⟨x.name, none⟩)).symm.trans
      (Qualified.parts_eq (d := ⟨x.name, none⟩) (h ▸ hq'))
  cases hparts
  have hsame : x.labels = y.labels := Except.ok.inj (hlabels.symm.trans hlabels')
  cases x
  cases y
  cases h
  cases hsame
  rfl

section Registering
variable {e x : Enum} {es : List Enum} {r : EnumRegistry}

/-- Nothing is lost when no other enum has the name. -/
theorem mem_insertEnum_iff (h : ∀ y ∈ es, y.name = e.name → y = e) :
    x ∈ insertEnum e es ↔ x = e ∨ x ∈ es := by
  refine ⟨mem_insertEnum, ?_⟩
  induction es with
  | nil => simp [insertEnum]
  | cons y ys ih =>
    have hys : ∀ z ∈ ys, z.name = e.name → z = e := fun z hz => h z (List.mem_cons_of_mem y hz)
    unfold insertEnum
    intro hx
    split
    · exact List.mem_cons.2 hx
    · split
      · rename_i heq
        have hy : y = e := h y List.mem_cons_self heq.symm
        rcases hx with rfl | hx
        · exact List.mem_cons_self
        · exact hy ▸ hx
      · rcases hx with rfl | hx
        · exact List.mem_cons_of_mem y (ih hys (.inl rfl))
        · rcases List.mem_cons.1 hx with rfl | hx
          · exact List.mem_cons_self
          · exact List.mem_cons_of_mem y (ih hys (.inr hx))

namespace Go.EnumRegistry

theorem register_ascending (h : r.Ascending) (e : Enum) : (r.register e).2.Ascending := by
  unfold register
  split
  · exact h
  · exact insertEnum_ascending h

theorem registerAll_ascending (h : r.Ascending) (es : List Enum) :
    (r.registerAll es).Ascending := by
  induction es generalizing r with
  | nil => exact h
  | cons e es ih => exact ih (register_ascending h e)

/-- Enums of one catalog do not push each other out of the registry. -/
theorem mem_registerAll {c : Catalog} (hes : ∀ e ∈ es, c.Describes e)
    (hr : ∀ e ∈ r.entries, c.Describes e) :
    x ∈ (r.registerAll es).entries ↔ x ∈ es ∨ x ∈ r.entries := by
  induction es generalizing r with
  | nil => simp
  | cons e es ih =>
    have he : c.Describes e := hes e List.mem_cons_self
    have hregister : (r.register e).2.entries = insertEnum e r.entries := by
      rw [register, if_neg (mt List.isEmpty_iff.1 he.1)]
    have hmem : ∀ y, y ∈ (r.register e).2.entries ↔ y = e ∨ y ∈ r.entries := by
      intro y
      rw [hregister]
      exact mem_insertEnum_iff fun z hz hname => (hr z hz).eq_of_name he hname
    have hr' : ∀ y ∈ (r.register e).2.entries, c.Describes y := by
      intro y hy
      rcases (hmem y).1 hy with rfl | hy
      · exact he
      · exact hr y hy
    have hcons : r.registerAll (e :: es) = (r.register e).2.registerAll es := rfl
    rw [hcons, ih (fun y hy => hes y (List.mem_cons_of_mem e hy)) hr', hmem, List.mem_cons]
    exact or_left_comm.trans or_assoc.symm

end Go.EnumRegistry
end Registering

/-- A type of a routine has the name of the enum as its base, neither table knows this name and the
catalog answers it with the labels. -/
structure Discovered (c : Catalog) (q : GenerationRequest) (rs : List Routine) (e : Enum) :
    Prop where
  used : ∃ r ∈ rs, ∃ text ∈ r.types, ∃ marked, Stripped text e.name marked
  notOverridden : q.overrides.types.get? e.name = none
  notBuiltin : builtinType? e.name = none
  described : c.Describes e

theorem lookupEnum_found {c : Catalog} {d : Descriptor} {labels : List String} :
    (lookupEnum c d).value = .found labels ↔ c.Describes ⟨d.base, labels⟩ := by
  have hfound : (lookupEnum c d).value = .found labels ↔
      labels ≠ [] ∧ c.enumLabels d.qualified.1 d.qualified.2 = .ok labels := by
    rw [lookupEnum_eq]
    rcases c.enumLabels d.qualified.1 d.qualified.2 with e | (_ | ⟨label, rest⟩)
    · simp
    · simp +contextual [eq_comm]
    · simp +contextual [eq_comm]
  rw [hfound]
  refine and_congr_right fun _ => ?_
  constructor
  · intro h
    exact ⟨_, _, d.qualified_spec, h⟩
  · rintro ⟨schema, name, hq, h⟩
    rw [hq.parts_eq]
    exact h

theorem mem_typeEnums {o : Overrides} {c : Catalog} {text : String} {e : Enum} :
    e ∈ typeEnums o c text ↔ (∃ marked, Stripped text e.name marked) ∧
      o.types.get? e.name = none ∧ builtinType? e.name = none ∧ c.Describes e := by
  unfold typeEnums
  constructor
  · intro h
    split at h
    · rename_i hhost
      obtain ⟨ho, hb⟩ := Option.or_eq_none_iff.1 hhost
      split at h
      · rename_i labels hfound
        obtain rfl := List.mem_singleton.1 h
        exact ⟨⟨_, Descriptor.ofText_stripped text⟩, ho, hb, lookupEnum_found.1 hfound⟩
      · exact absurd h List.not_mem_nil
    · exact absurd h List.not_mem_nil
  · rintro ⟨⟨marked, hstripped⟩, ho, hb, hdescribed⟩
    have hbase := hstripped.base_eq
    have hhost : o.hostType? text = none := by
      rw [Overrides.hostType?, hbase, ho, hb]
      rfl
    have hfound : (lookupEnum c (.ofText text)).value = .found e.labels :=
      lookupEnum_found.2 (hbase ▸ hdescribed)
    rw [if_pos hhost, hfound, hbase]
    exact List.mem_singleton_self e

/-- The enums that a file of the routines declares. -/
def fileEnums (o : Overrides) (c : Catalog) (rs : List Routine) : EnumRegistry :=
  EnumRegistry.empty.registerAll (rs.flatMap fun r => r.types.flatMap (typeEnums o c))

theorem fileEnums_ascending (o : Overrides) (c : Catalog) (rs : List Routine) :
    (fileEnums o c rs).Ascending := EnumRegistry.registerAll_ascending List.Pairwise.nil _

theorem mem_fileEnums {c : Catalog} {q : GenerationRequest} {rs : List Routine} {e : Enum} :
    e ∈ (fileEnums q.overrides c rs).entries ↔ Discovered c q rs e := by
  have hmem : ∀ x, x ∈ rs.flatMap (fun r => r.types.flatMap (typeEnums q.overrides c)) ↔
      Discovered c q rs x := by
    intro x
    simp only [List.mem_flatMap, mem_typeEnums]
    constructor
    · rintro ⟨r, hr, text, htext, hused, ho, hb, hdescribed⟩
      exact ⟨⟨r, hr, text, htext, hused⟩, ho, hb, hdescribed⟩
    · rintro ⟨⟨r, hr, text, htext, hused⟩, ho, hb, hdescribed⟩
      exact ⟨r, hr, text, htext, hused, ho, hb, hdescribed⟩
  have hregistered := EnumRegistry.mem_registerAll (c := c) (r := .empty) (x := e)
    (fun x hx => ((hmem x).1 hx).described) (fun x hx => absurd hx List.not_mem_nil)
  rw [fileEnums, hregistered, hmem]
  exact or_iff_left List.not_mem_nil

end RoutineBindings
