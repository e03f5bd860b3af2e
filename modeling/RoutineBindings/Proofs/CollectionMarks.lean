import RoutineBindings.Proofs.ResultShapes

/-!
# Marks of collections

An array or a set of a type is resolved by resolving the type itself. The mark is gone before the
tables and the catalog are asked, so all that is left of it is the slice around the Go type: the
rule that decides, what is gathered, and the questions and warnings are those of the type alone.
-/
namespace RoutineBindings

/-- The run differs from that of the unmarked type only in the Go type, which is a slice of it. -/
structure SliceOf (marked plain : Journaled (ResolvedType × Needs)) : Prop where
  goType : marked.value.1.goType = "[]" ++ plain.value.1.goType
  strategy : marked.value.1.strategy = plain.value.1.strategy
  imports : marked.value.2.imports = plain.value.2.imports
  enums : marked.value.2.enums = plain.value.2.enums
  /-- The same questions and warnings, in the same order. -/
  events : marked.events = plain.events

section Marks
variable (o : Overrides) (c : Catalog) (n : Needs) {text base : String} {mark : Option Collection}

/-- Resolving a base looks at its name only and not at the mark that it had. -/
theorem resolveBase_mark (base : String) (mark : Option Collection) :
    resolveBase o c ⟨base, mark⟩ n = resolveBase o c ⟨base, none⟩ n := rfl

/-- The mark counts when the Go type is put together, after everything else. -/
theorem resolveType_of_parts (h : Descriptor.ofText text = ⟨base, mark⟩) :
    resolveType o c text n =
      ⟨({ (resolveBase o c ⟨base, none⟩ n).value.1 with
          goType := (Descriptor.mk base mark).wrap
            (resolveBase o c ⟨base, none⟩ n).value.1.goType },
        (resolveBase o c ⟨base, none⟩ n).value.2), (resolveBase o c ⟨base, none⟩ n).events⟩ := by
  rw [resolveType, h, resolveBase_mark]
  apply Journaled.eq_mk
  · rfl
  · simp only [Journaled.events_bind, Journaled.events_pure, List.append_nil]

theorem sliceOf_marked {k : Collection} (hbase : Descriptor.ofText base = ⟨base, none⟩)
    (h : Descriptor.ofText text = ⟨base, some k⟩) :
    SliceOf (resolveType o c text n) (resolveType o c base n) := by
  rw [resolveType_of_parts o c n h, resolveType_of_parts o c n hbase]
  exact ⟨rfl, rfl, rfl, rfl, rfl⟩

end Marks

/-- Both marks of a collection commute with resolution, for every type that has no mark itself. -/
theorem resolveType_collection (o : Overrides) (c : Catalog) (n : Needs) {base : String}
    (ha : ∀ b, base ≠ b ++ "[]") (hs : ∀ b, base ≠ "SETOF " ++ b) :
    SliceOf (resolveType o c (base ++ "[]") n) (resolveType o c base n) ∧
      SliceOf (resolveType o c ("SETOF " ++ base) n) (resolveType o c base n) := by
  have hplain : Descriptor.ofText base = ⟨base, none⟩ := Descriptor.ofText_plain ha hs
  -- The mark of a set cannot make up that of an array together with the base.
  have hset : ∀ b, "SETOF " ++ base ≠ b ++ "[]" := by
    intro b h
    obtain ⟨b', hb'⟩ := setOf_array h
    exact ha b' hb'
  exact ⟨sliceOf_marked o c n hplain (Descriptor.ofText_array base),
    sliceOf_marked o c n hplain (Descriptor.ofText_setOf hset)⟩

/-- A catalog that does not answer questions about types. -/
def silentCatalog : Catalog where
  routines _ _ := .ok []
  enumLabels _ _ := .error (.query "timeout")

/-- A type that is passed through after its lookup failed, with the one question and the one
warning, in an array and in a set. -/
theorem mood_collections :
    (∀ b, "app.mood" ≠ b ++ "[]") ∧ (∀ b, "app.mood" ≠ "SETOF " ++ b) ∧
      SliceOf (resolveType ⟨[], []⟩ silentCatalog "app.mood[]" .empty)
        (resolveType ⟨[], []⟩ silentCatalog "app.mood" .empty) ∧
      SliceOf (resolveType ⟨[], []⟩ silentCatalog "SETOF app.mood" .empty)
        (resolveType ⟨[], []⟩ silentCatalog "app.mood" .empty) ∧
      (resolveType ⟨[], []⟩ silentCatalog "app.mood" .empty).value.1 =
        ⟨"app.mood", .passthrough⟩ ∧
      (resolveType ⟨[], []⟩ silentCatalog "app.mood" .empty).events =
        [.enumLookup (some "app") "mood",
          .warned (.enumLookupFailed "app.mood" (.query "timeout"))] := by
  have hstripped : Stripped "app.mood" "app.mood" false := Descriptor.ofText_stripped "app.mood"
  cases hstripped with
  | plain ha hs =>
    obtain ⟨harray, hset⟩ := resolveType_collection ⟨[], []⟩ silentCatalog .empty ha hs
    exact ⟨ha, hs, harray, hset, by decide +kernel, by decide +kernel⟩

end RoutineBindings
