import RoutineBindings.Proofs.ResolutionEffects

/-!
# How results are read

A result is read as its type is spelled: not at all if nothing is spelled, row by row after
`SETOF`, and otherwise as one value. A type that is spelled as a set of arrays has two marks, of
which only that of the array is seen; such a set is read as one value.
-/
namespace RoutineBindings
open Go

/-- The shape is the one that the spelling of the type asks for. Rows are elements of the type
that the text after `SETOF` resolves to. -/
def ReadAsSpelled (o : Overrides) (c : Catalog) (result : String) : ResultShape → Prop
  | .none => result = ""
  | .single _ _ => result ≠ "" ∧ ∀ rest, result ≠ "SETOF " ++ rest
  | .rows goType element _ => ∃ rest, result = "SETOF " ++ rest ∧ goType = "[]" ++ element ∧
      ∀ n, (resolveType o c rest n).value.1.goType = element

section Shapes
variable {o : Overrides} {c : Catalog} {r : Routine} {rest : String}

theorem element_slice (type : String) : element ("[]" ++ type) = type := by
  have h : Text.afterStart "[]".toList ("[]" ++ type).toList = some type.toList :=
    afterStart_eq_some.2 rfl
  rw [element, afterMarker?, h, Option.map_some, String.ofList_toList, Option.getD_some]

theorem isPointer_slice (type : String) : isPointer ("[]" ++ type) = false := by
  simp [isPointer, afterMarker?, Text.afterStart]

theorem setOf_ne_empty (rest : String) : "SETOF " ++ rest ≠ "" := by
  intro h
  simpa using congrArg String.toList h

/-- The Go type that a text resolves to when no mark is taken off. -/
def baseType (o : Overrides) (c : Catalog) (base : String) : String :=
  (resolveBase o c ⟨base, none⟩ .empty).value.1.goType

theorem goTypeOf_array (o : Overrides) (c : Catalog) (base : String) :
    goTypeOf o c (base ++ "[]") = "[]" ++ baseType o c base := by
  rw [goTypeOf, resolvedBase, Descriptor.ofText_array]
  rfl

theorem goTypeOf_setOf (ha : ∀ b, "SETOF " ++ rest ≠ b ++ "[]") :
    goTypeOf o c ("SETOF " ++ rest) = "[]" ++ baseType o c rest := by
  rw [goTypeOf, resolvedBase, Descriptor.ofText_setOf ha]
  rfl

theorem goTypeOf_plain (h : Stripped rest rest false) : goTypeOf o c rest = baseType o c rest := by
  cases h with
  | plain ha hs =>
    rw [goTypeOf, resolvedBase, Descriptor.ofText_plain ha hs]
    rfl

theorem resolvedResult_empty (h : r.result = "") : resolvedResult o c r = .none := by
  simp [resolvedResult, Routine.hasResult, h]

theorem resolvedResult_of_ne (h : r.result ≠ "") :
    resolvedResult o c r =
      .ofResolved r.result { resolvedBase o c r.result with goType := goTypeOf o c r.result } := by
  simp [resolvedResult, Routine.hasResult, h]

/-- A set is read row by row, unless its type ends like an array. -/
theorem resolvedResult_setOf (h : r.result = "SETOF " ++ rest)
    (ha : ∀ b, r.result ≠ b ++ "[]") :
    ∃ s, resolvedResult o c r = .rows ("[]" ++ baseType o c rest) (baseType o c rest) s := by
  rw [resolvedResult_of_ne (h ▸ setOf_ne_empty rest)]
  rw [h] at ha ⊢
  simp only [ResultShape.ofResolved, Descriptor.ofText_setOf ha, Descriptor.isSet, decide_true,
    if_true, goTypeOf_setOf ha, element_slice]
  exact ⟨_, rfl⟩

/-- The mark of a set has nothing in common with that of an array. -/
theorem setOf_array {b : String} (h : "SETOF " ++ rest = b ++ "[]") : ∃ b', rest = b' ++ "[]" := by
  have hl : "SETOF ".toList ++ rest.toList = b.toList ++ "[]".toList := by
    simpa only [String.toList_append] using congrArg String.toList h
  rcases List.append_eq_append_iff.1 hl with ⟨l, -, hrest⟩ | ⟨l, hset, hmark⟩
  · refine ⟨String.ofList l, ?_⟩
    rw [← String.toList_inj, hrest]
    simp
  · cases l with
    | nil => exact ⟨"", by rw [← String.toList_inj, ← List.nil_append rest.toList, ← hmark]; rfl⟩
    | cons x l =>
      have hx : x = '[' := (List.cons.inj hmark).1.symm
      have hmem : x ∈ "SETOF ".toList := by
        rw [hset]
        exact List.mem_append_right _ List.mem_cons_self
      rw [hx] at hmem
      exact absurd hmem (by decide)

theorem isSet_array (base : String) : (Descriptor.ofText (base ++ "[]")).isSet = false := by
  rw [Descriptor.ofText_array]
  rfl

theorem isSet_of_ne {text : String} (h : ∀ rest, text ≠ "SETOF " ++ rest) :
    (Descriptor.ofText text).isSet = false := by
  by_cases ha : ∃ b, text = b ++ "[]"
  · obtain ⟨base, rfl⟩ := ha
    exact isSet_array base
  · rw [Descriptor.ofText_plain (fun b hb => ha ⟨b, hb⟩) h]
    rfl

theorem resolvedResult_array {base : String} (h : r.result = base ++ "[]") :
    resolvedResult o c r = .single ("[]" ++ baseType o c base) false := by
  have hne : r.result ≠ "" := by
    rw [h]
    intro he
    simpa using congrArg String.toList he
  rw [resolvedResult_of_ne hne, h, ResultShape.ofResolved, isSet_array, if_neg Bool.false_ne_true,
    goTypeOf_array, isPointer_slice]

/-- What is spelled without the mark of a set is read as one value. -/
theorem resolvedResult_single (h : r.result ≠ "") (hs : ∀ rest, r.result ≠ "SETOF " ++ rest) :
    ∃ s, resolvedResult o c r = .single (goTypeOf o c r.result) s := by
  rw [resolvedResult_of_ne h]
  simp only [ResultShape.ofResolved, isSet_of_ne hs, if_neg Bool.false_ne_true]
  exact ⟨_, rfl⟩

theorem readAsSpelled_array {base : String} (h : r.result = "SETOF " ++ rest)
    (ha : r.result = base ++ "[]") : ¬ ReadAsSpelled o c r.result (resolvedResult o c r) := by
  rw [resolvedResult_array ha]
  exact fun hr => hr.2 rest h

theorem readAsSpelled_setOf (h : r.result = "SETOF " ++ rest)
    (ha : ∀ b, r.result ≠ b ++ "[]") :
    ReadAsSpelled o c r.result (resolvedResult o c r) ↔ goTypeOf o c rest = baseType o c rest := by
  obtain ⟨s, hs⟩ := resolvedResult_setOf (o := o) (c := c) h ha
  rw [hs]
  constructor
  · rintro ⟨rest', h', -, htype⟩
    have hrest : rest' = rest := (String.append_right_inj _).1 (h'.symm.trans h)
    have hempty := htype .empty
    rw [resolveType_fst, hrest] at hempty
    exact hempty
  · intro htype
    refine ⟨rest, h, rfl, fun n => ?_⟩
    rw [resolveType_fst]
    exact htype

end Shapes

/-- A result is read as it is spelled unless it is spelled as a set of arrays, or of what resolves
to another type once a mark of its own is taken off. Whatever ends like an array is one value. -/
theorem readAsSpelled_iff (o : Overrides) (c : Catalog) (r : Routine) (n : Needs) :
    (ReadAsSpelled o c r.result (resolveRoutine o c r n).value.1.result ↔
      ∀ rest, r.result = "SETOF " ++ rest →
        (∀ b, rest ≠ b ++ "[]") ∧ goTypeOf o c rest = baseType o c rest) ∧
    (∀ rest, Stripped rest rest false → goTypeOf o c rest = baseType o c rest) ∧
    ∀ base, r.result = base ++ "[]" →
      (resolveRoutine o c r n).value.1.result = .single ("[]" ++ baseType o c base) false := by
  rw [resolveRoutine_fst]
  refine ⟨?_, fun rest => goTypeOf_plain, fun base => resolvedResult_array⟩
  by_cases hset : ∃ rest, r.result = "SETOF " ++ rest
  · obtain ⟨rest, h⟩ := hset
    have hrest : ∀ rest', r.result = "SETOF " ++ rest' → rest' = rest := fun rest' h' =>
      (String.append_right_inj _).1 (h'.symm.trans h)
    by_cases ha : ∃ b, r.result = b ++ "[]"
    · obtain ⟨b, hb⟩ := ha
      obtain ⟨b', hb'⟩ := setOf_array (h.symm.trans hb)
      exact iff_of_false (readAsSpelled_array h hb) fun hall => (hall rest h).1 b' hb'
    · have ha' : ∀ b, r.result ≠ b ++ "[]" := fun b hb => ha ⟨b, hb⟩
      have hplain : ∀ b, rest ≠ b ++ "[]" := fun b hb =>
        ha' ("SETOF " ++ b) (by rw [h, hb, String.append_assoc])
      refine (readAsSpelled_setOf h ha').trans
        ⟨fun htype rest' h' => ?_, fun hall => (hall rest h).2⟩
      rw [hrest rest' h']
      exact ⟨hplain, htype⟩
  · have hset' : ∀ rest, r.result ≠ "SETOF " ++ rest := fun rest h => hset ⟨rest, h⟩
    refine iff_of_true ?_ fun rest h => absurd h (hset' rest)
    by_cases hempty : r.result = ""
    · have hnone : (resolvedRoutine o c r).result = .none := resolvedResult_empty hempty
      rw [hnone]
      exact hempty
    · obtain ⟨s, hs⟩ := resolvedResult_single (o := o) (c := c) hempty hset'
      have hsingle : (resolvedRoutine o c r).result = .single (goTypeOf o c r.result) s := hs
      rw [hsingle]
      exact ⟨hempty, hset'⟩

/-- A catalog whose routines return lists of texts, one in each row. -/
def tagCatalog : Catalog where
  routines _ _ := .ok [⟨"", "SETOF text[]", "normal", none⟩]
  enumLabels _ _ := .ok []

def tagLists : Routine := ⟨"public", "tag_lists", .normal, [], "SETOF text[]", none⟩

/-- Its rows are not read one by one. -/
theorem tagLists_not_rows :
    ¬ ReadAsSpelled ⟨[], []⟩ tagCatalog tagLists.result
      (resolveRoutine ⟨[], []⟩ tagCatalog tagLists .empty).value.1.result := by
  have hshape : (resolveRoutine ⟨[], []⟩ tagCatalog tagLists .empty).value.1.result =
      .single "[]SETOF text" false := by decide +kernel
  rw [hshape]
  exact fun h => h.2 "text[]" rfl

end RoutineBindings

