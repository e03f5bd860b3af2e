/-!
# Cutting and joining texts

Cutting at the first or last occurrence of a separator, removing a fixed beginning or end,
replacing every occurrence of a text, and joining pieces with a separator.
-/
namespace RoutineBindings.Text

/-- The parts before and after the first occurrence of a character. -/
def cutAt (sep : Char) : List Char → Option (List Char × List Char)
  | [] => none
  | c :: s =>
    if c = sep then some ([], s) else (cutAt sep s).map fun (a, b) => (c :: a, b)

theorem cutAt_eq_none_iff {sep : Char} {s : List Char} : cutAt sep s = none ↔ sep ∉ s := by
  induction s with
  | nil => simp [cutAt]
  | cons c s ih =>
    by_cases h : c = sep
    · simp [cutAt, h]
    · simp [cutAt, h, ih, Ne.symm h]

theorem cutAt_eq_some_iff {sep : Char} {s a b : List Char} :
    cutAt sep s = some (a, b) ↔ s = a ++ sep :: b ∧ sep ∉ a := by
  induction s generalizing a with
  | nil => simp [cutAt]
  | cons c s ih =>
    by_cases h : c = sep
    · cases a with
      | nil => simp [cutAt, h]
      | cons d a => simp [cutAt, h]; grind
    · cases a with
      | nil => simp [cutAt, h]
      | cons d a => simp [cutAt, h, ih]; grind

/-- A character that both parts begin without stands at one place. -/
theorem cut_unique {sep : Char} {a b s t : List Char} (ha : sep ∉ a) (hb : sep ∉ b)
    (h : a ++ sep :: s = b ++ sep :: t) : a = b ∧ s = t := by
  have hcut := (cutAt_eq_some_iff.2 ⟨rfl, ha⟩).symm.trans (cutAt_eq_some_iff.2 ⟨h, hb⟩)
  exact Prod.mk.inj (Option.some.inj hcut)

/-- The parts before and after the last occurrence of a character. -/
def cutAtLast (sep : Char) : List Char → Option (List Char × List Char)
  | [] => none
  | c :: s =>
    match cutAtLast sep s with
    | some (a, b) => some (c :: a, b)
    | none => if c = sep then some ([], s) else none

theorem cutAtLast_eq_none_iff {sep : Char} {s : List Char} :
    cutAtLast sep s = none ↔ sep ∉ s := by
  induction s with
  | nil => simp [cutAtLast]
  | cons c s ih =>
    cases h : cutAtLast sep s with
    | none => simp [cutAtLast, h, ih.1 h, eq_comm]
    | some parts =>
      have hmem : sep ∈ s := Decidable.byContradiction fun hs => nomatch h.symm.trans (ih.2 hs)
      simp [cutAtLast, h, hmem]

theorem cutAtLast_append {sep : Char} {b : List Char} (hb : sep ∉ b) (a : List Char) :
    cutAtLast sep (a ++ sep :: b) = some (a, b) := by
  induction a with
  | nil => simp [cutAtLast, cutAtLast_eq_none_iff.2 hb]
  | cons c a ih => simp [cutAtLast, ih]

theorem cutAtLast_eq_some_iff {sep : Char} {s a b : List Char} :
    cutAtLast sep s = some (a, b) ↔ s = a ++ sep :: b ∧ sep ∉ b := by
  refine ⟨fun h => ?_, fun ⟨hs, hb⟩ => hs ▸ cutAtLast_append hb a⟩
  induction s generalizing a with
  | nil => simp [cutAtLast] at h
  | cons c s ih =>
    cases hs : cutAtLast sep s with
    | none =>
      simp only [cutAtLast, hs, Option.ite_none_right_eq_some, Option.some.injEq,
        Prod.mk.injEq] at h
      obtain ⟨rfl, rfl, rfl⟩ := h
      exact ⟨rfl, cutAtLast_eq_none_iff.1 hs⟩
    | some parts =>
      obtain ⟨x, y⟩ := parts
      simp only [cutAtLast, hs, Option.some.injEq, Prod.mk.injEq] at h
      obtain ⟨rfl, rfl⟩ := h
      obtain ⟨hx, hy⟩ := ih hs
      exact ⟨congrArg (c :: ·) hx, hy⟩

/-- The part after a fixed beginning. -/
def afterStart : List Char → List Char → Option (List Char)
  | [], s => some s
  | _ :: _, [] => none
  | p :: ps, c :: s => if p = c then afterStart ps s else none

theorem afterStart_eq_some_iff {p s t : List Char} : afterStart p s = some t ↔ s = p ++ t := by
  induction p generalizing s with
  | nil => simp [afterStart]
  | cons a p ih =>
    cases s with
    | nil => simp [afterStart]
    | cons c s =>
      by_cases h : a = c
      · simp [afterStart, h, ih]
      · simp [afterStart, h, Ne.symm h]

/-- The part before a fixed end. -/
def beforeEnd (ending s : List Char) : Option (List Char) :=
  (afterStart ending.reverse s.reverse).map List.reverse

theorem beforeEnd_eq_some_iff {ending s t : List Char} :
    beforeEnd ending s = some t ↔ s = t ++ ending := by
  constructor
  · intro h
    obtain ⟨u, hu, rfl⟩ := Option.map_eq_some_iff.1 h
    have hs := congrArg List.reverse (afterStart_eq_some_iff.1 hu)
    simpa using hs
  · rintro rfl
    exact Option.map_eq_some_iff.2 ⟨t.reverse, by simp [afterStart_eq_some_iff], by simp⟩

/-- The part before the first occurrence of a text, or everything when it does not occur. -/
def before (pattern : List Char) : List Char → List Char
  | [] => []
  | c :: s => if (afterStart pattern (c :: s)).isSome then [] else c :: before pattern s

theorem afterStart_isSome_iff {p s : List Char} : (afterStart p s).isSome = true ↔ p <+: s := by
  rw [Option.isSome_iff_exists]
  exact exists_congr fun t => afterStart_eq_some_iff.trans eq_comm

theorem before_eq_self {pattern s : List Char} (h : ¬ pattern <:+: s) :
    before pattern s = s := by
  induction s with
  | nil => rfl
  | cons c s ih =>
    have hc : ¬ pattern <+: c :: s := fun hp => h hp.isInfix
    have hs : ¬ pattern <:+: s := fun hs => h (hs.trans (List.suffix_cons c s).isInfix)
    rw [before, if_neg (mt afterStart_isSome_iff.1 hc), ih hs]

/-- The first occurrence is the one that is written after `s`, if none starts inside of `s`. -/
theorem before_append {pattern s t : List Char}
    (h : ∀ q, q ≠ [] → q <:+ s → ¬ pattern <+: q ++ (pattern ++ t)) :
    before pattern (s ++ (pattern ++ t)) = s := by
  induction s with
  | nil =>
    cases hp : pattern ++ t with
    | nil => rfl
    | cons c u =>
      have hstart : (afterStart pattern (c :: u)).isSome = true :=
        afterStart_isSome_iff.2 (hp ▸ List.prefix_append pattern t)
      rw [List.nil_append, before, if_pos hstart]
  | cons c s ih =>
    have hc : ¬ pattern <+: c :: (s ++ (pattern ++ t)) :=
      h (c :: s) (List.cons_ne_nil c s) List.suffix_rfl
    rw [List.cons_append, before, if_neg (mt afterStart_isSome_iff.1 hc),
      ih fun q hq hs => h q hq (hs.trans (List.suffix_cons c s))]

/-- The rest of a scan for `pattern`: the first `skip` characters belong to an occurrence
that has been replaced. -/
def substituteFrom (pattern replacement : List Char) : Nat → List Char → List Char
  | _, [] => []
  | skip + 1, _ :: s => substituteFrom pattern replacement skip s
  | 0, c :: s =>
    if (afterStart pattern (c :: s)).isSome then
      replacement ++ substituteFrom pattern replacement (pattern.length - 1) s
    else c :: substituteFrom pattern replacement 0 s

/-- Replaces the occurrences of a text from left to right, none overlapping. The empty text
occurs before every character and at the end. -/
def substitute (pattern replacement s : List Char) : List Char :=
  match pattern with
  | [] => s.foldr (fun c t => replacement ++ c :: t) replacement
  | _ :: _ => substituteFrom pattern replacement 0 s

/-- The pieces one after the other with a separator between them. -/
def joined (sep : String) : List String → String
  | [] => ""
  | [s] => s
  | s :: t :: rest => s ++ sep ++ joined sep (t :: rest)

theorem joined_cons {sep s : String} {rest : List String} (h : rest ≠ []) :
    joined sep (s :: rest) = s ++ sep ++ joined sep rest := by
  cases rest with
  | nil => exact absurd rfl h
  | cons t rest => rfl

theorem joined_append {sep : String} {ss ts : List String} (hs : ss ≠ []) (ht : ts ≠ []) :
    joined sep (ss ++ ts) = joined sep ss ++ sep ++ joined sep ts := by
  induction ss with
  | nil => exact absurd rfl hs
  | cons s ss ih =>
    by_cases h : ss = []
    · subst h
      exact joined_cons ht
    · have happend : ss ++ ts ≠ [] := by simp [h]
      rw [List.cons_append, joined_cons happend, ih h, joined_cons h]
      simp only [String.append_assoc]

theorem joined_concat (sep : String) (ss : List String) (s : String) :
    ∃ before, joined sep (ss ++ [s]) = before ++ s := by
  by_cases h : ss = []
  · subst h
    exact ⟨"", by simp [joined]⟩
  · exact ⟨_, joined_append h (List.cons_ne_nil s [])⟩

/-- Groups of pieces can be joined first, if none of them is empty. -/
theorem joined_flatten {sep : String} {groups : List (List String)} (h : ∀ g ∈ groups, g ≠ []) :
    joined sep groups.flatten = joined sep (groups.map (joined sep)) := by
  induction groups with
  | nil => rfl
  | cons g gs ih =>
    have hg : g ≠ [] := h g List.mem_cons_self
    have hgs : ∀ k ∈ gs, k ≠ [] := fun k hk => h k (List.mem_cons_of_mem g hk)
    cases gs with
    | nil => simp [joined]
    | cons k ks =>
      have hflat : (k :: ks).flatten ≠ [] := by simp [hgs k List.mem_cons_self]
      have hmap : (k :: ks).map (joined sep) ≠ [] := List.cons_ne_nil _ _
      rw [List.flatten_cons, joined_append hg hflat, ih hgs, List.map_cons (l := k :: ks)]
      exact (joined_cons hmap).symm

theorem joined_flatMap {α : Type} {sep : String} {f : α → List String} (h : ∀ x, f x ≠ [])
    (before : List String) (xs : List α) (after : List String) :
    joined sep (before ++ xs.flatMap f ++ after) =
      joined sep (before ++ xs.map (fun x => joined sep (f x)) ++ after) := by
  have hsingle : ∀ ts : List String, (ts.map fun t => [t]).flatten = ts := by
    intro ts
    rw [← List.flatMap_def, List.flatMap_singleton']
  have hne : ∀ g ∈ before.map (fun t => [t]) ++ xs.map f ++ after.map (fun t => [t]), g ≠ [] := by
    simp only [List.mem_append, List.mem_map]
    rintro g ((⟨t, -, rfl⟩ | ⟨x, -, rfl⟩) | ⟨t, -, rfl⟩)
    · exact List.cons_ne_nil t []
    · exact h x
    · exact List.cons_ne_nil t []
  have hjoined : joined sep _ = joined sep _ := joined_flatten hne
  simpa [hsingle, ← List.flatMap_def, joined, Function.comp_def] using hjoined

theorem mem_joined {sep : String} {ps : List String} {c : Char}
    (h : c ∈ (joined sep ps).toList) : c ∈ sep.toList ∨ ∃ p ∈ ps, c ∈ p.toList := by
  induction ps with
  | nil => simp [joined] at h
  | cons p ps ih =>
    cases ps with
    | nil => exact .inr ⟨p, List.mem_cons_self, h⟩
    | cons q ps =>
      simp only [joined, String.toList_append, List.mem_append] at h
      rcases h with (hp | hsep) | hrest
      · exact .inr ⟨p, List.mem_cons_self, hp⟩
      · exact .inl hsep
      · rcases ih hrest with hsep | ⟨t, ht, hc⟩
        · exact .inl hsep
        · exact .inr ⟨t, List.mem_cons_of_mem _ ht, hc⟩

end RoutineBindings.Text
