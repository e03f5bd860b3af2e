import RoutineBindings.Go.Names

/-!
# Exported names

An exported name never begins with a small ASCII letter: each of its words begins with an upper-case
mapping, no mapping to upper case gives such a letter, and the acronyms are written in capitals. So
it is none of the names that Go declares beforehand, and none of the locals of generated functions.
-/
namespace RoutineBindings.Text

section UpperCase
variable {c d : Char} {n m : Nat}

theorem isAsciiLower_iff : isAsciiLower c = true ↔ 97 ≤ c.toNat ∧ c.toNat ≤ 122 := by
  rw [isAsciiLower, Bool.and_eq_true, decide_eq_true_eq, decide_eq_true_eq]
  rfl

/-- Numbers of no character give the character of number zero. -/
theorem toNat_ofNat (n : Nat) : (Char.ofNat n).toNat = n ∨ (Char.ofNat n).toNat = 0 := by
  by_cases hvalid : n.isValidChar
  · rw [Char.ofNat, dif_pos hvalid]
    exact .inl rfl
  · rw [Char.ofNat, dif_neg hvalid]
    exact .inr rfl

theorem ofNat_not_lower (h : n < 97 ∨ 122 < n) : isAsciiLower (Char.ofNat n) = false := by
  rw [← Bool.not_eq_true, isAsciiLower_iff]
  rcases toNat_ofNat n with hn | hn <;> omega

/-- The images of every run of the table lie outside of the small ASCII letters. -/
theorem shifted_not_lower (h : shifted? upperShifts n = some m) : m < 97 ∨ 122 < m := by
  have htable : upperShifts.all (fun r => decide
      (122 < (r.run.first : Int) + r.shift ∨ (r.run.last : Int) + r.shift < 97)) = true := by
    decide +kernel
  obtain ⟨r, hr, hm⟩ := Option.map_eq_some_iff.1 h
  have hrun := of_decide_eq_true (List.all_eq_true.1 htable r (List.mem_of_find?_eq_some hr))
  have hcovers := List.find?_some hr
  simp only [CodeRun.covers, Bool.and_eq_true, decide_eq_true_eq] at hcovers
  obtain ⟨⟨hfirst, hlast⟩, -⟩ := hcovers
  simp only [Int.ofNat_eq_natCast] at hm
  omega

theorem expansion_mem {codes : List Nat} (h : upperExpansions.lookup n = some codes) :
    (n, codes) ∈ upperExpansions := by
  obtain ⟨before, after, hsplit, -⟩ := List.lookup_eq_some_iff.1 h
  rw [hsplit]
  exact List.mem_append_right before List.mem_cons_self

theorem expansion_not_lower {codes : List Nat} (h : (n, codes) ∈ upperExpansions)
    (hm : m ∈ codes) : m < 97 ∨ 122 < m := by
  have htable : upperExpansions.all
      (fun e => e.2.all fun k => decide (k < 97 ∨ 122 < k)) = true := by
    decide +kernel
  exact of_decide_eq_true (List.all_eq_true.1 (List.all_eq_true.1 htable _ h) m hm)

theorem upper_not_lower (h : d ∈ upper c) : isAsciiLower d = false := by
  unfold upper at h
  split at h
  · obtain rfl := List.mem_singleton.1 h
    split
    · rename_i hlower
      have hrange := isAsciiLower_iff.1 hlower
      exact ofNat_not_lower (by omega)
    · rename_i hlower
      exact Bool.not_eq_true _ ▸ hlower
  · rename_i hascii
    unfold mapCase at h
    split at h
    · rename_i codes hcodes
      obtain ⟨k, hk, rfl⟩ := List.mem_map.1 h
      exact ofNat_not_lower (expansion_not_lower (expansion_mem hcodes) hk)
    · obtain rfl := List.mem_singleton.1 h
      cases hshift : shifted? upperShifts c.toNat with
      | some k => exact ofNat_not_lower (shifted_not_lower hshift)
      | none =>
        have hbeyond : ¬ c.toNat < 128 := mt decide_eq_true hascii
        rw [← Bool.not_eq_true, Option.map_none, Option.getD_none, isAsciiLower_iff]
        omega

theorem upper_ne_nil (c : Char) : upper c ≠ [] := by
  have htable : upperExpansions.all (fun e => !e.2.isEmpty) = true := by decide +kernel
  unfold upper
  split
  · exact List.cons_ne_nil _ _
  · unfold mapCase
    split
    · rename_i codes hcodes
      have hne := List.all_eq_true.1 htable _ (expansion_mem hcodes)
      simpa using hne
    · exact List.cons_ne_nil _ _

end UpperCase

/-- Whether the first character is a small ASCII letter. -/
def beginsSmall : List Char → Bool
  | [] => false
  | c :: _ => isAsciiLower c

section Words
variable {s t : List Char}

theorem beginsSmall_append (hs : beginsSmall s = false) (ht : beginsSmall t = false) :
    beginsSmall (s ++ t) = false := by
  cases s with
  | nil => exact ht
  | cons c s => exact hs

theorem beginsSmall_of_append (h : beginsSmall (s ++ t) = false) : beginsSmall s = false := by
  cases s with
  | nil => rfl
  | cons c s => exact h

theorem beginsSmall_capitalWord (w : List Char) : beginsSmall (capitalWord w) = false := by
  cases w with
  | nil => rfl
  | cons c s =>
    obtain ⟨d, ds, hupper⟩ := List.exists_cons_of_ne_nil (upper_ne_nil c)
    have hd : d ∈ upper c := hupper ▸ List.mem_cons_self
    rw [capitalWord, hupper]
    exact upper_not_lower hd

theorem beginsSmall_capitalWords (ws : List (List Char)) :
    beginsSmall (ws.flatMap capitalWord) = false := by
  induction ws with
  | nil => rfl
  | cons w ws ih =>
    rw [List.flatMap_cons]
    exact beginsSmall_append (beginsSmall_capitalWord w) ih

end Words
end RoutineBindings.Text

namespace RoutineBindings.Go
open Text

section Acronyms
variable {table : List (String × String)} {name : List Char}

/-- A name without an ending of the table stays as it is. Otherwise such an ending is replaced with
its acronym. -/
theorem spellAcronym_cases (table : List (String × String)) (name : List Char) :
    (∀ e ∈ table, ¬ e.1.toList <:+ name) ∧ spellAcronym table name = name ∨
      ∃ e ∈ table, ∃ stem, name = stem ++ e.1.toList ∧
        spellAcronym table name = stem ++ e.2.toList := by
  induction table with
  | nil => exact .inl ⟨List.forall_mem_nil _, rfl⟩
  | cons e rest ih =>
    obtain ⟨ending, acronym⟩ := e
    rw [spellAcronym]
    cases hstem : beforeEnd ending.toList name with
    | some stem =>
      exact .inr ⟨_, List.mem_cons_self, stem, beforeEnd_eq_some_iff.1 hstem, rfl⟩
    | none =>
      rcases ih with ⟨hrest, hsame⟩ | ⟨e, he, hspelled⟩
      · refine .inl ⟨List.forall_mem_cons.2 ⟨?_, hrest⟩, hsame⟩
        rintro ⟨stem, hname⟩
        exact nomatch hstem.symm.trans (beforeEnd_eq_some_iff.2 hname.symm)
      · exact .inr ⟨e, List.mem_cons_of_mem _ he, hspelled⟩

theorem beginsSmall_spellAcronym (htable : ∀ e ∈ table, beginsSmall e.2.toList = false)
    (h : beginsSmall name = false) : beginsSmall (spellAcronym table name) = false := by
  rcases spellAcronym_cases table name with ⟨-, hsame⟩ | ⟨e, he, stem, rfl, hspelled⟩
  · rwa [hsame]
  · rw [hspelled]
    exact beginsSmall_append (beginsSmall_of_append h) (htable e he)

end Acronyms

theorem beginsSmall_exportedName (name : String) :
    beginsSmall (exportedName name).toList = false := by
  have hacronyms : ∀ e ∈ acronyms, beginsSmall e.2.toList = false := by decide
  rw [exportedName, String.toList_ofList]
  exact beginsSmall_spellAcronym hacronyms (beginsSmall_capitalWords (words name.toList))

end RoutineBindings.Go
