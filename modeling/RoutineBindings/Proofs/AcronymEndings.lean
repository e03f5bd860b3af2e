import Mathlib.Data.List.Basic
import RoutineBindings.Proofs.CamelWords
import RoutineBindings.Proofs.ExportedNames

/-!
# Acronyms at the end of names

An ending of the table has one capital, its first letter. In camel case capitals stand at the
beginning of words only, so an ending that is found lies in the last word. The exported and the
unexported form of a name differ in the first word, hence they share the acronym if there are more.
-/
namespace RoutineBindings.Text

section Words
variable {s w : List Char} {m : WordCase}

theorem mem_onto {c : Char} {ws : List (List Char)} (h : w ∈ humps.onto c ws) :
    w ≠ [] ∨ w ∈ ws.tail := by
  cases ws with
  | nil =>
    obtain rfl := List.mem_singleton.1 h
    exact .inl (List.cons_ne_nil c [])
  | cons v ws =>
    rcases List.mem_cons.1 h with rfl | h
    · exact .inl (List.cons_ne_nil c v)
    · exact .inr h

/-- Only the word that is being read can end at once, behind a group of capitals. -/
theorem humps_ne_nil (m : WordCase) (s : List Char) :
    (∀ w ∈ (humps m s).tail, w ≠ []) ∧ (m ≠ .upper → ∀ w ∈ humps m s, w ≠ []) := by
  fun_induction humps m s with
  | case1 m => simp
  | case2 m c => simp
  | case3 m c d s _ ih =>
    have hrest := ih.2 (by decide)
    exact ⟨hrest, fun _ => List.forall_mem_cons.2 ⟨List.cons_ne_nil c [], hrest⟩⟩
  | case4 m c d s _ hgroup ih =>
    refine ⟨fun w hw => (mem_onto hw).elim id (ih.1 w), fun hm => absurd ?_ hm⟩
    simp only [Bool.and_eq_true, decide_eq_true_eq] at hgroup
    exact hgroup.1.1
  | case5 m c d s _ _ ih =>
    have hword : ∀ w ∈ humps.onto c (humps (m.after c) (d :: s)), w ≠ [] :=
      fun w hw => (mem_onto hw).elim id (ih.1 w)
    exact ⟨fun w hw => hword w (List.mem_of_mem_tail hw), fun _ => hword⟩

theorem ne_nil_of_mem_words (h : w ∈ words s) : w ≠ [] := by
  obtain ⟨t, -, hw⟩ := List.mem_flatMap.1 h
  exact (humps_ne_nil .none t).2 (by decide) w hw

end Words

section Ascii
variable {c : Char} {w : List Char}

theorem case_ascii (h : isAsciiAlphanumeric c = true) :
    upper c = [c.toUpper] ∧ lower c = [c.toLower] := by
  refine ascii_forall c (alphanumeric_lt h) ?_
  decide +kernel

theorem lowerWord_eq (h : ∀ c ∈ w, isAsciiAlphanumeric c = true) :
    lowerWord w = w.map Char.toLower := by
  induction w with
  | nil => rfl
  | cons c w ih =>
    obtain ⟨hc, hw⟩ := List.forall_mem_cons.1 h
    rw [lowerWord_cons hc, (case_ascii hc).2, ih hw]
    rfl

theorem capitalWord_eq (h : ∀ c ∈ w, isAsciiAlphanumeric c = true) :
    capitalWord w = (w.take 1).map Char.toUpper ++ (w.drop 1).map Char.toLower := by
  cases w with
  | nil => rfl
  | cons c w =>
    obtain ⟨hc, hw⟩ := List.forall_mem_cons.1 h
    rw [capitalWord, (case_ascii hc).1, lowerWord_eq hw]
    rfl

/-- The words of an ASCII name are letters and digits. -/
theorem words_ascii {s : List Char} (hs : ∀ c ∈ s, isAscii c = true) (hw : w ∈ words s) :
    ∀ c ∈ w, isAsciiAlphanumeric c = true := by
  intro c hc
  have hmem : c ∈ s.filter isAlphanumeric :=
    flatten_words s ▸ List.mem_flatten.2 ⟨w, hw, hc⟩
  obtain ⟨hmem, hkept⟩ := List.mem_filter.1 hmem
  rwa [isAlphanumeric, if_pos (hs c hmem)] at hkept

end Ascii
end RoutineBindings.Text

namespace RoutineBindings.Go
open Text

/-- A name against its camel case: without an ending of the table nothing is changed, and otherwise
the letters of such an ending become capitals. -/
inductive Respelled (camel : List Char) : List Char → Prop where
  | kept (h : ∀ e ∈ acronyms, ¬ e.1.toList <:+ camel) : Respelled camel camel
  | spelled {stem : List Char} {e : String × String} (he : e ∈ acronyms)
      (h : camel = stem ++ e.1.toList) : Respelled camel (stem ++ e.1.toList.map Char.toUpper)

section Endings
variable {ending a t name camel : List Char} {table : List (String × String)}

/-- A first capital is not reached over by an ending whose other letters are small. -/
theorem suffix_of_append (hending : ∀ c ∈ ending.tail, isAsciiLower c = true) (ht : t ≠ [])
    (hsmall : beginsSmall t = false) (h : ending <:+ a ++ t) : ending <:+ t := by
  rcases List.suffix_or_suffix_of_suffix h (List.suffix_append a t) with h | h
  · exact h
  · cases ending with
    | nil => exact List.nil_suffix
    | cons c cs =>
      rcases List.suffix_cons_iff.1 h with rfl | h
      · exact List.suffix_rfl
      · obtain ⟨d, ds, rfl⟩ := List.exists_cons_of_ne_nil ht
        have hd : isAsciiLower d = true := hending d (h.subset List.mem_cons_self)
        exact absurd (hsmall.symm.trans hd) Bool.false_ne_true

theorem spellAcronym_append (htable : ∀ e ∈ table, ∀ c ∈ e.1.toList.tail, isAsciiLower c = true)
    (ht : t ≠ []) (hsmall : beginsSmall t = false) :
    spellAcronym table (a ++ t) = a ++ spellAcronym table t := by
  induction table with
  | nil => rfl
  | cons e rest ih =>
    obtain ⟨ending, acronym⟩ := e
    obtain ⟨hending, hrest⟩ := List.forall_mem_cons.1 htable
    rw [spellAcronym, spellAcronym]
    cases hstem : beforeEnd ending.toList t with
    | some stem =>
      have hlonger : beforeEnd ending.toList (a ++ t) = some (a ++ stem) := by
        rw [beforeEnd_eq_some_iff, beforeEnd_eq_some_iff.1 hstem, List.append_assoc]
      simp only [hlonger, List.append_assoc]
    | none =>
      have hlonger : beforeEnd ending.toList (a ++ t) = none := by
        cases hstem' : beforeEnd ending.toList (a ++ t) with
        | none => rfl
        | some stem =>
          have hsuffix : ending.toList <:+ a ++ t := ⟨stem, (beforeEnd_eq_some_iff.1 hstem').symm⟩
          obtain ⟨stem, ht⟩ := suffix_of_append hending ht hsmall hsuffix
          rw [beforeEnd_eq_some_iff.2 ht.symm] at hstem
          cases hstem
      simp only [hlonger, ih hrest]

theorem respelled (camel : List Char) : Respelled camel (spellAcronym acronyms camel) := by
  have hcapitals : ∀ e ∈ acronyms, e.2.toList = e.1.toList.map Char.toUpper := by decide +kernel
  rcases spellAcronym_cases acronyms camel with ⟨hnone, hsame⟩ | ⟨e, he, stem, hcamel, hspelled⟩
  · rw [hsame]
    exact .kept hnone
  · rw [hspelled, hcapitals e he]
    exact .spelled he hcamel

/-- Every ending of the table ends in a small letter, and no acronym in capitals does. -/
theorem Respelled.corrected (h : Respelled camel name) :
    ∀ e ∈ acronyms, ¬ e.1.toList <:+ name := by
  have hlast : ∀ x ∈ acronyms, ∀ e ∈ acronyms, x.1.toList ≠ [] ∧ e.1.toList.map Char.toUpper ≠ [] ∧
      x.1.toList.getLast? ≠ (e.1.toList.map Char.toUpper).getLast? := by
    decide +kernel
  intro x hx hsuffix
  cases h with
  | kept hnone => exact hnone x hx hsuffix
  | @spelled stem e he hcamel =>
    obtain ⟨hending, hacronym, hne⟩ := hlast x hx e he
    obtain ⟨before, hsplit⟩ := hsuffix
    have hends := congrArg List.getLast? hsplit
    rw [List.getLast?_append_of_ne_nil _ hending,
      List.getLast?_append_of_ne_nil _ hacronym] at hends
    exact hne hends

end Endings

section Names
variable {name : String} {first next : List Char} {rest : List (List Char)}

/-- An acronym at the end of a name is one at the end of the words behind the first. -/
theorem spellAcronym_words (h : words name.toList = first :: next :: rest) (a : List Char) :
    spellAcronym acronyms (a ++ (next :: rest).flatMap capitalWord) =
      a ++ spellAcronym acronyms ((next :: rest).flatMap capitalWord) := by
  have hsmall : ∀ e ∈ acronyms, e.1.toList.tail.all isAsciiLower = true := by decide +kernel
  have hmem : next ∈ words name.toList := by simp [h]
  obtain ⟨c, cs, hnext⟩ := List.exists_cons_of_ne_nil (ne_nil_of_mem_words hmem)
  have hne : capitalWord next ≠ [] := by
    rw [hnext, capitalWord]
    exact List.append_ne_nil_of_left_ne_nil (upper_ne_nil c) _
  refine spellAcronym_append (fun e he => List.all_eq_true.1 (hsmall e he)) ?_
    (beginsSmall_capitalWords (next :: rest))
  exact List.append_ne_nil_of_left_ne_nil hne _

end Names

/-- The exported form of a name begins with its first word in capitalised form, the unexported one
with that word in small letters, and what stands behind it is the same text. Both are the camel case
of the name but for the capitals of an ending of the table, and no such ending is left. -/
theorem spellings_agree (name : String) :
    (∀ first next rest, words name.toList = first :: next :: rest →
      ∃ ending, Respelled ((next :: rest).flatMap capitalWord) ending ∧
        (exportedName name).toList = capitalWord first ++ ending ∧
        (unexportedName name).toList = lowerWord first ++ ending ∧
        ((∀ c ∈ name.toList, isAscii c = true) →
          capitalWord first = (first.take 1).map Char.toUpper ++ (first.drop 1).map Char.toLower ∧
          lowerWord first = first.map Char.toLower)) ∧
    Respelled (upperCamel name.toList) (exportedName name).toList ∧
    Respelled (lowerCamel name.toList) (unexportedName name).toList ∧
    ∀ e ∈ acronyms, ¬ e.1.toList <:+ (exportedName name).toList ∧
      ¬ e.1.toList <:+ (unexportedName name).toList := by
  have hexported : Respelled (upperCamel name.toList) (exportedName name).toList := by
    rw [exportedName, String.toList_ofList]
    exact respelled _
  have hunexported : Respelled (lowerCamel name.toList) (unexportedName name).toList := by
    rw [unexportedName, String.toList_ofList]
    exact respelled _
  refine ⟨fun first next rest hwords => ?_, hexported, hunexported, fun e he =>
    ⟨hexported.corrected e he, hunexported.corrected e he⟩⟩
  refine ⟨_, respelled _, ?_, ?_, fun hascii => ?_⟩
  · rw [exportedName, String.toList_ofList, upperCamel, hwords, List.flatMap_cons,
      spellAcronym_words hwords]
  · rw [unexportedName, String.toList_ofList, lowerCamel, hwords]
    exact spellAcronym_words hwords _
  · have hfirst := words_ascii (w := first) hascii (by simp [hwords])
    exact ⟨capitalWord_eq hfirst, lowerWord_eq hfirst⟩

example : (exportedName "http2_id", unexportedName "http2_id") = ("Http2ID", "http2ID") := by
  decide +kernel

end RoutineBindings.Go
