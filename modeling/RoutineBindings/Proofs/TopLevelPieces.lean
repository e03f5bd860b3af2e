import Mathlib.Data.List.Infix
import RoutineBindings.Catalog.Routine

/-!
# Pieces of a list

A list of arguments is cut at the commas at depth zero, where the depth of parentheses is counted
from the left and never falls below zero. Cutting puts joined pieces apart again if no piece has
such a comma and each leaves the depth at zero.
-/
namespace RoutineBindings.Signature
open Text

/-- The depth after a text that starts at the given depth. -/
def depthOver (depth : Nat) (s : List Char) : Nat := s.foldl depthAfter depth

@[simp] theorem depthOver_nil (d : Nat) : depthOver d [] = d := rfl

@[simp] theorem depthOver_cons (d : Nat) (c : Char) (s : List Char) :
    depthOver d (c :: s) = depthOver (depthAfter d c) s := rfl

@[simp] theorem depthOver_append (d : Nat) (s t : List Char) :
    depthOver d (s ++ t) = depthOver (depthOver d s) t := List.foldl_append

/-- Every comma of a text that starts at the given depth is enclosed. -/
def CommasEnclosed (depth : Nat) (s : List Char) : Prop :=
  ∀ p q, s = p ++ ',' :: q → 0 < depthOver depth p

theorem commasEnclosed_nil (d : Nat) : CommasEnclosed d [] := by
  intro p q h
  simp at h

theorem commasEnclosed_append {d : Nat} {s t : List Char} :
    CommasEnclosed d (s ++ t) ↔ CommasEnclosed d s ∧ CommasEnclosed (depthOver d s) t := by
  constructor
  · intro h
    refine ⟨fun p q hs => h p (q ++ t) (by simp [hs]), fun p q ht => ?_⟩
    rw [← depthOver_append]
    exact h (s ++ p) q (by simp [ht])
  · rintro ⟨hs, ht⟩ p q h
    rcases List.append_eq_append_iff.1 h with ⟨u, rfl, hu⟩ | ⟨u, hu, hq⟩
    · rw [depthOver_append]
      exact ht u q hu
    · cases u with
      | nil =>
        have hp : s = p := by simpa using hu
        have h0 := ht [] q (by simpa using hq.symm)
        rwa [depthOver_nil, hp] at h0
      | cons c u =>
        obtain ⟨rfl, -⟩ := List.cons.inj hq
        exact hs p u hu

theorem commasEnclosed_cons {d : Nat} {c : Char} {s : List Char} :
    CommasEnclosed d (c :: s) ↔ (c = ',' → 0 < d) ∧ CommasEnclosed (depthAfter d c) s := by
  have hone : CommasEnclosed d [c] ↔ (c = ',' → 0 < d) := by
    constructor
    · rintro h rfl
      exact h [] [] rfl
    · intro h p q hs
      cases p with
      | nil => exact h (List.cons.inj hs).1
      | cons x p => simp at hs
  rw [← List.singleton_append, commasEnclosed_append, hone]
  rfl

theorem commasEnclosed_of_not_mem (d : Nat) {s : List Char} (h : ',' ∉ s) : CommasEnclosed d s :=
  fun p _ hs => absurd (hs ▸ List.mem_append_right p List.mem_cons_self) h

/-- A text that keeps its commas inside of parentheses and leaves none open. -/
structure SelfContained (s : List Char) : Prop where
  commas : CommasEnclosed 0 s
  closed : depthOver 0 s = 0

theorem SelfContained.commas_append {s t : List Char} (hs : SelfContained s) :
    CommasEnclosed 0 (s ++ t) ↔ CommasEnclosed 0 t := by
  rw [commasEnclosed_append, hs.closed]
  exact and_iff_right hs.commas

theorem SelfContained.depth_append {s : List Char} (hs : SelfContained s) (t : List Char) :
    depthOver 0 (s ++ t) = depthOver 0 t := by
  rw [depthOver_append, hs.closed]

theorem SelfContained.append {s t : List Char} (hs : SelfContained s) (ht : SelfContained t) :
    SelfContained (s ++ t) :=
  ⟨hs.commas_append.2 ht.commas, (hs.depth_append t).trans ht.closed⟩

/-- A text without commas and parentheses. -/
theorem selfContained_of_plain {s : List Char} (h : ∀ c ∈ s, c ≠ ',' ∧ c ≠ '(' ∧ c ≠ ')') :
    SelfContained s := by
  induction s with
  | nil => exact ⟨commasEnclosed_nil 0, rfl⟩
  | cons c s ih =>
    obtain ⟨hcomma, hopen, hclose⟩ := h c List.mem_cons_self
    have hdepth : depthAfter 0 c = 0 := by rw [depthAfter, if_neg hopen, if_neg hclose]
    have hs := ih fun x hx => h x (List.mem_cons_of_mem c hx)
    refine ⟨commasEnclosed_cons.2 ⟨fun hc => absurd hc hcomma, ?_⟩, ?_⟩
    · rw [hdepth]
      exact hs.commas
    · rw [depthOver_cons, hdepth]
      exact hs.closed

section Splitting

theorem splitFrom_ne_nil (d : Nat) (s : List Char) : splitFrom d s ≠ [] := by
  cases s with
  | nil => simp [splitFrom]
  | cons c s =>
    unfold splitFrom
    split
    · simp
    · cases splitFrom (depthAfter d c) s <;> simp [splitFrom.onto]

theorem splitFrom_comma (s : List Char) : splitFrom 0 (',' :: s) = [] :: splitFrom 0 s := by
  simp [splitFrom]

/-- A character that does not cut starts the first piece. -/
theorem splitFrom_cons {d : Nat} {c : Char} (h : ¬ (c = ',' ∧ d = 0)) (s : List Char) :
    splitFrom d (c :: s) = (splitFrom (depthAfter d c) s).modifyHead (c :: ·) := by
  have hno : (c = ',' && d = 0) = false := by simpa using h
  obtain ⟨p, ps, hsplit⟩ := List.exists_cons_of_ne_nil (splitFrom_ne_nil (depthAfter d c) s)
  rw [splitFrom, hno, if_neg Bool.false_ne_true, hsplit]
  rfl

/-- A text whose commas are enclosed starts the first piece. -/
theorem splitFrom_append {d : Nat} {s : List Char} (h : CommasEnclosed d s) (t : List Char) :
    splitFrom d (s ++ t) = (splitFrom (depthOver d s) t).modifyHead (s ++ ·) := by
  induction s generalizing d with
  | nil => cases h' : splitFrom d t <;> simp [h']
  | cons c s ih =>
    obtain ⟨hc, hs⟩ := commasEnclosed_cons.1 h
    have hno : ¬ (c = ',' ∧ d = 0) := fun ⟨hcomma, hd⟩ => Nat.ne_of_gt (hc hcomma) hd
    rw [List.cons_append, splitFrom_cons hno, ih hs, depthOver_cons, List.modifyHead_modifyHead]
    rfl

theorem splitFrom_eq_singleton {d : Nat} {s : List Char} (h : CommasEnclosed d s) :
    splitFrom d s = [s] := by
  simpa [splitFrom] using splitFrom_append h []

/-- A comma after a self-contained text ends the first piece. -/
theorem split_comma {s : List Char} (h : SelfContained s) (t : List Char) :
    split (s ++ ',' :: t) = s :: split t := by
  rw [split, splitFrom_append h.commas, h.closed, splitFrom_comma]
  simp [split]

/-- A text is one piece only if its commas are enclosed. -/
theorem commasEnclosed_of_length {d : Nat} {s : List Char} (h : (splitFrom d s).length = 1) :
    CommasEnclosed d s := by
  induction s generalizing d with
  | nil => exact commasEnclosed_nil d
  | cons c s ih =>
    by_cases hcut : c = ',' ∧ d = 0
    · obtain ⟨rfl, rfl⟩ := hcut
      have hpos := List.length_pos_iff.2 (splitFrom_ne_nil 0 s)
      rw [splitFrom_comma, List.length_cons] at h
      omega
    · rw [splitFrom_cons hcut, List.length_modifyHead] at h
      exact commasEnclosed_cons.2
        ⟨fun hc => Nat.pos_of_ne_zero fun hd => hcut ⟨hc, hd⟩, ih h⟩

end Splitting

/-- The parentheses of a text match each other, and every comma stands inside of some. -/
structure Balanced (s : List Char) : Prop where
  total : s.count '(' = s.count ')'
  opened : ∀ p ∈ s.inits, p.count ')' ≤ p.count '('
  enclosed : ∀ p ∈ s.inits, p ++ [','] <+: s → p.count ')' < p.count '('

theorem depthOver_of_opened {s : List Char} (h : ∀ p ∈ s.inits, p.count ')' ≤ p.count '(') :
    depthOver 0 s + s.count ')' = s.count '(' := by
  induction s using List.reverseRecOn with
  | nil => rfl
  | append_singleton s c ih =>
    have hs := ih fun p hp =>
      h p ((List.mem_inits _ _).2 (((List.mem_inits _ _).1 hp).trans (List.prefix_append s [c])))
    have hc := h (s ++ [c]) ((List.mem_inits _ _).2 List.prefix_rfl)
    simp only [List.count_append, List.count_singleton, depthOver_append, depthOver_cons,
      depthOver_nil, depthAfter, beq_iff_eq] at hc ⊢
    by_cases ho : c = '('
    · simp [ho]
      omega
    · by_cases hcl : c = ')'
      · simp [hcl] at hc ⊢
        omega
      · simp [ho, hcl, hs]

theorem Balanced.selfContained {s : List Char} (h : Balanced s) : SelfContained s where
  commas p q hs := by
    have hp : p <+: s := ⟨',' :: q, hs.symm⟩
    have hcomma : p ++ [','] <+: s := ⟨q, by simp [hs]⟩
    have hopen := depthOver_of_opened fun x hx =>
      h.opened x ((List.mem_inits _ _).2 (((List.mem_inits _ _).1 hx).trans hp))
    have hlt := h.enclosed p ((List.mem_inits _ _).2 hp) hcomma
    omega
  closed := by
    have hs := depthOver_of_opened h.opened
    have ht := h.total
    omega

end RoutineBindings.Signature
