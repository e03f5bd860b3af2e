import RoutineBindings.Proofs.ArgumentReading

/-!
# Joined pieces

Nothing is lost when a list is split: with commas between them, the pieces are the list again. The
other way round, joined pieces come apart as they were exactly if every comma of a piece has an open
parenthesis before it in this piece, and no piece but the last leaves a parenthesis open. A closing
parenthesis without an opening one closes nothing, so it is the endings of a text that show what is
open, and not the count of its parentheses.
-/
namespace RoutineBindings.Signature
open Text

/-- No parenthesis is open at the end of the text: none of its endings has more opening than closing
ones. This is depth zero, where the depth is counted from the left and never falls below zero. -/
def NoneLeftOpen (s : List Char) : Prop := ∀ t, t <:+ s → t.count '(' ≤ t.count ')'

/-- A parenthesis is open before every comma of the text. -/
def KeepsCommas (s : List Char) : Prop := ∀ p q, s = p ++ ',' :: q → ¬ NoneLeftOpen p

/-- Pieces that can be told apart when they are joined. Nothing follows the last one, so it may leave
parentheses open. -/
structure Apart (pieces : List (List Char)) : Prop where
  nonempty : pieces ≠ []
  commas : ∀ p ∈ pieces, KeepsCommas p
  closed : ∀ p ∈ pieces.dropLast, NoneLeftOpen p

section Depth
variable {d n : Nat} {s : List Char}

/-- The depth ends within a bound exactly if neither the text, with the depth at its start, nor any
of its endings opens more parentheses than it closes and the bound allows. -/
theorem depthOver_le_iff : depthOver d s ≤ n ↔
    d + s.count '(' ≤ n + s.count ')' ∧ ∀ t, t <:+ s → t.count '(' ≤ n + t.count ')' := by
  induction s generalizing d with
  | nil => simp
  | cons c s ih =>
    simp only [depthOver_cons, ih, List.suffix_cons_iff, forall_eq_or_imp, ← and_assoc]
    refine and_congr_left fun hends => ?_
    -- A closing parenthesis at depth zero is lost; then the text behind it decides.
    have hs := hends s List.suffix_rfl
    simp only [List.count_cons, depthAfter, beq_iff_eq]
    by_cases ho : c = '('
    · have hc : c ≠ ')' := by simp [ho]
      simp only [if_pos ho, if_neg hc]
      omega
    · by_cases hc : c = ')'
      · simp only [if_neg ho, if_pos hc]
        omega
      · simp only [if_neg ho, if_neg hc]
        omega

theorem depthOver_eq_zero_iff : depthOver 0 s = 0 ↔ NoneLeftOpen s := by
  have h := depthOver_le_iff (d := 0) (n := 0) (s := s)
  simp only [Nat.le_zero, Nat.zero_add] at h
  exact h.trans (and_iff_right_of_imp fun hends => hends s List.suffix_rfl)

theorem commasEnclosed_zero_iff : CommasEnclosed 0 s ↔ KeepsCommas s := by
  simp only [CommasEnclosed, KeepsCommas, Nat.pos_iff_ne_zero, ne_eq, depthOver_eq_zero_iff]

end Depth

section Splitting
variable {d : Nat} {c : Char} {p : List Char} {ps : List (List Char)}

/-- Pieces that can be told apart when the first one starts at the given depth. -/
inductive ApartFrom : Nat → List (List Char) → Prop
  | last {d : Nat} {p : List Char} (commas : CommasEnclosed d p) : ApartFrom d [p]
  | next {d : Nat} {p : List Char} {ps : List (List Char)} (commas : CommasEnclosed d p)
      (closed : depthOver d p = 0) (rest : ApartFrom 0 ps) : ApartFrom d (p :: ps)

theorem ApartFrom.ne_nil (h : ApartFrom d ps) : ps ≠ [] := by
  cases h <;> exact List.cons_ne_nil _ _

/-- A character that does not cut belongs to the first piece. -/
theorem ApartFrom.cons (hc : c = ',' → 0 < d) (h : ApartFrom (depthAfter d c) (p :: ps)) :
    ApartFrom d ((c :: p) :: ps) := by
  cases h with
  | last commas => exact .last (commasEnclosed_cons.2 ⟨hc, commas⟩)
  | next commas closed rest => exact .next (commasEnclosed_cons.2 ⟨hc, commas⟩) closed rest

theorem splitFrom_apartFrom (d : Nat) (s : List Char) : ApartFrom d (splitFrom d s) := by
  induction s generalizing d with
  | nil => exact .last (commasEnclosed_nil d)
  | cons c s ih =>
    by_cases hcut : c = ',' ∧ d = 0
    · obtain ⟨rfl, rfl⟩ := hcut
      rw [splitFrom_comma]
      exact .next (commasEnclosed_nil 0) rfl (ih 0)
    · have hc : c = ',' → 0 < d := fun hc => Nat.pos_of_ne_zero fun hd => hcut ⟨hc, hd⟩
      have hrest := ih (depthAfter d c)
      obtain ⟨p, ps, hsplit⟩ := List.exists_cons_of_ne_nil hrest.ne_nil
      rw [splitFrom_cons hcut, hsplit]
      exact .cons hc (hsplit ▸ hrest)

theorem rejoined_singleton (p : List Char) : rejoined [p] = p := by
  simp [rejoined, List.intercalate]

theorem rejoined_cons (p : List Char) (h : ps ≠ []) :
    rejoined (p :: ps) = p ++ ',' :: rejoined ps := by
  cases ps with
  | nil => exact absurd rfl h
  | cons q ps => simp [rejoined, List.intercalate]

theorem ApartFrom.splitFrom_rejoined (h : ApartFrom d ps) : splitFrom d (rejoined ps) = ps := by
  induction h with
  | last commas => rw [rejoined_singleton, splitFrom_eq_singleton commas]
  | next commas closed rest ih =>
    rw [rejoined_cons _ rest.ne_nil, splitFrom_append commas, closed, splitFrom_comma, ih]
    simp

theorem apartFrom_singleton : ApartFrom d [p] ↔ CommasEnclosed d p := by
  refine ⟨fun h => ?_, .last⟩
  cases h with
  | last commas => exact commas
  | next _ _ rest => exact absurd rfl rest.ne_nil

theorem apartFrom_cons (hps : ps ≠ []) :
    ApartFrom d (p :: ps) ↔ CommasEnclosed d p ∧ depthOver d p = 0 ∧ ApartFrom 0 ps := by
  refine ⟨fun h => ?_, fun ⟨commas, closed, rest⟩ => .next commas closed rest⟩
  cases h with
  | last _ => exact absurd rfl hps
  | next commas closed rest => exact ⟨commas, closed, rest⟩

theorem apart_singleton : Apart [p] ↔ KeepsCommas p := by
  constructor
  · intro h
    exact h.commas p List.mem_cons_self
  · intro h
    exact ⟨List.cons_ne_nil _ _, by simpa using h, by simp⟩

theorem apart_cons (hps : ps ≠ []) :
    Apart (p :: ps) ↔ KeepsCommas p ∧ NoneLeftOpen p ∧ Apart ps := by
  have hinit : (p :: ps).dropLast = p :: ps.dropLast := List.dropLast_cons_of_ne_nil hps
  constructor
  · rintro ⟨-, hcommas, hclosed⟩
    rw [hinit] at hclosed
    obtain ⟨hp, hpieces⟩ := List.forall_mem_cons.1 hcommas
    obtain ⟨hpclosed, hinner⟩ := List.forall_mem_cons.1 hclosed
    exact ⟨hp, hpclosed, hps, hpieces, hinner⟩
  · rintro ⟨hp, hpclosed, h⟩
    refine ⟨List.cons_ne_nil _ _, List.forall_mem_cons.2 ⟨hp, h.commas⟩, ?_⟩
    rw [hinit]
    exact List.forall_mem_cons.2 ⟨hpclosed, h.closed⟩

theorem apartFrom_zero_iff : ApartFrom 0 ps ↔ Apart ps := by
  induction ps with
  | nil => exact iff_of_false (fun h => h.ne_nil rfl) fun h => h.nonempty rfl
  | cons p ps ih =>
    by_cases hps : ps = []
    · rw [hps, apartFrom_singleton, apart_singleton, commasEnclosed_zero_iff]
    · rw [apartFrom_cons hps, apart_cons hps, commasEnclosed_zero_iff, depthOver_eq_zero_iff, ih]

end Splitting

/-- Splitting loses nothing and leaves pieces that can be told apart. When pieces are joined, it
gives them back exactly if they can be told apart. -/
theorem split_inverts_joining (s : List Char) (pieces : List (List Char)) :
    rejoined (split s) = s ∧ Apart (split s) ∧
      (split (rejoined pieces) = pieces ↔ Apart pieces) := by
  have hsplit : ∀ t, Apart (split t) := fun t => apartFrom_zero_iff.1 (splitFrom_apartFrom 0 t)
  refine ⟨(cutFrom_iff.2 rfl).whole, hsplit s, fun h => ?_, fun h => ?_⟩
  · rw [← h]
    exact hsplit (rejoined pieces)
  · exact (apartFrom_zero_iff.2 h).splitFrom_rejoined

-- Before the comma of the last piece, as many parentheses are closed as opened, but one is open.
example : split "é),(à,),)(,".toList = ["é)", "(à,)", ")(,"].map String.toList := by
  decide +kernel

end RoutineBindings.Signature
