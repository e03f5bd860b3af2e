import Mathlib.Data.List.Forall2
import RoutineBindings.Proofs.Outcomes
import RoutineBindings.Proofs.TopLevelPieces

/-!
# Reading any argument list

Whatever a list looks like, it is cut exactly at its commas at depth zero, and each piece is read
for itself: a piece without a space is malformed, and any other gives one argument. The first
malformed piece is the error of the list.
-/
namespace RoutineBindings.Signature
open Text

/-- Pieces with commas between them. -/
def rejoined (pieces : List (List Char)) : List Char := [','].intercalate pieces

/-- A comma that no parentheses enclose follows the text. The text starts at the given depth. -/
def CommaAfter (depth : Nat) (list before : List Char) : Prop :=
  before ++ [','] <+: list ∧ depthOver depth before = 0

/-- The text is made of some of the pieces, from the first one on, but not of all. -/
def EndsAfter (pieces : List (List Char)) (before : List Char) : Prop :=
  ∃ front back, pieces = front ++ back ∧ front ≠ [] ∧ back ≠ [] ∧ before = rejoined front

/-- The pieces make up the list, and the commas between them are those at depth zero, where the
depth is counted from the left through the whole list. -/
structure CutFrom (depth : Nat) (list : List Char) (pieces : List (List Char)) : Prop where
  nonempty : pieces ≠ []
  whole : rejoined pieces = list
  cuts : ∀ before, CommaAfter depth list before ↔ EndsAfter pieces before

section Cutting
variable {d : Nat} {c : Char} {s p before : List Char} {ps qs : List (List Char)}

theorem rejoined_cons_cons (c : Char) (p : List Char) (ps : List (List Char)) :
    rejoined ((c :: p) :: ps) = c :: rejoined (p :: ps) := by
  cases ps <;> simp [rejoined, List.intercalate]

theorem rejoined_nil_cons (h : ps ≠ []) : rejoined ([] :: ps) = ',' :: rejoined ps := by
  cases ps with
  | nil => exact absurd rfl h
  | cons p ps => simp [rejoined, List.intercalate]

theorem commaAfter_cons : CommaAfter d (c :: s) before ↔
    (before = [] ∧ c = ',' ∧ d = 0) ∨
      ∃ t, before = c :: t ∧ CommaAfter (depthAfter d c) s t := by
  cases before with
  | nil => simp [CommaAfter, eq_comm]
  | cons x t =>
    simp only [CommaAfter, List.cons_append, List.cons_prefix_cons, depthOver_cons, reduceCtorEq,
      false_and, false_or, List.cons.injEq]
    constructor
    · rintro ⟨⟨rfl, hp⟩, hd⟩
      exact ⟨t, ⟨rfl, rfl⟩, hp, hd⟩
    · rintro ⟨_, ⟨rfl, rfl⟩, hp, hd⟩
      exact ⟨⟨rfl, hp⟩, hd⟩

theorem endsAfter_cons_cons : EndsAfter ((c :: p) :: ps) before ↔
    ∃ t, before = c :: t ∧ EndsAfter (p :: ps) t := by
  constructor
  · rintro ⟨front, back, hsplit, hfront, hback, rfl⟩
    obtain ⟨q, front, rfl⟩ := List.exists_cons_of_ne_nil hfront
    obtain ⟨rfl, rfl⟩ := List.cons.inj hsplit
    exact ⟨_, rejoined_cons_cons c p front, p :: front, back, rfl, List.cons_ne_nil _ _, hback,
      rfl⟩
  · rintro ⟨_, rfl, front, back, hsplit, hfront, hback, rfl⟩
    obtain ⟨q, front, rfl⟩ := List.exists_cons_of_ne_nil hfront
    obtain ⟨rfl, rfl⟩ := List.cons.inj hsplit
    exact ⟨(c :: p) :: front, back, rfl, List.cons_ne_nil _ _, hback,
      (rejoined_cons_cons c p front).symm⟩

theorem endsAfter_nil_cons (h : ps ≠ []) : EndsAfter ([] :: ps) before ↔
    before = [] ∨ ∃ t, before = ',' :: t ∧ EndsAfter ps t := by
  constructor
  · rintro ⟨front, back, hsplit, hfront, hback, rfl⟩
    obtain ⟨q, front, rfl⟩ := List.exists_cons_of_ne_nil hfront
    obtain ⟨rfl, rfl⟩ := List.cons.inj hsplit
    by_cases hne : front = []
    · exact .inl (by simp [hne, rejoined])
    · exact .inr ⟨_, rejoined_nil_cons hne, front, back, rfl, hne, hback, rfl⟩
  · rintro (rfl | ⟨_, rfl, front, back, rfl, hfront, hback, rfl⟩)
    · exact ⟨[[]], ps, rfl, List.cons_ne_nil _ _, h, rfl⟩
    · exact ⟨[] :: front, back, rfl, List.cons_ne_nil _ _, hback, (rejoined_nil_cons hfront).symm⟩

/-- A comma at depth zero ends an empty piece. -/
theorem cutFrom_comma : CutFrom 0 (',' :: s) (p :: ps) ↔ p = [] ∧ CutFrom 0 s ps := by
  have hfirst : CommaAfter 0 (',' :: s) [] := commaAfter_cons.2 (.inl ⟨rfl, rfl, rfl⟩)
  have hnext : ∀ t, CommaAfter 0 (',' :: s) (',' :: t) ↔ CommaAfter 0 s t := fun t => by
    simp [commaAfter_cons, depthAfter]
  constructor
  · intro h
    have hends := (h.cuts []).1 hfirst
    cases p with
    | cons x q =>
      obtain ⟨t, ht, -⟩ := endsAfter_cons_cons.1 hends
      cases ht
    | nil =>
      have hps : ps ≠ [] := by
        rintro rfl
        have hwhole := h.whole
        simp [rejoined] at hwhole
      have hwhole := (rejoined_nil_cons hps).symm.trans h.whole
      refine ⟨rfl, hps, (List.cons.inj hwhole).2, fun t => ?_⟩
      rw [← hnext, h.cuts, endsAfter_nil_cons hps]
      simp
  · rintro ⟨rfl, h⟩
    refine ⟨List.cons_ne_nil _ _, by rw [rejoined_nil_cons h.nonempty, h.whole], fun before => ?_⟩
    rw [commaAfter_cons, endsAfter_nil_cons h.nonempty]
    simp [depthAfter, h.cuts]

/-- Any other character belongs to the first piece. -/
theorem cutFrom_cons (h : ¬ (c = ',' ∧ d = 0)) :
    CutFrom d (c :: s) (p :: ps) ↔ ∃ q, p = c :: q ∧ CutFrom (depthAfter d c) s (q :: ps) := by
  have hfirst : ¬ CommaAfter d (c :: s) [] := by simpa [commaAfter_cons] using h
  constructor
  · intro hcut
    cases p with
    | nil =>
      have hps : ps ≠ [] := by
        rintro rfl
        have hwhole := hcut.whole
        simp [rejoined] at hwhole
      exact absurd ((hcut.cuts []).2 ((endsAfter_nil_cons hps).2 (.inl rfl))) hfirst
    | cons x q =>
      have hwhole := (rejoined_cons_cons x q ps).symm.trans hcut.whole
      obtain ⟨rfl, hrest⟩ := List.cons.inj hwhole
      refine ⟨q, rfl, List.cons_ne_nil _ _, hrest, fun t => ?_⟩
      have hcuts := hcut.cuts (x :: t)
      rw [commaAfter_cons, endsAfter_cons_cons] at hcuts
      simpa using hcuts
  · rintro ⟨q, rfl, hcut⟩
    refine ⟨List.cons_ne_nil _ _, by rw [rejoined_cons_cons, hcut.whole], fun before => ?_⟩
    rw [commaAfter_cons, endsAfter_cons_cons]
    simp [h, hcut.cuts]

theorem not_endsAfter_singleton : ¬ EndsAfter [p] before := by
  rintro ⟨front, back, hsplit, hfront, hback, -⟩
  have hlen := congrArg List.length hsplit
  have hf := List.length_pos_iff.2 hfront
  have hb := List.length_pos_iff.2 hback
  simp only [List.length_append, List.length_singleton] at hlen
  omega

theorem cutFrom_nil : CutFrom d [] ps ↔ ps = [[]] := by
  constructor
  · rintro ⟨hne, hwhole, -⟩
    obtain ⟨p, ps, rfl⟩ := List.exists_cons_of_ne_nil hne
    cases p with
    | cons x q =>
      rw [rejoined_cons_cons] at hwhole
      cases hwhole
    | nil =>
      by_cases hps : ps = []
      · rw [hps]
      · rw [rejoined_nil_cons hps] at hwhole
        cases hwhole
  · rintro rfl
    refine ⟨List.cons_ne_nil _ _, rfl, fun before => ?_⟩
    simp [CommaAfter, not_endsAfter_singleton]

/-- Splitting a list cuts it, and there is no other way to do so. -/
theorem cutFrom_iff : CutFrom d s ps ↔ ps = splitFrom d s := by
  induction s generalizing d ps with
  | nil => exact cutFrom_nil
  | cons c s ih =>
    cases ps with
    | nil => exact iff_of_false (fun h => h.nonempty rfl) (splitFrom_ne_nil d (c :: s)).symm
    | cons p ps =>
      by_cases h : c = ',' ∧ d = 0
      · obtain ⟨rfl, rfl⟩ := h
        rw [cutFrom_comma, ih, splitFrom_comma]
        simp
      · rw [cutFrom_cons h, splitFrom_cons h]
        obtain ⟨q, qs, hsplit⟩ := List.exists_cons_of_ne_nil (splitFrom_ne_nil (depthAfter d c) s)
        simp only [ih, hsplit, List.modifyHead_cons, List.cons.injEq]
        constructor
        · rintro ⟨_, rfl, rfl, rfl⟩
          exact ⟨rfl, rfl⟩
        · rintro ⟨rfl, rfl⟩
          exact ⟨q, rfl, rfl, rfl⟩

end Cutting

section Reading
variable {mark s t piece : List Char} {c : Char} {a : Argument}

/-- The text before the first occurrence of a mark, or all of it when there is none. -/
def UpToFirst (mark s t : List Char) : Prop :=
  (t ++ mark <+: s ∧ ∀ q, q ++ mark <+: s → t.length ≤ q.length) ∨ (¬ mark <:+: s ∧ t = s)

theorem upToFirst_of_leading (h : mark <+: s) : UpToFirst mark s t ↔ t = [] := by
  constructor
  · rintro (⟨-, hleast⟩ | ⟨hno, -⟩)
    · exact List.length_eq_zero_iff.1 (Nat.le_zero.1 (hleast [] h))
    · exact absurd h.isInfix hno
  · rintro rfl
    exact .inl ⟨h, fun q _ => Nat.zero_le _⟩

theorem upToFirst_cons (h : ¬ mark <+: c :: s) :
    UpToFirst mark (c :: s) t ↔ ∃ u, t = c :: u ∧ UpToFirst mark s u := by
  constructor
  · rintro (⟨hmark, hleast⟩ | ⟨hno, rfl⟩)
    · cases t with
      | nil => exact absurd hmark h
      | cons x u =>
        obtain ⟨rfl, hu⟩ := List.cons_prefix_cons.1 hmark
        refine ⟨u, rfl, .inl ⟨hu, fun q hq => ?_⟩⟩
        simpa using hleast (x :: q) (List.cons_prefix_cons.2 ⟨rfl, hq⟩)
    · exact ⟨s, rfl, .inr ⟨fun hs => hno (hs.trans (List.suffix_cons c s).isInfix), rfl⟩⟩
  · rintro ⟨u, rfl, ⟨hmark, hleast⟩ | ⟨hno, rfl⟩⟩
    · refine .inl ⟨List.cons_prefix_cons.2 ⟨rfl, hmark⟩, fun q hq => ?_⟩
      cases q with
      | nil => exact absurd hq h
      | cons x q => simpa using hleast q (List.cons_prefix_cons.1 hq).2
    · refine .inr ⟨fun hinfix => ?_, rfl⟩
      rcases List.infix_cons_iff.1 hinfix with hs | hs
      · exact h hs
      · exact hno hs

theorem upToFirst_iff : UpToFirst mark s t ↔ t = before mark s := by
  induction s generalizing t with
  | nil =>
    cases mark with
    | nil => exact upToFirst_of_leading List.prefix_rfl
    | cons m mark => simp [UpToFirst, before]
  | cons c s ih =>
    by_cases h : mark <+: c :: s
    · rw [upToFirst_of_leading h, before, if_pos (afterStart_isSome_iff.2 h)]
    · rw [upToFirst_cons h, before, if_neg (mt afterStart_isSome_iff.1 h)]
      simp only [ih]
      constructor
      · rintro ⟨_, rfl, rfl⟩
        rfl
      · rintro rfl
        exact ⟨_, rfl, rfl⟩

/-- A trimmed piece is an argument: its name ends at the first space, and the type that follows
ends at its first default. -/
structure Reads (piece : List Char) (a : Argument) : Prop where
  name_ne : a.name ≠ ""
  name_spaceless : ' ' ∉ a.name.toList
  rest : ∃ rest type, trim piece = a.name.toList ++ ' ' :: rest ∧
    UpToFirst defaultMark rest type ∧ a.type = String.ofList (trim type)

theorem argument_eq_ok : argument (trim piece) = .ok a ↔ Reads piece a := by
  constructor
  · intro h
    unfold argument at h
    split at h
    · cases h
    · rename_i name rest hcut
      cases h
      obtain ⟨hpiece, hname⟩ := cutAt_eq_some_iff.1 hcut
      refine ⟨?_, by simpa using hname, rest, _, by simpa using hpiece, upToFirst_iff.2 rfl, rfl⟩
      intro hempty
      obtain rfl := String.ofList_eq_empty_iff.1 hempty
      have hspace : isBlank ' ' = true := by decide
      exact Bool.noConfusion ((not_blank_of_trim hpiece).symm.trans hspace)
  · rintro ⟨-, hname, rest, type, hpiece, htype, ha⟩
    obtain rfl := upToFirst_iff.1 htype
    rw [argument, cutAt_eq_some_iff.2 ⟨hpiece, hname⟩]
    simp only [String.ofList_toList, ← ha]

theorem argument_eq_error {e : IntrospectionError} : argument (trim piece) = .error e ↔
    ' ' ∉ trim piece ∧ e = .malformedArgument (String.ofList (trim piece)) := by
  unfold argument
  split
  · rename_i hcut
    simp [cutAt_eq_none_iff.1 hcut, eq_comm]
  · rename_i name rest hcut
    simp [(cutAt_eq_some_iff.1 hcut).1]

theorem arguments_eq_mapM (ss : List (List Char)) :
    arguments ss = ss.mapM fun s => argument (trim s) := by
  induction ss with
  | nil => rfl
  | cons s ss ih => rw [arguments, List.mapM_cons, ih]

theorem parse_eq_mapM {list : String} (h : trim list.toList ≠ []) :
    parse list = (split list.toList).mapM fun s => argument (trim s) := by
  rw [parse, if_neg (by simpa using h), arguments_eq_mapM]

/-- Lists fail in one way only. -/
theorem parse_eq_error {list : String} {e : IntrospectionError} (h : parse list = .error e) :
    ∃ segment, e = .malformedArgument segment := by
  by_cases hblank : trim list.toList = []
  · rw [parse, hblank] at h
    cases h
  · rw [parse_eq_mapM hblank, mapM_eq_error] at h
    obtain ⟨-, p, -, -, -, hp⟩ := h
    exact ⟨_, (argument_eq_error.1 hp).2⟩

/-- A list is read piece by piece: the first piece without a space is its error, and if there is
none, every piece gives one argument, in their order. -/
structure ReadPiecewise (list : String) (pieces : List (List Char)) : Prop where
  cut : CutFrom 0 list.toList pieces
  fails_iff : (∃ e, parse list = .error e) ↔ ∃ p ∈ pieces, ' ' ∉ trim p
  error_iff : ∀ e, parse list = .error e ↔ ∃ front p back, pieces = front ++ p :: back ∧
    (∀ q ∈ front, ' ' ∈ trim q) ∧ ' ' ∉ trim p ∧
      e = .malformedArgument (String.ofList (trim p))
  ok_iff : ∀ as, parse list = .ok as ↔ List.Forall₂ Reads pieces as

theorem readPiecewise_split {list : String} (h : trim list.toList ≠ []) :
    ReadPiecewise list (split list.toList) := by
  have hparse := parse_eq_mapM h
  have herror : ∀ p, (∃ e, argument (trim p) = .error e) ↔ ' ' ∉ trim p := fun p => by
    simp only [argument_eq_error, exists_and_left, exists_eq, and_true]
  have hok : ∀ p, (∃ a, argument (trim p) = .ok a) ↔ ' ' ∈ trim p := fun p => by
    rw [← not_iff_not, ← herror]
    cases argument (trim p) <;> simp
  refine ⟨cutFrom_iff.2 rfl, ?_, fun e => ?_, fun as => ?_⟩
  · rw [hparse]
    simp only [mapM_eq_error, exists_firstError_iff, herror]
  · rw [hparse, mapM_eq_error]
    simp only [FirstError, hok, argument_eq_error]
  · rw [hparse, mapM_eq_ok]
    simp only [argument_eq_ok]

end Reading

/-- A blank list has no arguments. Any other is cut at the commas that no parentheses enclose, in
the only way there is, and is read piece by piece. -/
theorem parse_decided (list : String) :
    ((∀ c ∈ list.toList, isBlank c = true) → parse list = .ok []) ∧
    ((∃ c ∈ list.toList, isBlank c = false) → ∃! pieces, ReadPiecewise list pieces) := by
  constructor
  · intro h
    rw [parse, trim_eq_nil_iff.2 h]
    rfl
  · rintro ⟨c, hc, hblank⟩
    have hne : trim list.toList ≠ [] := fun h => by
      simp [trim_eq_nil_iff.1 h c hc] at hblank
    exact ⟨_, readPiecewise_split hne, fun pieces h => cutFrom_iff.1 h.cut⟩

/-- A list that ends in a comma, behind a piece without a space. -/
theorem openList_decided :
    parse "\u2003\n" = .ok [] ∧
      (∃! pieces, ReadPiecewise "price numeric(10,2) DEFAULT 0, broken," pieces) ∧
      parse "price numeric(10,2) DEFAULT 0, broken," = .error (.malformedArgument "broken") :=
  ⟨(parse_decided _).1 (List.all_eq_true.1 (by decide)),
    (parse_decided _).2 ⟨'p', by decide, by decide⟩, by decide +kernel⟩

end RoutineBindings.Signature
