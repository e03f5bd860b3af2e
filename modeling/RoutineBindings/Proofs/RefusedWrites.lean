import RoutineBindings.Proofs.WrittenLines

/-!
# Refused writes

The sink can refuse any single piece. A refusal falls between two pieces of an operation, and the
writer has to know afterwards whether a line starts behind what was accepted. It does except at the
beginning of a line: there it takes the line as begun once the indentation is complete, be the text
accepted or not, and as not begun before that. So the exact condition is on the indentation.
-/
namespace RoutineBindings.Go

/-- Behind the text a line starts. -/
def LineStarts (text : String) : Prop := text = "" ∨ text.toList.getLast? = some '\n'

instance (text : String) : Decidable (LineStarts text) :=
  inferInstanceAs (Decidable (text = "" ∨ text.toList.getLast? = some '\n'))

namespace LineWriter

/-- The writer takes itself to be at the start of a line exactly if the accepted text says so. -/
def Consistent (w : LineWriter) : Prop := w.atLineStart = true ↔ LineStarts w.held

/-- How many of some units of indentation are accepted before one is refused. -/
def acceptedUnits (w : LineWriter) : Nat → Nat
  | 0 => 0
  | n + 1 =>
    match w.offer w.unit with
    | .ok w' => w'.acceptedUnits n + 1
    | .error _ => 0

/-- The indentation of a line whose first text is refused, such that the writer knows where it is.
There is an indentation, and nothing or all of it was accepted; if however the unit ends a line
itself, some of it was not. -/
inductive HarmlessRefusal (w : LineWriter) : Prop where
  | untouched (hlevel : 0 < w.level) (h : w.acceptedUnits w.level = 0)
  | indented (hlevel : 0 < w.level) (hunit : ¬ LineStarts w.unit)
      (h : w.acceptedUnits w.level = w.level)
  | unitEndsLine (hunit : LineStarts w.unit) (h : w.acceptedUnits w.level < w.level)

/-- If the text is refused at the start of a line, then harmlessly. -/
def WritesSafely (w : LineWriter) (text : String) : Prop :=
  ∀ v, w.write text = .error v → LineStarts w.held → w.HarmlessRefusal

def WritesLinesSafely (w : LineWriter) : List String → Prop
  | [] => True
  | text :: texts =>
    w.WritesSafely text ∧ ∀ w', w.writeln text = .ok w' → w'.WritesLinesSafely texts

def PerformsSafely (w : LineWriter) : WriterStep → Prop
  | .write text | .writeln text => w.WritesSafely text
  | .comment text => w.WritesLinesSafely (commentLines [text])
  | _ => True

/-- Every refusal at the start of a line is harmless. -/
def FollowsSafely (w : LineWriter) : List WriterStep → Prop
  | [] => True
  | s :: steps => w.PerformsSafely s ∧ (w.perform s).state.FollowsSafely steps

/-- The second writer is the first one after some offers. -/
def Becomes (w : LineWriter) (held : String) (b : Bool) (v : LineWriter) : Prop :=
  ∃ n, v = { w with held := held, offered := n, atLineStart := b }

end LineWriter

section LineStarts
variable {s t u : String} {n : Nat}

theorem lineStarts_append (ht : t ≠ "") : LineStarts (s ++ t) ↔ LineStarts t := by
  have hne : t.toList ≠ [] := by simpa using ht
  have hst : s ++ t ≠ "" := by simp [ht]
  simp only [LineStarts, ht, hst, false_or, String.toList_append,
    List.getLast?_append_of_ne_nil _ hne]

theorem not_lineStarts (ht : t ≠ "") (h : '\n' ∉ t.toList) : ¬ LineStarts t := by
  rintro (hempty | hlast)
  · exact ht hempty
  · exact h (List.mem_of_getLast? hlast)

theorem lineStarts_newline (s : String) : LineStarts (s ++ "\n") :=
  (lineStarts_append (by decide)).2 (.inr rfl)

theorem lineStarts_units (hu : u ≠ "") (hs : LineStarts s) :
    LineStarts (s ++ String.join (List.replicate n u)) ↔ n = 0 ∨ LineStarts u := by
  cases n with
  | zero => simpa using hs
  | succ n =>
    have hlast : s ++ String.join (List.replicate (n + 1) u) =
        s ++ String.join (List.replicate n u) ++ u := by
      simp [List.replicate_succ', String.join_append, String.append_assoc]
    rw [hlast, lineStarts_append hu]
    simp

end LineStarts

namespace LineWriter
variable {w v v' : LineWriter} {held held' piece text : String} {b b' : Bool}

section Units
variable {f g : LineWriter → Result}

/-- What holds of the state that the first operation leaves, and is kept by the second one, holds in
the end: if the first is refused, the second is not tried. -/
theorem state_bind {P : LineWriter → Prop} {r : Result} (hr : P r.state)
    (hg : ∀ v, P v → P (g v).state) : P (Result.state (r >>= g)) := by
  cases r with
  | error v => exact hr
  | ok v => exact hg v hr

/-- The unit stays the same, whether the operation is completed or refused. -/
def KeepsUnit (f : LineWriter → Result) : Prop := ∀ w, (f w).state.unit = w.unit

theorem KeepsUnit.bind (hf : KeepsUnit f) (hg : KeepsUnit g) : KeepsUnit fun w => f w >>= g :=
  fun w => state_bind (P := fun v => v.unit = w.unit) (hf w) fun v hv => (hg v).trans hv

theorem offer_keepsUnit (piece : String) : KeepsUnit (offer · piece) := by
  intro w
  simp only [offer]
  split <;> rfl

theorem offerUnits_keepsUnit (n : Nat) : KeepsUnit (offerUnits · n) := by
  induction n with
  | zero => exact fun _ => rfl
  | succ n ih => exact fun w => (offer_keepsUnit w.unit).bind ih w

theorem write_keepsUnit (text : String) : KeepsUnit (write · text) := by
  have htext : KeepsUnit fun w => offer { w with atLineStart := false } text :=
    fun w => offer_keepsUnit text { w with atLineStart := false }
  intro w
  simp only [write]
  split
  · rfl
  · split
    · exact (offerUnits_keepsUnit w.level).bind htext w
    · exact offer_keepsUnit text w

theorem newline_keepsUnit : KeepsUnit newline := (offer_keepsUnit "\n").bind fun _ => rfl

theorem writeln_keepsUnit (text : String) : KeepsUnit (writeln · text) :=
  (write_keepsUnit text).bind newline_keepsUnit

theorem writeLines_keepsUnit (texts : List String) : KeepsUnit (writeLines · texts) := by
  induction texts with
  | nil => exact fun _ => rfl
  | cons t ts ih => exact (writeln_keepsUnit t).bind ih

theorem perform_keepsUnit (s : WriterStep) : KeepsUnit (perform · s) := by
  cases s with
  | write text => exact write_keepsUnit text
  | writeln text => exact writeln_keepsUnit text
  | comment text => exact writeLines_keepsUnit _
  | newline => exact newline_keepsUnit
  | blankLine =>
    intro w
    simp only [perform, blankLine]
    split
    · exact newline_keepsUnit w
    · exact newline_keepsUnit.bind newline_keepsUnit w
  | indent | dedent => exact fun _ => rfl

end Units

section Outcomes

theorem Becomes.trans (h : w.Becomes held b v) (h' : v.Becomes held' b' v') :
    w.Becomes held' b' v' := by
  obtain ⟨n, rfl⟩ := h
  obtain ⟨m, rfl⟩ := h'
  exact ⟨m, rfl⟩

theorem Becomes.held_eq (h : w.Becomes held b v) : v.held = held := by
  obtain ⟨n, rfl⟩ := h
  rfl

theorem Becomes.atLineStart_eq (h : w.Becomes held b v) : v.atLineStart = b := by
  obtain ⟨n, rfl⟩ := h
  rfl

theorem Becomes.consistent_iff (h : w.Becomes held b v) :
    v.Consistent ↔ (b = true ↔ LineStarts held) := by
  rw [Consistent, h.held_eq, h.atLineStart_eq]

/-- An accepted piece is added, a refused one leaves the text as it is. -/
theorem offer_cases (w : LineWriter) (piece : String) :
    (∃ v, w.offer piece = .ok v ∧ w.Becomes (w.held ++ piece) w.atLineStart v) ∨
      ∃ v, w.offer piece = .error v ∧ w.Becomes w.held w.atLineStart v := by
  rw [offer]
  split
  · exact .inl ⟨_, rfl, _, rfl⟩
  · exact .inr ⟨_, rfl, _, rfl⟩

theorem offerUnits_cases (w : LineWriter) (n : Nat) :
    (w.acceptedUnits n = n ∧ ∃ v, w.offerUnits n = .ok v ∧
      w.Becomes (w.held ++ String.join (List.replicate n w.unit)) w.atLineStart v) ∨
    (w.acceptedUnits n < n ∧ ∃ v, w.offerUnits n = .error v ∧
      w.Becomes (w.held ++ String.join (List.replicate (w.acceptedUnits n) w.unit))
        w.atLineStart v) := by
  induction n generalizing w with
  | zero => exact .inl ⟨rfl, w, rfl, w.offered, by simp⟩
  | succ n ih =>
    rw [offerUnits, acceptedUnits]
    rcases offer_cases w w.unit with ⟨v, hv, hbecomes⟩ | ⟨v, hv, hbecomes⟩
    · have hheld : ∀ k, v.held ++ String.join (List.replicate k v.unit) =
          w.held ++ String.join (List.replicate (k + 1) w.unit) := by
        obtain ⟨m, rfl⟩ := hbecomes
        simp [List.replicate_succ, String.append_assoc]
      have hstart := hbecomes.atLineStart_eq
      simp only [hv]
      rcases ih v with ⟨hall, u, hu, h⟩ | ⟨hsome, u, hu, h⟩
      · rw [hheld, hstart] at h
        exact .inl ⟨congrArg (· + 1) hall, u, hu, hbecomes.trans h⟩
      · rw [hheld, hstart] at h
        exact .inr ⟨Nat.succ_lt_succ hsome, u, hu, hbecomes.trans h⟩
    · simp only [hv]
      exact .inr ⟨Nat.succ_pos n, v, rfl, by simpa using hbecomes⟩

theorem acceptedUnits_le (w : LineWriter) (n : Nat) : w.acceptedUnits n ≤ n := by
  rcases offerUnits_cases w n with ⟨h, -⟩ | ⟨h, -⟩
  · exact Nat.le_of_eq h
  · exact Nat.le_of_lt h

/-- At the start of a line a text is written behind the whole indentation. If it is not written, the
writer takes the line as begun as soon as no unit was refused. -/
theorem write_starting (hstart : w.atLineStart = true) (ht : text ≠ "") :
    (∃ v, w.write text = .ok v ∧
      w.Becomes (w.held ++ String.join (List.replicate w.level w.unit) ++ text) false v) ∨
    ∃ v, w.write text = .error v ∧
      w.Becomes (w.held ++ String.join (List.replicate (w.acceptedUnits w.level) w.unit))
        (w.acceptedUnits w.level < w.level) v := by
  rw [write, if_neg (by simpa using ht), if_pos hstart]
  rcases offerUnits_cases w w.level with ⟨hall, u, hu, h⟩ | ⟨hsome, u, hu, h⟩
  · have hbegun : w.Becomes (w.held ++ String.join (List.replicate w.level w.unit)) false
        { u with atLineStart := false } := by
      obtain ⟨n, rfl⟩ := h
      exact ⟨n, rfl⟩
    rw [hu, hall]
    rcases offer_cases { u with atLineStart := false } text with ⟨v, hv, hv'⟩ | ⟨v, hv, hv'⟩
    · rw [hbegun.held_eq] at hv'
      exact .inl ⟨v, hv, hbegun.trans hv'⟩
    · rw [hbegun.held_eq] at hv'
      exact .inr ⟨v, hv, by simpa using hbegun.trans hv'⟩
  · rw [hu]
    rw [hstart] at h
    exact .inr ⟨u, rfl, by simpa [hsome] using h⟩

theorem write_inside_cases (hstart : w.atLineStart = false) (ht : text ≠ "") :
    (∃ v, w.write text = .ok v ∧ w.Becomes (w.held ++ text) false v) ∨
      ∃ v, w.write text = .error v ∧ w.Becomes w.held false v := by
  rw [write, if_neg (by simpa using ht), if_neg (by simp [hstart])]
  have h := offer_cases w text
  rwa [hstart] at h

end Outcomes

section Consistency

theorem harmlessRefusal_iff : w.HarmlessRefusal ↔
    (w.acceptedUnits w.level < w.level ↔ w.acceptedUnits w.level = 0 ∨ LineStarts w.unit) := by
  have hle := w.acceptedUnits_le w.level
  constructor
  · rintro (⟨hlevel, h⟩ | ⟨hlevel, hunit, h⟩ | ⟨hunit, h⟩)
    · exact iff_of_true (by omega) (.inl h)
    · exact iff_of_false (by omega) (not_or.2 ⟨by omega, hunit⟩)
    · exact iff_of_true h (.inr hunit)
  · intro h
    by_cases hunit : LineStarts w.unit
    · exact .unitEndsLine hunit (h.2 (.inr hunit))
    · rcases Nat.lt_or_ge (w.acceptedUnits w.level) w.level with hlt | hge
      · exact .untouched (by omega) ((h.1 hlt).resolve_right hunit)
      · have hne : w.acceptedUnits w.level ≠ 0 := fun h0 => absurd (h.2 (.inl h0)) (by omega)
        exact .indented (by omega) hunit (by omega)

theorem writesSafely_of_ok (hv : w.write text = .ok v) : w.WritesSafely text := by
  intro u hu
  rw [hv] at hu
  cases hu

/-- A text that can stand on a line is written safely exactly if the writer is consistent
afterwards. -/
theorem write_consistent_iff (hw : w.Consistent) (hunit : w.unit ≠ "") (ht : text ≠ "")
    (hfree : '\n' ∉ text.toList) : (w.write text).state.Consistent ↔ w.WritesSafely text := by
  have hbehind : ∀ s, ¬ LineStarts (s ++ text) :=
    fun s => mt (lineStarts_append ht).1 (not_lineStarts ht hfree)
  cases hstart : w.atLineStart with
  | false =>
    have hinside : ¬ LineStarts w.held := mt hw.2 (by simp [hstart])
    rcases write_inside_cases hstart ht with ⟨v, hv, h⟩ | ⟨v, hv, h⟩
    · rw [hv, Result.state, h.consistent_iff]
      exact iff_of_true (iff_of_false Bool.false_ne_true (hbehind _)) (writesSafely_of_ok hv)
    · rw [hv, Result.state, h.consistent_iff]
      exact iff_of_true (iff_of_false Bool.false_ne_true hinside) fun _ _ h => absurd h hinside
  | true =>
    have hbegins : LineStarts w.held := hw.1 hstart
    rcases write_starting hstart ht with ⟨v, hv, h⟩ | ⟨v, hv, h⟩
    · rw [hv, Result.state, h.consistent_iff]
      exact iff_of_true (iff_of_false Bool.false_ne_true (hbehind _)) (writesSafely_of_ok hv)
    · rw [hv, Result.state, h.consistent_iff, decide_eq_true_iff, lineStarts_units hunit hbegins,
        ← harmlessRefusal_iff]
      exact ⟨fun h _ _ _ => h, fun h => h v hv hbegins⟩

theorem newline_consistent (hw : w.Consistent) : w.newline.state.Consistent := by
  rw [newline]
  rcases offer_cases w "\n" with ⟨v, hv, h⟩ | ⟨v, hv, h⟩
  · rw [hv]
    refine iff_of_true rfl ?_
    change LineStarts v.held
    rw [h.held_eq]
    exact lineStarts_newline w.held
  · rw [hv]
    exact h.consistent_iff.2 hw

theorem writeln_consistent_iff (hw : w.Consistent) (hunit : w.unit ≠ "") (ht : text ≠ "")
    (hfree : '\n' ∉ text.toList) : (w.writeln text).state.Consistent ↔ w.WritesSafely text := by
  have hwrite := write_consistent_iff hw hunit ht hfree
  rw [writeln]
  cases hv : w.write text with
  | error v =>
    rw [hv] at hwrite
    exact hwrite
  | ok v =>
    rw [hv] at hwrite
    have hsafe := writesSafely_of_ok hv
    exact iff_of_true (newline_consistent (hwrite.2 hsafe)) hsafe

theorem blankLine_consistent (hw : w.Consistent) : w.blankLine.state.Consistent := by
  rw [blankLine]
  split
  · exact newline_consistent hw
  · exact state_bind (newline_consistent hw) fun _ => newline_consistent

theorem writeLines_consistent_iff (hw : w.Consistent) (hunit : w.unit ≠ "") {texts : List String}
    (ht : ∀ t ∈ texts, t ≠ "" ∧ '\n' ∉ t.toList) :
    (w.writeLines texts).state.Consistent ↔ w.WritesLinesSafely texts := by
  induction texts generalizing w with
  | nil => exact iff_of_true hw trivial
  | cons t ts ih =>
    obtain ⟨⟨htext, hfree⟩, hts⟩ := List.forall_mem_cons.1 ht
    have hline := writeln_consistent_iff hw hunit htext hfree
    have hkeeps : (w.writeln t).state.unit = w.unit := writeln_keepsUnit t w
    rw [writeLines, WritesLinesSafely]
    cases hv : w.writeln t with
    | error v =>
      rw [hv] at hline
      have hrest : ∀ w' : LineWriter, Except.error v = .ok w' → w'.WritesLinesSafely ts := by
        rintro w' ⟨⟩
      exact hline.trans (and_iff_left hrest).symm
    | ok v =>
      obtain ⟨u, hu, -⟩ := bind_eq_ok.1 hv
      have hsafe := writesSafely_of_ok hu
      rw [hv, Result.state] at hline hkeeps
      have hrest := ih (hline.2 hsafe) (hkeeps ▸ hunit) hts
      refine Iff.trans hrest ?_
      simp [hsafe]

theorem perform_consistent_iff (hw : w.Consistent) (hunit : w.unit ≠ "") {s : WriterStep}
    (hs : ∀ t ∈ s.plainTexts, t ≠ "" ∧ '\n' ∉ t.toList) :
    (w.perform s).state.Consistent ↔ w.PerformsSafely s := by
  cases s with
  | write text =>
    obtain ⟨htext, hfree⟩ := hs text List.mem_cons_self
    exact write_consistent_iff hw hunit htext hfree
  | writeln text =>
    obtain ⟨htext, hfree⟩ := hs text List.mem_cons_self
    exact writeln_consistent_iff hw hunit htext hfree
  | comment text =>
    rw [perform, comment_eq]
    refine writeLines_consistent_iff hw hunit fun l hl => ⟨?_, newlineFree_commentLines [text] l hl⟩
    obtain ⟨rest, rfl, -⟩ := isLineComment_of_mem hl
    simp
  | newline => exact iff_of_true (newline_consistent hw) trivial
  | blankLine => exact iff_of_true (blankLine_consistent hw) trivial
  | indent | dedent => exact iff_of_true hw trivial

theorem follow_consistent_iff (hw : w.Consistent) (hunit : w.unit ≠ "") {steps : List WriterStep}
    (h : ∀ s ∈ steps, ∀ t ∈ s.plainTexts, t ≠ "" ∧ '\n' ∉ t.toList) :
    (∀ before, before <+: steps → (w.follow before).Consistent) ↔ w.FollowsSafely steps := by
  induction steps generalizing w with
  | nil => simp [FollowsSafely, follow, hw]
  | cons s steps ih =>
    obtain ⟨hs, hsteps⟩ := List.forall_mem_cons.1 h
    have hstep := perform_consistent_iff hw hunit hs
    have hkeeps : (w.perform s).state.unit = w.unit := perform_keepsUnit s w
    have hrest : (w.perform s).state.Consistent →
        ((∀ before, before <+: steps → ((w.perform s).state.follow before).Consistent) ↔
          (w.perform s).state.FollowsSafely steps) :=
      fun hw' => ih hw' (hkeeps ▸ hunit) hsteps
    rw [FollowsSafely]
    constructor
    · intro hall
      have hfirst : (w.perform s).state.Consistent :=
        hall [s] ⟨steps, rfl⟩
      refine ⟨hstep.1 hfirst, (hrest hfirst).1 fun before hbefore => ?_⟩
      exact hall (s :: before) ((List.prefix_cons_inj s).2 hbefore)
    · rintro ⟨hsafe, hsteps⟩ before hbefore
      rcases List.prefix_cons_iff.1 hbefore with rfl | ⟨rest, rfl, hrest'⟩
      · exact hw
      · exact (hrest (hstep.2 hsafe)).2 hsteps rest hrest'

end Consistency
end LineWriter

/-- A new writer knows after every step whether a line starts, exactly if every text that is refused
at the start of a line is refused harmlessly. No other refusal matters. -/
theorem consistent_iff_followsSafely (sink : Sink) {unit : String} (hunit : unit ≠ "")
    {steps : List WriterStep} (h : ∀ s ∈ steps, ∀ t ∈ s.plainTexts, t ≠ "" ∧ '\n' ∉ t.toList) :
    (∀ before, before <+: steps → ((LineWriter.new sink unit).follow before).Consistent) ↔
      (LineWriter.new sink unit).FollowsSafely steps :=
  LineWriter.follow_consistent_iff (iff_of_true rfl (.inl rfl)) hunit h

/-- A line whose tab is accepted and whose text is not, and after it a text without indentation. -/
def tabOnlySteps : List WriterStep := [.indent, .writeln "return", .dedent, .writeln "x"]

theorem tabOnlySteps_consistent :
    "\t" ≠ "" ∧ (∀ s ∈ tabOnlySteps, ∀ t ∈ s.plainTexts, t ≠ "" ∧ '\n' ∉ t.toList) ∧
      (∀ before, before <+: tabOnlySteps →
        ((LineWriter.new (.upTo 2) "\t").follow before).Consistent) ∧
      ((LineWriter.new (.upTo 2) "\t").follow tabOnlySteps).held = "\tx" := by
  have hunit : "\t" ≠ "" := by decide
  have hplain : ∀ s ∈ tabOnlySteps, ∀ t ∈ s.plainTexts, t ≠ "" ∧ '\n' ∉ t.toList := by decide
  have hsafe : (LineWriter.new (.upTo 2) "\t").FollowsSafely tabOnlySteps := by
    refine ⟨trivial, fun _ _ _ => ?_, trivial, fun _ _ hstarts => ?_, trivial⟩
    · exact .indented (by decide) (by decide) (by decide +kernel)
    · exact absurd hstarts (by decide +kernel)
  exact ⟨hunit, hplain, (consistent_iff_followsSafely (.upTo 2) hunit hplain).2 hsafe,
    by decide +kernel⟩

/-- The text is refused where nothing stands before it, and the next one is written without the
indentation that it should have. -/
theorem refusedText_inconsistent :
    ¬ ((LineWriter.new (.upTo 3) "\t").follow [.write "first"]).Consistent ∧
      ((LineWriter.new (.upTo 3) "\t").follow
        [.write "first", .indent, .write "x"]).held = "x" := by
  refine ⟨fun h => ?_, by decide +kernel⟩
  have hstarts : LineStarts ((LineWriter.new (.upTo 3) "\t").follow [.write "first"]).held := by
    decide +kernel
  exact absurd (h.2 hstarts) (by decide +kernel)

end RoutineBindings.Go
