import RoutineBindings.Proofs.DocComments
import RoutineBindings.Proofs.IndentedBlocks

/-!
# Lines as they were written

The writer keeps a level and whether a line starts, and puts out units and texts one after another.
Seen from the lines this comes to one rule: a line begins with the levels that were open when its
first text was written, if any was, and then its texts follow. Empty texts do not count, and levels
that are opened or closed behind the first text show on the next line.
-/
namespace RoutineBindings.Go
open Text

/-- What a writer can be asked for. -/
inductive WriterStep where
  | write (text : String)
  | writeln (text : String)
  | comment (text : String)
  | newline
  | blankLine
  | indent
  | dedent

namespace WriterStep

/-- The texts that the step is given to write on lines as they are. -/
def plainTexts : WriterStep → List String
  | .write text | .writeln text => [text]
  | _ => []

def IsLevelChange (s : WriterStep) : Prop := s = .indent ∨ s = .dedent

end WriterStep

namespace LineWriter

def perform (w : LineWriter) : WriterStep → Result
  | .write text => w.write text
  | .writeln text => w.writeln text
  | .comment text => w.comment text
  | .newline => w.newline
  | .blankLine => w.blankLine
  | .indent => .ok w.indent
  | .dedent => .ok w.dedent

/-- The writer after the steps. Each begins in the state that the one before it left, be that
completed or refused. -/
def follow (w : LineWriter) (steps : List WriterStep) : LineWriter :=
  steps.foldl (fun w s => (w.perform s).state) w

end LineWriter

/-- A text on a line, and how many levels were open when it was written. -/
structure Written where
  levels : Nat
  text : String

/-- The texts that were written to a line, in their order and with the empty ones. -/
abbrev WrittenLine := List Written

namespace WrittenLine

/-- The first text that is not empty. -/
def first? (l : WrittenLine) : Option Written := l.find? (·.text ≠ "")

/-- A line without text is completely empty. Otherwise the levels of its first text that is not
empty come before all its texts. -/
def shown (unit : String) (l : WrittenLine) : String :=
  match l.first? with
  | none => ""
  | some first => String.join (List.replicate first.levels unit) ++ String.join (l.map Written.text)

end WrittenLine

/-- What has been written so far: lines that are ended, the line that is being written, and the
number of open levels. -/
structure Page where
  finished : List WrittenLine
  current : WrittenLine
  levels : Nat

namespace Page

def empty : Page := ⟨[], [], 0⟩

def put (p : Page) (text : String) : Page := { p with current := p.current ++ [⟨p.levels, text⟩] }

def endLine (p : Page) : Page := { p with finished := p.finished ++ [p.current], current := [] }

def putLines (p : Page) (texts : List String) : Page :=
  texts.foldl (fun p text => (p.put text).endLine) p

def take (p : Page) : WriterStep → Page
  | .write text => p.put text
  | .writeln text => (p.put text).endLine
  | .comment text => p.putLines (commentLines [text])
  | .newline => p.endLine
  | .blankLine => if p.current.first?.isSome then p.endLine.endLine else p.endLine
  | .indent => { p with levels := p.levels + 1 }
  | .dedent => { p with levels := p.levels - 1 }

/-- The page that steps fill. -/
def ofSteps (steps : List WriterStep) : Page := steps.foldl take empty

def lines (p : Page) : List WrittenLine := p.finished ++ [p.current]

/-- Every line but the last has been ended. -/
def text (unit : String) (p : Page) : String :=
  String.join (p.finished.map fun l => l.shown unit ++ "\n") ++ p.current.shown unit

end Page

section Shown
variable {unit text : String} {l : WrittenLine} {t first : Written}

namespace WrittenLine

theorem first?_eq_none_iff : l.first? = none ↔ ∀ t ∈ l, t.text = "" := by
  simp [first?]

theorem shown_of_none (h : l.first? = none) : l.shown unit = "" := by
  rw [shown, h]

theorem texts_of_none (h : l.first? = none) : String.join (l.map Written.text) = "" := by
  rw [first?_eq_none_iff] at h
  induction l with
  | nil => rfl
  | cons t l ih =>
    obtain ⟨ht, hl⟩ := List.forall_mem_cons.1 h
    rw [List.map_cons, String.join_cons, ht, ih hl, String.empty_append]

theorem first?_concat (l : WrittenLine) (t : Written) :
    first? (l ++ [t]) = l.first?.or (if t.text = "" then none else some t) := by
  simp only [first?, List.find?_append, List.find?_singleton]
  by_cases h : t.text = "" <;> simp [h]

theorem shown_concat_empty (ht : t.text = "") : shown unit (l ++ [t]) = l.shown unit := by
  simp [shown, first?_concat, ht]

/-- The first text of a line brings its levels with it. -/
theorem shown_concat_first (h : l.first? = none) (ht : t.text ≠ "") :
    shown unit (l ++ [t]) = String.join (List.replicate t.levels unit) ++ t.text := by
  simp [shown, first?_concat, h, ht, texts_of_none h]

theorem shown_concat_further (h : l.first? = some first) :
    shown unit (l ++ [t]) = l.shown unit ++ t.text := by
  simp [shown, first?_concat, h, String.append_assoc]

end WrittenLine

namespace Page
variable {p : Page}

theorem text_put_empty : (p.put "").text unit = p.text unit := by
  simp [Page.text, put, WrittenLine.shown_concat_empty]

theorem text_put_first (h : p.current.first? = none) (ht : text ≠ "") :
    (p.put text).text unit =
      p.text unit ++ String.join (List.replicate p.levels unit) ++ text := by
  have hline : WrittenLine.shown unit (p.current ++ [⟨p.levels, text⟩]) =
      String.join (List.replicate p.levels unit) ++ text := WrittenLine.shown_concat_first h ht
  simp [Page.text, put, hline, WrittenLine.shown_of_none h, String.append_assoc]

theorem text_put_further (h : p.current.first? = some first) :
    (p.put text).text unit = p.text unit ++ text := by
  simp [Page.text, put, WrittenLine.shown_concat_further h, String.append_assoc]

theorem text_endLine : p.endLine.text unit = p.text unit ++ "\n" := by
  have hnew : WrittenLine.shown unit [] = "" := rfl
  simp [Page.text, endLine, hnew, String.append_assoc]

end Page
end Shown

/-- The writer is never refused, and it has written the page. A line starts as long as the last one
has no text. -/
structure LineWriter.Shows (w : LineWriter) (indentation : String) (p : Page) : Prop where
  free : w.sink = .unlimited
  unit : w.unit = indentation
  held : w.held = p.text indentation
  level : w.level = p.levels
  atLineStart : w.atLineStart = p.current.first?.isNone

section Steps
open LineWriter
variable {w : LineWriter} {u : String} {p : Page}

theorem write_inside (h : w.sink = .unlimited) (hstart : w.atLineStart = false) {text : String}
    (ht : text ≠ "") :
    w.write text = .ok { w with held := w.held ++ text, offered := w.offered + 1 } := by
  rw [LineWriter.write, if_neg (by simpa using ht), if_neg (by simp [hstart])]
  exact offer_free h text

theorem write_shows (h : w.Shows u p) (text : String) :
    ∃ w', w.write text = .ok w' ∧ w'.Shows u (p.put text) := by
  by_cases ht : text = ""
  · subst ht
    refine ⟨w, rfl, h.free, h.unit, h.held.trans Page.text_put_empty.symm, h.level, ?_⟩
    rw [h.atLineStart, Page.put, WrittenLine.first?_concat, if_pos rfl, Option.or_none]
  · have hbegun : (p.put text).current.first?.isNone = false := by
      rw [Page.put, WrittenLine.first?_concat, if_neg ht]
      simp
    have hstart := h.atLineStart
    cases hfirst : p.current.first? with
    | none =>
      rw [hfirst, Option.isNone_none] at hstart
      refine ⟨_, write_start h.free hstart ht, h.free, h.unit, ?_, h.level, hbegun.symm⟩
      rw [Page.text_put_first hfirst ht, ← h.held, ← h.level, ← h.unit]
    | some first =>
      rw [hfirst, Option.isNone_some] at hstart
      refine ⟨_, write_inside h.free hstart ht, h.free, h.unit, ?_, h.level,
        hstart.trans hbegun.symm⟩
      rw [Page.text_put_further hfirst, ← h.held]

theorem newline_shows (h : w.Shows u p) : ∃ w', w.newline = .ok w' ∧ w'.Shows u p.endLine := by
  refine ⟨_, newline_free h.free, h.free, h.unit, ?_, h.level, rfl⟩
  rw [Page.text_endLine, ← h.held]

theorem writeln_shows (h : w.Shows u p) (text : String) :
    ∃ w', w.writeln text = .ok w' ∧ w'.Shows u (p.put text).endLine := by
  obtain ⟨w₁, hw₁, h₁⟩ := write_shows h text
  obtain ⟨w₂, hw₂, h₂⟩ := newline_shows h₁
  exact ⟨w₂, bind_eq_ok.2 ⟨w₁, hw₁, hw₂⟩, h₂⟩

theorem writeLines_shows (h : w.Shows u p) (texts : List String) :
    ∃ w', w.writeLines texts = .ok w' ∧ w'.Shows u (p.putLines texts) := by
  induction texts generalizing w p with
  | nil => exact ⟨w, rfl, h⟩
  | cons t ts ih =>
    obtain ⟨w₁, hw₁, h₁⟩ := writeln_shows h t
    obtain ⟨w₂, hw₂, h₂⟩ := ih h₁
    exact ⟨w₂, bind_eq_ok.2 ⟨w₁, hw₁, hw₂⟩, h₂⟩

theorem blankLine_shows (h : w.Shows u p) :
    ∃ w', w.blankLine = .ok w' ∧ w'.Shows u (p.take .blankLine) := by
  obtain ⟨w₁, hw₁, h₁⟩ := newline_shows h
  rw [Page.take, blankLine, h.atLineStart]
  cases p.current.first? with
  | none => exact ⟨w₁, hw₁, h₁⟩
  | some first =>
    obtain ⟨w₂, hw₂, h₂⟩ := newline_shows h₁
    exact ⟨w₂, bind_eq_ok.2 ⟨w₁, hw₁, hw₂⟩, h₂⟩

theorem comment_eq (w : LineWriter) (text : String) :
    w.comment text = w.writeLines (commentLines [text]) := by
  simp [comment, commentLines]

/-- No step is refused, and each does to the page what it does to the writer. -/
theorem perform_shows (h : w.Shows u p) (s : WriterStep) :
    ∃ w', w.perform s = .ok w' ∧ w'.Shows u (p.take s) := by
  cases s with
  | write text => exact write_shows h text
  | writeln text => exact writeln_shows h text
  | comment text =>
    rw [perform, comment_eq]
    exact writeLines_shows h _
  | newline => exact newline_shows h
  | blankLine => exact blankLine_shows h
  | indent => exact ⟨w.indent, rfl, h.free, h.unit, h.held, congrArg (· + 1) h.level, h.atLineStart⟩
  | dedent => exact ⟨w.dedent, rfl, h.free, h.unit, h.held, congrArg (· - 1) h.level, h.atLineStart⟩

theorem follow_shows (h : w.Shows u p) (steps : List WriterStep) :
    (w.follow steps).Shows u (steps.foldl Page.take p) := by
  induction steps generalizing w p with
  | nil => exact h
  | cons s steps ih =>
    obtain ⟨w', hw', h'⟩ := perform_shows h s
    have hcons : w.follow (s :: steps) = w'.follow steps := by
      rw [follow, List.foldl_cons, hw']
      rfl
    rw [hcons]
    exact ih h'

theorem new_shows (u : String) : (new .unlimited u).Shows u .empty := ⟨rfl, rfl, rfl, rfl, rfl⟩

end Steps

section Lines
variable {unit : String} {p : Page} {l : WrittenLine} {steps : List WriterStep}

/-- No text of the page can end a line. -/
def Page.Unbroken (p : Page) : Prop := ∀ l ∈ p.lines, NewlineFree (l.map Written.text)

theorem newline_not_mem_join {texts : List String} (h : NewlineFree texts) :
    '\n' ∉ (String.join texts).toList := by
  rw [String.toList_join, List.mem_flatMap]
  rintro ⟨t, ht, hmem⟩
  exact h t ht hmem

theorem newline_not_mem_shown (hunit : '\n' ∉ unit.toList) (h : NewlineFree (l.map Written.text)) :
    '\n' ∉ (l.shown unit).toList := by
  rw [WrittenLine.shown]
  cases l.first? with
  | none => exact List.not_mem_nil
  | some first =>
    have hlevels : NewlineFree (List.replicate first.levels unit) := by
      intro t ht
      rwa [List.eq_of_mem_replicate ht]
    rw [String.toList_append, List.mem_append]
    exact not_or.2 ⟨newline_not_mem_join hlevels, newline_not_mem_join h⟩

/-- The lines of the text are the lines of the page. -/
theorem Page.splitOn_text (hunit : '\n' ∉ unit.toList) (h : p.Unbroken) :
    (p.text unit).toList.splitOn '\n' = p.lines.map fun l => (l.shown unit).toList := by
  obtain ⟨finished, current, levels⟩ := p
  obtain ⟨hfinished, hcurrent⟩ := List.forall_mem_append.1 h
  have hlast := newline_not_mem_shown hunit (hcurrent current List.mem_cons_self)
  rw [Page.text, Page.lines]
  clear h hcurrent
  induction finished with
  | nil => simpa using List.splitOn_eq_singleton hlast
  | cons l ls ih =>
    obtain ⟨hl, hls⟩ := List.forall_mem_cons.1 hfinished
    have hline := newline_not_mem_shown hunit hl
    simpa [splitOn_line hline] using ih hls

theorem Page.Unbroken.put (h : p.Unbroken) {text : String} (ht : '\n' ∉ text.toList) :
    (p.put text).Unbroken := by
  obtain ⟨hfinished, hcurrent⟩ := List.forall_mem_append.1 h
  refine List.forall_mem_append.2 ⟨hfinished, List.forall_mem_singleton.2 ?_⟩
  rw [Page.put, List.map_append]
  exact newlineFree_append.2 ⟨hcurrent _ List.mem_cons_self, List.forall_mem_singleton.2 ht⟩

theorem Page.Unbroken.endLine (h : p.Unbroken) : p.endLine.Unbroken :=
  List.forall_mem_append.2 ⟨h, List.forall_mem_singleton.2 (List.forall_mem_nil _)⟩

theorem Page.Unbroken.putLines (h : p.Unbroken) {texts : List String} (ht : NewlineFree texts) :
    (p.putLines texts).Unbroken := by
  induction texts generalizing p with
  | nil => exact h
  | cons t ts ih =>
    obtain ⟨ht, hts⟩ := newlineFree_cons.1 ht
    exact ih (h.put ht).endLine hts

theorem newlineFree_commentLines (doc : List String) : NewlineFree (commentLines doc) := by
  intro l hl
  obtain ⟨text, rfl, htext⟩ := isLineComment_of_mem hl
  simpa using htext

theorem Page.Unbroken.take (h : p.Unbroken) {s : WriterStep} (hs : NewlineFree s.plainTexts) :
    (p.take s).Unbroken := by
  cases s with
  | write text => exact h.put (hs text List.mem_cons_self)
  | writeln text => exact (h.put (hs text List.mem_cons_self)).endLine
  | comment text => exact h.putLines (newlineFree_commentLines [text])
  | newline => exact h.endLine
  | blankLine =>
    rw [Page.take]
    split
    · exact h.endLine.endLine
    · exact h.endLine
  | indent | dedent => exact h

theorem Page.Unbroken.takeAll (hp : p.Unbroken) (h : ∀ s ∈ steps, NewlineFree s.plainTexts) :
    (steps.foldl Page.take p).Unbroken := by
  induction steps generalizing p with
  | nil => exact hp
  | cons s steps ih =>
    obtain ⟨hs, hsteps⟩ := List.forall_mem_cons.1 h
    exact ih (hp.take hs) hsteps

end Lines

section LevelChanges
variable {w : LineWriter} {unit : String} {p : Page} {changes : List WriterStep}

theorem levelChanges_current (h : ∀ s ∈ changes, s.IsLevelChange) :
    (changes.foldl Page.take p).finished = p.finished ∧
      (changes.foldl Page.take p).current = p.current := by
  induction changes generalizing p with
  | nil => exact ⟨rfl, rfl⟩
  | cons s changes ih =>
    obtain ⟨hs, hchanges⟩ := List.forall_mem_cons.1 h
    obtain ⟨hfinished, hcurrent⟩ := ih (p := p.take s) hchanges
    rcases hs with rfl | rfl
    · exact ⟨hfinished, hcurrent⟩
    · exact ⟨hfinished, hcurrent⟩

theorem levelChanges_held (hw : w.Shows unit p) (hbegun : p.current.first?.isSome = true)
    (h : ∀ s ∈ changes, s.IsLevelChange) (text : String) :
    (w.follow (changes ++ [.write text])).held = w.held ++ text := by
  obtain ⟨first, hfirst⟩ := Option.isSome_iff_exists.1 hbegun
  obtain ⟨hfinished, hcurrent⟩ := levelChanges_current (p := p) h
  have hfirst' : (changes.foldl Page.take p).current.first? = some first := hcurrent ▸ hfirst
  rw [(follow_shows hw _).held, hw.held, List.foldl_append, List.foldl_cons, List.foldl_nil,
    Page.take, Page.text_put_further hfirst', Page.text, Page.text, hfinished, hcurrent]

end LevelChanges

/-- What a writer that has filled a page shows of it, and what leaves a line as it is. -/
structure LineWriter.KeepsLines (w : LineWriter) (unit : String) (p : Page) : Prop where
  held : w.held = p.text unit
  /-- With units that are part of a line the lines of the text are those of the page. -/
  lines : '\n' ∉ unit.toList → w.held.toList.splitOn '\n' =
    p.lines.map fun l => (l.shown unit).toList
  accepts : ∀ s, ∃ w', w.perform s = .ok w'
  emptyText : w.perform (.write "") = .ok w
  /-- On a line with text the levels can change, and the next text still follows at once. -/
  levelChanges : p.current.first?.isSome = true → ∀ changes : List WriterStep,
    (∀ s ∈ changes, s.IsLevelChange) → ∀ text,
      (w.follow (changes ++ [.write text])).held = w.held ++ text
  unindented : ∀ l ∈ p.lines, (∀ t ∈ l, t.text = "") → l.shown unit = ""

/-- Whatever is asked of a writer that is never refused, it holds the lines as they were written:
each has the levels of its first text that is not empty, followed by its texts, or nothing. -/
theorem follow_keepsLines (unit : String) {steps : List WriterStep}
    (h : ∀ s ∈ steps, NewlineFree s.plainTexts) :
    ((LineWriter.new .unlimited unit).follow steps).KeepsLines unit (.ofSteps steps) := by
  have hshows := follow_shows (new_shows unit) steps
  have hempty : Page.empty.Unbroken := by simp [Page.Unbroken, Page.lines, Page.empty, NewlineFree]
  refine ⟨hshows.held, fun hunit => ?_, fun s => ?_, rfl, fun hbegun changes hchanges text => ?_,
    fun l _ hl => WrittenLine.shown_of_none (WrittenLine.first?_eq_none_iff.2 hl)⟩
  · rw [hshows.held]
    exact Page.splitOn_text hunit (hempty.takeAll h)
  · obtain ⟨w', hw', -⟩ := perform_shows hshows s
    exact ⟨w', hw'⟩
  · exact levelChanges_held hshows hbegun hchanges text

/-- A line with an empty text before its first one, a level that is closed behind that, a comment
with an empty line, and an empty text at the end. -/
def shiftedSteps : List WriterStep :=
  [.indent, .write "", .indent, .write "if ok", .dedent, .write " \x7b", .newline, .blankLine,
   .comment "one\n\ntwo", .dedent, .writeln "\x7d", .indent, .write ""]

theorem shiftedSteps_keepsLines :
    (∀ s ∈ shiftedSteps, NewlineFree s.plainTexts) ∧
      ((LineWriter.new .unlimited "  ").follow shiftedSteps).KeepsLines "  "
        (.ofSteps shiftedSteps) ∧
      ((LineWriter.new .unlimited "  ").follow shiftedSteps).held =
        "    if ok \x7b\n\n  // one\n  //\n  // two\n\x7d\n" := by
  have hfree : ∀ s ∈ shiftedSteps, NewlineFree s.plainTexts := by
    unfold NewlineFree
    decide
  have hcomment : commentLines ["one\n\ntwo"] = ["// one", "//", "// two"] := by
    simp [commentLines, textLines, LineWriter.commentLine, Text.lines, ontoFirst]
  have hkeeps := follow_keepsLines "  " hfree
  refine ⟨hfree, hkeeps, ?_⟩
  rw [hkeeps.held]
  simp only [Page.ofSteps, shiftedSteps, List.foldl_cons, Page.take, hcomment]
  decide +kernel

end RoutineBindings.Go
