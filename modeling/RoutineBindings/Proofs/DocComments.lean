import RoutineBindings.Proofs.DeclarationTexts
import RoutineBindings.Wrapper.Decls

/-!
# Doc comments

The description of a routine is free text and comes from the database. Two stages cut it into lines,
and the second one writes each line behind its own marker, so that no part of the text can leave the
comment. The second stage drops a line of which the first has left nothing.
-/
namespace RoutineBindings.Text

section Lines
variable {c : Char} {s l : List Char} {ls : List (List Char)}

theorem mem_ontoFirst (h : l ∈ ontoFirst c ls) : l ∈ ls ∨ ∃ t, l = c :: t ∧ (t = [] ∨ t ∈ ls) := by
  cases ls with
  | nil => exact .inr ⟨[], List.mem_singleton.1 h, .inl rfl⟩
  | cons t ls =>
    rcases List.mem_cons.1 h with rfl | h
    · exact .inr ⟨t, rfl, .inr List.mem_cons_self⟩
    · exact .inl (List.mem_cons_of_mem t h)

theorem newline_not_mem_ontoFirst (hc : c ≠ '\n') (hls : ∀ t ∈ ls, '\n' ∉ t)
    (h : l ∈ ontoFirst c ls) : '\n' ∉ l := by
  rcases mem_ontoFirst h with h | ⟨t, rfl, ht⟩
  · exact hls l h
  · have htail : '\n' ∉ t := by
      rcases ht with rfl | ht
      · exact List.not_mem_nil
      · exact hls t ht
    simp [Ne.symm hc, htail]

theorem newline_not_mem_lines (s : List Char) : ∀ l ∈ lines s, '\n' ∉ l := by
  induction s using lines.induct with
  | case1 => simp [lines]
  | case2 s ih => simpa [lines] using ih
  | case3 s ih => simpa [lines] using ih
  | case4 c hc =>
    have hc : c ≠ '\n' := hc
    simp [lines, Ne.symm hc]
  | case5 c s hc hr ih =>
    rw [lines.eq_5 c s hc hr]
    exact fun l => newline_not_mem_ontoFirst hc ih
  | case6 c s hc hr hne hn ih =>
    rw [lines.eq_6 c s hc hr hne hn]
    exact fun l => newline_not_mem_ontoFirst hc ih

/-- What is one line already is not cut again. A carriage return at its end stays, as no line feed
follows it. -/
theorem lines_of_newline_not_mem (hne : s ≠ []) (h : '\n' ∉ s) : lines s = [s] := by
  induction s using lines.induct with
  | case1 => exact absurd rfl hne
  | case2 s | case3 s | case5 c s => simp at h
  | case4 c hc => exact lines.eq_4 c hc
  | case6 c s hc hr hs hn ih =>
    rw [lines.eq_6 c s hc hr hs hn, ih hs fun hmem => h (List.mem_cons_of_mem c hmem)]
    rfl

theorem trimEnd_subset (s : List Char) : trimEnd s ⊆ s := by
  induction s with
  | nil => exact List.Subset.refl []
  | cons c s ih =>
    cases h : trimEnd s with
    | nil => cases hc : isBlank c <;> simp [trimEnd, h, hc]
    | cons d t =>
      simp only [trimEnd, h]
      exact List.cons_subset_cons c (h ▸ ih)

/-- Cutting a trimmed line again gives the line, or nothing if only blanks stood on it. -/
theorem lines_trimEnd (h : '\n' ∉ l) :
    lines (trimEnd l) = if trimEnd l = [] then [] else [trimEnd l] := by
  split
  · rename_i hnil
    rw [hnil, lines]
  · rename_i hne
    exact lines_of_newline_not_mem hne fun hmem => h (trimEnd_subset l hmem)

end Lines
end RoutineBindings.Text

namespace RoutineBindings.Go
open Text LineWriter

/-- Lines of text, each ended by a newline. -/
def block (ls : List String) : String := String.join (ls.map (· ++ "\n"))

/-- The text is a comment to the end of its line, and it is one line. -/
def IsLineComment (s : String) : Prop := ∃ text, s = "//" ++ text ∧ '\n' ∉ text.toList

/-- The comment lines that doc texts are written as. -/
def commentLines (doc : List String) : List String :=
  doc.flatMap fun d => (textLines d).map commentLine

section Comments

theorem commentLine_ne (l : String) : commentLine l ≠ "" := by
  unfold commentLine
  split
  · decide
  · intro h
    simpa using congrArg String.toList h

theorem isLineComment_commentLine {l : String} (h : '\n' ∉ l.toList) :
    IsLineComment (commentLine l) := by
  unfold commentLine
  split
  · exact ⟨"", rfl, List.not_mem_nil⟩
  · exact ⟨" " ++ l, by rw [← String.append_assoc]; rfl, by simpa using h⟩

theorem isLineComment_of_mem {doc : List String} {l : String} (h : l ∈ commentLines doc) :
    IsLineComment l := by
  obtain ⟨d, -, hl⟩ := List.mem_flatMap.1 h
  obtain ⟨t, ht, rfl⟩ := List.mem_map.1 hl
  obtain ⟨cs, hcs, rfl⟩ := List.mem_map.1 ht
  refine isLineComment_commentLine ?_
  rw [String.toList_ofList]
  exact newline_not_mem_lines d.toList cs hcs

theorem block_append (ls ms : List String) : block (ls ++ ms) = block ls ++ block ms := by
  simp [block, String.join_append]

/-- Outside of all levels a line has no indentation. -/
theorem join_tabbed (ls : List String) : String.join (ls.map (tabbed 0)) = block ls := by
  rw [block, funext tabbed_zero]

theorem writeDoc_writes (doc : List String) :
    Writes (writeDoc · doc) 0 (block (commentLines doc)) := by
  induction doc with
  | nil => exact writes_ok
  | cons d ds ih =>
    have hlines : ∀ l ∈ (textLines d).map commentLine, l ≠ "" := by
      intro l hl
      obtain ⟨t, -, rfl⟩ := List.mem_map.1 hl
      exact commentLine_ne t
    rw [commentLines, List.flatMap_cons, block_append, ← join_tabbed ((textLines d).map commentLine)]
    exact (writeLines_writes hlines).bind ih

/-- A function prints as its comment and then as it does without one. -/
theorem FuncDecl.print_doc (f : FuncDecl) :
    (Decl.func f).print =
      block (commentLines f.doc) ++ (Decl.func { f with doc := [] }).print := by
  obtain ⟨w₁, hw₁, h₁⟩ := writeDoc_writes f.doc .withTabs "" withTabs_holds
  obtain ⟨w, v, hw, hv, hheld⟩ := (FuncDecl.write_additive { f with doc := [] }).after h₁
  have hfunc : f.write .withTabs = .ok v := bind_eq_ok.2 ⟨w₁, hw₁, hv⟩
  have hbare : (Decl.func { f with doc := [] }).print = w.held := by
    simp only [Decl.print, Decl.write, hw, Result.state]
  rw [hbare, Decl.print, Decl.write, hfunc, Result.state, hheld, String.empty_append]

end Comments
end RoutineBindings.Go

namespace RoutineBindings

/-- The routine with another description, or with none. -/
def ResolvedRoutine.described (r : ResolvedRoutine) (d : Option String) : ResolvedRoutine :=
  { r with routine := { r.routine with description := d } }

/-- A declaration without what a function says about itself. -/
def Go.Decl.withoutDoc : Decl → Decl
  | .func f => .func { f with doc := [] }
  | d => d

end RoutineBindings

namespace RoutineBindings.Wrapper
open Go Text LineWriter

/-- The wrapper of a routine as it prints. -/
def funcText (w : WrapperOptions) (r : ResolvedRoutine) : String := (Decl.func (funcDecl w r)).print

section Descriptions
variable (w : WrapperOptions) (r : ResolvedRoutine)

/-- Only the comment of the wrapper is made from the description. -/
theorem funcDecl_described (d : Option String) :
    funcDecl w (r.described d) =
      { funcDecl w (r.described none) with doc := docLines r.routine.goName d r.arguments } := rfl

theorem funcText_described (d : Option String) :
    funcText w (r.described d) =
      block (commentLines (docLines r.routine.goName d r.arguments)) ++
        funcText w (r.described none) := by
  rw [funcText, funcDecl_described, FuncDecl.print_doc]
  rfl

theorem decls_described (d : Option String) :
    (decls w (r.described d)).map Decl.withoutDoc =
      (decls w (r.described none)).map Decl.withoutDoc := by
  have hargs : argsDecl (r.described d) = argsDecl (r.described none) := rfl
  rw [decls, decls, hargs, List.map_append, List.map_append]
  rfl

/-- Descriptions change nothing but comments: the wrapper's declarations are the same without the
comment of the function, the file takes the same imports and inline functions from it, and what is
printed are line comments before the text of the wrapper without a description. -/
theorem description_harmless (d d' : Option String) :
    (decls w (r.described d)).map Decl.withoutDoc = (decls w (r.described d')).map Decl.withoutDoc ∧
    (∀ (f : WrapperFile) n, f.prepare (r.described d) n = f.prepare (r.described d') n) ∧
    ∃ comments, (∀ l ∈ comments, IsLineComment l) ∧
      funcText w (r.described d) = block comments ++ funcText w (r.described none) := by
  refine ⟨?_, fun f n => rfl, commentLines (docLines r.routine.goName d r.arguments), ?_, ?_⟩
  · rw [decls_described, decls_described w r d']
  · exact fun l => isLineComment_of_mem
  · exact funcText_described w r d

end Descriptions

/-- A line of the text as a comment, without the blanks at its end. -/
def shownLine (l : List Char) : String := commentLine (String.ofList (trimEnd l))

/-- The comment of the wrapper is these lines one after the other. -/
def ShowsLines (w : WrapperOptions) (r : ResolvedRoutine) (ls : List (List Char)) : Prop :=
  funcText w r = block (ls.map shownLine) ++ funcText w (r.described none)

/-- The lines of a wrapper's name, a blank and its description, in which the names of arguments have
become those of parameters. -/
def descriptionLines (r : ResolvedRoutine) (first : Char) (rest : List Char) : List (List Char) :=
  lines (docText r.routine.goName r.arguments first rest)

/-- Something other than blanks stands on the line. -/
def hasText (l : List Char) : Bool := !(trimEnd l).isEmpty

section Lines
variable (w : WrapperOptions) (r : ResolvedRoutine) (first : Char) (rest : List Char)

theorem hasText_iff {l : List Char} : hasText l = true ↔ ∃ c ∈ l, isBlank c = false := by
  rw [hasText, Bool.not_eq_true', ← Bool.not_eq_true, List.isEmpty_iff, trimEnd_eq_nil_iff]
  simp

/-- Of the two stages the first leaves a line empty and the second writes no line for it. -/
theorem commentLines_trimmed {l : List Char} (h : '\n' ∉ l) :
    (textLines (String.ofList (trimEnd l))).map commentLine =
      if hasText l then [shownLine l] else [] := by
  rw [textLines, String.toList_ofList, lines_trimEnd h, hasText]
  by_cases hnil : trimEnd l = []
  · simp [hnil]
  · simp [hnil, shownLine]

theorem commentLines_docLines :
    commentLines (docLines r.routine.goName (some (String.ofList (first :: rest))) r.arguments) =
      ((descriptionLines r first rest).filter hasText).map shownLine := by
  have hcut : ∀ l ∈ descriptionLines r first rest, '\n' ∉ l := newline_not_mem_lines _
  rw [docLines, Option.map_some, String.toList_ofList]
  simp only
  rw [← descriptionLines]
  generalize descriptionLines r first rest = ls at hcut ⊢
  induction ls with
  | nil => rfl
  | cons l ls ih =>
    have hl : '\n' ∉ l := hcut l List.mem_cons_self
    rw [List.map_cons, commentLines, List.flatMap_cons, commentLines_trimmed hl, ← commentLines,
      ih fun t ht => hcut t (List.mem_cons_of_mem l ht)]
    cases ht : hasText l <;> simp [ht]

/-- A text that is written as lines has as many newlines as lines. -/
theorem count_block {ls : List String} (h : ∀ l ∈ ls, '\n' ∉ l.toList) :
    (block ls).toList.count '\n' = ls.length := by
  induction ls with
  | nil => rfl
  | cons l ls ih =>
    have hl : l.toList.count '\n' = 0 := List.count_eq_zero.2 (h l List.mem_cons_self)
    have hrest := ih fun t ht => h t (List.mem_cons_of_mem l ht)
    have hcons : (block (l :: ls)).toList = l.toList ++ '\n' :: (block ls).toList := by
      simp [block]
    rw [hcons, List.count_append, hl, List.count_cons_self, hrest, List.length_cons, Nat.zero_add]

theorem newline_not_mem_shownLines {ls : List (List Char)} (h : ∀ l ∈ ls, '\n' ∉ l) :
    ∀ s ∈ ls.map shownLine, '\n' ∉ s.toList := by
  intro s hs
  obtain ⟨l, hl, rfl⟩ := List.mem_map.1 hs
  have htrimmed : '\n' ∉ (String.ofList (trimEnd l)).toList := by
    rw [String.toList_ofList]
    exact fun hmem => h l hl (trimEnd_subset l hmem)
  obtain ⟨text, htext, hnewline⟩ := isLineComment_commentLine htrimmed
  rw [shownLine, htext]
  simpa using hnewline

theorem funcText_kept :
    funcText w (r.described (some (String.ofList (first :: rest)))) =
      block (((descriptionLines r first rest).filter hasText).map shownLine) ++
        funcText w (r.described none) := by
  rw [funcText_described, commentLines_docLines]

/-- A comment that shows every line has no line to leave out. -/
theorem hasText_of_showsLines
    (h : ShowsLines w (r.described (some (String.ofList (first :: rest))))
      (descriptionLines r first rest)) :
    ∀ l ∈ descriptionLines r first rest, hasText l = true := by
  have hcut : ∀ l ∈ descriptionLines r first rest, '\n' ∉ l := newline_not_mem_lines _
  rw [ShowsLines, funcText_kept] at h
  have hblocks := (String.append_left_inj _).1 h
  generalize descriptionLines r first rest = ls at hcut hblocks ⊢
  have hkept : ∀ l ∈ ls.filter hasText, '\n' ∉ l := fun l hl => hcut l (List.mem_filter.1 hl).1
  have hcount := congrArg (fun text : String => text.toList.count '\n') hblocks
  simp only [count_block (newline_not_mem_shownLines hkept),
    count_block (newline_not_mem_shownLines hcut), List.length_map] at hcount
  exact List.length_filter_eq_length_iff.1 hcount

end Lines

/-- The comment of a wrapper is the lines of its text on which something stands, in their order. So
it shows every line exactly if no line is blank. Without a description, or with an empty one, there
is no comment. -/
theorem showsLines_iff (w : WrapperOptions) (r : ResolvedRoutine) (first : Char)
    (rest : List Char) :
    (ShowsLines w (r.described (some (String.ofList (first :: rest))))
        (descriptionLines r first rest) ↔
      ∀ l ∈ descriptionLines r first rest, ∃ c ∈ l, isBlank c = false) ∧
    funcText w (r.described (some (String.ofList (first :: rest)))) =
      block (((descriptionLines r first rest).filter hasText).map shownLine) ++
        funcText w (r.described none) ∧
    funcText w (r.described (some "")) = funcText w (r.described none) := by
  refine ⟨⟨fun h l hl => ?_, fun h => ?_⟩, funcText_kept w r first rest, rfl⟩
  · exact hasText_iff.1 (hasText_of_showsLines w r first rest h l hl)
  · have hall : (descriptionLines r first rest).filter hasText = descriptionLines r first rest :=
      List.filter_eq_self.2 fun l hl => hasText_iff.2 (h l hl)
    rw [ShowsLines, funcText_kept, hall]
    rfl

/-- A routine whose description is going to be two paragraphs. -/
def pingHost : ResolvedRoutine :=
  { routine := ⟨"public", "ping_host", .normal, [], "", none⟩, arguments := [], result := .none }

/-- The empty line between the paragraphs is lost. -/
theorem pingHost_not_shown :
    descriptionLines pingHost 'P' "ings.\n\nOnce.".toList =
        ["PingHost pings.".toList, [], "Once.".toList] ∧
      ¬ ShowsLines ⟨"db", false, .accessor, "getDB", none⟩
        (pingHost.described (some "Pings.\n\nOnce."))
        (descriptionLines pingHost 'P' "ings.\n\nOnce.".toList) := by
  have hdoc : docText pingHost.routine.goName pingHost.arguments 'P' "ings.\n\nOnce.".toList =
      "PingHost pings.\n\nOnce.".toList := by decide +kernel
  have hlines : descriptionLines pingHost 'P' "ings.\n\nOnce.".toList =
      ["PingHost pings.".toList, [], "Once.".toList] := by
    rw [descriptionLines, hdoc]
    simp [lines, ontoFirst]
  have htext : "Pings.\n\nOnce." = String.ofList ('P' :: "ings.\n\nOnce.".toList) := rfl
  refine ⟨hlines, fun h => ?_⟩
  rw [htext] at h
  have hall := hasText_of_showsLines _ pingHost 'P' _ h
  have hempty : hasText [] = true := hall [] (by rw [hlines]; decide)
  exact absurd hempty (by decide)

end RoutineBindings.Wrapper
