import RoutineBindings.Proofs.LineWriting
import RoutineBindings.Proofs.Outcomes
import RoutineBindings.Proofs.QuotedTexts

/-!
# Blocks at any depth

Statements open and close levels of their own, and every line begins with the levels that are open.
So a block looks the same at every depth: below the outermost level only the tabs in front of its
lines are added, and the writer is left at the depth that it came with.
-/
namespace RoutineBindings.Go

mutual
/-- The names and operators that an expression is written with. Literals hold texts of their own. -/
def Expr.spellings : Expr → List String
  | .name t => [t]
  | .text _ => []
  | .call f as => f :: spellingsAll as
  | .method r m as => r.spellings ++ m :: spellingsAll as
  | .address e => e.spellings
  | .binary l op r => l.spellings ++ op :: r.spellings

def spellingsAll : List Expr → List String
  | [] => []
  | e :: es => e.spellings ++ spellingsAll es
end

mutual
/-- The names, types and operators that a statement is written with. -/
def Stmt.spellings : Stmt → List String
  | .define ns e | .assign ns e => ns ++ e.spellings
  | .declare n t => [n, t]
  | .branch e body | .loop e body => e.spellings ++ blockSpellings body
  | .range k v e body => k :: v.toList ++ e.spellings ++ blockSpellings body
  | .choose e clauses => e.spellings ++ clausesSpellings clauses
  | .defer e | .expr e => e.spellings
  | .ret es => spellingsAll es

def blockSpellings : List Stmt → List String
  | [] => []
  | s :: ss => s.spellings ++ blockSpellings ss

def clausesSpellings : List Clause → List String
  | [] => []
  | .mk es body :: cs => spellingsAll es ++ blockSpellings body ++ clausesSpellings cs
end

/-- Nothing of the texts can end a line. -/
def NewlineFree (texts : List String) : Prop := ∀ t ∈ texts, '\n' ∉ t.toList

/-- Tabs stand before a line, unless it is empty. -/
def indentedLine (depth : Nat) (line : List Char) : List Char :=
  if line.isEmpty then [] else List.replicate depth '\t' ++ line

/-- The text with tabs before each of its lines that is not empty. -/
def indented (depth : Nat) (text : String) : String :=
  String.ofList (['\n'].intercalate ((text.toList.splitOn '\n').map (indentedLine depth)))

/-- Statements as they print on their own. -/
def printStmts (ss : List Stmt) : String := (writeStmts .withTabs ss).state.held

section Lines
variable {ts us : List String} {depth : Nat} {l rest : List Char}

theorem newlineFree_append : NewlineFree (ts ++ us) ↔ NewlineFree ts ∧ NewlineFree us :=
  List.forall_mem_append

theorem newlineFree_cons {t : String} :
    NewlineFree (t :: ts) ↔ '\n' ∉ t.toList ∧ NewlineFree ts :=
  List.forall_mem_cons

theorem newline_not_mem_joined {s : String} (hs : '\n' ∉ s.toList) (h : NewlineFree ts) :
    '\n' ∉ (Text.joined s ts).toList := by
  intro hmem
  rcases Text.mem_joined hmem with hmem | ⟨t, ht, hmem⟩
  · exact hs hmem
  · exact h t ht hmem

theorem indented_empty (depth : Nat) : indented depth "" = "" := by
  simp [indented, indentedLine]

/-- Before a newline stands the first line of a text. -/
theorem splitOn_line (h : '\n' ∉ l) (rest : List Char) :
    (l ++ '\n' :: rest).splitOn '\n' = l :: rest.splitOn '\n' := by
  rw [List.splitOn, List.splitOnP_append_cons _ _ (by decide), ← List.splitOn, ← List.splitOn,
    List.splitOn_eq_singleton h]
  rfl

/-- The first line gets its tabs, and the rest is indented by itself. -/
theorem indented_line (h : '\n' ∉ l) :
    indented depth (String.ofList (l ++ '\n' :: rest)) =
      String.ofList (indentedLine depth l ++ '\n' :: (indented depth (String.ofList rest)).toList)
    := by
  obtain ⟨l', ls, hrest⟩ := List.exists_cons_of_ne_nil (List.splitOn_ne_nil '\n' rest)
  rw [indented, String.toList_ofList, splitOn_line h, hrest]
  simp [indented, hrest]

end Lines

/-- Lines, each with the number of levels that it stands below the outermost one. -/
abbrev Layout := List (Nat × String)

namespace Layout

/-- One level below. -/
def deeper (ls : Layout) : Layout := ls.map fun l => (l.1 + 1, l.2)

/-- A line as the writer begins and ends it. -/
def lineText (level : Nat) (line : String) : String :=
  if line = "" then "\n" else tabbed level line

def text (level : Nat) (ls : Layout) : String :=
  String.join (ls.map fun l => lineText (level + l.1) l.2)

variable {ls ms : Layout} {level depth : Nat} {line : String}

theorem text_append : (ls ++ ms).text level = ls.text level ++ ms.text level := by
  simp [text, String.join_append]

theorem text_cons {n : Nat} :
    text level ((n, line) :: ls) = lineText (level + n) line ++ text level ls := by
  simp [text]

theorem text_deeper : ls.deeper.text level = ls.text (level + 1) := by
  have hlevel : ∀ l : Nat × String, level + (l.1 + 1) = level + 1 + l.1 := fun l => by omega
  simp [text, deeper, Function.comp_def, hlevel]

theorem toList_tabbed : (tabbed level line).toList =
    List.replicate level '\t' ++ (line.toList ++ ['\n']) := by
  have htabs : (String.join (List.replicate level "\t")).toList = List.replicate level '\t' := by
    induction level with
    | zero => rfl
    | succ level ih => simpa [List.replicate_succ] using ih
  simp [tabbed, htabs]

/-- To indent a line is to write it at a deeper level. -/
theorem indented_lineText (h : '\n' ∉ line.toList) (rest : String) :
    indented depth (lineText level line ++ rest) =
      lineText (level + depth) line ++ indented depth rest := by
  by_cases hline : line = ""
  · have hrest : "\n" ++ rest = String.ofList ([] ++ '\n' :: rest.toList) := by
      rw [← String.toList_inj]
      simp
    rw [lineText, if_pos hline, lineText, if_pos hline, hrest,
      indented_line (l := []) List.not_mem_nil]
    simp [indentedLine]
  · have hrest : tabbed level line ++ rest =
        String.ofList ((List.replicate level '\t' ++ line.toList) ++ '\n' :: rest.toList) := by
      simp [← String.toList_inj, toList_tabbed]
    have hline' : '\n' ∉ List.replicate level '\t' ++ line.toList := by
      simp [h, List.mem_replicate]
    have hindented : indentedLine depth (List.replicate level '\t' ++ line.toList) =
        List.replicate (level + depth) '\t' ++ line.toList := by
      rw [indentedLine, if_neg (by simp [hline]), ← List.append_assoc,
        List.replicate_append_replicate, Nat.add_comm]
    rw [lineText, if_neg hline, lineText, if_neg hline, hrest, indented_line hline', hindented]
    simp [← String.toList_inj, toList_tabbed]

theorem indented_text (h : NewlineFree (ls.map Prod.snd)) :
    indented depth (ls.text 0) = ls.text depth := by
  induction ls with
  | nil => exact indented_empty depth
  | cons l ls ih =>
    obtain ⟨n, line⟩ := l
    obtain ⟨hline, hlines⟩ := newlineFree_cons.1 h
    rw [text_cons, text_cons, indented_lineText hline, ih hlines, Nat.zero_add, Nat.add_comm]

end Layout

namespace LineWriter

/-- From the start of a line on, the operation writes certain lines, whatever was written before. It
leaves the writer at the start of a line, with as many levels open as it found. -/
def Laid (f : LineWriter → Result) : Prop :=
  ∃ ls : Layout, NewlineFree (ls.map Prod.snd) ∧ ∀ level, Writes f level (ls.text level)

section Operations
variable {f g : LineWriter → Result}

theorem laid_ok : Laid .ok :=
  ⟨[], List.forall_mem_nil _, fun _ => by simpa [Layout.text] using writes_ok⟩

theorem writeln_laid {line : String} (hline : '\n' ∉ line.toList) : Laid (writeln · line) := by
  refine ⟨[(0, line)], by simpa [NewlineFree] using hline, fun level => ?_⟩
  have htext : Layout.text level [(0, line)] = Layout.lineText level line := by
    simp [Layout.text]
  rw [htext, Layout.lineText]
  by_cases hempty : line = ""
  · subst hempty
    exact newline_writes
  · rw [if_neg hempty]
    exact writeln_writes hempty

theorem Laid.bind (hf : Laid f) (hg : Laid g) : Laid fun w => f w >>= g := by
  obtain ⟨ls, hls, hf⟩ := hf
  obtain ⟨ms, hms, hg⟩ := hg
  refine ⟨ls ++ ms, ?_, fun level => ?_⟩
  · rw [List.map_append]
    exact newlineFree_append.2 ⟨hls, hms⟩
  · rw [Layout.text_append]
    exact (hf level).bind (hg level)

/-- What is written a level below is a block of its own, with its lines one level deeper. -/
theorem Laid.nested (hf : Laid f) (hg : Laid g) :
    Laid fun w => f w.indent >>= fun w => g w.dedent := by
  obtain ⟨ls, hls, hf⟩ := hf
  obtain ⟨ms, hms, hg⟩ := hg
  refine ⟨ls.deeper ++ ms, ?_, fun level => ?_⟩
  · have hdeeper : ls.deeper.map Prod.snd = ls.map Prod.snd := by
      simp [Layout.deeper, Function.comp_def]
    rw [List.map_append, hdeeper]
    exact newlineFree_append.2 ⟨hls, hms⟩
  · rw [Layout.text_append, Layout.text_deeper]
    exact (hf (level + 1)).nested (hg level)

/-- A block in braces is closed where its header stands. -/
theorem Laid.braced {header : String} (hheader : '\n' ∉ header.toList) (hf : Laid f) :
    Laid fun w => writeln w header >>= fun w => f w.indent >>= fun w => writeln w.dedent "\x7d" :=
  (writeln_laid hheader).bind (hf.nested (writeln_laid (by decide)))

end Operations
end LineWriter

section Expressions

mutual
theorem Expr.newline_not_mem_print :
    (e : Expr) → NewlineFree e.spellings → '\n' ∉ e.print.toList
  | .name t, h => h t List.mem_cons_self
  | .text v, _ => by
    rw [Expr.print]
    exact (quote_isLiteral v).oneLine.1
  | .call f as, h => by
    obtain ⟨hf, has⟩ := newlineFree_cons.1 h
    have hargs := newline_not_mem_joined (s := ", ") (by decide) (newlineFree_printAll as has)
    simp [Expr.print, hf, hargs]
  | .method r m as, h => by
    obtain ⟨hr, hrest⟩ := newlineFree_append.1 h
    obtain ⟨hm, has⟩ := newlineFree_cons.1 hrest
    have hrecv := r.newline_not_mem_print hr
    have hargs := newline_not_mem_joined (s := ", ") (by decide) (newlineFree_printAll as has)
    simp [Expr.print, hrecv, hm, hargs]
  | .address e, h => by
    have he := e.newline_not_mem_print h
    simp [Expr.print, he]
  | .binary l op r, h => by
    obtain ⟨hl, hrest⟩ := newlineFree_append.1 h
    obtain ⟨hop, hr⟩ := newlineFree_cons.1 hrest
    have hleft := l.newline_not_mem_print hl
    have hright := r.newline_not_mem_print hr
    simp [Expr.print, hleft, hop, hright]

theorem newlineFree_printAll :
    (es : List Expr) → NewlineFree (spellingsAll es) → NewlineFree (printAll es)
  | [], _ => by
    rw [printAll]
    exact List.forall_mem_nil _
  | e :: es, h => by
    obtain ⟨he, hes⟩ := newlineFree_append.1 h
    rw [printAll]
    exact newlineFree_cons.2 ⟨e.newline_not_mem_print he, newlineFree_printAll es hes⟩
end

theorem newline_not_mem_printList {es : List Expr} (h : NewlineFree (spellingsAll es)) :
    '\n' ∉ (printList es).toList :=
  newline_not_mem_joined (by decide) (newlineFree_printAll es h)

end Expressions

section Statements
open LineWriter

mutual
theorem Stmt.write_laid : (s : Stmt) → NewlineFree s.spellings → Laid (Stmt.write · s)
  | .define ns e, h | .assign ns e, h => by
    obtain ⟨hns, he⟩ := newlineFree_append.1 h
    have hnames := newline_not_mem_joined (s := ", ") (by decide) hns
    have hvalue := e.newline_not_mem_print he
    simp only [Stmt.write]
    exact writeln_laid (by simp [hnames, hvalue])
  | .declare n t, h => by
    obtain ⟨hn, ht⟩ := newlineFree_cons.1 h
    have htype := (newlineFree_cons.1 ht).1
    simp only [Stmt.write]
    exact writeln_laid (by simp [hn, htype])
  | .branch e body, h | .loop e body, h => by
    obtain ⟨he, hbody⟩ := newlineFree_append.1 h
    have hcond := e.newline_not_mem_print he
    simp only [Stmt.write]
    exact (writeStmts_laid body hbody).braced (by simp [hcond])
  | .range k v e body, h => by
    obtain ⟨hhead, hbody⟩ := newlineFree_append.1 h
    obtain ⟨hvars, he⟩ := newlineFree_append.1 hhead
    obtain ⟨hk, hv⟩ := newlineFree_cons.1 hvars
    have hsubject := e.newline_not_mem_print he
    have hheader : '\n' ∉ (rangeHeader k v e ++ " \x7b").toList := by
      cases v with
      | none => simp [rangeHeader, hk, hsubject]
      | some v =>
        have hvalue : '\n' ∉ v.toList := hv v List.mem_cons_self
        simp [rangeHeader, hk, hvalue, hsubject]
    simp only [Stmt.write]
    exact (writeStmts_laid body hbody).braced hheader
  | .choose e clauses, h => by
    obtain ⟨he, hclauses⟩ := newlineFree_append.1 h
    have hsubject := e.newline_not_mem_print he
    have hclose : Laid (writeln · "\x7d") := writeln_laid (by decide)
    simp only [Stmt.write]
    exact (writeln_laid (by simp [hsubject])).bind ((writeClauses_laid clauses hclauses).bind hclose)
  | .defer e, h | .expr e, h => by
    have hvalue := e.newline_not_mem_print h
    simp only [Stmt.write]
    exact writeln_laid (by simp [hvalue])
  | .ret es, h => by
    have hvalues := newline_not_mem_printList h
    simp only [Stmt.write]
    cases es with
    | nil => exact writeln_laid (by decide)
    | cons e es => exact writeln_laid (by simp [printReturn, hvalues])

theorem writeStmts_laid :
    (ss : List Stmt) → NewlineFree (blockSpellings ss) → Laid (writeStmts · ss)
  | [], _ => by
    simp only [writeStmts]
    exact laid_ok
  | s :: ss, h => by
    obtain ⟨hs, hss⟩ := newlineFree_append.1 h
    simp only [writeStmts]
    exact (s.write_laid hs).bind (writeStmts_laid ss hss)

theorem writeClauses_laid :
    (cs : List Clause) → NewlineFree (clausesSpellings cs) → Laid (writeClauses · cs)
  | [], _ => by
    simp only [writeClauses]
    exact laid_ok
  | .mk es body :: cs, h => by
    obtain ⟨hclause, hcs⟩ := newlineFree_append.1 h
    obtain ⟨hes, hbody⟩ := newlineFree_append.1 hclause
    have hvalues := newline_not_mem_printList hes
    simp only [writeClauses]
    exact (writeln_laid (by simp [hvalues])).bind
      ((writeStmts_laid body hbody).nested (writeClauses_laid cs hcs))
end

/-- A block that is written at some depth is the block as it prints on its own, with a tab for each
level before every line that is not empty, and afterwards the writer is at that depth again, at the
start of a line. -/
theorem writeStmts_indented {ss : List Stmt} (hss : NewlineFree (blockSpellings ss))
    {w : LineWriter} {before : String} {depth : Nat} (hw : w.Holds before depth true) :
    ∃ w', writeStmts w ss = .ok w' ∧
      w'.Holds (before ++ indented depth (printStmts ss)) depth true := by
  obtain ⟨ls, hls, hrun⟩ := writeStmts_laid ss hss
  have hprint : printStmts ss = ls.text 0 := by
    obtain ⟨v, hv, h⟩ := hrun 0 .withTabs "" withTabs_holds
    have hv : writeStmts .withTabs ss = .ok v := hv
    rw [printStmts, hv, Result.state, h.held, String.empty_append]
  rw [hprint, Layout.indented_text hls]
  exact hrun depth w before hw

/-- A loop over a switch; of its lines one is empty, and one has a line feed in a literal. -/
def skipRows : List Stmt :=
  [.loop (.method (.name "rows") "Next" [])
    [.choose (.name "mood")
      [.mk [.text "so\nso", .name "MoodSad"] [.expr (.name ""), .ret [.name "nil"]], .mk [] []]]]

theorem skipRows_indented :
    NewlineFree (blockSpellings skipRows) ∧
      LineWriter.withTabs.indent.indent.Holds "" 2 true ∧
      ∃ w, writeStmts LineWriter.withTabs.indent.indent skipRows = .ok w ∧
        w.Holds ("\t\tfor rows.Next() \x7b\n\t\t\tswitch mood \x7b\n" ++
          "\t\t\tcase \"so\\nso\", MoodSad:\n\n\t\t\t\treturn nil\n" ++
          "\t\t\tcase :\n\t\t\t\x7d\n\t\t\x7d\n") 2 true := by
  have hfree : NewlineFree (blockSpellings skipRows) := by
    unfold NewlineFree
    decide
  have hstart : LineWriter.withTabs.indent.indent.Holds "" 2 true := ⟨rfl, rfl, rfl, rfl, rfl⟩
  obtain ⟨w, hw, h⟩ := writeStmts_indented hfree hstart
  refine ⟨hfree, hstart, w, hw, ?_⟩
  have htext : indented 2 (printStmts skipRows) =
      "\t\tfor rows.Next() \x7b\n\t\t\tswitch mood \x7b\n" ++
        "\t\t\tcase \"so\\nso\", MoodSad:\n\n\t\t\t\treturn nil\n" ++
        "\t\t\tcase :\n\t\t\t\x7d\n\t\t\x7d\n" := by
    decide +kernel
  rwa [htext, String.empty_append] at h

end Statements
end RoutineBindings.Go
