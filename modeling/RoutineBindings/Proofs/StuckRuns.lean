import RoutineBindings.Proofs.RowResults
import RoutineBindings.Proofs.SingleResults

/-!
# Runs with captured names

When the arguments are texts, a wrapper that returns has not captured any name that it uses on the
way: a captured function cannot be called, a captured type cannot be used, and an error cannot be
compared with a text.
-/
namespace RoutineBindings.Wrapper
open Go
variable {δ ε : Type} {p : Package} {a : Answers δ ε} {w : WrapperOptions} {r : ResolvedRoutine}
  {s : State δ ε} {names : List String} {n : Nat}

/-- Every parameter holds an empty text. -/
def Marked (r : ResolvedRoutine) (s : State δ ε) : Prop :=
  ∀ x ∈ r.arguments.map ResolvedArgument.goName, s.value? x = some (.text "")

/-- Arguments that are empty texts. -/
def marks (δ ε : Type) (r : ResolvedRoutine) : List (Value δ ε) :=
  List.replicate r.arguments.length (.text "")

theorem length_marks (δ ε : Type) (r : ResolvedRoutine) :
    (marks δ ε r).length = r.arguments.length := List.length_replicate

theorem start_marked (hr : Sound r) :
    Marked r ((funcDecl w r).start (callArguments w (marks δ ε r))) := by
  intro x hx
  have hentry := entry_eq w r
  have hmem : x ∈ entry w r := by simp [hentry, hx]
  have hdb : x ≠ "db" := fun h => goName_not_local hr.apart (x := "db") (by decide) (h ▸ hx)
  have hpre : x ∉ (if usesAccessor w then [] else ["db"]) := by
    cases usesAccessor w <;> simp [hdb]
  have hlt := List.idxOf_lt_length_of_mem hx
  rw [List.length_map] at hlt
  rw [State.value?, start_find, if_pos hmem, hentry, List.append_assoc,
    List.idxOf_append_of_notMem hpre, List.idxOf_append_of_mem hx]
  cases huse : usesAccessor w <;>
    simp [FuncDecl.start, callArguments, huse, marks, List.getElem?_append, hlt, Nat.add_comm 1]

/-- What a parameter captures holds a text, and nothing else can be captured. -/
theorem Marked.captured (hm : Marked r s) {x : String}
    (hx : x ∈ "value" :: "rows" :: connected w r) (hlocal : x ∉ wrapperLocals) :
    s.value? x = some (.text "") := by
  apply hm
  have hresults : ∀ y ∈ (results r.result).names, y ∈ wrapperLocals := by
    unfold results
    cases r.result.goType? <;> simp [Results.names, wrapperLocals]
  rw [connected, entry_eq] at hx
  simp only [List.mem_cons, List.mem_append] at hx
  rcases hx with rfl | rfl | hx | (hx | hx) | hx
  · exact absurd (by decide) hlocal
  · exact absurd (by decide) hlocal
  · split at hx
    · rcases List.mem_cons.1 hx with rfl | hx
      · exact absurd (by decide) hlocal
      · exact absurd (List.mem_singleton.1 hx ▸ by decide) hlocal
    · cases hx
  · split at hx
    · cases hx
    · exact absurd (List.mem_singleton.1 hx ▸ by decide) hlocal
  · exact hx
  · exact absurd (hresults x hx) hlocal

theorem passed_stuck (hf : s.Frame names) {as : List ResolvedArgument}
    (has : ∀ x ∈ as, x.goName ∈ names)
    (harray : as.any ResolvedArgument.isIdentifierSlice = true)
    (hclear : s.isClear (arrayFunction w) = false) :
    evalAll p a s (as.map (passed w)) = none := by
  induction as with
  | nil => simp at harray
  | cons x as ih =>
    rw [List.map_cons]
    cases hx : x.isIdentifierSlice with
    | true =>
      apply evalAll_cons_stuck
      rw [passed, if_pos hx]
      exact eval_call_stuck hclear
    | false =>
      obtain ⟨v, hv⟩ := eval_declared (p := p) (a := a) hf (has x (by simp))
      have hpassed : (passed w x).eval p a s = some ([v], s) := by
        rw [passed, if_neg (by simp [hx])]
        exact hv
      exact evalAll_stuck hpassed
        (ih (fun y hy => has y (by simp [hy])) (by simpa [hx] using harray))

theorem isClear_eq_false (hf : s.Frame names) {x : String} (h : ¬ Use.IsOuter ⟨x, names⟩) :
    s.isClear x = false := by
  rw [← Bool.not_eq_true, State.isClear_iff hf]
  exact h

theorem isOuter_of_isPredeclared (hf : s.Frame names) {x : String}
    (h : s.isPredeclared p x = true) : Use.IsOuter ⟨x, names⟩ :=
  (State.isClear_iff hf).1 (State.isClear_of_isPredeclared h)

/-- What has to be shown of a use: where it is captured, nothing is returned. -/
theorem isOuter_of_ne_none {u : Use} {α : Type} {x : Option α} (hx : x ≠ none)
    (h : ¬ u.IsOuter → x = none) : u.IsOuter := by
  by_contra hu
  exact hx (h hu)

/-- A captured array function keeps the statement from being sent. -/
theorem onDb_stuck (hf : s.Frame (connected w r)) (hdb : s.value? "db" = some .connection)
    (hpasses : passesIdentifierSlice r = true)
    (hcaptured : ¬ Use.IsOuter ⟨arrayFunction w, connected w r⟩) (method : String) :
    (onDb method (queryArguments w r)).eval p a s = none := by
  have hargs : evalAll p a s (queryArguments w r) = none :=
    evalAll_stuck rfl (passed_stuck hf (fun _ hx => goName_mem_connected hx) hpasses
      (isClear_eq_false hf hcaptured))
  exact eval_method_stuck (eval_variable (by decide) hdb) hargs

/-- A captured `nil` keeps an error from being tested. -/
theorem returnOnError_stuck {values : List Expr} {e : Value δ ε}
    (hsub : ∀ x ∈ names, x ∈ "value" :: "rows" :: connected w r) (hm : Marked r s)
    (herr : s.value? "err" = some e) (hcaptured : ¬ Use.IsOuter ⟨"nil", names⟩) :
    (Stmt.returnOnError values).exec p a n s = none := by
  have hnames : freeNames "nil" = ["nil"] := freeNames_bodyName (by decide)
  have hmem : "nil" ∈ names := by
    by_contra h
    exact hcaptured (by simpa [Use.IsOuter, hnames] using h)
  exact exec_branch_stuck (test_stuck (eval_variable (by decide) herr)
    (hm.captured (hsub _ hmem) (by decide)))

/-- A captured name has no value, or that of the parameter. -/
theorem eval_captured (hf : s.Frame (connected w r)) (hm : Marked r s) {x : String}
    (hlocal : x ∉ wrapperLocals) (hcaptured : ¬ Use.IsOuter ⟨x, connected w r⟩) :
    (Expr.name x).eval p a s = none ∨ (Expr.name x).eval p a s = some ([.text ""], s) := by
  have hpre : ¬ s.isPredeclared p x = true := mt (isOuter_of_isPredeclared hf) hcaptured
  have heval : (Expr.name x).eval p a s = (s.value? x).map fun v => ([v], s) := by
    simp only [Expr.eval, hpre, State.value?, Option.map_map]
    rfl
  rw [heval]
  by_cases hx : x ∈ connected w r
  · right
    rw [hm.captured (List.mem_cons_of_mem _ (List.mem_cons_of_mem _ hx)) hlocal]
    rfl
  · left
    simp [State.value?, hf.find_eq_none hx]

theorem Marked.congr {t : State δ ε} (hr : Sound r) (hm : Marked r s)
    (hkept : ∀ x, x ∉ wrapperLocals → t.value? x = s.value? x) : Marked r t := by
  intro x hx
  rw [hkept x fun hlocal => goName_not_local hr.apart hlocal hx, hm x hx]

theorem accessor_outer {values : List (Value δ ε)} {rest : List Stmt}
    (huse : usesAccessor w = true)
    (hrun : execBlock p a n ((funcDecl w r).start (callArguments w values))
      (connect w r.result ++ rest) ≠ none) :
    Use.IsOuter ⟨w.dbAccessor, entry w r⟩ := by
  refine isOuter_of_ne_none hrun fun h => ?_
  rw [connect, if_pos huse]
  exact execBlock_stuck (exec_define_stuck (eval_call_stuck (isClear_eq_false (start_frame _) h)))

theorem connect_outer {rest : List Stmt} (hr : Sound r) (hp : Suits p w r)
    (huse : usesAccessor w = true)
    (hrun : execBlock p a n ((funcDecl w r).start (callArguments w (marks δ ε r)))
      (connect w r.result ++ rest) ≠ none) :
    Use.IsOuter ⟨"nil", connected w r⟩ := by
  obtain ⟨t, ht, herr, hf, -, -, -, -, hkept⟩ := exec_accessor (a := a) (n := n) hr hp huse
    (accessor_outer huse hrun) (length_marks δ ε r)
  have hm : Marked r t := (start_marked (w := w) hr).congr hr hkept
  refine isOuter_of_ne_none hrun fun h => ?_
  rw [connect, if_pos huse, List.cons_append, execBlock_next ht]
  exact execBlock_stuck (returnOnError_stuck
    (fun x hx => List.mem_cons_of_mem _ (List.mem_cons_of_mem _ hx)) hm herr h)

theorem execute_outer (hs : Ready w r s)
    (hrun : execBlock p a n s (execute w (queryArguments w r)) ≠ none)
    (hpasses : passesIdentifierSlice r = true) :
    Use.IsOuter ⟨arrayFunction w, connected w r⟩ := by
  refine isOuter_of_ne_none hrun fun h => ?_
  have heval := onDb_stuck (p := p) (a := a) hs.frame hs.db hpasses h "Exec"
  rw [execute]
  apply execBlock_stuck
  cases usesAccessor w
  · exact exec_define_stuck heval
  · exact exec_assign_stuck heval

/-- The array function and `nil` are not captured where the row is decoded into a column. -/
theorem column_outer (hr : Sound r) (hs : Ready w r s) (hm : Marked r s) (hp : Suits p w r)
    {goType : String} (hres : r.result = .single goType false)
    (hrun : execBlock p a n s
      (readSingle goType false (queryArguments w r) (failure r.result)) ≠ none) :
    (passesIdentifierSlice r = true → Use.IsOuter ⟨arrayFunction w, connected w r⟩) ∧
      Use.IsOuter ⟨"nil", connected w r⟩ := by
  have hgo : r.result.goType? = some goType := by rw [hres]; rfl
  have harray : passesIdentifierSlice r = true →
      Use.IsOuter ⟨arrayFunction w, connected w r⟩ := fun hpasses =>
    isOuter_of_ne_none hrun fun h => execBlock_stuck
      (exec_assign_stuck (eval_receiver_stuck (onDb_stuck hs.frame hs.db hpasses h _)))
  refine ⟨harray, isOuter_of_ne_none hrun fun h => ?_⟩
  obtain ⟨t, hdecode, ht⟩ := column_decode (a := a) (n := n) hs hp harray hgo
  exact (execBlock_next hdecode).trans (execBlock_stuck (returnOnError_stuck
    (fun x hx => List.mem_cons_of_mem _ (List.mem_cons_of_mem _ hx)) (hm.congr hr ht.kept)
    ht.err h))

/-- If the failure of a row is returned with the zero literal, the literal is not captured. -/
theorem literal_outer (hr : Sound r) (hs : Ready w r s) (hm : Marked r s) (hp : Suits p w r)
    {goType literal : String} {e : ε} {t : State δ ε} (hres : r.result = .single goType false)
    (hfails : a.row.failure = some e) (hz : zeroValue? goType = some literal)
    (hrun : execBlock p a n s (readSingle goType false (queryArguments w r) (failure r.result)) =
      some (.returned [.ofOuter literal, .error e], t)) :
    Use.IsOuter ⟨literal, connected w r⟩ := by
  have hgo : r.result.goType? = some goType := by rw [hres]; rfl
  obtain ⟨harray, hnil⟩ := column_outer hr hs hm hp hres (by rw [hrun]; simp)
  obtain ⟨u, hdecode, hu⟩ := column_decode (a := a) (n := n) hs hp harray hgo
  have hpre : u.isPredeclared p "nil" = true :=
    isPredeclared_of_use hu.frame hp (by simp [predeclaredUses, resultUses, hres]) hnil
  have herr := hu.err
  rw [hfails] at herr
  have htest := test_ne_nil (a := a) (eval_variable (by decide) herr) hpre
  have herr' : (Expr.name "err").eval p a u.enter = some ([.error e], u.enter) :=
    eval_variable (by decide) herr
  by_contra hcaptured
  have hzero : failure r.result = [.name literal, .name "err"] := by
    simp [failure, hgo, zero, hz]
  rw [readSingle, if_neg (by decide), List.cons_append, List.nil_append, execBlock_next hdecode,
    Stmt.returnOnError, hzero] at hrun
  rcases eval_captured (p := p) (a := a) (s := u.enter) hu.frame.enter (hm.congr hr hu.kept)
    (literal_not_local hz) hcaptured with hnone | htext
  · have hvalues : evalAll p a u.enter [.name literal, .name "err"] = none :=
      evalAll_cons_stuck hnone
    rw [execBlock_stuck (exec_branch_values_stuck htest hvalues)] at hrun
    cases hrun
  · have hvalues : evalAll p a u.enter [.name literal, .name "err"] =
        some ([.text "", .error e], u.enter) := evalAll_cons htext (evalAll_cons herr' rfl)
    rw [execBlock_returned (exec_branch_returned htest hvalues)] at hrun
    have hliteral : (.text "" : Value δ ε) = .ofOuter literal := by
      simp only [Option.some.injEq, Prod.mk.injEq, Flow.returned.injEq, List.cons.injEq] at hrun
      exact hrun.1.1
    unfold Value.ofOuter at hliteral
    split at hliteral <;> cases hliteral

/-- Nothing is captured where the row is decoded into a structure. -/
theorem structure_outer (hr : Sound r) (hs : Ready w r s) (hm : Marked r s) (hp : Suits p w r)
    {goType : String} (hres : r.result = .single goType true)
    (hrun : execBlock p a n s
      (readSingle goType true (queryArguments w r) (failure r.result)) ≠ none) :
    (passesIdentifierSlice r = true → Use.IsOuter ⟨arrayFunction w, connected w r⟩) ∧
      ∀ u ∈ resultUses w r, u.IsOuter := by
  have hgo : r.result.goType? = some goType := by rw [hres]; rfl
  have hpointer : zeroValue? goType = some "nil" := by simp [zeroValue?, ← hr.single hres]
  have hpnew : p "new" = none := hp.predeclared ⟨"new", connected w r⟩
    (by simp [predeclaredUses, resultUses, hres]) "new"
    (by simp [freeNames_bodyName (x := "new") (by decide)])
  have htypes : s.isPredeclared p "new" = true ∧ s.isPredeclared p (pointee goType) = true := by
    by_contra h
    exact hrun (execBlock_stuck (exec_assign_stuck (eval_new_stuck hpnew h)))
  obtain ⟨t, hallocate, ht⟩ := structure_allocate (a := a) (n := n) hs hgo htypes.1 htypes.2
  have harray : passesIdentifierSlice r = true →
      Use.IsOuter ⟨arrayFunction w, connected w r⟩ := fun hpasses =>
    isOuter_of_ne_none hrun fun h => (execBlock_next hallocate).trans (execBlock_stuck
      (exec_assign_stuck (eval_receiver_stuck (onDb_stuck ht.frame ht.db hpasses h _))))
  have hnil : Use.IsOuter ⟨"nil", connected w r⟩ := by
    obtain ⟨u, hdecode, hu, -⟩ := structure_decode (a := a) (n := n) ht hp harray hgo
    refine isOuter_of_ne_none hrun fun h => ?_
    exact (execBlock_next hallocate).trans ((execBlock_next hdecode).trans
      (execBlock_stuck (returnOnError_stuck
        (fun x hx => List.mem_cons_of_mem _ (List.mem_cons_of_mem _ hx))
        ((hm.congr hr ht.kept).congr hr hu.kept) hu.err h)))
  refine ⟨harray, fun u hu => ?_⟩
  simp only [resultUses, hres, hpointer, Option.toList, List.map_cons, List.map_nil, if_true,
    List.cons_append, List.nil_append, List.mem_cons, List.not_mem_nil, or_false] at hu
  rcases hu with rfl | rfl | rfl | rfl
  · exact hnil
  · exact hnil
  · exact isOuter_of_isPredeclared hs.frame htypes.1
  · exact isOuter_of_isPredeclared hs.frame htypes.2

theorem iterate_stuck {test : State δ ε → Option (Bool × State δ ε)}
    {body : State δ ε → Option (Flow δ ε × State δ ε)} {t : State δ ε}
    (htest : test s = some (true, t)) (hbody : body t = none) : iterate test body n s = none := by
  cases n <;> simp [iterate, htest, hbody]

section Turn
variable {goType element : String} {structScan : Bool} {contents : List δ}

/-- A captured type keeps a row from being decoded. -/
theorem readRow_stuck (hp : Suits p w r) (hres : r.result = .rows goType element structScan)
    (hcaptured : ¬ RowTypes p element s) (rest : List Stmt) :
    execBlock p a n s.enter (readRow element structScan ++ rest) = none := by
  unfold RowTypes at hcaptured
  cases hptr : isPointer element with
  | true =>
    have hpnew : p "new" = none := hp.predeclared ⟨"new", "rows" :: connected w r⟩
      (by simp [predeclaredUses, resultUses, rowTypeUses, hres, hptr]) "new"
      (by simp [freeNames_bodyName (x := "new") (by decide)])
    rw [hptr, if_pos rfl] at hcaptured
    simp only [readRow, hptr, if_true, List.cons_append]
    exact execBlock_stuck (exec_define_stuck (eval_new_stuck hpnew hcaptured))
  | false =>
    rw [hptr, if_neg (by decide)] at hcaptured
    have hpre : s.enter.isPredeclared p element = false := Bool.not_eq_true _ ▸ hcaptured
    simp only [readRow, hptr, Bool.false_eq_true, if_false, List.cons_append]
    exact execBlock_stuck (by simp [Stmt.exec, hpre])

/-- A captured `append` keeps a row from being collected. -/
theorem turn_stuck (hr : Sound r) (hres : r.result = .rows goType element structScan)
    (htypes : RowTypes p element s) (hs : Reading w r element structScan s contents)
    {d : δ} (hrow : s.current = some (.done d)) (hnil : s.isPredeclared p "nil" = true)
    (hcaptured : ¬ Use.IsOuter ⟨"append", "value" :: "rows" :: connected w r⟩) :
    execBlock p a n s.enter (turn r element structScan) = none := by
  obtain ⟨u, v, hrun, ⟨hw, hf, -, herr, -⟩, -⟩ :=
    readRow_run (a := a) (n := n) hr hres htypes hs hrow
      [.returnOnError (failure r.result),
        .assign ["result"] (.call "append" [.name "result", .name "value"])]
  have hnext : (Stmt.returnOnError (failure r.result)).exec p a n u = some (.next, u) :=
    exec_returnOnError_next herr (isPredeclared_within hw hnil)
  exact hrun.trans ((execBlock_next hnext).trans (execBlock_stuck
    (exec_assign_stuck (eval_call_stuck (isClear_eq_false hf hcaptured)))))

/-- Nothing is captured where a row is read that can be decoded. -/
theorem rows_outer (hr : Sound r) (hs : Ready w r s) (hm : Marked r s) (hp : Suits p w r)
    (hres : r.result = .rows goType element structScan) {d : δ} {rows : List (Scan δ ε)}
    {ending : Option ε} (hanswer : a.query = .ok ⟨.done d :: rows, ending⟩)
    (hrun : execBlock p a n s
      (readRows goType element structScan (queryArguments w r) (failure r.result)) ≠ none) :
    (passesIdentifierSlice r = true → Use.IsOuter ⟨arrayFunction w, connected w r⟩) ∧
      ∀ u ∈ resultUses w r, u.IsOuter := by
  have hgo : r.result.goType? = some goType := by rw [hres]; rfl
  have harray : passesIdentifierSlice r = true →
      Use.IsOuter ⟨arrayFunction w, connected w r⟩ := fun hpasses =>
    isOuter_of_ne_none hrun fun h => execBlock_stuck
      (exec_define_stuck (onDb_stuck hs.frame hs.db hpasses h _))
  have hquery := query_run (a := a) (n := n) hr hs hp harray hgo structScan
  rw [hanswer] at hquery
  obtain ⟨t, hdefine, ht, hahead⟩ := hquery
  have hnil : Use.IsOuter ⟨"nil", "rows" :: connected w r⟩ :=
    isOuter_of_ne_none hrun fun h => (execBlock_next hdefine).trans (execBlock_stuck
      (returnOnError_stuck (fun x hx => List.mem_cons_of_mem _ hx) (hm.congr hr ht.kept) ht.err h))
  have hpre : t.isPredeclared p "nil" = true :=
    isPredeclared_of_use ht.frame hp (by simp [predeclaredUses, resultUses, hres]) hnil
  obtain ⟨u, hopen, hu, hahead'⟩ := open_run (a := a) (n := n) hr hres ht hpre
    (.loop (.method (.name "rows") "Next" []) (turn r element structScan) ::
      [.branch (.binary (.method (.name "rows") "Err" []) "!=" (.name "nil"))
        [.ret [zero goType, .method (.name "rows") "Err" []]],
       .ret [.name "result", .name "nil"]])
  have hstart : execBlock p a n s (readRows goType element structScan (queryArguments w r)
      (failure r.result)) = _ := (execBlock_next hdefine).trans hopen
  have htest := next_test (p := p) (a := a) hu
  rw [hahead', hahead] at htest
  have hu' := hu.move (some (.done d)) ⟨rows, ending⟩
  have hblock : execBlock p a n
      (State.enter { u with current := some (.done d), ahead := ⟨rows, ending⟩ })
      (turn r element structScan) ≠ none := by
    intro hnone
    refine hrun (hstart.trans (execBlock_stuck ((exec_loop u).trans (iterate_stuck htest ?_))))
    exact Option.map_eq_none_iff.2 hnone
  have htypes : RowTypes p element
      { u with current := some (.done d), ahead := ⟨rows, ending⟩ } := by
    by_contra h
    exact hblock (readRow_stuck hp hres h _)
  have happend : Use.IsOuter ⟨"append", "value" :: "rows" :: connected w r⟩ :=
    isOuter_of_ne_none hblock (turn_stuck hr hres htypes hu' rfl
      (isPredeclared_of_use hu'.frame hp (by simp [predeclaredUses, resultUses, hres]) hnil))
  refine ⟨harray, fun x hx => ?_⟩
  simp only [resultUses, hres, List.mem_append, List.mem_cons, List.not_mem_nil, or_false] at hx
  rcases hx with (rfl | rfl) | hx
  · exact hnil
  · exact happend
  · exact (rowTypes_iff hu'.frame hp hres).1 htypes x hx

end Turn
end RoutineBindings.Wrapper
