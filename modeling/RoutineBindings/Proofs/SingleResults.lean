import RoutineBindings.Proofs.WrapperRuns

/-!
# Reading at most one row

The wrappers that read nothing, a column of a row, or a whole row into a structure.
-/
namespace RoutineBindings.Wrapper
open Go
variable {δ ε : Type} {p : Package} {a : Answers δ ε} {w : WrapperOptions} {r : ResolvedRoutine}
  {s : State δ ε} {names : List String} {n : Nat}

theorem execute_run (hr : Sound r) (hs : Ready w r s) (hp : Suits p w r) (hu : Uncaptured w r)
    (hres : r.result = .none) :
    ∃ t, execBlock p a n s (execute w (queryArguments w r)) =
        some (.returned [.ofError a.exec], t) ∧ t.deferred = [] ∧ t.closed = 0 := by
  obtain ⟨vs, hvs⟩ := eval_onDb (a := a) hs.frame hs.db hp hu.arrayFormatter "Exec"
  have hcall : s.call a .connection "Exec" vs =
      some ([.outer "sql.Result", .ofError a.exec], s) := by simp [State.call]
  rw [hcall] at hvs
  have hfirst : ∃ t, (if usesAccessor w
      then Stmt.assign ["_", "err"] (onDb "Exec" (queryArguments w r))
      else .define ["_", "err"] (onDb "Exec" (queryArguments w r))).exec p a n s =
        some (.next, t) ∧ t.value? "err" = some (.ofError a.exec) ∧ t.deferred = [] ∧
          t.closed = 0 := by
    cases huse : usesAccessor w with
    | true =>
      have hmem : "err" ∈ connected w r := by simp [connected, huse]
      obtain ⟨k, hk⟩ := hs.frame.find hmem
      refine ⟨s.set "err" (.ofError a.exec), ?_, ?_, ?_, ?_⟩
      · simp [Stmt.exec, hvs, State.assign, hk, State.set]
      · rw [State.value?_set hs.frame hmem, if_pos rfl]
      · rw [State.deferred_set, hs.deferred]
      · rw [State.closed_set, hs.closed]
    | false =>
      have hmem : "err" ∉ connected w r := by
        have hlocal := goName_not_local hr.apart (x := "err") (by decide)
        rw [connected, entry_eq]
        simpa [huse, results, hres, ResultShape.goType?, Results.names] using hlocal
      refine ⟨s.declare "err" (.ofError a.exec), exec_define hvs ?_, ?_, hs.deferred, hs.closed⟩
      · exact State.define_second hs.single (hs.frame.find_eq_none hmem) (by decide) _ _
      · rw [State.value?_declare hs.frame, if_pos rfl]
  obtain ⟨t, ht, herr, hdeferred, hclosed⟩ := hfirst
  refine ⟨t, ?_, hdeferred, hclosed⟩
  rw [execute, execBlock_next ht]
  exact execBlock_returned (exec_ret (evalAll_cons (eval_variable (by decide) herr) rfl))

/-- What is decoded into a named result. -/
theorem eval_scanResult (hf : s.Frame names) (hmem : "result" ∈ names) {receiver : Expr}
    (hrow : receiver.eval p a s = some ([.row false], s)) :
    (Expr.method receiver "Scan" [.address (.name "result")]).eval p a s =
      some ([.ofError a.row.failure],
        a.row.written.elim s fun d => s.set "result" (.decoded d)) := by
  obtain ⟨k, hk⟩ := hf.find hmem
  have haddress : evalAll p a s [.address (.name "result")] = some ([.pointer k], s) := by
    simp [evalAll, Expr.eval, hk]
  rw [eval_method hrow haddress]
  cases hw : a.row.written <;> simp [State.call, State.scan, hw, State.set, hk]

/-- The state after the row was decoded. -/
structure RowTaken (w : WrapperOptions) (r : ResolvedRoutine) (row : Scan δ ε) (s t : State δ ε)
    (v : Value δ ε) : Prop where
  frame : t.Frame (connected w r)
  err : t.value? "err" = some (.ofError row.failure)
  result : t.value? "result" = some v
  deferred : t.deferred = []
  closed : t.closed = 0
  kept : ∀ x, x ∉ wrapperLocals → t.value? x = s.value? x

/-- Decodes a column into the result. -/
theorem column_decode (hs : Ready w r s) (hp : Suits p w r)
    (harray : passesIdentifierSlice r = true → Use.IsOuter ⟨arrayFunction w, connected w r⟩)
    {goType : String} (hgo : r.result.goType? = some goType) :
    ∃ t, (Stmt.assign ["err"] (.method (onDb "QueryRow" (queryArguments w r)) "Scan"
        [.address (.name "result")])).exec p a n s = some (.next, t) ∧
      RowTaken w r a.row s t ((a.row.written.map .decoded).getD (.zeroOf goType)) := by
  obtain ⟨hmem, herrmem⟩ := results_connected (w := w) hgo
  obtain ⟨vs, hvs⟩ := eval_onDb (a := a) hs.frame hs.db hp harray "QueryRow"
  have hcall : s.call a .connection "QueryRow" vs = some ([.row false], s) := by
    simp [State.call]
  have hscan := eval_scanResult hs.frame hmem (hvs.trans hcall)
  have hf : (a.row.written.elim s fun d => s.set "result" (.decoded d)).Frame (connected w r) := by
    cases a.row.written
    · exact hs.frame
    · exact hs.frame.set _ _
  refine ⟨_, exec_assign hscan hf herrmem (by decide), hf.set _ _, ?_, ?_, ?_, ?_, ?_⟩
  · rw [State.value?_set hf herrmem, if_pos rfl]
  · rw [State.value?_set hf herrmem, if_neg (by decide)]
    cases a.row.written with
    | none => exact hs.result hgo
    | some d => exact (State.value?_set hs.frame hmem _).trans (if_pos rfl)
  · cases a.row.written <;> simp [hs.deferred]
  · cases a.row.written <;> simp [hs.closed]
  · intro x hx
    have hxe : x ≠ "err" := fun h => hx (by simp [h, wrapperLocals])
    have hxr : x ≠ "result" := fun h => hx (by simp [h, wrapperLocals])
    rw [State.value?_set hf herrmem, if_neg hxe]
    cases a.row.written with
    | none => rfl
    | some d => exact (State.value?_set hs.frame hmem _).trans (if_neg hxr)

/-- The state after a structure was allocated for the row. -/
structure Allocated (w : WrapperOptions) (r : ResolvedRoutine) (s t : State δ ε) : Prop where
  frame : t.Frame (connected w r)
  db : t.value? "db" = some .connection
  result : t.value? "result" = some (.pointer s.next)
  unnamed : t.Unnamed s.next
  deferred : t.deferred = []
  closed : t.closed = 0
  kept : ∀ x, x ∉ wrapperLocals → t.value? x = s.value? x

theorem structure_allocate (hs : Ready w r s) {goType type : String}
    (hgo : r.result.goType? = some goType) (hnew : s.isPredeclared p "new" = true)
    (htype : s.isPredeclared p type = true) :
    ∃ t, (Stmt.assign ["result"] (.call "new" [.name type])).exec p a n s = some (.next, t) ∧
      Allocated w r s t := by
  have hmem := (results_connected (w := w) hgo).1
  have hf := hs.frame.allocate (.zeroOf type)
  have hcell := State.unnamed_next hs.frame (.zeroOf type)
  have hvalue : ∀ x, ((s.allocate (.zeroOf type)).set "result" (.pointer s.next)).value? x =
      if x = "result" then some (.pointer s.next) else s.value? x := by
    intro x
    rw [State.value?_set hf hmem, State.value?_allocate hs.frame]
  refine ⟨_, exec_assign (eval_new hnew htype) hf hmem (by decide), hf.set _ _, ?_, ?_,
    hcell.set _ _, ?_, ?_, ?_⟩
  · rw [hvalue, if_neg (by decide), hs.db]
  · rw [hvalue, if_pos rfl]
  · simp [State.allocate, hs.deferred]
  · simp [State.allocate, hs.closed]
  · intro x hx
    have hxr : x ≠ "result" := fun h => hx (by simp [h, wrapperLocals])
    rw [hvalue, if_neg hxr]

/-- Decodes a row into its structure. -/
theorem structure_decode {t : State δ ε} (ht : Allocated w r s t) (hp : Suits p w r)
    (harray : passesIdentifierSlice r = true → Use.IsOuter ⟨arrayFunction w, connected w r⟩)
    {goType : String} (hgo : r.result.goType? = some goType) :
    ∃ u, (Stmt.assign ["err"] (.method (onDb "QueryRowx" (queryArguments w r)) "StructScan"
        [.name "result"])).exec p a n t = some (.next, u) ∧
      RowTaken w r a.row t u (.pointer s.next) ∧
      ∀ d, a.row.written = some d → u.cells s.next = .decoded d := by
  have herrmem := (results_connected (w := w) hgo).2
  obtain ⟨vs, hvs⟩ := eval_onDb (a := a) ht.frame ht.db hp harray "QueryRowx"
  have hcall : t.call a .connection "QueryRowx" vs = some ([.row true], t) := by
    simp [State.call]
  have hscan : (Expr.method (onDb "QueryRowx" (queryArguments w r)) "StructScan"
      [.name "result"]).eval p a t = some ([.ofError a.row.failure],
        a.row.written.elim t fun d => t.write s.next (.decoded d)) := by
    rw [eval_method (hvs.trans hcall)
      (evalAll_cons (eval_variable (by decide) ht.result) rfl)]
    cases hw : a.row.written <;> simp [State.call, State.scan, hw]
  have hf : (a.row.written.elim t fun d => t.write s.next (.decoded d)).Frame
      (connected w r) := by
    cases a.row.written
    · exact ht.frame
    · exact ht.frame.write _ _
  have hvalue : ∀ x, (a.row.written.elim t fun d => t.write s.next (.decoded d)).value? x =
      t.value? x := by
    intro x
    cases a.row.written with
    | none => rfl
    | some d => exact State.value?_write_unnamed ht.unnamed _ _
  refine ⟨_, exec_assign hscan hf herrmem (by decide), ⟨hf.set _ _, ?_, ?_, ?_, ?_, ?_⟩, ?_⟩
  · rw [State.value?_set hf herrmem, if_pos rfl]
  · rw [State.value?_set hf herrmem, if_neg (by decide), hvalue, ht.result]
  · cases a.row.written <;> simp [State.write, ht.deferred]
  · cases a.row.written <;> simp [State.write, ht.closed]
  · intro x hx
    have hxe : x ≠ "err" := fun h => hx (by simp [h, wrapperLocals])
    rw [State.value?_set hf herrmem, if_neg hxe, hvalue]
  · intro d hd
    simp only [hd, Option.elim_some]
    rw [State.cells_set_of_unnamed (ht.unnamed.write _ _)]
    simp [State.write]

/-- The end of a single-row wrapper: the failure of the row, or the result. -/
theorem finish_run {goType : String} {row : Scan δ ε} {t : State δ ε} {v : Value δ ε}
    (hgo : r.result.goType? = some goType) (ht : RowTaken w r row s t v)
    (hnil : t.isPredeclared p "nil" = true)
    (hzero : ∀ literal, zeroValue? goType = some literal → t.isPredeclared p literal = true) :
    execBlock p a n t [.returnOnError (failure r.result), .ret [.name "result", .name "nil"]] =
      some (.returned (match row.failure with
        | some e => [(zeroValue? goType).elim v .ofOuter, .error e]
        | none => [v, .nil]), t) := by
  have herr := ht.err
  cases hrow : row.failure with
  | some e =>
    rw [hrow] at herr
    exact execBlock_returned
      (exec_returnOnError_returned herr hnil (evalAll_failure hgo hzero ht.result herr))
  | none =>
    rw [hrow] at herr
    have hvalues : evalAll p a t [.name "result", .name "nil"] = some ([v, .nil], t) :=
      evalAll_cons (eval_variable (by decide) ht.result)
        (evalAll_cons (eval_outer hnil) rfl)
    rw [execBlock_next (exec_returnOnError_next herr hnil)]
    exact execBlock_returned (exec_ret hvalues)

theorem readColumn_run (hs : Ready w r s) (hp : Suits p w r) (hu : Uncaptured w r)
    {goType : String} (hres : r.result = .single goType false) :
    ∃ t vs, execBlock p a n s
        (readSingle goType false (queryArguments w r) (failure r.result)) =
          some (.returned vs, t) ∧ t.deferred = [] ∧ t.closed = 0 ∧
      match a.row with
      | .failed e written => vs = [withFailure goType written, .error e]
      | .done d => vs = [.decoded d, .nil] := by
  have hgo : r.result.goType? = some goType := by rw [hres]; rfl
  obtain ⟨t, hrun, ht⟩ := column_decode (n := n) hs hp hu.arrayFormatter hgo
  have hnil : t.isPredeclared p "nil" = true :=
    predeclared_of_uncaptured ht.frame hp hu (by simp [predeclaredUses, resultUses, hres])
  have hzero : ∀ literal, zeroValue? goType = some literal → t.isPredeclared p literal = true :=
    fun literal hz => predeclared_of_uncaptured ht.frame hp hu
      (by simp [predeclaredUses, resultUses, hres, hz])
  refine ⟨t, _, (execBlock_next hrun).trans (finish_run hgo ht hnil hzero), ht.deferred,
    ht.closed, ?_⟩
  cases a.row with
  | done d => rfl
  | failed e written =>
    simp only [Scan.failure, Scan.written, withFailure]
    cases zeroValue? goType <;> rfl

theorem readStructure_run (hr : Sound r) (hs : Ready w r s) (hp : Suits p w r)
    (hu : Uncaptured w r) {goType : String} (hres : r.result = .single goType true) :
    ∃ t vs, execBlock p a n s
        (readSingle goType true (queryArguments w r) (failure r.result)) =
          some (.returned vs, t) ∧ t.deferred = [] ∧ t.closed = 0 ∧
      match a.row with
      | .failed e written => vs = [withFailure goType written, .error e]
      | .done d => ∃ k, vs = [.pointer k, .nil] ∧ t.cells k = .decoded d := by
  have hgo : r.result.goType? = some goType := by rw [hres]; rfl
  have hpointer : zeroValue? goType = some "nil" := by simp [zeroValue?, ← hr.single hres]
  obtain ⟨u, hallocate, hu'⟩ := structure_allocate (a := a) (n := n) hs hgo
    (predeclared_of_uncaptured hs.frame hp hu (by simp [predeclaredUses, resultUses, hres]))
    (predeclared_of_uncaptured hs.frame hp hu (x := pointee goType)
      (by simp [predeclaredUses, resultUses, hres]))
  obtain ⟨t, hdecode, ht, hcell⟩ := structure_decode (a := a) (n := n) hu' hp hu.arrayFormatter hgo
  have hnil : t.isPredeclared p "nil" = true :=
    predeclared_of_uncaptured ht.frame hp hu (by simp [predeclaredUses, resultUses, hres])
  have hzero : ∀ literal, zeroValue? goType = some literal → t.isPredeclared p literal = true :=
    fun literal hz => predeclared_of_uncaptured ht.frame hp hu
      (by simp [predeclaredUses, resultUses, hres, hz])
  refine ⟨t, _, (execBlock_next hallocate).trans ((execBlock_next hdecode).trans
    (finish_run hgo ht hnil hzero)), ht.deferred, ht.closed, ?_⟩
  cases hrow : a.row with
  | done d => exact ⟨s.next, rfl, hcell d (by rw [hrow]; rfl)⟩
  | failed e written => simp [Scan.failure, withFailure, hpointer]

theorem readSingle_run (hr : Sound r) (hs : Ready w r s) (hp : Suits p w r) (hu : Uncaptured w r)
    {goType : String} {structScan : Bool} (hres : r.result = .single goType structScan) :
    ∃ t vs, execBlock p a n s
        (readSingle goType structScan (queryArguments w r) (failure r.result)) =
          some (.returned vs, t) ∧ t.deferred = [] ∧ t.closed = 0 ∧
      match a.row with
      | .failed e written => vs = [withFailure goType written, .error e]
      | .done d => ∃ v, vs = [v, .nil] ∧ IsDecoded t structScan v d := by
  cases structScan with
  | false =>
    obtain ⟨t, vs, hrun, hdeferred, hclosed, hvs⟩ := readColumn_run (a := a) (n := n) hs hp hu hres
    refine ⟨t, vs, hrun, hdeferred, hclosed, ?_⟩
    cases hrow : a.row with
    | failed e written => simpa [hrow] using hvs
    | done d =>
      rw [hrow] at hvs
      exact ⟨.decoded d, hvs, by simp [IsDecoded]⟩
  | true =>
    obtain ⟨t, vs, hrun, hdeferred, hclosed, hvs⟩ :=
      readStructure_run (a := a) (n := n) hr hs hp hu hres
    refine ⟨t, vs, hrun, hdeferred, hclosed, ?_⟩
    cases hrow : a.row with
    | failed e written => simpa [hrow] using hvs
    | done d =>
      rw [hrow] at hvs
      obtain ⟨k, rfl, hk⟩ := hvs
      exact ⟨.pointer k, rfl, by simpa [IsDecoded] using hk⟩

end RoutineBindings.Wrapper
