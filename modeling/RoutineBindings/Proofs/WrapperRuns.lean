import RoutineBindings.Proofs.WrapperMeaning

/-!
# Running wrappers

What a wrapper declares when it starts, and how it gets its connection: what the state holds where
the statement is sent.
-/
namespace RoutineBindings.Wrapper
open Go

theorem parameterName_not_local (argument : String) :
    parameterName argument ∉ wrapperLocals := by
  unfold parameterName
  dsimp only
  split
  · intro h
    have hend : ∀ x ∈ wrapperLocals, x.toList.getLast? ≠ some 'g' := by decide
    refine hend _ h ?_
    rw [String.toList_append, List.getLast?_append]
    rfl
  · rename_i h
    intro hmem
    exact h (by simp [hmem])

theorem literal_not_local {goType literal : String} (h : zeroValue? goType = some literal) :
    literal ∉ wrapperLocals := by
  have hscalars : ∀ e ∈ scalarZeros, e.2 ∉ wrapperLocals := by decide
  unfold zeroValue? at h
  split at h
  · cases h
    decide
  · obtain ⟨l₁, l₂, hl, -⟩ := List.lookup_eq_some_iff.1 h
    exact hscalars (goType, literal) (by simp [hl])

/-- What the resolution of a routine guarantees about its wrapper. -/
structure Sound (r : ResolvedRoutine) : Prop where
  apart : ∀ a ∈ r.arguments, a.goName ∉ wrapperLocals
  single : ∀ {t s}, r.result = .single t s → s = isPointer t
  rows : ∀ {t e s}, r.result = .rows t e s → isSlice t = true ∧ (isPointer e = true → s = true)

theorem resolvedRoutine_sound (o : Overrides) (c : Catalog) (r : Routine) :
    Sound (resolvedRoutine o c r) where
  apart a ha := by
    obtain ⟨x, -, rfl⟩ := List.mem_map.1 ha
    simpa only [resolvedArgument] using parameterName_not_local x.name
  single {t s} h := by
    simp only [resolvedRoutine, resolvedResult, ResultShape.ofResolved] at h
    split at h
    · split at h
      · cases h
      · cases h
        rfl
    · cases h
  rows {t e s} h := by
    simp only [resolvedRoutine, resolvedResult, ResultShape.ofResolved] at h
    split at h
    · split at h
      · rename_i hset
        cases h
        refine ⟨?_, fun hp => by simp [hp]⟩
        have hcollection : (Descriptor.ofText r.result).isCollection = true := by
          simp only [Descriptor.isSet, decide_eq_true_eq] at hset
          simp [Descriptor.isCollection, hset]
        simp [goTypeOf, Descriptor.wrap, hcollection, isSlice, afterMarker?, Text.afterStart]
      · cases h
    · cases h

theorem lookup_zipIdx (l : List String) (n : Nat) (x : String) :
    (l.zipIdx n).lookup x = if x ∈ l then some (n + l.idxOf x) else none := by
  induction l generalizing n with
  | nil => simp
  | cons y l ih =>
    by_cases h : x = y
    · simp [h]
    · have hb : (x == y) = false := by simpa using h
      simp only [List.zipIdx_cons, List.lookup_cons, hb, ih, List.mem_cons, h, false_or,
        List.idxOf_cons_ne _ (Ne.symm h)]
      split
      · congr 1
        omega
      · rfl

section Names
variable {w : WrapperOptions} {r : ResolvedRoutine}

theorem entry_eq (w : WrapperOptions) (r : ResolvedRoutine) :
    entry w r = (if usesAccessor w then [] else ["db"]) ++
      r.arguments.map ResolvedArgument.goName ++ (results r.result).names := by
  unfold entry params connectionParams
  cases usesAccessor w <;> simp [Function.comp_def]

theorem results_names {goType : String} (h : r.result.goType? = some goType) :
    (results r.result).names = ["result", "err"] := by
  simp [results, h, Results.names]

theorem goName_not_local (ha : ∀ a ∈ r.arguments, a.goName ∉ wrapperLocals) {x : String}
    (hx : x ∈ wrapperLocals) : x ∉ r.arguments.map ResolvedArgument.goName := by
  intro h
  obtain ⟨a, hmem, rfl⟩ := List.mem_map.1 h
  exact ha a hmem hx

theorem goName_mem_connected {a : ResolvedArgument} (ha : a ∈ r.arguments) :
    a.goName ∈ connected w r := by
  rw [connected, entry_eq]
  simp only [List.mem_append, List.mem_map]
  exact .inr (.inl (.inr ⟨a, ha, rfl⟩))

theorem results_connected {goType : String} (hgo : r.result.goType? = some goType) :
    "result" ∈ connected w r ∧ "err" ∈ connected w r := by
  simp [connected, entry, results_names hgo]

/-- The variables for rows are not declared by the time the statement is sent. -/
theorem rows_not_connected (ha : ∀ a ∈ r.arguments, a.goName ∉ wrapperLocals) {x : String}
    (hx : x = "rows" ∨ x = "value") : x ∉ connected w r := by
  have hlocal : x ∈ wrapperLocals := by rcases hx with rfl | rfl <;> decide
  have hnames : x ∉ (results r.result).names := by
    unfold results
    cases r.result.goType? <;> rcases hx with rfl | rfl <;> simp [Results.names]
  rw [connected, entry_eq]
  simp only [List.mem_append, not_or]
  refine ⟨?_, ⟨?_, goName_not_local ha hlocal⟩, hnames⟩
  · rcases hx with rfl | rfl <;> split <;> simp
  · rcases hx with rfl | rfl <;> split <;> simp

theorem db_not_entry (ha : ∀ a ∈ r.arguments, a.goName ∉ wrapperLocals)
    (hu : usesAccessor w = true) : "db" ∉ entry w r := by
  have hnames : "db" ∉ (results r.result).names := by
    unfold results
    cases r.result.goType? <;> simp [Results.names]
  rw [entry_eq, if_pos hu]
  simp only [List.mem_append, not_or, List.nil_append]
  exact ⟨goName_not_local ha (by decide), hnames⟩

end Names

section Start
variable {δ ε : Type} {w : WrapperOptions} {r : ResolvedRoutine} (values : List (Value δ ε))

theorem start_find (x : String) :
    ((funcDecl w r).start values).find x =
      if x ∈ entry w r then some ((entry w r).idxOf x) else none := by
  have hl := lookup_zipIdx (entry w r) 0 x
  rw [Nat.zero_add] at hl
  have hnames : (funcDecl w r).names = entry w r := rfl
  simp only [State.find, FuncDecl.start, Blocks.find?, hnames, List.findSome?_cons,
    List.findSome?_nil, hl]
  split <;> simp_all

theorem start_frame : ((funcDecl w r).start values).Frame (entry w r) where
  declared x := by
    rw [start_find]
    split <;> simp_all
  below {x k} h := by
    rw [start_find] at h
    split at h
    · cases h
      exact List.idxOf_lt_length_of_mem ‹_›
    · cases h
  apart {x y k} hx hy := by
    rw [start_find] at hx hy
    split at hx <;> split at hy
    · cases hx
      exact (List.idxOf_inj ‹_›).1 (Option.some.inj hy).symm
    all_goals simp_all

theorem start_db (hu : usesAccessor w = false) :
    ((funcDecl w r).start (callArguments w values)).value? "db" = some .connection := by
  have hentry : entry w r = "db" :: (r.arguments.map ResolvedArgument.goName ++
      (results r.result).names) := by
    simp [entry_eq, hu]
  rw [State.value?, start_find, if_pos (by simp [hentry]), hentry, List.idxOf_cons_self]
  simp [FuncDecl.start, callArguments, hu]

theorem start_result (hr : Sound r) {goType : String} (hgo : r.result.goType? = some goType)
    (hlen : values.length = r.arguments.length) :
    ((funcDecl w r).start (callArguments w values)).value? "result" =
      some (.zeroOf goType) := by
  have hparams : "result" ∉ (params w r).map Param.name := by
    have h := goName_not_local hr.apart (x := "result") (by decide)
    have hp : (params w r).map Param.name =
        (if usesAccessor w then [] else ["db"]) ++ r.arguments.map ResolvedArgument.goName := by
      unfold params connectionParams
      cases usesAccessor w <;> simp [Function.comp_def]
    rw [hp]
    cases usesAccessor w <;> simpa using h
  have hlength : (callArguments w values).length = ((params w r).map Param.name).length := by
    unfold callArguments params connectionParams
    cases usesAccessor w <;> simp [hlen]
  rw [State.value?, start_find, if_pos (by simp [entry, results_names hgo]), entry,
    List.idxOf_append_of_notMem hparams, results_names hgo]
  simp [FuncDecl.start, funcDecl, results, hgo, Results.names, Results.types, ← hlength]

end Start

section Runs
variable {δ ε : Type} {p : Package} {a : Answers δ ε} {w : WrapperOptions} {r : ResolvedRoutine}
  {s : State δ ε} {names : List String} {n : Nat}

theorem evalAll_passed (hf : s.Frame names) (as : List ResolvedArgument)
    (has : ∀ x ∈ as, x.goName ∈ names)
    (harray : as.any ResolvedArgument.isIdentifierSlice = true →
      s.isClear (arrayFunction w) = true ∧ p (arrayFunction w) = some .arrayFormatter) :
    ∃ vs, evalAll p a s (as.map (passed w)) = some (vs, s) := by
  induction as with
  | nil => exact ⟨[], rfl⟩
  | cons x as ih =>
    obtain ⟨v, hv⟩ := eval_declared (p := p) (a := a) hf (has x (by simp))
    have hpassed : ∃ v, (passed w x).eval p a s = some ([v], s) := by
      unfold passed
      split
      · rename_i hx
        obtain ⟨hclear, hp⟩ := harray (by simp [hx])
        have hall : evalAll p a s [.name x.goName] = some ([v], s) := evalAll_cons hv rfl
        exact ⟨.formatted v, by simp [Expr.eval, hclear, hp, hall]⟩
      · exact ⟨v, hv⟩
    obtain ⟨v', hv'⟩ := hpassed
    obtain ⟨vs, hvs⟩ := ih (fun y hy => has y (by simp [hy])) fun h => harray (by simp [h])
    exact ⟨v' :: vs, evalAll_cons hv' hvs⟩

/-- The state in which the statement is sent. -/
structure Ready (w : WrapperOptions) (r : ResolvedRoutine) (s : State δ ε) : Prop where
  frame : s.Frame (connected w r)
  single : s.blocks.tail = []
  db : s.value? "db" = some .connection
  result : ∀ {goType}, r.result.goType? = some goType → s.value? "result" = some (.zeroOf goType)
  deferred : s.deferred = []
  closed : s.closed = 0

theorem evalAll_query (hf : s.Frame (connected w r)) (hp : Suits p w r)
    (harray : passesIdentifierSlice r = true → Use.IsOuter ⟨arrayFunction w, connected w r⟩) :
    ∃ vs, evalAll p a s (queryArguments w r) = some (vs, s) := by
  obtain ⟨vs, hvs⟩ := evalAll_passed (a := a) hf r.arguments
    (fun _ hx => goName_mem_connected hx) fun h =>
      ⟨(State.isClear_iff hf).2 (harray h), hp.arrayFormatter h⟩
  exact ⟨_, evalAll_cons rfl hvs⟩

/-- Calls a method of the connection with the statement and the values for its parameters. -/
theorem eval_onDb (hf : s.Frame (connected w r)) (hdb : s.value? "db" = some .connection)
    (hp : Suits p w r)
    (harray : passesIdentifierSlice r = true → Use.IsOuter ⟨arrayFunction w, connected w r⟩)
    (method : String) :
    ∃ vs, (onDb method (queryArguments w r)).eval p a s = s.call a .connection method vs := by
  obtain ⟨vs, hvs⟩ := evalAll_query (a := a) hf hp harray
  exact ⟨vs, eval_method (eval_variable (by decide) hdb) hvs⟩

/-- The values that are returned with a failure. -/
theorem evalAll_failure {goType : String} {v : Value δ ε} {e : ε}
    (hgo : r.result.goType? = some goType)
    (hzero : ∀ literal, zeroValue? goType = some literal → s.isPredeclared p literal = true)
    (hresult : s.value? "result" = some v) (herr : s.value? "err" = some (.error e)) :
    evalAll p a s.enter (failure r.result) =
      some ([(zeroValue? goType).elim v .ofOuter, .error e], s.enter) := by
  have hzero' : (zero goType).eval p a s.enter =
      some ([(zeroValue? goType).elim v .ofOuter], s.enter) := by
    unfold zero
    cases hz : zeroValue? goType with
    | none => exact eval_variable (by decide) hresult
    | some literal => exact eval_outer (hzero literal hz)
  have herr' : (Expr.name "err").eval p a s.enter = some ([.error e], s.enter) :=
    eval_variable (by decide) herr
  simp only [failure, hgo]
  exact evalAll_cons hzero' (evalAll_cons herr' rfl)

theorem isPredeclared_of_use {x : String} (hf : s.Frame names) (hp : Suits p w r)
    (hmem : ⟨x, names⟩ ∈ predeclaredUses w r) (hu : Use.IsOuter ⟨x, names⟩) :
    s.isPredeclared p x = true :=
  (State.isPredeclared_iff hf (hp.predeclared _ hmem)).2 hu

theorem predeclared_of_uncaptured {x : String} (hf : s.Frame names) (hp : Suits p w r)
    (hu : Uncaptured w r) (hx : ⟨x, names⟩ ∈ predeclaredUses w r) : s.isPredeclared p x = true :=
  isPredeclared_of_use hf hp hx (hu.predeclared hx)

variable {values : List (Value δ ε)}

/-- Declares the connection. The error is declared already where it is a named result. -/
theorem define_connection (values : List (Value δ ε)) (hr : Sound r)
    (huse : usesAccessor w = true) (v u : Value δ ε) :
    ∃ t, ((funcDecl w r).start values).define ["db", "err"] [v, u] = some t ∧
      t.Frame (connected w r) ∧ t.blocks.tail = [] ∧ t.deferred = [] ∧ t.closed = 0 ∧
      ∀ x, t.value? x = if x = "err" then some u else if x = "db" then some v
        else ((funcDecl w r).start values).value? x := by
  have hf := start_frame (w := w) (r := r) values
  have hdb := hf.find_eq_none (db_not_entry hr.apart huse)
  have hconnected : connected w r = "db" :: "err" :: entry w r := by simp [connected, huse]
  have hd := hf.declare "db" v
  by_cases herr : "err" ∈ entry w r
  · obtain ⟨k, hk⟩ := hf.find herr
    refine ⟨_, State.define_first rfl hdb hk (by decide) v u, ?_, ?_, ?_, ?_, ?_⟩
    · refine (hd.set "err" u).congr fun x => ?_
      rw [hconnected]
      simp only [List.mem_cons]
      exact or_congr_right (or_iff_right_of_imp (· ▸ herr)).symm
    · simp [State.declare, FuncDecl.start]
    · simp [State.declare, State.allocate, FuncDecl.start]
    · simp [State.declare, State.allocate, FuncDecl.start]
    · intro x
      rw [State.value?_set hd (List.mem_cons_of_mem _ herr), State.value?_declare hf]
  · refine ⟨_, State.define_both rfl hdb (hf.find_eq_none herr) (by decide) v u, ?_, rfl, rfl,
      rfl, ?_⟩
    · refine (hd.declare "err" u).congr fun x => ?_
      rw [hconnected]
      simp only [List.mem_cons]
      exact or_left_comm
    · intro x
      rw [State.value?_declare hd, State.value?_declare hf]

/-- The state after the accessor was called. -/
theorem exec_accessor (hr : Sound r) (hp : Suits p w r) (huse : usesAccessor w = true)
    (hacc : Use.IsOuter ⟨w.dbAccessor, entry w r⟩) (hlen : values.length = r.arguments.length) :
    ∃ t, (Stmt.define ["db", "err"] (.call w.dbAccessor [])).exec p a n
        ((funcDecl w r).start (callArguments w values)) = some (.next, t) ∧
      t.value? "err" = some (.ofError a.accessor) ∧ t.Frame (connected w r) ∧
      (∀ {goType}, r.result.goType? = some goType →
        t.value? "result" = some (.zeroOf goType)) ∧
      t.deferred = [] ∧ t.closed = 0 ∧ (a.accessor = none → Ready w r t) ∧
      ∀ x, x ∉ wrapperLocals →
        t.value? x = ((funcDecl w r).start (callArguments w values)).value? x := by
  have hf := start_frame (w := w) (r := r) (callArguments w values)
  have heval := eval_accessor (a := a) ((State.isClear_iff hf).2 hacc) (hp.accessor huse)
  obtain ⟨t, ht, hframe, hsingle, hdeferred, hclosed, hvalue⟩ :=
    define_connection (callArguments w values) hr huse
      (a.accessor.elim .connection fun _ => .nil) (.ofError a.accessor)
  have hresult : ∀ {goType}, r.result.goType? = some goType →
      t.value? "result" = some (.zeroOf goType) := by
    intro goType hgo
    rw [hvalue, if_neg (by decide), if_neg (by decide), start_result values hr hgo hlen]
  refine ⟨t, exec_define heval ht, ?_, hframe, hresult, hdeferred, hclosed, ?_, ?_⟩
  · rw [hvalue, if_pos rfl]
  · intro hnone
    refine ⟨hframe, hsingle, ?_, hresult, hdeferred, hclosed⟩
    rw [hvalue, if_neg (by decide), if_pos rfl, hnone]
    rfl
  · intro x hx
    have herr : x ≠ "err" := fun h => hx (by simp [h, wrapperLocals])
    have hdb : x ≠ "db" := fun h => hx (by simp [h, wrapperLocals])
    rw [hvalue, if_neg herr, if_neg hdb]

theorem start_ready (hr : Sound r) (huse : usesAccessor w = false)
    (hlen : values.length = r.arguments.length) :
    Ready w r ((funcDecl w r).start (callArguments w values)) where
  frame := by
    have hconnected : connected w r = entry w r := by simp [connected, huse]
    rw [hconnected]
    exact start_frame _
  single := rfl
  db := start_db values huse
  result hgo := start_result values hr hgo hlen
  deferred := rfl
  closed := rfl

/-- The values that are returned with a failure, where the result has not been written yet. -/
def failed (shape : ResultShape) (e : ε) : List (Value δ ε) :=
  match shape.goType? with
  | some goType => [withFailure goType none, .error e]
  | none => [.error e]

theorem nil_use (huse : usesAccessor w = true) : ⟨"nil", connected w r⟩ ∈ predeclaredUses w r :=
  List.mem_append_left _ (by rw [if_pos huse]; exact List.mem_cons_self)

/-- The zero literals that stand for a result are among the predeclared texts. -/
theorem zero_use (hr : Sound r) (huse : usesAccessor w = true) {goType literal : String}
    (hgo : r.result.goType? = some goType) (hz : zeroValue? goType = some literal) :
    ⟨literal, connected w r⟩ ∈ predeclaredUses w r := by
  cases hres : r.result with
  | none => simp [hres, ResultShape.goType?] at hgo
  | single t structScan =>
    simp only [hres, ResultShape.goType?, Option.some.injEq] at hgo
    simp [predeclaredUses, resultUses, hres, hgo, hz]
  | rows t element structScan =>
    simp only [hres, ResultShape.goType?, Option.some.injEq] at hgo
    have hslice := (hr.rows hres).1
    have hnil : literal = "nil" := by
      rw [← hgo, zeroValue?, hslice] at hz
      exact (Option.some.inj hz).symm
    rw [hnil]
    exact nil_use huse

/-- With a connection, the statement is sent next. -/
theorem connect_ready (hr : Sound r) (hp : Suits p w r)
    (hacc : usesAccessor w = true → Use.IsOuter ⟨w.dbAccessor, entry w r⟩)
    (hnil : usesAccessor w = true → Use.IsOuter ⟨"nil", connected w r⟩)
    (hnone : accessorFailure w a = none) (hlen : values.length = r.arguments.length)
    (rest : List Stmt) :
    ∃ t, Ready w r t ∧ execBlock p a n ((funcDecl w r).start (callArguments w values))
        (connect w r.result ++ rest) = execBlock p a n t rest ∧
      ∀ x, x ∉ wrapperLocals →
        t.value? x = ((funcDecl w r).start (callArguments w values)).value? x := by
  cases huse : usesAccessor w with
  | false =>
    have hconnect : connect w r.result = [] := by simp [connect, huse]
    rw [hconnect, List.nil_append]
    exact ⟨_, start_ready hr huse hlen, rfl, fun _ _ => rfl⟩
  | true =>
    have hanswer : a.accessor = none := by simpa [accessorFailure, huse] using hnone
    obtain ⟨t, ht, herr, hf, -, -, -, hready, hkept⟩ :=
      exec_accessor (a := a) (n := n) hr hp huse (hacc huse) hlen
    have hpredeclared : t.isPredeclared p "nil" = true :=
      isPredeclared_of_use hf hp (nil_use huse) (hnil huse)
    rw [hanswer] at herr
    refine ⟨t, hready hanswer, ?_, hkept⟩
    rw [connect, if_pos huse, List.cons_append, execBlock_next ht]
    exact execBlock_next (exec_returnOnError_next herr hpredeclared)

/-- Without one, its failure is returned. -/
theorem connect_failed (hr : Sound r) (hp : Suits p w r) (hu : Uncaptured w r) {e : ε}
    (hfails : accessorFailure w a = some e) (hlen : values.length = r.arguments.length)
    (rest : List Stmt) :
    ∃ t, execBlock p a n ((funcDecl w r).start (callArguments w values))
        (connect w r.result ++ rest) = some (.returned (failed r.result e), t) ∧
      t.deferred = [] ∧ t.closed = 0 := by
  obtain ⟨huse, hanswer⟩ : usesAccessor w = true ∧ a.accessor = some e := by
    simpa [accessorFailure] using hfails
  obtain ⟨t, ht, herr, hf, hresult, hdeferred, hclosed, -, -⟩ :=
    exec_accessor (a := a) (n := n) hr hp huse (hu.accessor huse) hlen
  have hnil : t.isPredeclared p "nil" = true := predeclared_of_uncaptured hf hp hu (nil_use huse)
  rw [hanswer] at herr
  have hvalues : evalAll p a t.enter (failure r.result) = some (failed r.result e, t.enter) := by
    cases hgo : r.result.goType? with
    | none =>
      have herr' : (Expr.name "err").eval p a t.enter = some ([.error e], t.enter) :=
        eval_variable (by decide) herr
      simp only [failure, failed, hgo]
      exact evalAll_cons herr' rfl
    | some goType =>
      have hzero : ∀ literal, zeroValue? goType = some literal →
          t.isPredeclared p literal = true := fun literal hz =>
        predeclared_of_uncaptured hf hp hu (zero_use hr huse hgo hz)
      rw [evalAll_failure hgo hzero (hresult hgo) herr]
      simp only [failed, hgo, withFailure]
      cases zeroValue? goType <;> rfl
  refine ⟨t, ?_, hdeferred, hclosed⟩
  rw [connect, if_pos huse, List.cons_append, execBlock_next ht]
  exact execBlock_returned (exec_returnOnError_returned herr hnil hvalues)

end Runs
end RoutineBindings.Wrapper
