import RoutineBindings.Proofs.WrapperRuns

/-!
# Reading rows

Each turn of the loop decodes one row into a variable of its own and appends it. What has been
collected before stays as it is, so after any number of turns the result holds the content of
every row that has been reached, in their order.
-/
namespace RoutineBindings.Wrapper
open Go
variable {δ ε : Type}

/-- The second state is one in the body of the loop: besides `value` it declares what the first
does, and it has kept the cells that no name has. -/
structure Within (s u : State δ ε) : Prop where
  find : ∀ x, x ≠ "value" → u.find x = s.find x
  next : s.next ≤ u.next
  kept : ∀ k, s.Unnamed k → u.cells k = s.cells k
  deferred : u.deferred = s.deferred
  closed : u.closed = s.closed
  ahead : u.ahead = s.ahead

namespace Within
variable {s u : State δ ε} {names : List String} {k : Nat} {x : String}

theorem enter (s : State δ ε) : Within s s.enter where
  find _ _ := rfl
  next := Nat.le_refl _
  kept _ _ := rfl
  deferred := rfl
  closed := rfl
  ahead := rfl

theorem allocate (h : Within s u) (v : Value δ ε) : Within s (u.allocate v) where
  find := h.find
  next := Nat.le_succ_of_le h.next
  kept k hk := by
    have hne : k ≠ u.next := Nat.ne_of_lt (Nat.lt_of_lt_of_le hk.1 h.next)
    rw [← h.kept k hk]
    simp [State.allocate, hne]
  deferred := h.deferred
  closed := h.closed
  ahead := h.ahead

theorem declare (h : Within s u) (v : Value δ ε) : Within s (u.declare "value" v) where
  find x hx := by rw [State.find_declare, if_neg hx, h.find x hx]
  next := (h.allocate v).next
  kept := (h.allocate v).kept
  deferred := h.deferred
  closed := h.closed
  ahead := h.ahead

theorem write (h : Within s u) (hk : s.next ≤ k) (v : Value δ ε) : Within s (u.write k v) where
  find := h.find
  next := h.next
  kept j hj := by
    have hne : j ≠ k := Nat.ne_of_lt (Nat.lt_of_lt_of_le hj.1 hk)
    rw [← h.kept j hj]
    simp [State.write, hne]
  deferred := h.deferred
  closed := h.closed
  ahead := h.ahead

theorem set (h : Within s u) (hx : x ≠ "value") (v : Value δ ε) : Within s (u.set x v) where
  find y hy := by rw [State.find_set, h.find y hy]
  next := by simpa using h.next
  kept k hk := by
    rw [← h.kept k hk]
    unfold State.set
    rw [h.find x hx]
    cases hj : s.find x with
    | none => rfl
    | some j =>
      have hne : k ≠ j := fun he => hk.2 x (he ▸ hj)
      simp [State.write, hne]
  deferred := by simpa using h.deferred
  closed := by simpa using h.closed
  ahead := by simpa using h.ahead

/-- The state after the end of the block. -/
def left (s u : State δ ε) : State δ ε := { u with blocks := s.blocks }

theorem left_frame (h : Within s u) (hf : s.Frame names) : (left s u).Frame names where
  declared := hf.declared
  below hx := Nat.lt_of_lt_of_le (hf.below hx) h.next
  apart := hf.apart

theorem left_value? (h : Within s u) (hx : x ≠ "value") : (left s u).value? x = u.value? x := by
  rw [State.value?, State.value?, h.find x hx]
  rfl

theorem left_unnamed (h : Within s u) (hk : s.Unnamed k) : (left s u).Unnamed k :=
  ⟨Nat.lt_of_lt_of_le hk.1 h.next, hk.2⟩

theorem left_unnamed_of_new (hf : s.Frame names) (hk : s.next ≤ k) (hku : k < u.next) :
    (left s u).Unnamed k :=
  ⟨hku, fun _ hx => absurd (hf.below hx) (Nat.not_lt.2 hk)⟩

end Within

/-- The value stands for the content and keeps doing so. -/
def IsCollected (s : State δ ε) (pointer : Bool) (v : Value δ ε) (content : δ) : Prop :=
  if pointer then ∃ k, v = .pointer k ∧ s.Unnamed k ∧ s.cells k = .decoded content
  else v = .decoded content

theorem IsCollected.isDecoded {s : State δ ε} {pointer : Bool} {v : Value δ ε} {d : δ}
    (h : IsCollected s pointer v d) : IsDecoded s pointer v d := by
  cases pointer with
  | false => exact h
  | true =>
    obtain ⟨k, hv, -, hk⟩ := h
    exact ⟨k, hv, hk⟩

theorem IsCollected.left {s u : State δ ε} {pointer : Bool} {v : Value δ ε} {d : δ}
    (h : IsCollected s pointer v d) (hu : Within s u) :
    IsCollected (Within.left s u) pointer v d := by
  cases pointer with
  | false => exact h
  | true =>
    obtain ⟨k, hv, hk, hd⟩ := h
    exact ⟨k, hv, hu.left_unnamed hk, (hu.kept k hk).trans hd⟩

/-- The state at the head of the loop, when the contents have been collected. -/
structure Reading (w : WrapperOptions) (r : ResolvedRoutine) (element : String) (extended : Bool)
    (s : State δ ε) (contents : List δ) : Prop where
  frame : s.Frame ("rows" :: connected w r)
  rows : s.value? "rows" = some (.rows extended)
  err : s.value? "err" = some .nil
  result : ∃ v xs, s.value? "result" = some v ∧ v.elements? = some xs ∧
    List.Forall₂ (IsCollected s (isPointer element)) xs contents
  deferred : s.deferred = [(.rows extended, "Close")]
  closed : s.closed = 0

section Turn
variable {p : Package} {a : Answers δ ε} {w : WrapperOptions} {r : ResolvedRoutine}
  {goType element : String} {structScan : Bool} {s : State δ ε} {names : List String}
  {contents : List δ} {n : Nat}

/-- The types that a row is decoded into mean what they should. -/
def RowTypes (p : Package) (element : String) (s : State δ ε) : Prop :=
  if isPointer element then
    s.isPredeclared p "new" = true ∧ s.isPredeclared p (pointee element) = true
  else s.isPredeclared p element = true

theorem rowTypes_iff (hf : s.Frame ("rows" :: connected w r)) (hp : Suits p w r)
    (hres : r.result = .rows goType element structScan) :
    RowTypes p element s ↔ ∀ u ∈ rowTypeUses w r element, u.IsOuter := by
  have hpre : ∀ x, ⟨x, "rows" :: connected w r⟩ ∈ rowTypeUses w r element →
      (s.isPredeclared p x = true ↔ Use.IsOuter ⟨x, "rows" :: connected w r⟩) := by
    intro x hx
    have hmem : ⟨x, "rows" :: connected w r⟩ ∈ predeclaredUses w r := by
      simp [predeclaredUses, resultUses, hres, hx]
    exact State.isPredeclared_iff hf (hp.predeclared _ hmem)
  unfold RowTypes
  unfold rowTypeUses at hpre ⊢
  cases hptr : isPointer element with
  | true =>
    rw [hptr] at hpre
    simp [hpre]
  | false =>
    rw [hptr] at hpre
    simp [hpre]

/-- The texts in the loop and after it mean what they should. -/
structure LoopUses (δ ε : Type) (p : Package) (w : WrapperOptions) (r : ResolvedRoutine)
    (element : String) : Prop where
  nil : ∀ {s : State δ ε}, s.Frame ("rows" :: connected w r) → s.isPredeclared p "nil" = true
  append : ∀ {s : State δ ε}, s.Frame ("value" :: "rows" :: connected w r) →
    s.isPredeclared p "append" = true
  types : ∀ {s : State δ ε}, s.Frame ("rows" :: connected w r) → RowTypes p element s

theorem loopUses (hp : Suits p w r) (hu : Uncaptured w r)
    (hres : r.result = .rows goType element structScan) : LoopUses δ ε p w r element where
  nil hf := predeclared_of_uncaptured hf hp hu (by simp [predeclaredUses, resultUses, hres])
  append hf := predeclared_of_uncaptured hf hp hu (by simp [predeclaredUses, resultUses, hres])
  types hf := (rowTypes_iff hf hp hres).2 fun u hmem =>
    hu.predeclared (by simp [predeclaredUses, resultUses, hres, hmem])

/-- What a row has been decoded into. -/
def RowRead (element : String) (s u : State δ ε) (row : Scan δ ε) (v : Value δ ε) : Prop :=
  ∀ d, row.written = some d →
    if isPointer element then
      ∃ k, v = .pointer k ∧ s.next ≤ k ∧ k < u.next ∧ u.cells k = .decoded d
    else v = .decoded d

/-- The state in the body of the loop where a row is to be decoded. -/
structure Declared (w : WrapperOptions) (r : ResolvedRoutine) (s u : State δ ε)
    (v : Value δ ε) : Prop where
  within : Within s u
  frame : u.Frame ("value" :: "rows" :: connected w r)
  values : ∀ x, u.value? x = if x = "value" then some v else s.value? x
  current : u.current = s.current

/-- The state in the body of the loop after a row was decoded. -/
structure Decoded (w : WrapperOptions) (r : ResolvedRoutine) (s u : State δ ε) (row : Scan δ ε)
    (v : Value δ ε) : Prop where
  within : Within s u
  frame : u.Frame ("value" :: "rows" :: connected w r)
  value : u.value? "value" = some v
  err : u.value? "err" = some (.ofError row.failure)
  kept : ∀ x, x ≠ "value" → x ≠ "err" → u.value? x = s.value? x

/-- Assigns the outcome of decoding a row into a new cell. -/
theorem scanRow_run {u : State δ ε} {k : Nat} {e : Expr} {row : Scan δ ε} {v : Value δ ε}
    (v' : Value δ ε) (hgo : r.result.goType? = some goType) (hu : Declared w r s u v)
    (hk : s.next ≤ k)
    (heval : e.eval p a u = some (u.scan row k))
    (hkeeps : ∀ d x, x ≠ "value" → (u.write k (.decoded d)).value? x = u.value? x)
    (hvalue : (row.written.elim u fun d => u.write k (.decoded d)).value? "value" = some v') :
    ∃ t, (Stmt.assign ["err"] e).exec p a n u = some (.next, t) ∧ Decoded w r s t row v' ∧
      t.next = u.next ∧ ∀ d, row.written = some d → u.Unnamed k → t.cells k = .decoded d := by
  have hmem : "err" ∈ "value" :: "rows" :: connected w r :=
    List.mem_cons_of_mem _ (List.mem_cons_of_mem _ (results_connected hgo).2)
  have heval' : e.eval p a u =
      some ([.ofError row.failure], row.written.elim u fun d => u.write k (.decoded d)) := by
    rw [heval, State.scan]
    cases row.written <;> rfl
  have hf : (row.written.elim u fun d => u.write k (.decoded d)).Frame
      ("value" :: "rows" :: connected w r) := by
    cases row.written
    · exact hu.frame
    · exact hu.frame.write _ _
  refine ⟨_, exec_assign heval' hf hmem (by decide), ⟨?_, hf.set _ _, ?_, ?_, ?_⟩, ?_, ?_⟩
  · refine Within.set ?_ (by decide) _
    cases row.written
    · exact hu.within
    · exact hu.within.write hk _
  · rw [State.value?_set hf hmem, if_neg (by decide), hvalue]
  · rw [State.value?_set hf hmem, if_pos rfl]
  · intro x hx hxe
    have hkept : u.value? x = s.value? x := (hu.values x).trans (if_neg hx)
    rw [State.value?_set hf hmem, if_neg hxe, ← hkept]
    cases row.written with
    | none => rfl
    | some d => exact hkeeps d x hx
  · rw [State.next_set]
    cases row.written <;> rfl
  · intro d hd hun
    simp only [hd, Option.elim_some]
    rw [State.cells_set_of_unnamed (hun.write _ _)]
    simp [State.write]

/-- Allocates a structure for a row. -/
theorem declare_structure (hf : s.Frame ("rows" :: connected w r)) {type : String}
    (hnew : s.isPredeclared p "new" = true) (htype : s.isPredeclared p type = true) :
    ∃ u, (Stmt.define ["value"] (.call "new" [.name type])).exec p a n s.enter = some (.next, u) ∧
      Declared w r s u (.pointer s.next) ∧ u.Unnamed s.next := by
  have hf' := hf.enter.allocate (.zeroOf type)
  have hcell := (State.unnamed_next hf.enter (.zeroOf type)).declare "value" (.pointer s.next)
  refine ⟨_, exec_define (eval_new hnew htype)
    (State.define_one rfl (by decide : "value" ≠ "_") (.pointer s.next)),
    ⟨((Within.enter s).allocate _).declare _, hf'.declare _ _, fun x => ?_, rfl⟩, hcell⟩
  exact (State.value?_declare hf' _ _ x).trans (by rw [State.value?_allocate hf.enter]; rfl)

/-- Declares a variable for a row. -/
theorem declare_variable (hf : s.Frame ("rows" :: connected w r)) {type : String}
    (htype : s.isPredeclared p type = true) :
    ∃ u, (Stmt.declare "value" type).exec p a n s.enter = some (.next, u) ∧
      Declared w r s u (.zeroOf type) ∧ u.find "value" = some s.next := by
  refine ⟨s.enter.declare "value" (.zeroOf type), ?_,
    ⟨(Within.enter s).declare _, hf.enter.declare _ _, State.value?_declare hf.enter _ _, rfl⟩, ?_⟩
  · simp [Stmt.exec, isPredeclared_enter, htype]
  · rw [State.find_declare, if_pos rfl]
    rfl

theorem readStructureRow_run (hgo : r.result.goType? = some goType)
    (hs : Reading w r element true s contents) (hptr : isPointer element = true)
    (htypes : RowTypes p element s) {row : Scan δ ε} (hrow : s.current = some row)
    (rest : List Stmt) :
    ∃ u v, execBlock p a n s.enter (readRow element true ++ rest) = execBlock p a n u rest ∧
      Decoded w r s u row v ∧ RowRead element s u row v := by
  rw [RowTypes, if_pos hptr] at htypes
  obtain ⟨u, hdeclare, hu, hcell⟩ :=
    declare_structure (a := a) (n := n) hs.frame htypes.1 htypes.2
  have hvalue : u.value? "value" = some (.pointer s.next) := hu.values "value"
  have hrows : u.value? "rows" = some (.rows true) := (hu.values "rows").trans hs.rows
  have hscan : (Expr.method (.name "rows") "StructScan" [.name "value"]).eval p a u =
      some (u.scan row s.next) := by
    rw [eval_method (eval_variable (by decide) hrows)
      (evalAll_cons (eval_variable (by decide) hvalue) rfl)]
    simp [State.call, hu.current, hrow]
  obtain ⟨t, hassign, ht, hnext, hwritten⟩ := scanRow_run (n := n) (.pointer s.next) hgo hu
    (Nat.le_refl _) hscan (fun d x _ => State.value?_write_unnamed hcell (.decoded d) x) (by
      cases row.written with
      | none => exact hvalue
      | some d => exact (State.value?_write_unnamed hcell _ _).trans hvalue)
  refine ⟨t, _, ?_, ht, fun d hd => ?_⟩
  · simp only [readRow, hptr, if_true, List.cons_append, List.nil_append]
    rw [execBlock_next hdeclare, execBlock_next hassign]
  · rw [if_pos hptr]
    exact ⟨s.next, rfl, Nat.le_refl _, hnext ▸ hcell.1, hwritten d hd hcell⟩

theorem readVariableRow_run (hgo : r.result.goType? = some goType)
    (hs : Reading w r element structScan s contents) (hptr : isPointer element = false)
    (htypes : RowTypes p element s) {row : Scan δ ε} (hrow : s.current = some row)
    (rest : List Stmt) :
    ∃ u v, execBlock p a n s.enter (readRow element structScan ++ rest) =
        execBlock p a n u rest ∧ Decoded w r s u row v ∧ RowRead element s u row v := by
  rw [RowTypes, hptr, if_neg (by decide)] at htypes
  obtain ⟨u, hdeclare, hu, hfind⟩ := declare_variable (a := a) (n := n) hs.frame htypes
  have hrows : u.value? "rows" = some (.rows structScan) := (hu.values "rows").trans hs.rows
  have haddress : evalAll p a u [.address (.name "value")] = some ([.pointer s.next], u) := by
    simp [evalAll, Expr.eval, hfind]
  have hscan : (Expr.method (.name "rows") (if structScan then "StructScan" else "Scan")
      [.address (.name "value")]).eval p a u = some (u.scan row s.next) := by
    rw [eval_method (eval_variable (by decide) hrows) haddress]
    cases structScan <;> simp [State.call, hu.current, hrow]
  have hset : ∀ d x, (u.write s.next (.decoded d)).value? x =
      if x = "value" then some (.decoded d) else u.value? x := by
    intro d x
    rw [State.write_eq_set hfind, State.value?_set hu.frame List.mem_cons_self]
  obtain ⟨t, hassign, ht, -, -⟩ := scanRow_run (n := n)
    ((row.written.map .decoded).getD (.zeroOf element)) hgo hu (Nat.le_refl _) hscan
    (fun d x hx => (hset d x).trans (if_neg hx)) (by
      cases row.written with
      | none => exact hu.values "value"
      | some d => exact hset d "value")
  refine ⟨t, _, ?_, ht, fun d hd => ?_⟩
  · simp only [readRow, hptr, Bool.false_eq_true, if_false, List.cons_append, List.nil_append]
    rw [execBlock_next hdeclare, execBlock_next hassign]
  · rw [hptr, if_neg (by decide), hd]
    rfl

/-- Decodes one row, into a structure of its own or into the variable. -/
theorem readRow_run (hr : Sound r) (hres : r.result = .rows goType element structScan)
    (htypes : RowTypes p element s) (hs : Reading w r element structScan s contents)
    {row : Scan δ ε} (hrow : s.current = some row) (rest : List Stmt) :
    ∃ u v, execBlock p a n s.enter (readRow element structScan ++ rest) =
        execBlock p a n u rest ∧ Decoded w r s u row v ∧ RowRead element s u row v := by
  have hgo : r.result.goType? = some goType := by rw [hres]; rfl
  cases hptr : isPointer element with
  | false => exact readVariableRow_run hgo hs hptr htypes hrow rest
  | true =>
    have hext : structScan = true := (hr.rows hres).2 hptr
    subst hext
    exact readStructureRow_run hgo hs hptr htypes hrow rest

/-- The body of the loop. -/
def turn (r : ResolvedRoutine) (element : String) (structScan : Bool) : List Stmt :=
  readRow element structScan ++
    [.returnOnError (failure r.result),
     .assign ["result"] (.call "append" [.name "result", .name "value"])]

theorem isPredeclared_within {u : State δ ε} (hu : Within s u)
    (h : s.isPredeclared p "nil" = true) : u.isPredeclared p "nil" = true := by
  rw [State.isPredeclared_bodyName (by decide)] at h ⊢
  rwa [hu.find "nil" (by decide)]

/-- What was decoded in a turn keeps its content after it. -/
theorem RowRead.isCollected {u : State δ ε} {v z : Value δ ε} {d : δ} (hu : Within s u)
    (hf : s.Frame names) (hread : RowRead element s u (.done d) v) :
    IsCollected (Within.left s (u.set "result" z)) (isPointer element) v d := by
  have hv := hread d rfl
  cases hptr : isPointer element with
  | false =>
    rw [hptr, if_neg (by decide)] at hv
    exact hv
  | true =>
    rw [hptr, if_pos rfl] at hv
    obtain ⟨k, rfl, hk, hku, hd⟩ := hv
    have hcell : (u.set "result" z).cells k = u.cells k := by
      unfold State.set
      rw [hu.find "result" (by decide)]
      cases hj : s.find "result" with
      | none => rfl
      | some j =>
        have hne : k ≠ j := fun he => absurd (hf.below hj) (Nat.not_lt.2 (he ▸ hk))
        simp [State.write, hne]
    exact ⟨k, rfl, Within.left_unnamed_of_new hf hk (by simpa using hku), hcell.trans hd⟩

/-- After a turn its row is collected as well. -/
theorem Reading.collect (hs : Reading w r element structScan s contents) {u : State δ ε}
    {v : Value δ ε} {d : δ} {xs : List (Value δ ε)} (hgo : r.result.goType? = some goType)
    (hu : Decoded w r s u (.done d) v) (hread : RowRead element s u (.done d) v)
    (hcollected : List.Forall₂ (IsCollected s (isPointer element)) xs contents) :
    Reading w r element structScan (Within.left s (u.set "result" (.slice (xs ++ [v]))))
      (contents ++ [d]) := by
  have hmem : "result" ∈ "value" :: "rows" :: connected w r :=
    List.mem_cons_of_mem _ (List.mem_cons_of_mem _ (results_connected hgo).1)
  have hw : Within s (u.set "result" (.slice (xs ++ [v]))) := hu.within.set (by decide) _
  refine ⟨hw.left_frame hs.frame, ?_, ?_, ⟨.slice (xs ++ [v]), xs ++ [v], ?_, rfl, ?_⟩,
    hw.deferred.trans hs.deferred, hw.closed.trans hs.closed⟩
  · rw [hw.left_value? (by decide), State.value?_set hu.frame hmem, if_neg (by decide),
      hu.kept "rows" (by decide) (by decide), hs.rows]
  · rw [hw.left_value? (by decide), State.value?_set hu.frame hmem, if_neg (by decide), hu.err]
    rfl
  · rw [hw.left_value? (by decide), State.value?_set hu.frame hmem, if_pos rfl]
  · exact List.rel_append (hcollected.imp fun _ _ h => h.left hw)
      (.cons (hread.isCollected hu.within hs.frame) .nil)

/-- One turn of the loop. -/
theorem turn_run (hr : Sound r) (hres : r.result = .rows goType element structScan)
    (hl : LoopUses δ ε p w r element)
    (hs : Reading w r element structScan s contents) {row : Scan δ ε}
    (hrow : s.current = some row) :
    match row with
    | .failed e _ => ∃ t, inBlock (fun s => execBlock p a n s (turn r element structScan)) s =
        some (.returned [.nil, .error e], t) ∧ t.deferred = s.deferred ∧ t.closed = s.closed
    | .done d => ∃ t, inBlock (fun s => execBlock p a n s (turn r element structScan)) s =
        some (.next, t) ∧ Reading w r element structScan t (contents ++ [d]) ∧
          t.ahead = s.ahead := by
  have hgo : r.result.goType? = some goType := by rw [hres]; rfl
  obtain ⟨u, v, hrun, hu, hread⟩ := readRow_run (a := a) (n := n) hr hres (hl.types hs.frame) hs
    hrow [.returnOnError (failure r.result),
      .assign ["result"] (.call "append" [.name "result", .name "value"])]
  have hnil : u.isPredeclared p "nil" = true := isPredeclared_within hu.within (hl.nil hs.frame)
  obtain ⟨v₀, xs, hv₀, hxs, hcollected⟩ := hs.result
  have hresult : u.value? "result" = some v₀ :=
    (hu.kept "result" (by decide) (by decide)).trans hv₀
  cases row with
  | failed e written =>
    have hzero : zeroValue? goType = some "nil" := by simp [zeroValue?, (hr.rows hres).1]
    have hvalues : evalAll p a u.enter (failure r.result) = some ([.nil, .error e], u.enter) := by
      rw [evalAll_failure hgo (fun literal hz => ?_) hresult hu.err, hzero]
      · rfl
      · rw [hzero] at hz
        cases hz
        exact hnil
    have hblock : execBlock p a n { s with blocks := [] :: s.blocks }
        (turn r element structScan) = some (.returned [.nil, .error e], u) :=
      hrun.trans (execBlock_returned (exec_returnOnError_returned hu.err hnil hvalues))
    refine ⟨Within.left s u, ?_, hu.within.deferred, hu.within.closed⟩
    simp [inBlock, hblock, Within.left]
  | done d =>
    have happend := eval_append (a := a) (hl.append hu.frame)
      (eval_variable (by decide) hresult) (eval_variable (by decide) hu.value) hxs
    have hmem : "result" ∈ "value" :: "rows" :: connected w r :=
      List.mem_cons_of_mem _ (List.mem_cons_of_mem _ (results_connected hgo).1)
    have hblock : execBlock p a n { s with blocks := [] :: s.blocks }
        (turn r element structScan) = some (.next, u.set "result" (.slice (xs ++ [v]))) :=
      hrun.trans ((execBlock_next (exec_returnOnError_next hu.err hnil)).trans
        ((execBlock_next (exec_assign happend hu.frame hmem (by decide))).trans rfl))
    have hw : Within s (u.set "result" (.slice (xs ++ [v]))) := hu.within.set (by decide) _
    refine ⟨Within.left s (u.set "result" (.slice (xs ++ [v]))), ?_,
      hs.collect hgo hu hread hcollected, hw.ahead⟩
    simp [inBlock, hblock, Within.left]

theorem Reading.move (hs : Reading w r element structScan s contents) (row : Option (Scan δ ε))
    (ahead : RowSet δ ε) :
    Reading w r element structScan { s with current := row, ahead := ahead } contents where
  frame := ⟨hs.frame.declared, hs.frame.below, hs.frame.apart⟩
  rows := hs.rows
  err := hs.err
  result := hs.result
  deferred := hs.deferred
  closed := hs.closed

theorem next_test (hs : Reading w r element structScan s contents) :
    (Expr.method (.name "rows") "Next" []).test p a s =
      match s.ahead.rows with
      | [] => some (false, { s with current := none })
      | x :: xs =>
        some (true, { s with current := some x, ahead := { s.ahead with rows := xs } }) := by
  have heval : (Expr.method (.name "rows") "Next" []).eval p a s =
      s.call a (.rows structScan) "Next" [] :=
    eval_method (eval_variable (by decide) hs.rows) rfl
  simp only [Expr.test, heval]
  cases hrows : s.ahead.rows <;> simp [State.call, hrows]

/-- The loop stops at the first row that cannot be decoded, or has collected all of them. -/
theorem loop_run (hr : Sound r) (hres : r.result = .rows goType element structScan)
    (hl : LoopUses δ ε p w r element) (rows : List (Scan δ ε)) :
    ∀ {m s contents}, Reading w r element structScan s contents → s.ahead.rows = rows →
      rows.length < m →
      match rows.findSome? Scan.failure with
      | some e => ∃ t, iterate ((Expr.method (.name "rows") "Next" []).test p a)
          (inBlock fun s => execBlock p a n s (turn r element structScan)) m s =
            some (.returned [.nil, .error e], t) ∧
          t.deferred = [(.rows structScan, "Close")] ∧ t.closed = 0
      | none => ∃ t, iterate ((Expr.method (.name "rows") "Next" []).test p a)
          (inBlock fun s => execBlock p a n s (turn r element structScan)) m s =
            some (.next, t) ∧
          Reading w r element structScan t (contents ++ rows.filterMap Scan.written) ∧
          t.ahead.ending = s.ahead.ending := by
  induction rows with
  | nil =>
    intro m s contents hs hrows hm
    obtain ⟨m, rfl⟩ := Nat.exists_eq_succ_of_ne_zero (Nat.ne_of_gt hm)
    have htest := next_test (p := p) (a := a) hs
    rw [hrows] at htest
    refine ⟨{ s with current := none }, ?_, ?_, rfl⟩
    · simp [iterate, htest]
    · simpa using hs.move none s.ahead
  | cons row rows ih =>
    intro m s contents hs hrows hm
    obtain ⟨m, rfl⟩ := Nat.exists_eq_succ_of_ne_zero (Nat.ne_zero_of_lt hm)
    have htest := next_test (p := p) (a := a) hs
    rw [hrows] at htest
    have hs' := hs.move (some row) { s.ahead with rows := rows }
    have hturn := turn_run (a := a) (n := n) hr hres hl hs' rfl
    cases row with
    | failed e written =>
      obtain ⟨t, ht, hdeferred, hclosed⟩ := hturn
      simp only [List.findSome?_cons, Scan.failure]
      refine ⟨t, ?_, hdeferred.trans hs.deferred, hclosed.trans hs.closed⟩
      simp [iterate, htest, ht]
    | done d =>
      obtain ⟨t, ht, hread, hahead⟩ := hturn
      have hrest := ih hread (by rw [hahead]) (Nat.lt_of_succ_lt_succ hm)
      have hiterate : iterate ((Expr.method (.name "rows") "Next" []).test p a)
          (inBlock fun s => execBlock p a n s (turn r element structScan)) (m + 1) s =
          iterate ((Expr.method (.name "rows") "Next" []).test p a)
            (inBlock fun s => execBlock p a n s (turn r element structScan)) m t := by
        simp [iterate, htest, ht]
      simp only [List.findSome?_cons, Scan.failure, hiterate]
      cases hfail : rows.findSome? Scan.failure with
      | some e =>
        rw [hfail] at hrest
        exact hrest
      | none =>
        rw [hfail] at hrest
        obtain ⟨u, hu, hreading, hending⟩ := hrest
        refine ⟨u, hu, ?_, hending.trans (by rw [hahead])⟩
        simpa [Scan.written, List.append_assoc] using hreading

/-- The state after the query was sent. -/
structure Queried (w : WrapperOptions) (r : ResolvedRoutine) (goType : String) (s t : State δ ε)
    (v : Value δ ε) (e : Option ε) : Prop where
  frame : t.Frame ("rows" :: connected w r)
  rows : t.value? "rows" = some v
  err : t.value? "err" = some (.ofError e)
  result : t.value? "result" = some (.zeroOf goType)
  deferred : t.deferred = []
  closed : t.closed = 0
  kept : ∀ x, x ∉ wrapperLocals → t.value? x = s.value? x

theorem define_rows (hr : Sound r) (hs : Ready w r s) (hgo : r.result.goType? = some goType)
    (v : Value δ ε) (e : Option ε) (ahead : RowSet δ ε) :
    ∃ t, { s with ahead := ahead }.define ["rows", "err"] [v, .ofError e] = some t ∧
      Queried w r goType s t v e ∧ t.ahead = ahead := by
  have hf : { s with ahead := ahead }.Frame (connected w r) :=
    ⟨hs.frame.declared, hs.frame.below, hs.frame.apart⟩
  have hsingle : { s with ahead := ahead }.blocks.tail = [] := hs.single
  have herr := (results_connected (w := w) hgo).2
  obtain ⟨k, hk⟩ := hf.find herr
  have hnew := hf.find_eq_none (rows_not_connected hr.apart (.inl rfl))
  have hf₁ := hf.declare "rows" v
  have herr₁ : "err" ∈ "rows" :: connected w r := List.mem_cons_of_mem _ herr
  refine ⟨_, State.define_first hsingle hnew hk (by decide) _ _,
    ⟨hf₁.set _ _, ?_, ?_, ?_, ?_, ?_, ?_⟩, ?_⟩
  · rw [State.value?_set hf₁ herr₁, if_neg (by decide), State.value?_declare hf, if_pos rfl]
  · rw [State.value?_set hf₁ herr₁, if_pos rfl]
  · rw [State.value?_set hf₁ herr₁, if_neg (by decide), State.value?_declare hf,
      if_neg (by decide)]
    exact hs.result hgo
  · simp [State.declare, State.allocate, hs.deferred]
  · simp [State.declare, State.allocate, hs.closed]
  · intro x hx
    have hxe : x ≠ "err" := fun h => hx (by simp [h, wrapperLocals])
    have hxr : x ≠ "rows" := fun h => hx (by simp [h, wrapperLocals])
    rw [State.value?_set hf₁ herr₁, if_neg hxe, State.value?_declare hf, if_neg hxr]
    rfl
  · simp [State.declare, State.allocate]

/-- Sends the query. -/
theorem query_run (hr : Sound r) (hs : Ready w r s) (hp : Suits p w r)
    (harray : passesIdentifierSlice r = true → Use.IsOuter ⟨arrayFunction w, connected w r⟩)
    (hgo : r.result.goType? = some goType) (extended : Bool) :
    match a.query with
    | .error e => ∃ t, (Stmt.define ["rows", "err"] (onDb (if extended then "Queryx" else "Query")
        (queryArguments w r))).exec p a n s = some (.next, t) ∧
          Queried w r goType s t .nil (some e)
    | .ok set => ∃ t, (Stmt.define ["rows", "err"] (onDb (if extended then "Queryx" else "Query")
        (queryArguments w r))).exec p a n s = some (.next, t) ∧
          Queried w r goType s t (.rows extended) none ∧ t.ahead = set := by
  obtain ⟨args, hargs⟩ := eval_onDb (a := a) hs.frame hs.db hp harray
    (if extended then "Queryx" else "Query")
  have hcall : s.call a .connection (if extended then "Queryx" else "Query") args =
      some (s.query a extended) := by
    cases extended <;> simp [State.call]
  rw [hcall, State.query] at hargs
  cases hquery : a.query with
  | error e =>
    rw [hquery] at hargs
    obtain ⟨t, ht, hqueried, -⟩ := define_rows hr hs hgo .nil (some e) s.ahead
    exact ⟨t, exec_define hargs ht, hqueried⟩
  | ok set =>
    rw [hquery] at hargs
    obtain ⟨t, ht, hqueried, hahead⟩ := define_rows hr hs hgo (.rows extended) none set
    exact ⟨t, exec_define hargs ht, hqueried, hahead⟩

/-- The loop starts with nothing collected, when rows have been given. -/
theorem open_run (hr : Sound r) (hres : r.result = .rows goType element structScan)
    {t : State δ ε} (ht : Queried w r goType s t (.rows structScan) none)
    (hnil : t.isPredeclared p "nil" = true) (rest : List Stmt) :
    ∃ u, execBlock p a n t (.returnOnError (failure r.result) ::
        .defer (.method (.name "rows") "Close" []) :: rest) = execBlock p a n u rest ∧
      Reading w r element structScan u [] ∧ u.ahead = t.ahead := by
  have hzero : (.zeroOf goType : Value δ ε) = .nil := by
    simp [Value.zeroOf, (hr.rows hres).1]
  have hrows : (Expr.name "rows").eval p a t = some ([.rows structScan], t) :=
    eval_variable (by decide) ht.rows
  have hdefer : (Stmt.defer (.method (.name "rows") "Close" [])).exec p a n t =
      some (.next, { t with deferred := [(.rows structScan, "Close")] }) := by
    simp [Stmt.exec, hrows, ht.deferred]
  refine ⟨_, (execBlock_next (exec_returnOnError_next ht.err hnil)).trans (execBlock_next hdefer),
    ?_, rfl⟩
  exact
    { frame := ⟨ht.frame.declared, ht.frame.below, ht.frame.apart⟩
      rows := ht.rows
      err := ht.err
      result := ⟨.nil, [], hzero ▸ ht.result, rfl, .nil⟩
      deferred := rfl
      closed := ht.closed }

/-- The end of a wrapper for rows: the failure that ended them, or what has been collected. -/
theorem close_run (hr : Sound r) (hres : r.result = .rows goType element structScan)
    (hl : LoopUses δ ε p w r element)
    (hs : Reading w r element structScan s contents) :
    ∃ v xs, v.elements? = some xs ∧ List.Forall₂ (IsDecoded s (isPointer element)) xs contents ∧
      execBlock p a n s
        [.branch (.binary (.method (.name "rows") "Err" []) "!=" (.name "nil"))
          [.ret [zero goType, .method (.name "rows") "Err" []]],
         .ret [.name "result", .name "nil"]] =
        some (.returned (match s.ahead.ending with
          | some e => [.nil, .error e]
          | none => [v, .nil]), s) := by
  obtain ⟨v, xs, hv, hxs, hcollected⟩ := hs.result
  refine ⟨v, xs, hxs, hcollected.imp fun _ _ h => h.isDecoded, ?_⟩
  have hzero : zeroValue? goType = some "nil" := by simp [zeroValue?, (hr.rows hres).1]
  have hnil := hl.nil hs.frame
  have herr : ∀ t : State δ ε, t.value? "rows" = some (.rows structScan) →
      (Expr.method (.name "rows") "Err" []).eval p a t = some ([.ofError t.ahead.ending], t) :=
    fun t ht => (eval_method (eval_variable (by decide) ht) rfl).trans
      (by simp [State.call])
  have htest := test_ne_nil (herr s hs.rows) hnil
  cases hending : s.ahead.ending with
  | some e =>
    rw [hending] at htest
    have hzero' : (zero goType).eval p a s.enter = some ([.nil], s.enter) := by
      rw [zero, hzero]
      exact eval_outer hnil
    have hvalues : evalAll p a s.enter [zero goType, .method (.name "rows") "Err" []] =
        some ([.nil, .error e], s.enter) := by
      have herr' := herr s.enter hs.rows
      have hending' : s.enter.ahead.ending = some e := hending
      rw [hending'] at herr'
      exact evalAll_cons hzero' (evalAll_cons herr' rfl)
    exact execBlock_returned (exec_branch_returned htest hvalues)
  | none =>
    rw [hending] at htest
    rw [execBlock_next (exec_branch_next htest)]
    exact execBlock_returned (exec_ret (evalAll_cons (eval_variable (by decide) hv)
      (evalAll_cons (eval_outer hnil) rfl)))

theorem exec_loop (s : State δ ε) :
    (Stmt.loop (.method (.name "rows") "Next" []) (turn r element structScan)).exec p a n s =
      iterate ((Expr.method (.name "rows") "Next" []).test p a)
        (inBlock fun s => execBlock p a n s (turn r element structScan)) n s := by
  simp [Stmt.exec]

theorem readRows_run (hr : Sound r) (hs : Ready w r s) (hp : Suits p w r) (hu : Uncaptured w r)
    (hres : r.result = .rows goType element structScan)
    (hlength : ∀ set, a.query = .ok set → set.rows.length < n) :
    ∃ t vs, execBlock p a n s
        (readRows goType element structScan (queryArguments w r) (failure r.result)) =
          some (.returned vs, t) ∧ t.closed = 0 ∧
      match a.query with
      | .error e => t.deferred = [] ∧ vs = [.nil, .error e]
      | .ok set => t.deferred = [(.rows structScan, "Close")] ∧
        match set.failure with
        | some e => vs = [.nil, .error e]
        | none => ∃ v xs, vs = [v, .nil] ∧ v.elements? = some xs ∧
          List.Forall₂ (IsDecoded t (isPointer element)) xs (set.rows.filterMap Scan.written) := by
  have hgo : r.result.goType? = some goType := by rw [hres]; rfl
  have hl : LoopUses δ ε p w r element := loopUses hp hu hres
  have hzero : zeroValue? goType = some "nil" := by simp [zeroValue?, (hr.rows hres).1]
  have hquery := query_run (a := a) (n := n) hr hs hp hu.arrayFormatter hgo structScan
  cases hanswer : a.query with
  | error e =>
    rw [hanswer] at hquery
    obtain ⟨t, hdefine, ht⟩ := hquery
    have hvalues : evalAll p a t.enter (failure r.result) = some ([.nil, .error e], t.enter) := by
      rw [evalAll_failure hgo (fun literal hz => ?_) ht.result ht.err, hzero]
      · rfl
      · rw [hzero] at hz
        cases hz
        exact hl.nil ht.frame
    exact ⟨t, _, (execBlock_next hdefine).trans
      (execBlock_returned (exec_returnOnError_returned ht.err (hl.nil ht.frame) hvalues)),
      ht.closed, ht.deferred, rfl⟩
  | ok set =>
    rw [hanswer] at hquery
    obtain ⟨t, hdefine, ht, hahead⟩ := hquery
    obtain ⟨u, hopen, hu', hahead'⟩ := open_run (a := a) (n := n) hr hres ht (hl.nil ht.frame)
      (.loop (.method (.name "rows") "Next" []) (turn r element structScan) ::
        [.branch (.binary (.method (.name "rows") "Err" []) "!=" (.name "nil"))
          [.ret [zero goType, .method (.name "rows") "Err" []]],
         .ret [.name "result", .name "nil"]])
    have hstart : execBlock p a n s (readRows goType element structScan (queryArguments w r)
        (failure r.result)) = _ := (execBlock_next hdefine).trans hopen
    have hset : u.ahead = set := hahead'.trans hahead
    have hloop := loop_run (a := a) (n := n) hr hres hl set.rows hu' (by rw [hset])
      (hlength set hanswer)
    simp only [RowSet.failure]
    cases hfail : set.rows.findSome? Scan.failure with
    | some e =>
      rw [hfail] at hloop
      obtain ⟨z, hz, hdeferred, hclosed⟩ := hloop
      exact ⟨z, _, hstart.trans (execBlock_returned ((exec_loop u).trans hz)), hclosed,
        hdeferred, rfl⟩
    | none =>
      rw [hfail] at hloop
      obtain ⟨z, hz, hreading, hending⟩ := hloop
      obtain ⟨v, xs, hxs, hcollected, hclose⟩ :=
        close_run (p := p) (a := a) (n := n) hr hres hl hreading
      rw [hending, hset] at hclose
      refine ⟨z, _, hstart.trans ((execBlock_next ((exec_loop u).trans hz)).trans hclose),
        hreading.closed, hreading.deferred, ?_⟩
      cases set.ending with
      | some e => rfl
      | none => exact ⟨v, xs, rfl, hxs, by simpa using hcollected⟩

end Turn
end RoutineBindings.Wrapper
