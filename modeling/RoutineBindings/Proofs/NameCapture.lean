import RoutineBindings.Proofs.StuckRuns

/-!
# Captured names

A wrapper returns what it should, however its calls end, exactly when none of its parameters and
variables captures a name that its body takes from outside.
-/
namespace RoutineBindings.Wrapper
open Go

section Outcomes
variable {δ ε : Type} {p : Package} {a : Answers δ ε} {w : WrapperOptions} {r : ResolvedRoutine}
  {values : List (Value δ ε)} {n : Nat}

theorem run_of_returned {vs : List (Value δ ε)} {t u : State δ ε}
    (h : execBlock p a n ((funcDecl w r).start (callArguments w values))
      (connect w r.result ++ callAndRead w r) = some (.returned vs, t))
    (hlen : vs.length = (results r.result).types.length) (hleave : leave a t t.deferred = some u)
    (hdistinct : (entry w r).Nodup) :
    (funcDecl w r).run p a n (callArguments w values) = some (vs, u) := by
  have hbody : execBlock p a n ((funcDecl w r).start (callArguments w values))
      (funcDecl w r).body = some (.returned vs, t) := h
  have hlen' : vs.length = (funcDecl w r).results.types.length := hlen
  have hnames : (funcDecl w r).names.Nodup := hdistinct
  simp [FuncDecl.run, hnames, hbody, hlen', hleave]

theorem leave_nil {t : State δ ε} (h : t.deferred = []) : leave a t t.deferred = some t := by
  rw [h]
  rfl

theorem leave_close {t : State δ ε} {extended : Bool}
    (h : t.deferred = [(.rows extended, "Close")]) :
    leave a t t.deferred = some { t with closed := t.closed + 1 } := by
  simp [h, leave, State.call]

theorem results_length (shape : ResultShape) :
    (results shape).types.length = if shape = .none then 1 else 2 := by
  cases shape <;> simp [results, ResultShape.goType?, Results.types]

/-- The accessor fails. -/
theorem returned_failed (hr : Sound r) (hp : Suits p w r) (hd : (entry w r).Nodup)
    (hu : Uncaptured w r) {e : ε} (hfails : accessorFailure w a = some e)
    (hlen : values.length = r.arguments.length) :
    ∃ vs s, (funcDecl w r).run p a n (callArguments w values) = some (vs, s) ∧
      Returned w a vs s r.result := by
  obtain ⟨t, ht, hdeferred, hclosed⟩ :=
    connect_failed (n := n) hr hp hu hfails hlen (callAndRead w r)
  refine ⟨_, t, run_of_returned ht ?_ (leave_nil hdeferred) hd, ?_⟩
  · rw [results_length]
    cases r.result <;> simp [failed, ResultShape.goType?]
  · cases hres : r.result with
    | none => simp [Returned, hfails, hclosed, failed, ResultShape.goType?, Value.ofError]
    | single goType structScan => simp [Returned, hfails, hclosed, failed, ResultShape.goType?]
    | rows goType element structScan =>
      have hzero : zeroValue? goType = some "nil" := by simp [zeroValue?, (hr.rows hres).1]
      simp [Returned, hfails, hclosed, failed, ResultShape.goType?, withFailure, hzero,
        Value.ofOuter]

section Sent
variable {s : State δ ε}
  (hrun : execBlock p a n ((funcDecl w r).start (callArguments w values))
    (connect w r.result ++ callAndRead w r) = execBlock p a n s (callAndRead w r))
include hrun

theorem returned_execute (hr : Sound r) (hp : Suits p w r) (hd : (entry w r).Nodup)
    (hu : Uncaptured w r) (hacc : accessorFailure w a = none) (hs : Ready w r s)
    (hres : r.result = .none) :
    ∃ vs s, (funcDecl w r).run p a n (callArguments w values) = some (vs, s) ∧
      Returned w a vs s r.result := by
  obtain ⟨t, ht, hdeferred, hclosed⟩ := execute_run (a := a) (n := n) hr hs hp hu hres
  have hcall : callAndRead w r = execute w (queryArguments w r) := by simp [callAndRead, hres]
  rw [hcall] at hrun
  refine ⟨[.ofError a.exec], t, run_of_returned (hcall ▸ hrun.trans ht) ?_ (leave_nil hdeferred) hd,
    ?_⟩
  · simp [results_length, hres]
  · rw [hres]
    exact ⟨hclosed, by rw [hacc, Option.none_or]⟩

theorem returned_single (hr : Sound r) (hp : Suits p w r) (hd : (entry w r).Nodup)
    (hu : Uncaptured w r) (hacc : accessorFailure w a = none) (hs : Ready w r s)
    {goType : String} {structScan : Bool} (hres : r.result = .single goType structScan) :
    ∃ vs s, (funcDecl w r).run p a n (callArguments w values) = some (vs, s) ∧
      Returned w a vs s r.result := by
  obtain ⟨t, vs, ht, hdeferred, hclosed, hvs⟩ :=
    readSingle_run (a := a) (n := n) hr hs hp hu hres
  have hcall : callAndRead w r =
      readSingle goType structScan (queryArguments w r) (failure r.result) := by
    simp [callAndRead, hres]
  rw [hcall] at hrun
  have hlength : vs.length = 2 := by
    cases hrow : a.row with
    | failed e written =>
      rw [hrow] at hvs
      simp [hvs]
    | done d =>
      rw [hrow] at hvs
      obtain ⟨v, rfl, -⟩ := hvs
      rfl
  refine ⟨vs, t, run_of_returned (hcall ▸ hrun.trans ht) ?_ (leave_nil hdeferred) hd, ?_⟩
  · rw [results_length, hres, hlength, if_neg (by simp)]
  · rw [hres]
    refine ⟨hclosed, ?_⟩
    rw [hacc]
    cases hrow : a.row with
    | failed e written =>
      rw [hrow] at hvs
      exact hvs
    | done d =>
      rw [hrow] at hvs
      exact hvs

theorem returned_rows (hr : Sound r) (hp : Suits p w r) (hd : (entry w r).Nodup)
    (hu : Uncaptured w r) (hacc : accessorFailure w a = none) (hs : Ready w r s)
    {goType element : String} {structScan : Bool}
    (hres : r.result = .rows goType element structScan)
    (hlength : ∀ set, a.query = .ok set → set.rows.length < n) :
    ∃ vs s, (funcDecl w r).run p a n (callArguments w values) = some (vs, s) ∧
      Returned w a vs s r.result := by
  obtain ⟨t, vs, ht, hclosed, hvs⟩ := readRows_run (a := a) (n := n) hr hs hp hu hres hlength
  have hcall : callAndRead w r =
      readRows goType element structScan (queryArguments w r) (failure r.result) := by
    simp [callAndRead, hres]
  rw [hcall] at hrun
  have hblock := hcall ▸ hrun.trans ht
  have htypes : (results r.result).types.length = 2 := by simp [results_length, hres]
  rw [hres]
  cases hquery : a.query with
  | error e =>
    rw [hquery] at hvs
    obtain ⟨hdeferred, rfl⟩ := hvs
    refine ⟨_, t, run_of_returned hblock htypes.symm (leave_nil hdeferred) hd, ?_⟩
    simp [Returned, hacc, hquery, hclosed]
  | ok set =>
    rw [hquery] at hvs
    obtain ⟨hdeferred, hvs⟩ := hvs
    have htwo : vs.length = 2 := by
      cases hfail : set.failure with
      | some e =>
        rw [hfail] at hvs
        simp [hvs]
      | none =>
        rw [hfail] at hvs
        obtain ⟨v, xs, rfl, -⟩ := hvs
        rfl
    refine ⟨vs, _, run_of_returned hblock (htwo.trans htypes.symm) (leave_close hdeferred) hd, ?_⟩
    simp only [Returned, hacc, hquery, hclosed, Nat.zero_add, true_and]
    exact hvs

end Sent

theorem faithful_of_uncaptured (hr : Sound r) (hp : Suits p w r) (hd : (entry w r).Nodup)
    (hu : Uncaptured w r) : Faithful p w r := by
  intro δ ε a values n hlen hlength
  cases hacc : accessorFailure w a with
  | some e => exact returned_failed hr hp hd hu hacc hlen
  | none =>
    obtain ⟨s, hs, hrun, -⟩ := connect_ready (n := n) hr hp hu.accessor
      (fun huse => hu.predeclared (nil_use huse)) hacc hlen (callAndRead w r)
    cases hres : r.result with
    | none => exact hres ▸ returned_execute hrun hr hp hd hu hacc hs hres
    | single goType structScan => exact hres ▸ returned_single hrun hr hp hd hu hacc hs hres
    | rows goType element structScan =>
      exact hres ▸ returned_rows hrun hr hp hd hu hacc hs hres hlength

end Outcomes

section Probe
variable {p : Package} {w : WrapperOptions} {r : ResolvedRoutine} {n : Nat}

/-- A connection on which a query gives one row that can be decoded, and a single row cannot. -/
def probe : Answers Unit Unit where
  accessor := none
  exec := none
  query := .ok ⟨[.done ()], none⟩
  row := .failed () none

theorem accessorFailure_probe (w : WrapperOptions) : accessorFailure w probe = none := by
  simp [accessorFailure, probe]

theorem returned_of_run {δ ε : Type} {a : Answers δ ε} {values vs : List (Value δ ε)}
    {u : State δ ε}
    (h : (funcDecl w r).run p a n (callArguments w values) = some (vs, u)) :
    (entry w r).Nodup ∧ ∃ t, execBlock p a n ((funcDecl w r).start (callArguments w values))
      (connect w r.result ++ callAndRead w r) = some (.returned vs, t) := by
  have hbody : (funcDecl w r).body = connect w r.result ++ callAndRead w r := rfl
  have hnames : (funcDecl w r).names = entry w r := rfl
  rw [FuncDecl.run, hbody, hnames] at h
  split at h
  · rename_i hdistinct
    refine ⟨hdistinct, ?_⟩
    obtain ⟨⟨flow, t⟩, hrun, h⟩ := Option.bind_eq_some_iff.1 h
    cases flow with
    | next => cases h
    | returned ws =>
      simp only at h
      split at h
      · obtain ⟨z, -, hz⟩ := Option.bind_eq_some_iff.1 h
        cases hz
        exact ⟨t, hrun⟩
      · cases h
  · cases h

/-- If the probe returns what it should after the statement is sent, nothing is captured there. -/
theorem sent_outer (hr : Sound r) (hp : Suits p w r) {s t u : State Unit Unit}
    {vs : List (Value Unit Unit)} (hs : Ready w r s) (hm : Marked r s)
    (hrun : execBlock p probe n s (callAndRead w r) = some (.returned vs, t))
    (hvs : Returned w probe vs u r.result) :
    (passesIdentifierSlice r = true → Use.IsOuter ⟨arrayFunction w, connected w r⟩) ∧
      ∀ x ∈ resultUses w r, x.IsOuter := by
  have hreturns : execBlock p probe n s (callAndRead w r) ≠ none := by
    rw [hrun]
    simp
  rw [callAndRead] at hrun hreturns
  cases hres : r.result with
  | none =>
    rw [hres] at hreturns
    exact ⟨execute_outer hs hreturns, by simp [resultUses, hres]⟩
  | single goType structScan =>
    cases structScan with
    | true =>
      rw [hres] at hreturns
      exact structure_outer hr hs hm hp hres (by rw [hres]; exact hreturns)
    | false =>
      rw [hres] at hrun hreturns hvs
      obtain ⟨harray, hnil⟩ := column_outer hr hs hm hp hres (by rw [hres]; exact hreturns)
      refine ⟨harray, fun x hx => ?_⟩
      have hvalues : vs = [withFailure goType none, .error ()] := by
        have hreturned := hvs.2
        rw [accessorFailure_probe] at hreturned
        exact hreturned
      simp only [resultUses, hres, List.mem_cons, List.mem_append, List.mem_map,
        Option.mem_toList, Bool.false_eq_true, if_false, List.not_mem_nil, or_false] at hx
      rcases hx with rfl | ⟨literal, hz, rfl⟩
      · exact hnil
      · rw [hvalues, withFailure, hz] at hrun
        exact literal_outer hr hs hm hp hres rfl hz (by rw [hres]; exact hrun)
  | rows goType element structScan =>
    rw [hres] at hreturns
    exact rows_outer hr hs hm hp hres rfl (by rw [hres]; exact hreturns)

/-- A single run tells whether a name is captured. -/
theorem uncaptured_of_probe (hr : Sound r) (hp : Suits p w r) {vs : List (Value Unit Unit)}
    {u : State Unit Unit}
    (hrun : (funcDecl w r).run p probe n (callArguments w (marks Unit Unit r)) = some (vs, u))
    (hvs : Returned w probe vs u r.result) : (entry w r).Nodup ∧ Uncaptured w r := by
  obtain ⟨hdistinct, t, hblock⟩ := returned_of_run hrun
  have hreturns : execBlock p probe n ((funcDecl w r).start (callArguments w (marks Unit Unit r)))
      (connect w r.result ++ callAndRead w r) ≠ none := by
    rw [hblock]
    simp
  have hacc : usesAccessor w = true → Use.IsOuter ⟨w.dbAccessor, entry w r⟩ :=
    fun huse => accessor_outer huse hreturns
  have hnil : usesAccessor w = true → Use.IsOuter ⟨"nil", connected w r⟩ :=
    fun huse => connect_outer hr hp huse hreturns
  obtain ⟨s, hs, hconnect, hkept⟩ := connect_ready (n := n) hr hp hacc hnil
    (accessorFailure_probe w) (length_marks Unit Unit r) (callAndRead w r)
  obtain ⟨harray, huses⟩ := sent_outer hr hp hs ((start_marked hr).congr hr hkept)
    (hconnect.symm.trans hblock) hvs
  refine ⟨hdistinct, fun x hx => ?_⟩
  simp only [functionUses, predeclaredUses, List.mem_append] at hx
  rcases hx with (hx | hx) | hx | hx
  · split at hx
    · cases List.mem_singleton.1 hx
      exact hacc ‹_›
    · cases hx
  · split at hx
    · cases List.mem_singleton.1 hx
      exact harray ‹_›
    · cases hx
  · split at hx
    · cases List.mem_singleton.1 hx
      exact hnil ‹_›
    · cases hx
  · exact huses x hx

theorem uncaptured_of_faithful (hr : Sound r) (hp : Suits p w r) (h : Faithful p w r) :
    (entry w r).Nodup ∧ Uncaptured w r := by
  obtain ⟨vs, u, hrun, hvs⟩ := h Unit Unit probe (marks Unit Unit r) 2 (length_marks Unit Unit r)
    (fun set hset => by
      cases hset
      decide)
  exact uncaptured_of_probe hr hp hrun hvs

end Probe

/-- However its calls end, a wrapper returns what it should exactly when its parameters differ in
name and neither they nor its variables capture a name that the body takes from outside. -/
theorem faithful_iff (o : Overrides) (c : Catalog) (r : Routine) (n : Needs) (w : WrapperOptions)
    {p : Package} (hp : Suits p w (resolveRoutine o c r n).value.1) :
    Faithful p w (resolveRoutine o c r n).value.1 ↔
      (entry w (resolveRoutine o c r n).value.1).Nodup ∧
        Uncaptured w (resolveRoutine o c r n).value.1 := by
  rw [resolveRoutine_fst] at hp ⊢
  have hr := resolvedRoutine_sound o c r
  exact ⟨uncaptured_of_faithful hr hp, fun h => faithful_of_uncaptured hr hp h.1 h.2⟩

/-- A package with an accessor for the connection and the inline array function. -/
def inlinePackage : Package := fun x =>
  if x = "getDB" then some .accessor
  else if x = ArrayLiteral.inlineName then some .arrayFormatter
  else none

def inlineOptions : WrapperOptions := ⟨"db", false, .accessor, "getDB", none⟩

def emptyCatalog : Catalog := ⟨fun _ _ => .ok [], fun _ _ => .ok []⟩

/-- The labels of some items, as a set. -/
def labelsOf : ResolvedRoutine :=
  (resolveRoutine ⟨[], []⟩ emptyCatalog
    ⟨"public", "labels_of", .normal, [⟨"items", "uuid[]"⟩], "SETOF text", none⟩ .empty).value.1

theorem faithful_labelsOf :
    Suits inlinePackage inlineOptions labelsOf ∧
      Faithful inlinePackage inlineOptions labelsOf := by
  have hp : Suits inlinePackage inlineOptions labelsOf :=
    ⟨by decide +kernel, by decide +kernel, by decide +kernel⟩
  exact ⟨hp, (faithful_iff _ _ _ _ _ hp).2 ⟨by decide +kernel, by decide +kernel⟩⟩

/-- A routine whose argument has the name of its own zero value. -/
def isSet : ResolvedRoutine :=
  (resolveRoutine ⟨[], []⟩ emptyCatalog
    ⟨"public", "is_set", .normal, [⟨"false", "boolean"⟩], "boolean", none⟩ .empty).value.1

/-- With a failure it returns the argument. -/
theorem isSet_run :
    ((funcDecl inlineOptions isSet).run inlinePackage probe 2
      (callArguments inlineOptions [.bool true])).map Prod.fst = some [.bool true, .error ()] :=
  rfl

theorem isSet_not_faithful :
    Suits inlinePackage inlineOptions isSet ∧ ¬ Faithful inlinePackage inlineOptions isSet := by
  refine ⟨⟨by decide +kernel, by decide +kernel, by decide +kernel⟩, fun h => ?_⟩
  obtain ⟨vs, s, hrun, -, hvs⟩ := h Unit Unit probe [.bool true] 2 rfl (fun set hset => by
    cases hset
    decide)
  have hreturned := isSet_run
  rw [hrun] at hreturned
  cases hreturned
  have hzero : zeroValue? "bool" = some "false" := by decide
  rw [accessorFailure_probe] at hvs
  have hvalues : ([.bool true, .error ()] : List (Value Unit Unit)) =
      [withFailure "bool" none, .error ()] := hvs
  rw [withFailure, hzero] at hvalues
  cases hvalues

end RoutineBindings.Wrapper
