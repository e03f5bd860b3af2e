import RoutineBindings.Proofs.WrapperRuns

/-!
# Declarations

Go refuses a function that declares nothing new with `:=`, that assigns or reads what is not
declared, that does not use a variable or returns the wrong number of values. Each rule is said of
a statement, the blocks around it and the statements after it. Wrappers keep all of them, in every
shape and with any options, if the names of their arguments differ and none is that of a variable
of the body.
-/
namespace RoutineBindings.Go

/-- The names that are declared in the blocks around a statement, the innermost block first. -/
abbrev Scope := List (List String)

namespace Scope

/-- The names that are declared in the block of the statement itself. -/
def block (s : Scope) : List String := s.headD []

def Has (s : Scope) (x : String) : Prop := ∃ b ∈ s, x ∈ b

def declare (s : Scope) (xs : List String) : Scope := (xs ++ s.block) :: s.tail

@[simp] theorem block_cons (b : List String) (s : Scope) : block (b :: s) = b := rfl

@[simp] theorem declare_cons (b : List String) (s : Scope) (xs : List String) :
    declare (b :: s) xs = (xs ++ b) :: s := rfl

@[simp] theorem has_cons {b : List String} {s : Scope} {x : String} :
    Has (b :: s) x ↔ x ∈ b ∨ Has s x := by
  simp [Has]

end Scope

mutual
/-- The operands of an expression; if `addressed`, those that only have their address taken as
well. A callee names a function and the argument of `new` a type. -/
def Expr.operands (addressed : Bool) : Expr → List String
  | .name x => [x]
  | .text _ => []
  | .call f as => if f = "new" then [] else operandsAll addressed as
  | .method r _ as => r.operands addressed ++ operandsAll addressed as
  | .address (.name x) => if addressed then [x] else []
  | .address e => e.operands addressed
  | .binary l _ r => l.operands addressed ++ r.operands addressed

def operandsAll (addressed : Bool) : List Expr → List String
  | [] => []
  | e :: es => e.operands addressed ++ operandsAll addressed es
end

/-- The operands of a statement, without those of the blocks in it. -/
def Stmt.operands (addressed : Bool) : Stmt → List String
  | .define _ e | .assign _ e | .defer e | .expr e => e.operands addressed
  | .declare _ _ => []
  | .branch e _ | .loop e _ | .range _ _ e _ => e.operands addressed
  | .choose e clauses =>
    e.operands addressed ++ clauses.flatMap fun | .mk es _ => operandsAll addressed es
  | .ret es => operandsAll addressed es

/-- The names that a statement declares in its block. -/
def Stmt.declared : Stmt → List String
  | .define xs _ => xs.filter (· ≠ "_")
  | .declare x _ => [x]
  | _ => []

/-- The names that a `range` declares around its body. -/
def rangeNames (key : String) (value : Option String) : List String :=
  (key :: value.toList).filter (· ≠ "_")

mutual
/-- Whether a statement reads the variable that has the name before it. -/
def Stmt.uses (x : String) : Stmt → Bool
  | .branch e body | .loop e body => (e.operands false).contains x || blockUses x body
  | .range k v e body =>
    (e.operands false).contains x || (!(rangeNames k v).contains x && blockUses x body)
  | .choose e clauses => (e.operands false).contains x || clausesUse x clauses
  | s => (s.operands false).contains x

/-- The same for a block in the statement, where another variable may take the name. -/
def blockUses (x : String) : List Stmt → Bool
  | [] => false
  | s :: ss => s.uses x || (!s.declared.contains x && blockUses x ss)

def clausesUse (x : String) : List Clause → Bool
  | [] => false
  | .mk es body :: cs =>
    (operandsAll false es).contains x || blockUses x body || clausesUse x cs
end

/-- A statement, with what is declared before it and what follows it in its block. -/
structure Position where
  scope : Scope
  stmt : Stmt
  rest : List Stmt

mutual
def Stmt.positions (scope : Scope) : Stmt → List Position
  | .branch _ body | .loop _ body => blockPositions ([] :: scope) body
  | .range k v _ body => blockPositions ([] :: rangeNames k v :: scope) body
  | .choose _ clauses => clausesPositions scope clauses
  | _ => []

/-- The statements of a block, at any depth. -/
def blockPositions (scope : Scope) : List Stmt → List Position
  | [] => []
  | s :: ss =>
    ⟨scope, s, ss⟩ :: (s.positions scope ++ blockPositions (scope.declare s.declared) ss)

def clausesPositions (scope : Scope) : List Clause → List Position
  | [] => []
  | .mk _ body :: cs => blockPositions ([] :: scope) body ++ clausesPositions scope cs
end

/-- What a statement has to do by its form, in a function with the given number of results. -/
def Stmt.WellFormed (results : Nat) (scope : Scope) : Stmt → Prop
  | .define xs _ => ∃ x ∈ xs, x ≠ "_" ∧ x ∉ scope.block
  | .declare x _ => x ∉ scope.block
  | .assign xs _ => ∀ x ∈ xs, x = "_" ∨ scope.Has x
  | .ret es => es.length = results
  | _ => True

/-- Of the given names only declared ones are read; other operands may be outer names. -/
def Reads (vars : List String) (scope : Scope) (operands : List String) : Prop :=
  ∀ x ∈ operands, x ∈ vars → scope.Has x

structure Position.Obeys (vars : List String) (results : Nat) (p : Position) : Prop where
  form : p.stmt.WellFormed results p.scope
  reads : Reads vars p.scope (p.stmt.operands true)
  used : ∀ x ∈ p.stmt.declared, x ∉ p.scope.block → ∃ s ∈ p.rest, s.uses x = true

def BlockObeys (vars : List String) (results : Nat) (scope : Scope) (b : List Stmt) : Prop :=
  ∀ p ∈ blockPositions scope b, p.Obeys vars results

/-- The function keeps the rules of declarations, and its body ends in a return. Parameters and
named results are declared in the block of the body. -/
structure FuncDecl.KeepsRules (vars : List String) (f : FuncDecl) : Prop where
  distinct : f.names.Nodup
  body : BlockObeys vars f.results.types.length [f.names] f.body
  ends : ∃ es, f.body.getLast? = some (.ret es)

section Blocks
variable {vars ns ms : List String} {n : Nat} {scope : Scope} {b : List Stmt} {s : Stmt}
  {x : String}

theorem Reads.append (hn : Reads vars scope ns) (hm : Reads vars scope ms) :
    Reads vars scope (ns ++ ms) := by
  intro x hx
  rcases List.mem_append.1 hx with hx | hx
  · exact hn x hx
  · exact hm x hx

theorem reads_nil : Reads vars scope [] := by
  intro x hx
  cases hx

theorem reads_one (h : x ∈ vars → scope.Has x) : Reads vars scope [x] := by
  intro y hy
  obtain rfl := List.mem_singleton.1 hy
  exact h

theorem Reads.enter (h : Reads vars scope ns) : Reads vars ([] :: scope) ns := by
  intro x hx hv
  exact Scope.has_cons.2 (.inr (h x hx hv))

theorem blockObeys_nil : BlockObeys vars n scope [] := by
  intro p hp
  cases hp

theorem blockObeys_cons (hs : Position.Obeys vars n ⟨scope, s, b⟩)
    (hinner : ∀ p ∈ s.positions scope, p.Obeys vars n)
    (hb : BlockObeys vars n (scope.declare s.declared) b) : BlockObeys vars n scope (s :: b) := by
  intro p hp
  rw [blockPositions] at hp
  rcases List.mem_cons.1 hp with rfl | hp
  · exact hs
  · rcases List.mem_append.1 hp with hp | hp
    · exact hinner p hp
    · exact hb p hp

/-- A statement without blocks that declares nothing. -/
theorem blockObeys_plain {d : List String} (hform : s.WellFormed n (d :: scope))
    (hreads : Reads vars (d :: scope) (s.operands true)) (hdeclared : s.declared = [])
    (hinner : ∀ p ∈ s.positions (d :: scope), p.Obeys vars n)
    (hb : BlockObeys vars n (d :: scope) b) : BlockObeys vars n (d :: scope) (s :: b) := by
  refine blockObeys_cons ⟨hform, hreads, ?_⟩ hinner ?_
  · intro x hx
    rw [hdeclared] at hx
    cases hx
  · rw [hdeclared]
    exact hb

/-- `names := e`, with the names that are not blank. -/
theorem blockObeys_define {d xs : List String} {e : Expr} (ys : List String)
    (hxs : xs.filter (· ≠ "_") = ys) (hnew : ∃ x ∈ ys, x ∉ d)
    (hreads : Reads vars (d :: scope) (e.operands true))
    (hused : ∀ x ∈ ys, x ∉ d → ∃ s ∈ b, s.uses x = true)
    (hb : BlockObeys vars n ((ys ++ d) :: scope) b) :
    BlockObeys vars n (d :: scope) (.define xs e :: b) := by
  subst hxs
  obtain ⟨x, hx, hxd⟩ := hnew
  obtain ⟨hmem, hblank⟩ := List.mem_filter.1 hx
  exact blockObeys_cons ⟨⟨x, hmem, of_decide_eq_true hblank, hxd⟩, hreads, hused⟩ nofun hb

theorem wellFormed_assign {e : Expr} (h : scope.Has x) :
    (Stmt.assign [x] e).WellFormed n scope := by
  intro y hy
  obtain rfl := List.mem_singleton.1 hy
  exact .inr h

end Blocks
end RoutineBindings.Go

namespace RoutineBindings.Wrapper
open Go

section Bodies
variable {w : WrapperOptions} {r : ResolvedRoutine} {scope : Scope} {x : String}

/-- Of the parameters only those of the arguments are passed. -/
theorem mem_operands_query {addressed : Bool}
    (hx : x ∈ operandsAll addressed (queryArguments w r)) :
    x ∈ r.arguments.map ResolvedArgument.goName := by
  have hpassed : ∀ as : List ResolvedArgument, x ∈ operandsAll addressed (as.map (passed w)) →
      x ∈ as.map ResolvedArgument.goName := by
    intro as
    induction as with
    | nil => exact id
    | cons a as ih =>
      intro hx
      rw [List.map_cons, operandsAll] at hx
      rcases List.mem_append.1 hx with hx | hx
      · have hname : x = a.goName := by
          unfold passed at hx
          split at hx
          · simp only [Expr.operands, operandsAll] at hx
            split at hx
            · cases hx
            · simpa using hx
          · simpa [Expr.operands] using hx
        exact hname ▸ List.mem_cons_self
      · exact List.mem_cons_of_mem _ (ih hx)
  apply hpassed
  simpa [queryArguments, operandsAll, Expr.operands] using hx

theorem reads_onDb (ha : ∀ a ∈ r.arguments, a.goName ∉ wrapperLocals) (hdb : scope.Has "db")
    (method : String) :
    Reads wrapperLocals scope ((onDb method (queryArguments w r)).operands true) := by
  apply Reads.append
  · exact reads_one fun _ => hdb
  · intro x hx hlocal
    exact absurd (mem_operands_query hx) (goName_not_local ha hlocal)

theorem reads_zero (hresult : scope.Has "result") (goType : String) :
    Reads wrapperLocals scope ((zero goType).operands true) := by
  cases hz : zeroValue? goType with
  | none =>
    rw [zero, hz]
    exact reads_one fun _ => hresult
  | some literal =>
    rw [zero, hz]
    exact reads_one fun h => absurd h (literal_not_local hz)

theorem reads_failure {shape : ResultShape} (herr : scope.Has "err")
    (hresult : shape ≠ .none → scope.Has "result") :
    Reads wrapperLocals scope (operandsAll true (failure shape)) := by
  have hlast : Reads wrapperLocals scope (operandsAll true [.name "err"]) :=
    reads_one fun _ => herr
  unfold failure
  cases shape with
  | none => exact hlast
  | single goType structScan => exact (reads_zero (hresult nofun) goType).append hlast
  | rows goType element structScan => exact (reads_zero (hresult nofun) goType).append hlast

theorem length_failure (shape : ResultShape) :
    (failure shape).length = (results shape).types.length := by
  cases shape <;> rfl

variable {d : List String} {b : List Stmt} {n : Nat}

theorem branch_obeys {c : Expr} {vs : List Expr}
    (hc : Reads wrapperLocals (d :: scope) (c.operands true))
    (hvs : Reads wrapperLocals (d :: scope) (operandsAll true vs)) (hlen : vs.length = n)
    (hb : BlockObeys wrapperLocals n (d :: scope) b) :
    BlockObeys wrapperLocals n (d :: scope) (.branch c [.ret vs] :: b) := by
  have hret : BlockObeys wrapperLocals n ([] :: d :: scope) [.ret vs] :=
    blockObeys_plain hlen hvs.enter rfl nofun blockObeys_nil
  exact blockObeys_plain trivial hc rfl hret hb

theorem returnOnError_obeys {shape : ResultShape} (herr : Scope.Has (d :: scope) "err")
    (hresult : shape ≠ .none → Scope.Has (d :: scope) "result")
    (hlen : (results shape).types.length = n)
    (hb : BlockObeys wrapperLocals n (d :: scope) b) :
    BlockObeys wrapperLocals n (d :: scope) (.returnOnError (failure shape) :: b) := by
  have hcond : Reads wrapperLocals (d :: scope)
      ((Expr.binary (.name "err") "!=" (.name "nil")).operands true) :=
    (reads_one fun _ => herr).append (reads_one fun h => absurd h (by decide))
  exact branch_obeys hcond (reads_failure herr hresult) ((length_failure shape).trans hlen) hb

/-- `return result, nil` -/
theorem return_obeys (hresult : Scope.Has (d :: scope) "result") :
    BlockObeys wrapperLocals 2 (d :: scope) [.ret [.name "result", .name "nil"]] := by
  have hreads : Reads wrapperLocals (d :: scope)
      (operandsAll true [.name "result", .name "nil"]) :=
    (reads_one fun _ => hresult).append (reads_one fun h => absurd h (by decide))
  exact blockObeys_plain rfl hreads rfl nofun blockObeys_nil

theorem execute_obeys (ha : ∀ a ∈ r.arguments, a.goName ∉ wrapperLocals) (hdb : "db" ∈ d)
    (herr : "err" ∈ d ↔ usesAccessor w = true) :
    BlockObeys wrapperLocals 1 [d] (execute w (queryArguments w r)) := by
  have hreads : Reads wrapperLocals [d] ((onDb "Exec" (queryArguments w r)).operands true) :=
    reads_onDb ha (Scope.has_cons.2 (.inl hdb)) "Exec"
  unfold execute
  cases hu : usesAccessor w with
  | true =>
    have hd : Scope.Has [d] "err" := Scope.has_cons.2 (.inl (herr.2 hu))
    rw [if_pos rfl]
    refine blockObeys_plain ?_ hreads rfl nofun ?_
    · intro x hx
      rcases List.mem_pair.1 hx with rfl | rfl
      · exact .inl rfl
      · exact .inr hd
    · exact blockObeys_plain rfl (reads_one fun _ => hd) rfl nofun blockObeys_nil
  | false =>
    have hnew : "err" ∉ d := fun h => Bool.false_ne_true (hu.symm.trans (herr.1 h))
    have hd : Scope.Has [["err"] ++ d] "err" := by simp
    rw [if_neg Bool.false_ne_true]
    apply blockObeys_define ["err"] (by decide) ⟨"err", List.mem_cons_self, hnew⟩ hreads
    · intro x hx _
      obtain rfl := List.mem_singleton.1 hx
      exact ⟨_, List.mem_cons_self, rfl⟩
    · exact blockObeys_plain rfl (reads_one fun _ => hd) rfl nofun blockObeys_nil

theorem readSingle_obeys (ha : ∀ a ∈ r.arguments, a.goName ∉ wrapperLocals) (hdb : "db" ∈ d)
    (hresult : "result" ∈ d) (herr : "err" ∈ d) (goType : String) (structScan : Bool) :
    BlockObeys wrapperLocals 2 [d] (readSingle goType structScan (queryArguments w r)
      (failure (.single goType structScan))) := by
  have hhas : ∀ {x}, x ∈ d → Scope.Has [d] x := fun h => Scope.has_cons.2 (.inl h)
  have hends : BlockObeys wrapperLocals 2 [d]
      [.returnOnError (failure (.single goType structScan)), .ret [.name "result", .name "nil"]] :=
    returnOnError_obeys (hhas herr) (fun _ => hhas hresult) rfl (return_obeys (hhas hresult))
  unfold readSingle
  cases structScan with
  | true =>
    refine blockObeys_plain (wellFormed_assign (hhas hresult)) reads_nil rfl nofun ?_
    refine blockObeys_plain (wellFormed_assign (hhas herr)) ?_ rfl nofun hends
    exact (reads_onDb ha (hhas hdb) "QueryRowx").append (reads_one fun _ => hhas hresult)
  | false =>
    refine blockObeys_plain (wellFormed_assign (hhas herr)) ?_ rfl nofun hends
    exact (reads_onDb ha (hhas hdb) "QueryRow").append (reads_one fun _ => hhas hresult)

/-- In each turn the variable for the row is new, and read when it is appended. -/
theorem turn_obeys (hrows : "rows" ∈ d) (hresult : "result" ∈ d) (herr : "err" ∈ d)
    (goType element : String) (structScan : Bool) :
    BlockObeys wrapperLocals 2 [[], d] (readRow element structScan ++
      [.returnOnError (failure (.rows goType element structScan)),
       .assign ["result"] (.call "append" [.name "result", .name "value"])]) := by
  have hhas : ∀ {x}, x ∈ d → Scope.Has [["value"] ++ [], d] x := by
    intro x hx
    simp [hx]
  have hvalue : Scope.Has [["value"] ++ [], d] "value" := by simp
  have happend : Reads wrapperLocals [["value"] ++ [], d]
      ((Expr.call "append" [.name "result", .name "value"]).operands true) :=
    (reads_one fun _ => hhas hresult).append (reads_one fun _ => hvalue)
  have hends : BlockObeys wrapperLocals 2 [["value"] ++ [], d]
      [.returnOnError (failure (.rows goType element structScan)),
       .assign ["result"] (.call "append" [.name "result", .name "value"])] := by
    apply returnOnError_obeys (hhas herr) (fun _ => hhas hresult) rfl
    exact blockObeys_plain (wellFormed_assign (hhas hresult)) happend rfl nofun blockObeys_nil
  have hscan : ∀ {m : String} {e : Expr}, e.operands true = ["value"] →
      BlockObeys wrapperLocals 2 [["value"] ++ [], d]
        (.assign ["err"] (.method (.name "rows") m [e]) ::
          [.returnOnError (failure (.rows goType element structScan)),
           .assign ["result"] (.call "append" [.name "result", .name "value"])]) := by
    intro m e he
    refine blockObeys_plain (wellFormed_assign (hhas herr)) ?_ rfl nofun hends
    refine (reads_one fun _ => hhas hrows).append ?_
    rw [operandsAll, he]
    exact reads_one fun _ => hvalue
  have hused : ∀ {s₁ s₂ : Stmt}, ∃ s ∈ [s₁, s₂,
      .assign ["result"] (.call "append" [.name "result", .name "value"])],
      s.uses "value" = true :=
    ⟨_, List.mem_cons_of_mem _ (List.mem_cons_of_mem _ List.mem_cons_self), rfl⟩
  unfold readRow
  split
  · refine blockObeys_define ["value"] (by decide)
      ⟨"value", List.mem_cons_self, List.not_mem_nil⟩ reads_nil ?_ (hscan rfl)
    intro x hx _
    obtain rfl := List.mem_singleton.1 hx
    exact hused
  · refine blockObeys_cons ⟨List.not_mem_nil, reads_nil, ?_⟩ nofun (hscan rfl)
    intro x hx _
    obtain rfl := List.mem_singleton.1 hx
    exact hused

theorem readRows_obeys (ha : ∀ a ∈ r.arguments, a.goName ∉ wrapperLocals) (hdb : "db" ∈ d)
    (hresult : "result" ∈ d) (herr : "err" ∈ d) (hrows : "rows" ∉ d) (goType element : String)
    (structScan : Bool) :
    BlockObeys wrapperLocals 2 [d] (readRows goType element structScan (queryArguments w r)
      (failure (.rows goType element structScan))) := by
  have hhas : ∀ {x}, x ∈ d → Scope.Has [["rows", "err"] ++ d] x := by
    intro x hx
    simp [hx]
  have hopen : Scope.Has [["rows", "err"] ++ d] "rows" := by simp
  have hcall : ∀ m, Reads wrapperLocals [["rows", "err"] ++ d]
      ((Expr.method (.name "rows") m []).operands true) :=
    fun m => (reads_one fun _ => hopen).append reads_nil
  have hsent : Scope.Has [d] "db" := Scope.has_cons.2 (.inl hdb)
  have hquery := reads_onDb (w := w) ha hsent (if structScan then "Queryx" else "Query")
  unfold readRows
  apply blockObeys_define ["rows", "err"] (by decide) ⟨"rows", List.mem_cons_self, hrows⟩ hquery
  · intro x hx hnew
    rcases List.mem_pair.1 hx with rfl | rfl
    · exact ⟨_, List.mem_cons_of_mem _ List.mem_cons_self, rfl⟩
    · exact absurd herr hnew
  · apply returnOnError_obeys (hhas herr) (fun _ => hhas hresult) rfl
    refine blockObeys_plain trivial (hcall "Close") rfl nofun ?_
    refine blockObeys_plain trivial (hcall "Next") rfl ?_ ?_
    · exact turn_obeys (by simp) (List.mem_append_right _ hresult) (List.mem_append_right _ herr)
        goType element structScan
    · apply branch_obeys
      · exact (hcall "Err").append (reads_one fun h => absurd h (by decide))
      · exact (reads_zero (hhas hresult) goType).append ((hcall "Err").append reads_nil)
      · rfl
      · exact return_obeys (hhas hresult)

theorem callAndRead_obeys (ha : ∀ a ∈ r.arguments, a.goName ∉ wrapperLocals) :
    BlockObeys wrapperLocals (results r.result).types.length [connected w r] (callAndRead w r) := by
  have hdb : "db" ∈ connected w r := by
    rw [connected, entry_eq]
    cases usesAccessor w <;> simp
  unfold callAndRead
  cases hres : r.result with
  | none =>
    apply execute_obeys ha hdb
    have herr : "err" ∉ r.arguments.map ResolvedArgument.goName :=
      goName_not_local ha (by decide)
    rw [connected, entry_eq, hres]
    cases usesAccessor w <;> simp [results, ResultShape.goType?, Results.names] at herr ⊢
    exact herr
  | single goType structScan =>
    obtain ⟨hresult, herr⟩ := results_connected (w := w) (congrArg ResultShape.goType? hres)
    exact readSingle_obeys ha hdb hresult herr goType structScan
  | rows goType element structScan =>
    obtain ⟨hresult, herr⟩ := results_connected (w := w) (congrArg ResultShape.goType? hres)
    exact readRows_obeys ha hdb hresult herr (rows_not_connected ha (.inl rfl)) goType element
      structScan

theorem callAndRead_uses_db : ∃ s ∈ callAndRead w r, s.uses "db" = true := by
  have hdb : ∀ (m : String) (args : List Expr), "db" ∈ (onDb m args).operands false :=
    fun _ _ => List.mem_cons_self
  unfold callAndRead
  cases r.result with
  | none =>
    have hexec := List.contains_iff_mem.2 (hdb "Exec" (queryArguments w r))
    refine ⟨_, List.mem_cons_self, ?_⟩
    split
    · exact hexec
    · exact hexec
  | single goType structScan =>
    have hread : ∀ {m m' : String} {args : List Expr} {e : Expr},
        (Stmt.assign ["err"] (.method (onDb m args) m' [e])).uses "db" = true :=
      List.contains_iff_mem.2 (List.mem_append_left _ (hdb _ _))
    cases structScan with
    | true => exact ⟨_, List.mem_cons_of_mem _ List.mem_cons_self, hread⟩
    | false => exact ⟨_, List.mem_cons_self, hread⟩
  | rows goType element structScan =>
    have hquery := List.contains_iff_mem.2
      (hdb (if structScan then "Queryx" else "Query") (queryArguments w r))
    exact ⟨_, List.mem_cons_self, hquery⟩

theorem body_obeys (ha : ∀ a ∈ r.arguments, a.goName ∉ wrapperLocals) :
    BlockObeys wrapperLocals (results r.result).types.length [entry w r] (body w r) := by
  have hsend := callAndRead_obeys (w := w) ha
  unfold body connect
  cases hu : usesAccessor w with
  | false =>
    have hconnected : connected w r = entry w r := by simp [connected, hu]
    rw [hconnected] at hsend
    exact hsend
  | true =>
    have hconnected : connected w r = ["db", "err"] ++ entry w r := by simp [connected, hu]
    have hcall : Reads wrapperLocals [entry w r] ((Expr.call w.dbAccessor []).operands true) := by
      rw [Expr.operands, operandsAll, ite_self]
      exact reads_nil
    rw [hconnected] at hsend
    apply blockObeys_define ["db", "err"] (by decide)
      ⟨"db", List.mem_cons_self, db_not_entry ha hu⟩ hcall
    · intro x hx _
      rcases List.mem_pair.1 hx with rfl | rfl
      · obtain ⟨s, hs, huses⟩ := callAndRead_uses_db (w := w) (r := r)
        exact ⟨s, List.mem_cons_of_mem _ hs, huses⟩
      · exact ⟨_, List.mem_cons_self, rfl⟩
    · refine returnOnError_obeys (by simp) ?_ rfl hsend
      intro hne
      have hresult : "result" ∈ (results r.result).names := by
        cases hres : r.result with
        | none => exact absurd hres hne
        | single goType structScan => exact List.mem_cons_self
        | rows goType element structScan => exact List.mem_cons_self
      simp [entry, hresult]

theorem callAndRead_ends : ∃ b es, callAndRead w r = b ++ [.ret es] := by
  unfold callAndRead
  cases r.result with
  | none => exact ⟨[_], _, rfl⟩
  | single goType structScan =>
    cases structScan with
    | true => exact ⟨[_, _, _], _, rfl⟩
    | false => exact ⟨[_, _], _, rfl⟩
  | rows goType element structScan => exact ⟨[_, _, _, _, _], _, rfl⟩

theorem body_ends : ∃ es, (body w r).getLast? = some (.ret es) := by
  obtain ⟨b, es, h⟩ := @callAndRead_ends w r
  refine ⟨es, ?_⟩
  rw [body, h, ← List.append_assoc, List.getLast?_concat]

theorem entry_nodup (hd : (r.arguments.map ResolvedArgument.goName).Nodup)
    (ha : ∀ a ∈ r.arguments, a.goName ∉ wrapperLocals) : (entry w r).Nodup := by
  have hapart : ∀ xs ys : List String, xs ⊆ wrapperLocals → ys ⊆ wrapperLocals →
      (xs ++ ys).Nodup → (xs ++ r.arguments.map ResolvedArgument.goName ++ ys).Nodup := by
    intro xs ys hxs hys hxy
    obtain ⟨hx, hy, hne⟩ := List.nodup_append.1 hxy
    rw [List.append_assoc, List.nodup_append, List.nodup_append]
    refine ⟨hx, ⟨hd, hy, ?_⟩, ?_⟩
    · rintro a hmem y hy' rfl
      exact goName_not_local ha (hys hy') hmem
    · rintro x hx' y hmem rfl
      rcases List.mem_append.1 hmem with hmem | hmem
      · exact goName_not_local ha (hxs hx') hmem
      · exact hne x hx' x hmem rfl
  rw [entry_eq]
  apply hapart
  · cases usesAccessor w <;> decide
  · cases r.result with
    | none => exact List.nil_subset _
    | single goType structScan => exact (by decide : ["result", "err"] ⊆ wrapperLocals)
    | rows goType element structScan => exact (by decide : ["result", "err"] ⊆ wrapperLocals)
  · cases usesAccessor w <;> cases r.result <;>
      simp [results, ResultShape.goType?, Results.names]

end Bodies

/-- If the arguments differ in name and none has the name of a variable of the body, the wrapper
keeps the rules of declarations: for every shape of the result and all options. -/
theorem funcDecl_keepsRules (w : WrapperOptions) (r : ResolvedRoutine)
    (hd : (r.arguments.map ResolvedArgument.goName).Nodup)
    (ha : ∀ a ∈ r.arguments, a.goName ∉ ["db", "err", "result", "rows", "value"]) :
    (funcDecl w r).KeepsRules ["db", "err", "result", "rows", "value"] where
  distinct := entry_nodup hd ha
  body := body_obeys ha
  ends := body_ends

/-- The documents of some owners, as a set of structures. -/
def listDocs : ResolvedRoutine where
  routine := ⟨"public", "list_docs", .normal, [], "SETOF doc", none⟩
  arguments := [⟨"kind", "kind", "Kind", "string"⟩, ⟨"owners", "owners", "Owners", "[]uuid.UUID"⟩]
  result := .rows "[]*Doc" "*Doc" true

theorem listDocs_keepsRules :
    (listDocs.arguments.map ResolvedArgument.goName).Nodup ∧
      (∀ a ∈ listDocs.arguments, a.goName ∉ ["db", "err", "result", "rows", "value"]) ∧
      (funcDecl ⟨"db", false, .accessor, "getDB", none⟩ listDocs).KeepsRules
        ["db", "err", "result", "rows", "value"] := by
  have hd : (listDocs.arguments.map ResolvedArgument.goName).Nodup := by decide
  have ha : ∀ a ∈ listDocs.arguments, a.goName ∉ ["db", "err", "result", "rows", "value"] := by
    decide
  exact ⟨hd, ha, funcDecl_keepsRules _ _ hd ha⟩

end RoutineBindings.Wrapper
