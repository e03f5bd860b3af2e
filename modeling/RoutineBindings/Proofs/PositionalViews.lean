import RoutineBindings.Proofs.Resolution
import RoutineBindings.Wrapper.Decls

/-!
# The positions of the arguments

The arguments of a routine appear four times in its wrapper: as parameters, as placeholders of
the statement, as the values that are bound to them, and as fields of the structure that
describes them. All four follow one list of parameters, position by position.
-/
namespace RoutineBindings.Go

mutual
/-- The method calls on a variable, each with its arguments. -/
def Expr.callsOn (object : String) : Expr → List (String × List Expr)
  | .name _ | .text _ => []
  | .call _ as => callsOnAll object as
  | .method (.name x) m as => (if x = object then [(m, as)] else []) ++ callsOnAll object as
  | .method r _ as => r.callsOn object ++ callsOnAll object as
  | .address e => e.callsOn object
  | .binary l _ r => l.callsOn object ++ r.callsOn object

def callsOnAll (object : String) : List Expr → List (String × List Expr)
  | [] => []
  | e :: es => e.callsOn object ++ callsOnAll object es
end

mutual
def Stmt.callsOn (object : String) : Stmt → List (String × List Expr)
  | .define _ e | .assign _ e | .defer e | .expr e => e.callsOn object
  | .declare _ _ => []
  | .branch e body | .loop e body | .range _ _ e body =>
    e.callsOn object ++ blockCallsOn object body
  | .choose e clauses => e.callsOn object ++ clausesCallsOn object clauses
  | .ret es => callsOnAll object es

/-- The method calls on a variable anywhere in a block, in the order they are written. -/
def blockCallsOn (object : String) : List Stmt → List (String × List Expr)
  | [] => []
  | s :: ss => s.callsOn object ++ blockCallsOn object ss

def clausesCallsOn (object : String) : List Clause → List (String × List Expr)
  | [] => []
  | .mk es body :: cs =>
    callsOnAll object es ++ blockCallsOn object body ++ clausesCallsOn object cs
end

theorem blockCallsOn_append (object : String) (b b' : List Stmt) :
    blockCallsOn object (b ++ b') = blockCallsOn object b ++ blockCallsOn object b' := by
  induction b with
  | nil => rfl
  | cons s b ih => simp [blockCallsOn, ih]

end RoutineBindings.Go

namespace RoutineBindings.Wrapper
open Go

/-- The methods of a connection that run a statement. -/
def queryMethods : List String := ["Exec", "Query", "Queryx", "QueryRow", "QueryRowx"]

/-- The placeholders of a statement with the given number of parameters. -/
def numbered (n : Nat) : List String := (List.range n).map fun i => "$" ++ toString (i + 1)

/-- The parameter for an argument of the catalog. -/
def parameterOf (o : Overrides) (c : Catalog) (a : Argument) : Param :=
  ⟨parameterName a.name, goTypeOf o c a.type⟩

/-- What is bound to the placeholder of a parameter. -/
def bound (w : WrapperOptions) (p : Param) : Expr :=
  if p.type = "[]uuid.UUID" then .call (arrayFunction w) [.name p.name] else .name p.name

/-- The four places where the parameters `ps` of the arguments of a routine appear. -/
structure Aligned (w : WrapperOptions) (r : Routine) (ps : List Param) (ds : List Decl)
    (f : FuncDecl) (fields : List Field) : Prop where
  arity : ps.length = r.arguments.length
  signature : f.params = (if w.connection = .parameter then [⟨"db", "*sqlx.DB"⟩] else []) ++ ps
  /-- The one call on the connection: its statement ends in the call of the routine with one
  placeholder per parameter, and the values follow in the same order. -/
  call : ∃ method ∈ queryMethods, ∃ start,
    blockCallsOn "db" f.body =
      [(method, .text (start ++ (r.schema ++ "." ++ r.name ++ "(" ++
          Text.joined ", " (numbered r.arguments.length) ++ ")")) :: ps.map (bound w))]
  described : fields.map (fun x => (x.type, x.tag)) =
    ps.map fun p => (p.type, some ("arg:\"" ++ p.name ++ "\""))
  declared : ∃ doc name embedded,
    ds = (if w.argsDef then [.record doc name embedded fields] else []) ++ [.func f]

theorem placeholdersFrom_eq (k n : Nat) :
    placeholdersFrom k n = (List.range n).map fun i => "$" ++ toString (i + k) := by
  induction n generalizing k with
  | zero => rfl
  | succ n ih =>
    rw [placeholdersFrom, ih, List.range_succ_eq_map, List.map_cons, List.map_map]
    simp only [Nat.zero_add, List.cons.injEq, true_and]
    apply List.map_congr_left
    intro i _
    simp only [Function.comp_apply, Nat.succ_eq_add_one]
    rw [Nat.add_assoc, Nat.add_comm 1 k]

theorem query_ends (r : Routine) (n : Nat) (structScan : Bool) :
    ∃ start, query r n structScan = start ++ (r.schema ++ "." ++ r.name ++ "(" ++
      Text.joined ", " (numbered n) ++ ")") := by
  refine ⟨if structScan then "SELECT * FROM " else "SELECT ", ?_⟩
  simp only [query, Routine.qualifiedName, placeholders, placeholdersFrom_eq, numbered,
    String.append_assoc]

theorem passed_resolved (w : WrapperOptions) (o : Overrides) (c : Catalog) (a : Argument) :
    passed w (resolvedArgument o c a) = bound w (parameterOf o c a) := by
  by_cases h : goTypeOf o c a.type = "[]uuid.UUID" <;>
    simp [passed, bound, resolvedArgument, parameterOf, ResolvedArgument.isIdentifierSlice,
      identifierSlice, h]

theorem queryArguments_resolved (w : WrapperOptions) (o : Overrides) (c : Catalog) (r : Routine) :
    queryArguments w (resolvedRoutine o c r) =
      .text (query r r.arguments.length (resolvedResult o c r).structScan) ::
        (r.arguments.map (parameterOf o c)).map (bound w) := by
  have hp : ∀ a ∈ r.arguments, passed w (resolvedArgument o c a) = bound w (parameterOf o c a) :=
    fun a _ => passed_resolved w o c a
  simp only [queryArguments, resolvedRoutine, List.length_map, List.map_map]
  exact congrArg _ (List.map_congr_left hp)

theorem connectionParams_eq (w : WrapperOptions) :
    connectionParams w = if w.connection = .parameter then [⟨"db", "*sqlx.DB"⟩] else [] := by
  cases hc : w.connection <;> simp [connectionParams, usesAccessor, hc]

theorem callsOnAll_passed (object : String) (w : WrapperOptions) (as : List ResolvedArgument) :
    callsOnAll object (as.map (passed w)) = [] := by
  induction as with
  | nil => rfl
  | cons a as ih =>
    have ha : (passed w a).callsOn object = [] := by
      unfold passed
      split <;> simp [Expr.callsOn, callsOnAll]
    simp [callsOnAll, ha, ih]

theorem callsOnAll_query (object : String) (w : WrapperOptions) (r : ResolvedRoutine) :
    callsOnAll object (queryArguments w r) = [] := by
  simp [queryArguments, callsOnAll, Expr.callsOn, callsOnAll_passed]

theorem callsOnAll_failure (object : String) (shape : ResultShape) :
    callsOnAll object (failure shape) = [] := by
  unfold failure
  split <;> simp [callsOnAll, zero, Expr.callsOn]

/-- No body calls the connection before it runs the statement. -/
theorem connect_callsOn (object : String) (w : WrapperOptions) (shape : ResultShape) :
    blockCallsOn object (connect w shape) = [] := by
  unfold connect
  split <;> simp [blockCallsOn, Stmt.callsOn, Stmt.returnOnError, Expr.callsOn, callsOnAll,
    callsOnAll_failure]

theorem readRow_callsOn_db (element : String) (structScan : Bool) :
    blockCallsOn "db" (readRow element structScan) = [] := by
  unfold readRow
  split <;> simp [blockCallsOn, Stmt.callsOn, Expr.callsOn, callsOnAll]

/-- The statement is run once, whatever is read of its rows. -/
theorem callAndRead_callsOn_db (w : WrapperOptions) (r : ResolvedRoutine) :
    ∃ method ∈ queryMethods,
      blockCallsOn "db" (callAndRead w r) = [(method, queryArguments w r)] := by
  have hf := callsOnAll_failure "db" r.result
  have hq := callsOnAll_query "db" w r
  unfold callAndRead
  cases hr : r.result with
  | none =>
    refine ⟨"Exec", by simp [queryMethods], ?_⟩
    cases hu : usesAccessor w <;>
      simp [execute, hu, onDb, blockCallsOn, Stmt.callsOn, Expr.callsOn, callsOnAll, hq]
  | single goType structScan =>
    rw [hr] at hf
    refine ⟨if structScan then "QueryRowx" else "QueryRow",
      by cases structScan <;> simp [queryMethods], ?_⟩
    cases structScan <;>
      simp [readSingle, onDb, blockCallsOn, Stmt.callsOn, Stmt.returnOnError, Expr.callsOn,
        callsOnAll, hq, hf]
  | rows goType element structScan =>
    rw [hr] at hf
    refine ⟨if structScan then "Queryx" else "Query",
      by cases structScan <;> simp [queryMethods], ?_⟩
    cases structScan <;>
      simp [readRows, onDb, blockCallsOn_append, blockCallsOn, Stmt.callsOn, Stmt.returnOnError,
        Expr.callsOn, callsOnAll, readRow_callsOn_db, zero, hq, hf]

theorem body_callsOn_db (w : WrapperOptions) (r : ResolvedRoutine) :
    ∃ method ∈ queryMethods, blockCallsOn "db" (body w r) = [(method, queryArguments w r)] := by
  obtain ⟨method, hm, h⟩ := callAndRead_callsOn_db w r
  exact ⟨method, hm, by simp [body, blockCallsOn_append, connect_callsOn, h]⟩

/-- The signature, the statement with its placeholders, the values bound to them and the
structure that describes the arguments agree position by position: for any arguments, any
types and any options. -/
theorem positions_agree (o : Overrides) (c : Catalog) (r : Routine) (n : Needs)
    (w : WrapperOptions) :
    ∃ f fields, Aligned w r (r.arguments.map (parameterOf o c))
      (decls w (resolveRoutine o c r n).value.1) f fields := by
  rw [resolveRoutine_fst]
  refine ⟨funcDecl w (resolvedRoutine o c r), _, ?_, ?_, ?_, ?_, ⟨_, _, _, rfl⟩⟩
  · simp
  · simp only [funcDecl, params, connectionParams_eq, resolvedRoutine, List.map_map]
    rfl
  · obtain ⟨method, hm, hcall⟩ := body_callsOn_db w (resolvedRoutine o c r)
    obtain ⟨start, hstart⟩ := query_ends r r.arguments.length (resolvedResult o c r).structScan
    refine ⟨method, hm, start, ?_⟩
    rw [queryArguments_resolved, hstart] at hcall
    exact hcall
  · simp [resolvedRoutine, resolvedArgument, parameterOf]

end RoutineBindings.Wrapper
