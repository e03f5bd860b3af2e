import RoutineBindings.Proofs.CatalogQuestions
import RoutineBindings.Proofs.PositionalViews
import RoutineBindings.Proofs.ResultShapes
import RoutineBindings.Proofs.WrapperRuns

/-!
# Query forms

Whether a whole row is read or one column is decided once, where the result is resolved. The text of
the statement, the method of the connection and the method that decodes follow from this decision
in different places; here it is shown that they agree, and into what is decoded.
-/
namespace RoutineBindings.Go

/-- A call of a method, or the allocation of a new value of a type for a variable. -/
inductive Action where
  | calls (receiver : Expr) (method : String) (arguments : List Expr)
  | allocates (name type : String)

mutual
/-- The method calls in an expression, in the order in which they are evaluated. -/
@[simp] def Expr.actions : Expr → List Action
  | .name _ | .text _ => []
  | .call _ as => actionsOfAll as
  | .method r m as => r.actions ++ actionsOfAll as ++ [.calls r m as]
  | .address e => e.actions
  | .binary l _ r => l.actions ++ r.actions

@[simp] def actionsOfAll : List Expr → List Action
  | [] => []
  | e :: es => e.actions ++ actionsOfAll es
end

/-- The actions where variables get a value. -/
@[simp] def assigned (names : List String) (value : Expr) : List Action :=
  match names, value with
  | [x], .call "new" [.name type] => [.allocates x type]
  | _, _ => value.actions

mutual
@[simp] def Stmt.actions : Stmt → List Action
  | .define xs e | .assign xs e => assigned xs e
  | .defer e | .expr e => e.actions
  | .declare _ _ => []
  | .branch e body | .loop e body | .range _ _ e body => e.actions ++ blockActions body
  | .choose e clauses => e.actions ++ clausesActions clauses
  | .ret es => actionsOfAll es

/-- The actions anywhere in a block, in the order in which they are written. -/
@[simp] def blockActions : List Stmt → List Action
  | [] => []
  | s :: ss => s.actions ++ blockActions ss

@[simp] def clausesActions : List Clause → List Action
  | [] => []
  | .mk es body :: cs => actionsOfAll es ++ blockActions body ++ clausesActions cs
end

theorem blockActions_append (b b' : List Stmt) :
    blockActions (b ++ b') = blockActions b ++ blockActions b' := by
  induction b with
  | nil => rfl
  | cons s b ih => simp [ih]

namespace Action

def isCallOf (methods : List String) : Action → Bool
  | .calls _ method _ => method ∈ methods
  | .allocates _ _ => false

def isAllocation : Action → Bool
  | .calls _ _ _ => false
  | .allocates _ _ => true

end Action

theorem isPointer_iff {type : String} : isPointer type = true ↔ ∃ base, type = "*" ++ base := by
  rw [isPointer, afterMarker?, Option.isSome_map, Option.isSome_iff_exists]
  constructor
  · rintro ⟨base, h⟩
    refine ⟨String.ofList base, afterStart_eq_some.1 ?_⟩
    rw [h, String.toList_ofList]
  · rintro ⟨base, h⟩
    exact ⟨base.toList, afterStart_eq_some.2 h⟩

theorem pointee_pointer (base : String) : pointee ("*" ++ base) = base := by
  have h : Text.afterStart "*".toList ("*" ++ base).toList = some base.toList :=
    afterStart_eq_some.2 rfl
  rw [pointee, afterMarker?, h, Option.map_some, String.ofList_toList, Option.getD_some]

end RoutineBindings.Go

namespace RoutineBindings

/-- The type that the result, or one row of it, is decoded into. -/
def ResultShape.target? : ResultShape → Option String
  | .none => Option.none
  | .single goType _ => some goType
  | .rows _ element _ => some element

/-- Whole rows are read into pointers, and in a set into values of types that nothing is known
about. -/
inductive ReadsWhole (strategy : Strategy) : ResultShape → Prop where
  | pointer (base : String) (s : Bool) : ReadsWhole strategy (.single ("*" ++ base) s)
  | pointerRows (goType base : String) (s : Bool) :
    ReadsWhole strategy (.rows goType ("*" ++ base) s)
  | unknownRows (goType element : String) (s : Bool) (h : strategy = .passthrough) :
    ReadsWhole strategy (.rows goType element s)

section Decision
open Go
variable {strategy : Strategy} {goType element : String} {s : Bool}

theorem readsWhole_single_iff :
    ReadsWhole strategy (.single goType s) ↔ isPointer goType = true := by
  rw [isPointer_iff]
  constructor
  · rintro ⟨base⟩
    exact ⟨base, rfl⟩
  · rintro ⟨base, rfl⟩
    exact .pointer base s

theorem readsWhole_rows_iff : ReadsWhole strategy (.rows goType element s) ↔
    isPointer element = true ∨ strategy = .passthrough := by
  rw [isPointer_iff]
  constructor
  · rintro (_ | ⟨_, base⟩ | ⟨_, _, _, h⟩)
    · exact .inl ⟨base, rfl⟩
    · exact .inr h
  · rintro (⟨base, rfl⟩ | h)
    · exact .pointerRows goType base s
    · exact .unknownRows goType element s h

/-- The decision is the one that the type of the result asks for. -/
theorem structScan_iff (o : Overrides) (c : Catalog) (r : Routine) (n : Needs) :
    (resolvedResult o c r).structScan = true ↔
      ReadsWhole (resolveType o c r.result n).value.1.strategy (resolvedResult o c r) := by
  rw [resolveType_fst]
  by_cases hr : r.result = ""
  · rw [resolvedResult_empty hr]
    exact ⟨fun h => (nomatch h), fun h => (nomatch h)⟩
  · rw [resolvedResult_of_ne hr, ResultShape.ofResolved]
    split
    · rw [readsWhole_rows_iff]
      simp [ResultShape.structScan]
    · rw [readsWhole_single_iff]
      rfl

end Decision

namespace Wrapper
open Go

/-- The calls that run a statement. -/
def driverCalls (body : List Stmt) : List Action :=
  (blockActions body).filter (Action.isCallOf queryMethods)

/-- The calls that decode. -/
def decodings (body : List Stmt) : List Action :=
  (blockActions body).filter (Action.isCallOf ["Scan", "StructScan"])

def allocations (body : List Stmt) : List Action :=
  (blockActions body).filter Action.isAllocation

/-- The call of a routine in a statement. -/
def callText (r : Routine) : String :=
  r.schema ++ "." ++ r.name ++ "(" ++ Text.joined ", " (numbered r.arguments.length) ++ ")"

/-- The forms of a wrapper, where `whole` says that whole rows are read: of the statement, of the
one call that sends it and of what is decoded, and into what. -/
structure FormsAgree (r : Routine) (shape : ResultShape) (whole : Prop) (body : List Stmt)
    (sql driver : String) (values : List Expr) : Prop where
  driven : driverCalls body = [.calls (.name "db") driver (.text sql :: values)]
  form : sql = "SELECT * FROM " ++ callText r ↔ whole
  /-- A schema that begins like the longer form makes the shorter one begin so as well. -/
  starts : (∃ rest, sql = "SELECT * FROM " ++ rest) ↔
    whole ∨ ∃ rest, r.schema = "* FROM " ++ rest
  /-- No routine that a catalog gives for an accepted name has such a schema. -/
  startsFound : ∀ c name, Found c name r → ((∃ rest, sql = "SELECT * FROM " ++ rest) ↔ whole)
  variant : driver ∈ ["QueryRowx", "Queryx"] ↔ whole
  decoded : (∃ receiver targets, .calls receiver "StructScan" targets ∈ decodings body) ↔ whole
  column : ¬ whole → shape ≠ .none → sql = "SELECT " ++ callText r ∧
    driver ∈ ["QueryRow", "Query"] ∧
    ∃ receiver target, decodings body = [.calls receiver "Scan" [target]]
  unread : shape = .none → sql = "SELECT " ++ callText r ∧ driver = "Exec" ∧
    decodings body = [] ∧ allocations body = []
  pointer : ∀ base, shape.target? = some ("*" ++ base) → ∃ x receiver,
    allocations body = [.allocates x base] ∧
    decodings body = [.calls receiver "StructScan" [.name x]] ∧
    [.allocates x base, .calls receiver "StructScan" [.name x]].Sublist (blockActions body)
  value : ∀ type, shape.target? = some type → (∀ base, type ≠ "*" ++ base) →
    allocations body = [] ∧
    ∃ x receiver method, decodings body = [.calls receiver method [.address (.name x)]]

section Statements
variable (r : Routine) (s : Bool)

theorem query_eq : query r r.arguments.length s =
    (if s then "SELECT * FROM " else "SELECT ") ++ callText r := by
  simp only [query, Routine.qualifiedName, callText, placeholders, placeholdersFrom_eq, numbered,
    String.append_assoc]

/-- A call starts like the longer form only if its schema does: there is no dot in the form. -/
theorem callText_starts (h : ∃ rest, callText r = "* FROM " ++ rest) :
    ∃ rest, r.schema = "* FROM " ++ rest := by
  obtain ⟨rest, h⟩ := h
  have hl : r.schema.toList ++ '.' :: (r.name ++ "(" ++
      Text.joined ", " (numbered r.arguments.length) ++ ")").toList =
        "* FROM ".toList ++ rest.toList := by
    have ht := congrArg String.toList h
    simpa [callText] using ht
  rcases List.append_eq_append_iff.1 hl with ⟨l, hform, hdot⟩ | ⟨l, hschema, -⟩
  · cases l with
    | nil =>
      have hschema : r.schema = "* FROM " := by
        rw [← String.toList_inj, hform, List.append_nil]
      exact ⟨"", by rw [hschema, String.append_empty]⟩
    -- The schema ends inside the form, so the dot after it stands in the form.
    | cons x l =>
      have hx : x = '.' := (List.cons.inj hdot).1.symm
      have hmem : x ∈ "* FROM ".toList := by
        rw [hform]
        exact List.mem_append_right _ List.mem_cons_self
      rw [hx] at hmem
      exact absurd hmem (by decide)
  · exact ⟨String.ofList l, by rw [← String.toList_inj, hschema]; simp⟩

theorem query_whole_iff :
    query r r.arguments.length s = "SELECT * FROM " ++ callText r ↔ s = true := by
  rw [query_eq, String.append_left_inj]
  cases s <;> decide

theorem query_starts_iff :
    (∃ rest, query r r.arguments.length s = "SELECT * FROM " ++ rest) ↔
      s = true ∨ ∃ rest, r.schema = "* FROM " ++ rest := by
  have hform : "SELECT * FROM " = "SELECT " ++ "* FROM " := by decide
  rw [query_eq]
  cases s with
  | true => simp
  | false =>
    simp only [Bool.false_eq_true, if_false, false_or, hform, String.append_assoc,
      String.append_right_inj]
    refine ⟨callText_starts r, ?_⟩
    rintro ⟨rest, hschema⟩
    refine ⟨rest ++ "." ++ r.name ++ "(" ++
      Text.joined ", " (numbered r.arguments.length) ++ ")", ?_⟩
    simp only [callText, hschema, String.append_assoc]

theorem found_starts_iff {c : Catalog} {name : String} (h : Found c name r) :
    (∃ rest, query r r.arguments.length s = "SELECT * FROM " ++ rest) ↔ s = true := by
  have hschema : Identifier r.schema := by
    have hparts := h.named.parts.1
    rwa [found_name h] at hparts
  rw [query_starts_iff, or_iff_left]
  rintro ⟨rest, hrest⟩
  have hstar : '*' ∈ r.schema.toList := by
    rw [hrest]
    simp
  exact absurd (hschema.continues hstar) (by decide)

end Statements

section Actions
variable {w : WrapperOptions} {r : ResolvedRoutine} {arguments failed : List Expr}

theorem actionsOfAll_passed (as : List ResolvedArgument) :
    actionsOfAll (as.map (passed w)) = [] := by
  induction as with
  | nil => rfl
  | cons a as ih =>
    have ha : (passed w a).actions = [] := by
      unfold passed
      split <;> simp
    simp [ha, ih]

theorem actionsOfAll_query : actionsOfAll (queryArguments w r) = [] := by
  simp [queryArguments, actionsOfAll_passed]

theorem actionsOfAll_failure (shape : ResultShape) : actionsOfAll (failure shape) = [] := by
  unfold failure
  split <;> simp [zero]

theorem returnOnError_actions (h : actionsOfAll failed = []) :
    (Stmt.returnOnError failed).actions = [] := by
  simp [Stmt.returnOnError, h]

theorem onDb_actions (method : String) (h : actionsOfAll arguments = []) :
    (onDb method arguments).actions = [.calls (.name "db") method arguments] := by
  simp [onDb, h]

theorem connect_actions (shape : ResultShape) : blockActions (connect w shape) = [] := by
  unfold connect
  split
  · simp [returnOnError_actions (actionsOfAll_failure shape)]
  · rfl

theorem execute_actions (h : actionsOfAll arguments = []) :
    blockActions (execute w arguments) = [.calls (.name "db") "Exec" arguments] := by
  unfold execute
  split <;> simp [onDb_actions, h]

theorem readSingle_pointer_actions (base : String) (h : actionsOfAll arguments = [])
    (hf : actionsOfAll failed = []) :
    blockActions (readSingle ("*" ++ base) true arguments failed) =
      [.allocates "result" base, .calls (.name "db") "QueryRowx" arguments,
       .calls (onDb "QueryRowx" arguments) "StructScan" [.name "result"]] := by
  simp [readSingle, onDb_actions, returnOnError_actions, pointee_pointer, h, hf]

theorem readSingle_value_actions (goType : String) (h : actionsOfAll arguments = [])
    (hf : actionsOfAll failed = []) :
    blockActions (readSingle goType false arguments failed) =
      [.calls (.name "db") "QueryRow" arguments,
       .calls (onDb "QueryRow" arguments) "Scan" [.address (.name "result")]] := by
  simp [readSingle, onDb_actions, returnOnError_actions, h, hf]

theorem readRow_pointer_actions (base : String) (s : Bool) :
    blockActions (readRow ("*" ++ base) s) =
      [.allocates "value" base, .calls (.name "rows") "StructScan" [.name "value"]] := by
  have hp : isPointer ("*" ++ base) = true := isPointer_iff.2 ⟨base, rfl⟩
  simp [readRow, hp, pointee_pointer]

theorem readRow_value_actions {element : String} (hp : isPointer element = false) (s : Bool) :
    blockActions (readRow element s) =
      [.calls (.name "rows") (if s then "StructScan" else "Scan") [.address (.name "value")]] := by
  simp [readRow, hp]

theorem readRows_actions (goType element : String) (s : Bool) (h : actionsOfAll arguments = [])
    (hf : actionsOfAll failed = []) :
    blockActions (readRows goType element s arguments failed) =
      [.calls (.name "db") (if s then "Queryx" else "Query") arguments,
       .calls (.name "rows") "Close" [], .calls (.name "rows") "Next" []] ++
      blockActions (readRow element s) ++
      [.calls (.name "rows") "Err" [], .calls (.name "rows") "Err" []] := by
  simp [readRows, blockActions_append, onDb_actions, returnOnError_actions, zero, h, hf]

end Actions

section Bodies
variable {w : WrapperOptions} {r : ResolvedRoutine}

theorem body_actions : blockActions (body w r) = blockActions (callAndRead w r) := by
  rw [body, blockActions_append, connect_actions, List.nil_append]

theorem body_unread (h : r.result = .none) :
    blockActions (body w r) = [.calls (.name "db") "Exec" (queryArguments w r)] := by
  rw [body_actions, callAndRead, h]
  exact execute_actions actionsOfAll_query

/-- A pointer is allocated before its row is decoded into it. -/
theorem body_pointer (hr : Sound r) {base : String} (h : r.result.target? = some ("*" ++ base)) :
    r.result.structScan = true ∧
      ∃ x receiver, ∃ driver ∈ ["QueryRowx", "Queryx"],
        driverCalls (body w r) = [.calls (.name "db") driver (queryArguments w r)] ∧
        allocations (body w r) = [.allocates x base] ∧
        decodings (body w r) = [.calls receiver "StructScan" [.name x]] ∧
        [.allocates x base, .calls receiver "StructScan" [.name x]].Sublist
          (blockActions (body w r)) := by
  have hp : isPointer ("*" ++ base) = true := isPointer_iff.2 ⟨base, rfl⟩
  have hq : actionsOfAll (queryArguments w r) = [] := actionsOfAll_query
  have hf : actionsOfAll (failure r.result) = [] := actionsOfAll_failure r.result
  rw [driverCalls, allocations, decodings, body_actions, callAndRead]
  cases hshape : r.result with
  | none =>
    rw [hshape] at h
    cases h
  | single goType s =>
    rw [hshape] at h hf
    cases h
    obtain rfl : s = true := (hr.single hshape).trans hp
    refine ⟨rfl, "result", onDb "QueryRowx" (queryArguments w r), "QueryRowx", by decide, ?_⟩
    dsimp only
    rw [readSingle_pointer_actions base hq hf]
    exact ⟨rfl, rfl, rfl, .cons_cons _ (.cons _ (.refl _))⟩
  | rows goType element s =>
    rw [hshape] at h hf
    cases h
    obtain rfl : s = true := (hr.rows hshape).2 hp
    refine ⟨rfl, "value", .name "rows", "Queryx", by decide, ?_⟩
    dsimp only
    rw [readRows_actions goType _ true hq hf, readRow_pointer_actions]
    exact ⟨rfl, rfl, rfl, .cons _ (.cons _ (.cons _ (.cons_cons _ (.cons_cons _ (by simp)))))⟩

/-- A value is decoded into by its address. -/
theorem body_value (hr : Sound r) {type : String} (h : r.result.target? = some type)
    (hp : isPointer type = false) :
    ∃ x receiver, ∃ driver ∈ if r.result.structScan then ["Queryx"] else ["QueryRow", "Query"],
      driverCalls (body w r) = [.calls (.name "db") driver (queryArguments w r)] ∧
      allocations (body w r) = [] ∧
      decodings (body w r) = [.calls receiver (if r.result.structScan then "StructScan" else "Scan")
        [.address (.name x)]] := by
  have hq : actionsOfAll (queryArguments w r) = [] := actionsOfAll_query
  have hf : actionsOfAll (failure r.result) = [] := actionsOfAll_failure r.result
  rw [driverCalls, allocations, decodings, body_actions, callAndRead]
  cases hshape : r.result with
  | none =>
    rw [hshape] at h
    cases h
  | single goType s =>
    rw [hshape] at h hf
    cases h
    obtain rfl : s = false := (hr.single hshape).trans hp
    refine ⟨"result", onDb "QueryRow" (queryArguments w r), "QueryRow",
      by simp [ResultShape.structScan], ?_⟩
    dsimp only
    rw [readSingle_value_actions _ hq hf]
    exact ⟨rfl, rfl, rfl⟩
  | rows goType element s =>
    rw [hshape] at h hf
    cases h
    refine ⟨"value", .name "rows", if s then "Queryx" else "Query",
      by cases s <;> simp [ResultShape.structScan], ?_⟩
    dsimp only
    rw [readRows_actions goType _ s hq hf, readRow_value_actions hp]
    cases s <;> exact ⟨rfl, rfl, rfl⟩

end Bodies

section Forms
variable (o : Overrides) (c : Catalog) (r : Routine) (w : WrapperOptions)

/-- What a wrapper sends, with the values after the statement. -/
def sentText : String := query r r.arguments.length (resolvedResult o c r).structScan

def sentValues : List Expr := (r.arguments.map (parameterOf o c)).map (bound w)

/-- The forms of a wrapper agree with the decision that was made for it. -/
abbrev Agree (driver : String) : Prop :=
  FormsAgree r (resolvedResult o c r) ((resolvedResult o c r).structScan = true)
    (body w (resolvedRoutine o c r)) (sentText o c r) driver (sentValues o c r w)

variable {o c r w}

theorem agree_unread (h : resolvedResult o c r = .none) : Agree o c r w "Exec" := by
  have hactions : blockActions (body w (resolvedRoutine o c r)) =
      [.calls (.name "db") "Exec" (.text (sentText o c r) :: sentValues o c r w)] := by
    rw [body_unread h, queryArguments_resolved]
    rfl
  have hs : (resolvedResult o c r).structScan = false := by rw [h]; rfl
  have hdecodings : decodings (body w (resolvedRoutine o c r)) = [] := by
    rw [decodings, hactions]
    rfl
  exact
    { driven := by
        rw [driverCalls, hactions]
        rfl
      form := query_whole_iff r _
      starts := query_starts_iff r _
      startsFound := fun _ _ hfound => found_starts_iff r _ hfound
      variant := by simp [hs]
      decoded := by simp [hs, hdecodings]
      column := fun _ hne => absurd h hne
      unread := fun _ => by
        refine ⟨?_, rfl, hdecodings, ?_⟩
        · rw [sentText, hs, query_eq]
          rfl
        · rw [allocations, hactions]
          rfl
      pointer := fun base hb => by
        rw [h] at hb
        cases hb
      value := fun type ht => by
        rw [h] at ht
        cases ht }

theorem agree_pointer {base : String}
    (h : (resolvedResult o c r).target? = some ("*" ++ base)) : ∃ driver, Agree o c r w driver := by
  obtain ⟨hs, x, receiver, driver, hd, hdriven, hallocated, hdecoded, horder⟩ :=
    body_pointer (w := w) (resolvedRoutine_sound o c r) h
  rw [queryArguments_resolved] at hdriven
  change (resolvedResult o c r).structScan = true at hs
  exact ⟨driver,
    { driven := hdriven
      form := query_whole_iff r _
      starts := query_starts_iff r _
      startsFound := fun _ _ hfound => found_starts_iff r _ hfound
      variant := iff_of_true hd hs
      decoded := by
        refine iff_of_true ⟨receiver, [.name x], ?_⟩ hs
        rw [hdecoded]
        exact List.mem_singleton_self _
      column := fun hn => absurd hs hn
      unread := fun hn => by
        rw [hn] at h
        cases h
      pointer := fun base' hb => by
        have hbase : base' = base :=
          (String.append_right_inj _).1 (Option.some.inj (hb.symm.trans h))
        subst hbase
        exact ⟨x, receiver, hallocated, hdecoded, horder⟩
      value := fun type ht hnp => absurd (Option.some.inj (ht.symm.trans h)) (hnp base) }⟩

theorem agree_value {type : String} (h : (resolvedResult o c r).target? = some type)
    (hp : isPointer type = false) : ∃ driver, Agree o c r w driver := by
  obtain ⟨x, receiver, driver, hd, hdriven, hallocated, hdecoded⟩ :=
    body_value (w := w) (resolvedRoutine_sound o c r) h hp
  rw [queryArguments_resolved] at hdriven
  have hresult : (resolvedRoutine o c r).result = resolvedResult o c r := rfl
  rw [hresult] at hd hdecoded
  have hnotPointer : ∀ base, type ≠ "*" ++ base := fun base hb => by
    have htrue : isPointer type = true := isPointer_iff.2 ⟨base, hb⟩
    rw [hp] at htrue
    cases htrue
  exact ⟨driver,
    { driven := hdriven
      form := query_whole_iff r _
      starts := query_starts_iff r _
      startsFound := fun _ _ hfound => found_starts_iff r _ hfound
      variant := by
        have hrow : ∀ d ∈ ["QueryRow", "Query"], d ∉ ["QueryRowx", "Queryx"] := by decide
        by_cases hs : (resolvedResult o c r).structScan = true
        · rw [if_pos hs] at hd
          exact iff_of_true (List.mem_cons_of_mem _ hd) hs
        · rw [if_neg hs] at hd
          exact iff_of_false (hrow driver hd) hs
      decoded := by
        rw [hdecoded]
        cases (resolvedResult o c r).structScan <;> simp
      column := fun hn _ => by
        rw [if_neg hn] at hd hdecoded
        refine ⟨?_, hd, receiver, _, hdecoded⟩
        rw [sentText, query_eq, if_neg hn]
      unread := fun hn => by
        rw [hn] at h
        cases h
      pointer := fun base hb =>
        absurd (Option.some.inj (h.symm.trans hb)) (hnotPointer base)
      value := fun type' _ _ => ⟨hallocated, x, receiver, _, hdecoded⟩ }⟩

end Forms

/-- The statement, the call that sends it and the decoding agree: for every routine as it is
resolved and all options. Of routines that a catalog gives, the beginning of the statement tells as
well whether whole rows are read. -/
theorem forms_agree (o : Overrides) (c : Catalog) (r : Routine) (n m : Needs)
    (w : WrapperOptions) :
    ∃ sql driver values, FormsAgree r (resolveRoutine o c r n).value.1.result
      (ReadsWhole (resolveType o c r.result m).value.1.strategy
        (resolveRoutine o c r n).value.1.result)
      (funcDecl w (resolveRoutine o c r n).value.1).body sql driver values := by
  rw [resolveRoutine_fst]
  change ∃ sql driver values, FormsAgree r (resolvedResult o c r)
    (ReadsWhole _ (resolvedResult o c r)) (body w (resolvedRoutine o c r)) sql driver values
  rw [← structScan_iff o c r m]
  cases htarget : (resolvedResult o c r).target? with
  | none =>
    have hnone : resolvedResult o c r = .none := by
      cases h : resolvedResult o c r with
      | none => rfl
      | single goType s => simp [h, ResultShape.target?] at htarget
      | rows goType element s => simp [h, ResultShape.target?] at htarget
    exact ⟨_, _, _, agree_unread hnone⟩
  | some type =>
    cases hp : isPointer type with
    | true =>
      obtain ⟨base, rfl⟩ := isPointer_iff.1 hp
      obtain ⟨driver, hagree⟩ := agree_pointer htarget
      exact ⟨_, driver, _, hagree⟩
    | false =>
      obtain ⟨driver, hagree⟩ := agree_value htarget hp
      exact ⟨_, driver, _, hagree⟩

/-- A function in a schema that no accepted name has. -/
def starSchema : Routine := ⟨"* FROM a", "f", .normal, [], "integer", none⟩

def starWrapper : FuncDecl :=
  funcDecl ⟨"db", false, .accessor, "getDB", none⟩
    (resolveRoutine ⟨[], []⟩ ⟨fun _ _ => .ok [], fun _ _ => .ok []⟩ starSchema .empty).value.1

/-- The statement begins like the longer form, but one column is read. -/
theorem starWrapper_starts :
    driverCalls starWrapper.body = [.calls (.name "db") "QueryRow" [.text "SELECT * FROM a.f()"]] ∧
      (∃ rest, "SELECT * FROM a.f()" = "SELECT * FROM " ++ rest) ∧
      "QueryRow" ∉ ["QueryRowx", "Queryx"] ∧
      ∃ receiver, decodings starWrapper.body = [.calls receiver "Scan" [.address (.name "result")]] :=
  ⟨rfl, ⟨"a.f()", by decide⟩, by decide, _, rfl⟩

end Wrapper
end RoutineBindings
