import RoutineBindings.Proofs.NameCapture

/-!
# Names from outside

A body mentions each parameter where it passes it to the query, and besides its own variables only
what the package and its imports declare. A parameter that shares its name with one of those is
mentioned more often than it is passed: it captures what the body means to take from outside.
-/
namespace RoutineBindings.Go

/-- The names in a text. A numeral is none. -/
def namesIn (text : String) : List String :=
  (freeNames text).filter fun x => !x.toList.head?.any Text.isAsciiDigit

mutual
/-- The operands and callees of an expression, in the order they are written. -/
def Expr.texts : Expr → List String
  | .name t => [t]
  | .text _ => []
  | .call f as => f :: textsAll as
  | .method r _ as => r.texts ++ textsAll as
  | .address e => e.texts
  | .binary l _ r => l.texts ++ r.texts

def textsAll : List Expr → List String
  | [] => []
  | e :: es => e.texts ++ textsAll es
end

mutual
/-- The operands, callees and types of a statement. -/
def Stmt.texts : Stmt → List String
  | .define _ e | .assign _ e | .defer e | .expr e => e.texts
  | .declare _ type => [type]
  | .branch e body | .loop e body | .range _ _ e body => e.texts ++ blockTexts body
  | .choose e clauses => e.texts ++ clausesTexts clauses
  | .ret es => textsAll es

def blockTexts : List Stmt → List String
  | [] => []
  | s :: ss => s.texts ++ blockTexts ss

def clausesTexts : List Clause → List String
  | [] => []
  | .mk es body :: cs => textsAll es ++ blockTexts body ++ clausesTexts cs
end

/-- How often the texts mention a name. -/
def mentions (x : String) (texts : List String) : Nat := (texts.flatMap namesIn).count x

@[simp] theorem mentions_nil (x : String) : mentions x [] = 0 := rfl

@[simp] theorem mentions_cons (x t : String) (ts : List String) :
    mentions x (t :: ts) = (namesIn t).count x + mentions x ts := by
  simp [mentions, List.flatMap_cons]

@[simp] theorem mentions_append (x : String) (ts us : List String) :
    mentions x (ts ++ us) = mentions x ts + mentions x us := by
  simp [mentions, List.flatMap_append]

theorem mentions_pos {x : String} {ts : List String} :
    0 < mentions x ts ↔ ∃ t ∈ ts, x ∈ namesIn t := by
  rw [mentions, List.count_pos_iff, List.mem_flatMap]

theorem blockTexts_append (b b' : List Stmt) :
    blockTexts (b ++ b') = blockTexts b ++ blockTexts b' := by
  induction b with
  | nil => rfl
  | cons s b ih => rw [List.cons_append, blockTexts, blockTexts, ih, List.append_assoc]

end RoutineBindings.Go

namespace RoutineBindings.Wrapper
open Go

/-- How often a body means a parameter of the name: each argument is passed once, and so is the
connection asked. -/
def references (r : ResolvedRoutine) (x : String) : Nat :=
  mentions x ("db" :: r.arguments.map ResolvedArgument.goName)

/-- The body mentions the name of a parameter where it does not mean the parameter. -/
def Captures (w : WrapperOptions) (r : ResolvedRoutine) (x : String) : Prop :=
  references r x < mentions x (blockTexts (body w r))

instance (w : WrapperOptions) (r : ResolvedRoutine) : DecidablePred (Captures w r) :=
  fun x => inferInstanceAs (Decidable (references r x < mentions x (blockTexts (body w r))))

/-- The literal that stands for the result in failures. -/
def zeroTexts (shape : ResultShape) : List String := (shape.goType?.bind zeroValue?).toList

/-- `if err != nil` and the values that it returns, without the variables. -/
def guardTexts (shape : ResultShape) : List String := "nil" :: zeroTexts shape

/-- What is written to declare the variable for a row. -/
def rowTexts (element : String) : List String :=
  if isPointer element then ["new", pointee element] else [element]

/-- What a body takes from outside to get its connection. -/
def accessorTexts (w : WrapperOptions) (r : ResolvedRoutine) : List String :=
  if usesAccessor w then w.dbAccessor :: guardTexts r.result else []

/-- The array function, once for each argument that it formats. -/
def formatterTexts (w : WrapperOptions) (r : ResolvedRoutine) : List String :=
  (r.arguments.filter ResolvedArgument.isIdentifierSlice).map fun _ => arrayFunction w

/-- What a body takes from outside to read its result. -/
def resultTexts : ResultShape → List String
  | .none => []
  | .single goType structScan =>
    (if structScan then ["new", pointee goType] else []) ++
      guardTexts (.single goType structScan) ++ ["nil"]
  | .rows goType element structScan =>
    guardTexts (.rows goType element structScan) ++ rowTexts element ++
      guardTexts (.rows goType element structScan) ++
        "append" :: guardTexts (.rows goType element structScan) ++ ["nil"]

/-- What a body takes from outside, as often as it is written. -/
def outerTexts (w : WrapperOptions) (r : ResolvedRoutine) : List String :=
  accessorTexts w r ++ formatterTexts w r ++ resultTexts r.result

section Mentions
variable {x : String} {w : WrapperOptions} {r : ResolvedRoutine}

theorem namesIn_local {y : String} (hy : y ∈ wrapperLocals) (hxy : x ≠ y) :
    (namesIn y).count x = 0 := by
  have hall : ∀ y ∈ wrapperLocals, namesIn y = [y] := by decide +kernel
  rw [hall y hy, List.count_singleton]
  simp [hxy.symm]

theorem mentions_passed (as : List ResolvedArgument) :
    mentions x (textsAll (as.map (passed w))) =
      mentions x (as.map ResolvedArgument.goName) +
        mentions x
          ((as.filter ResolvedArgument.isIdentifierSlice).map fun _ => arrayFunction w) := by
  induction as with
  | nil => rfl
  | cons a as ih =>
    have ha : (passed w a).texts =
        (if a.isIdentifierSlice then [arrayFunction w] else []) ++ [a.goName] := by
      unfold passed
      split <;> simp [Expr.texts, textsAll]
    simp only [List.map_cons, textsAll, ha, mentions_append, ih, mentions_cons, mentions_nil,
      List.filter_cons]
    split <;> simp <;> omega

/-- The name is not that of a variable that a wrapper declares. -/
structure Undeclared (x : String) : Prop where
  err : x ≠ "err"
  result : x ≠ "result"
  rows : x ≠ "rows"
  value : x ≠ "value"

theorem mentions_failure (hx : Undeclared x) (shape : ResultShape) :
    mentions x (textsAll (failure shape)) = mentions x (zeroTexts shape) := by
  have herr := namesIn_local (x := x) (y := "err") (by decide) hx.err
  have hresult := namesIn_local (x := x) (y := "result") (by decide) hx.result
  unfold failure zeroTexts
  cases shape.goType? with
  | none => simp [textsAll, Expr.texts, herr]
  | some goType =>
    cases hz : zeroValue? goType <;> simp [textsAll, Expr.texts, zero, herr, hresult, hz]

theorem mentions_returnOnError (hx : Undeclared x) (shape : ResultShape) :
    mentions x (Stmt.returnOnError (failure shape)).texts = mentions x (guardTexts shape) := by
  have herr := namesIn_local (x := x) (y := "err") (by decide) hx.err
  simp [Stmt.returnOnError, Stmt.texts, Expr.texts, blockTexts, mentions_failure hx, guardTexts,
    herr]

theorem mentions_queryArguments :
    mentions x (textsAll (queryArguments w r)) =
      mentions x (r.arguments.map ResolvedArgument.goName) +
        mentions x (formatterTexts w r) := by
  simp [queryArguments, textsAll, Expr.texts, mentions_passed, formatterTexts]

/-- However the connection is asked, it is named once. -/
theorem mentions_onDb (method : String) :
    mentions x (onDb method (queryArguments w r)).texts =
      references r x + mentions x (formatterTexts w r) := by
  simp only [onDb, Expr.texts, List.singleton_append, mentions_cons, mentions_queryArguments,
    references]
  omega

theorem mentions_connect (hx : Undeclared x) :
    mentions x (blockTexts (connect w r.result)) = mentions x (accessorTexts w r) := by
  unfold connect accessorTexts
  cases usesAccessor w with
  | true => simp [blockTexts, Stmt.texts, Expr.texts, textsAll, mentions_returnOnError hx]
  | false => rfl

theorem mentions_execute (hx : Undeclared x) :
    mentions x (blockTexts (execute w (queryArguments w r))) =
      references r x + mentions x (formatterTexts w r) := by
  have herr := namesIn_local (x := x) (y := "err") (by decide) hx.err
  unfold execute
  split <;> simp [blockTexts, Stmt.texts, Expr.texts, textsAll, herr, mentions_onDb]

theorem mentions_readSingle (hx : Undeclared x) (goType : String) (structScan : Bool) :
    mentions x (blockTexts (readSingle goType structScan (queryArguments w r)
        (failure (.single goType structScan)))) =
      references r x + mentions x (formatterTexts w r) +
        mentions x (resultTexts (.single goType structScan)) := by
  have hresult := namesIn_local (x := x) (y := "result") (by decide) hx.result
  have hends : mentions x (blockTexts [.returnOnError (failure (.single goType structScan)),
      .ret [.name "result", .name "nil"]]) =
      mentions x (guardTexts (.single goType structScan)) + mentions x ["nil"] := by
    simp [blockTexts, Stmt.texts, textsAll, Expr.texts, mentions_returnOnError hx, hresult]
  rw [readSingle, blockTexts_append, mentions_append, hends]
  cases structScan with
  | true =>
    simp only [resultTexts, blockTexts, Stmt.texts, Expr.texts, textsAll, mentions_onDb, hresult,
      mentions_append, mentions_cons, mentions_nil, if_true]
    omega
  | false =>
    simp [resultTexts, blockTexts, Stmt.texts, Expr.texts, textsAll, mentions_onDb, hresult]

theorem mentions_readRow (hx : Undeclared x) (element : String) (structScan : Bool) :
    mentions x (blockTexts (readRow element structScan)) = mentions x (rowTexts element) := by
  have hrows := namesIn_local (x := x) (y := "rows") (by decide) hx.rows
  have hvalue := namesIn_local (x := x) (y := "value") (by decide) hx.value
  unfold readRow rowTexts
  split <;> simp [blockTexts, Stmt.texts, Expr.texts, textsAll, hrows, hvalue]

/-- The rows are read with one guard after the query, one in each turn and one at the end. -/
theorem mentions_readRows (hx : Undeclared x) (goType element : String) (structScan : Bool) :
    mentions x (blockTexts (readRows goType element structScan (queryArguments w r)
        (failure (.rows goType element structScan)))) =
      references r x + mentions x (formatterTexts w r) +
        mentions x (resultTexts (.rows goType element structScan)) := by
  have hresult := namesIn_local (x := x) (y := "result") (by decide) hx.result
  have hrows := namesIn_local (x := x) (y := "rows") (by decide) hx.rows
  have hvalue := namesIn_local (x := x) (y := "value") (by decide) hx.value
  have hlast : mentions x (zero goType).texts =
      mentions x (zeroTexts (.rows goType element structScan)) := by
    cases hz : zeroValue? goType <;>
      simp [zero, zeroTexts, ResultShape.goType?, Expr.texts, hz, hresult]
  simp only [readRows, blockTexts, Stmt.texts, blockTexts_append, textsAll, Expr.texts,
    mentions_append, mentions_cons, mentions_nil, mentions_onDb, mentions_returnOnError hx,
    mentions_readRow hx, hlast, hrows, hvalue, hresult, resultTexts, guardTexts]
  omega

/-- Besides the parameters that it means, a body mentions what it takes from outside. -/
theorem mentions_body (hx : Undeclared x) :
    mentions x (blockTexts (body w r)) = references r x + mentions x (outerTexts w r) := by
  have hrest : mentions x (blockTexts (callAndRead w r)) =
      references r x + mentions x (formatterTexts w r) + mentions x (resultTexts r.result) := by
    unfold callAndRead
    cases r.result with
    | none => exact mentions_execute hx
    | single goType structScan => exact mentions_readSingle hx goType structScan
    | rows goType element structScan => exact mentions_readRows hx goType element structScan
  rw [body, blockTexts_append, mentions_append, mentions_connect hx, hrest, outerTexts,
    mentions_append, mentions_append]
  omega

theorem captures_iff (hx : Undeclared x) :
    Captures w r x ↔ ∃ t ∈ outerTexts w r, x ∈ namesIn t := by
  rw [Captures, mentions_body hx, ← mentions_pos]
  omega

/-- The zero literal of a set is `nil`. -/
theorem zeroTexts_rows (hr : Sound r) {goType element : String} {structScan : Bool}
    (hres : r.result = .rows goType element structScan) : zeroTexts r.result = ["nil"] := by
  simp [hres, zeroTexts, ResultShape.goType?, zeroValue?, (hr.rows hres).1]

theorem map_text_rowTypeUses (element : String) :
    (rowTypeUses w r element).map Use.text = rowTexts element := by
  unfold rowTypeUses rowTexts
  split <;> rfl

theorem mem_resultTexts (hr : Sound r) {t : String} :
    t ∈ resultTexts r.result ↔ t ∈ (resultUses w r).map Use.text := by
  cases hres : r.result with
  | none => simp [resultTexts, resultUses, hres]
  | single goType structScan =>
    have htexts : (resultUses w r).map Use.text =
        "nil" :: zeroTexts r.result ++ if structScan then ["new", pointee goType] else [] := by
      cases structScan <;>
        simp [resultUses, hres, zeroTexts, ResultShape.goType?, Function.comp_def]
    rw [htexts, hres]
    simp only [resultTexts, guardTexts, List.mem_append, List.mem_cons, List.not_mem_nil]
    tauto
  | rows goType element structScan =>
    have hzero := zeroTexts_rows hr hres
    have htexts : (resultUses w r).map Use.text = ["nil", "append"] ++ rowTexts element := by
      simp [resultUses, hres, map_text_rowTypeUses]
    rw [hres] at hzero
    rw [htexts]
    simp only [resultTexts, guardTexts, hzero, List.mem_append, List.mem_cons, List.not_mem_nil]
    tauto

/-- Without the multiplicities these are the texts that have to be outer in a run. -/
theorem mem_outerTexts (hr : Sound r) {t : String} :
    t ∈ outerTexts w r ↔ t ∈ (functionUses w r ++ predeclaredUses w r).map Use.text := by
  have hformatter : t ∈ formatterTexts w r ↔
      passesIdentifierSlice r = true ∧ t = arrayFunction w := by
    simp only [formatterTexts, passesIdentifierSlice, List.mem_map, List.mem_filter,
      List.any_eq_true]
    tauto
  have hzero : t ∈ zeroTexts r.result → t ∈ resultTexts r.result := by
    cases r.result <;> simp +contextual [resultTexts, guardTexts, zeroTexts, ResultShape.goType?]
  rw [outerTexts, List.mem_append, List.mem_append, hformatter, List.map_append, List.mem_append,
    functionUses, predeclaredUses, List.map_append, List.mem_append, List.map_append,
    List.mem_append, ← mem_resultTexts hr, accessorTexts, guardTexts]
  cases usesAccessor w <;> cases passesIdentifierSlice r <;> simp <;> tauto

/-- A variable of the wrapper is none of its parameters, however the connection is asked. -/
theorem undeclared_of_param (hr : Sound r) {p : Param} (hp : p ∈ params w r) :
    Undeclared p.name := by
  have hlocal : ∀ y ∈ ["err", "result", "rows", "value"], p.name ≠ y := by
    intro y hy
    rw [params, List.mem_append] at hp
    rcases hp with hp | hp
    · unfold connectionParams at hp
      split at hp
      · cases hp
      · obtain rfl := List.mem_singleton.1 hp
        revert y
        decide
    · obtain ⟨a, ha, rfl⟩ := List.mem_map.1 hp
      rintro rfl
      exact hr.apart a ha (List.mem_cons_of_mem _ hy)
  exact ⟨hlocal _ (by decide), hlocal _ (by decide), hlocal _ (by decide), hlocal _ (by decide)⟩

theorem param_captures_iff (hr : Sound r) {p : Param} (hp : p ∈ params w r) :
    Captures w r p.name ↔
      ∃ u ∈ functionUses w r ++ predeclaredUses w r, p.name ∈ namesIn u.text := by
  rw [captures_iff (undeclared_of_param hr hp)]
  constructor
  · rintro ⟨t, ht, hx⟩
    obtain ⟨u, hu, rfl⟩ := List.mem_map.1 ((mem_outerTexts hr).1 ht)
    exact ⟨u, hu, hx⟩
  · rintro ⟨u, hu, hx⟩
    exact ⟨u.text, (mem_outerTexts hr).2 (List.mem_map_of_mem hu), hx⟩

theorem mem_paramNames {o : Overrides} {c : Catalog} {r : Routine} :
    x ∈ (params w (resolvedRoutine o c r)).map Param.name ↔
      (usesAccessor w = false ∧ x = "db") ∨ ∃ a ∈ r.arguments, x = parameterName a.name := by
  have hnames : (params w (resolvedRoutine o c r)).map Param.name =
      (connectionParams w).map Param.name ++ r.arguments.map fun a => parameterName a.name := by
    simp only [params, resolvedRoutine, resolvedArgument, List.map_append, List.map_map,
      Function.comp_def]
  rw [hnames, List.mem_append]
  unfold connectionParams
  cases usesAccessor w <;> simp [eq_comm]

end Mentions

/-- No parameter of a wrapper captures an outer name exactly when neither the parameter name of an
argument nor that of the connection stands in a text that the body takes from outside. -/
theorem captureFree_iff (o : Overrides) (c : Catalog) (r : Routine) (n : Needs)
    (w : WrapperOptions) :
    (∀ p ∈ params w (resolveRoutine o c r n).value.1,
        ¬ Captures w (resolveRoutine o c r n).value.1 p.name) ↔
      ∀ u ∈ functionUses w (resolveRoutine o c r n).value.1 ++
          predeclaredUses w (resolveRoutine o c r n).value.1,
        (∀ a ∈ r.arguments, parameterName a.name ∉ namesIn u.text) ∧
          (usesAccessor w = false → "db" ∉ namesIn u.text) := by
  rw [resolveRoutine_fst]
  have hr := resolvedRoutine_sound o c r
  constructor
  · intro h u hu
    have hfree : ∀ x ∈ (params w (resolvedRoutine o c r)).map Param.name, x ∉ namesIn u.text := by
      intro x hx hmem
      obtain ⟨p, hp, rfl⟩ := List.mem_map.1 hx
      exact h p hp ((param_captures_iff hr hp).2 ⟨u, hu, hmem⟩)
    exact ⟨fun a ha => hfree _ (mem_paramNames.2 (.inr ⟨a, ha, rfl⟩)),
      fun huse => hfree _ (mem_paramNames.2 (.inl ⟨huse, rfl⟩))⟩
  · intro h p hp hcaptures
    obtain ⟨u, hu, hmem⟩ := (param_captures_iff hr hp).1 hcaptures
    rcases mem_paramNames.1 (List.mem_map_of_mem hp) with ⟨huse, hname⟩ | ⟨a, ha, hname⟩
    · exact (h u hu).2 huse (hname ▸ hmem)
    · exact (h u hu).1 a ha (hname ▸ hmem)

/-- A routine whose argument has the name of the package of its result type. -/
def bump : ResolvedRoutine :=
  (resolveRoutine ⟨[], []⟩ emptyCatalog
    ⟨"public", "bump", .normal, [⟨"time", "timestamptz"⟩], "timestamptz", none⟩ .empty).value.1

theorem bump_captures :
    "time" ∈ (params inlineOptions bump).map Param.name ∧ Captures inlineOptions bump "time" := by
  decide +kernel

end RoutineBindings.Wrapper
