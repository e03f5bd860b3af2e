import RoutineBindings.Proofs.ArrayReading
import RoutineBindings.Proofs.Scopes

/-!
# What the inline array function returns

An evaluator for the part of Go that the function is written in. The loop runs its body once for
each identifier of the slice, in a block that declares the loop variables. Identifiers are known by
the text that their method `String` returns.
-/
namespace RoutineBindings.ArrayLiteral
open Go Text

inductive Value where
  | int (n : Nat)
  | bool (b : Bool)
  | text (s : String)
  | identifier (text : String)
  | identifiers (texts : List String)
  | builder (content : String)

namespace Value

def length? : Value → Option Value
  | .identifiers texts => some (.int texts.length)
  | .text s => some (.int s.utf8ByteSize)
  | _ => none

/-- What the method `String` returns. -/
def string? : Value → Option Value
  | .identifier t => some (.text t)
  | .builder content => some (.text content)
  | _ => none

def binary? : Value → String → Value → Option Value
  | .int m, "==", .int n => some (.bool (m = n))
  | .int m, ">", .int n => some (.bool (m > n))
  | .text s, "+", .text t => some (.text (s ++ t))
  | _, _, _ => none

end Value

/-- The names that each block declares with their values. -/
abbrev Blocks := Go.Blocks Value

namespace Blocks

/-- Gives a name another value in the innermost block that declares it. -/
def write (x : String) (v : Value) : Blocks → Blocks
  | [] => []
  | b :: bs =>
    if (b.lookup x).isSome then b.map (fun (y, w) => (y, if y = x then v else w)) :: bs
    else b :: write x v bs

/-- Declares a name in the innermost block, which must not declare it yet. -/
def declare? (x : String) (v : Value) : Blocks → Option Blocks
  | [] => none
  | b :: bs => if (b.lookup x).isNone then some (((x, v) :: b) :: bs) else none

end Blocks

section Evaluation

/-- The number that a decimal literal writes. -/
def decimal? (text : String) : Option Nat :=
  let ds := text.toList
  if ds ≠ [] ∧ ds.all Char.isDigit ∧ (ds = ['0'] ∨ ds.head? ≠ some '0') then
    some (Nat.ofDigitChars 10 ds 0)
  else none

def value? (bs : Blocks) : Expr → Option Value
  | .name x => (bs.find? x).or ((decimal? x).map .int)
  | .text s => some (.text s)
  | .call f [e] =>
    if f = "len" ∧ (bs.find? f).isNone then (value? bs e).bind Value.length? else none
  | .method e m [] => if m = "String" then (value? bs e).bind Value.string? else none
  | .binary l op r => do (← value? bs l).binary? op (← value? bs r)
  | _ => none

/-- How statements end: the next one is to run, or the function returns. -/
inductive Ending where
  | next (bs : Blocks)
  | returned (v : Value)

/-- Runs in a block of its own, which declares some names beforehand. -/
def inBlock (declared : List (String × Value)) (run : Blocks → Option Ending) (bs : Blocks) :
    Option Ending :=
  (run (declared :: bs)).map fun
    | .next inner => .next inner.tail
    | .returned v => .returned v

/-- Takes the turns of a loop for the texts of identifiers, which are numbered from the first. -/
def forEach (turn : Nat → String → Blocks → Option Ending) :
    Nat → List String → Blocks → Option Ending
  | _, [], bs => some (.next bs)
  | i, t :: ts, bs =>
    match turn i t bs with
    | some (.next bs) => forEach turn (i + 1) ts bs
    | ending => ending

/-- What a loop declares for a turn. A blank name takes nothing. -/
def loopVariables (key : String) (value : Option String) (i : Nat) (t : String) :
    List (String × Value) :=
  ((key, .int i) :: (value.map fun x => (x, .identifier t)).toList).filter (·.1 ≠ "_")

mutual
def run (bs : Blocks) : Stmt → Option Ending
  | .declare x type =>
    if type = builderPackage ++ ".Builder" ∧ (bs.find? builderPackage).isNone then
      (bs.declare? x (.builder "")).map .next
    else none
  | .branch e body =>
    match value? bs e with
    | some (.bool true) => inBlock [] (fun bs => runAll bs body) bs
    | some (.bool false) => some (.next bs)
    | _ => none
  | .range key value e body =>
    match value? bs e with
    | some (.identifiers texts) =>
      forEach (fun i t => inBlock (loopVariables key value i t) (inBlock [] fun bs =>
        runAll bs body)) 0 texts bs
    | _ => none
  | .expr (.method (.name x) "WriteString" [e]) =>
    match bs.find? x, value? bs e with
    | some (.builder content), some (.text s) => some (.next (bs.write x (.builder (content ++ s))))
    | _, _ => none
  | .ret [e] => (value? bs e).map .returned
  | _ => none

def runAll (bs : Blocks) : List Stmt → Option Ending
  | [] => some (.next bs)
  | s :: ss =>
    match run bs s with
    | some (.next bs) => runAll bs ss
    | ending => ending
end

/-- Calls a function of a slice of identifiers that returns a text. -/
def format? (ids : List String) : Decl → Option String
  | .func ⟨_, none, _, [p], .unnamed ["string"], body⟩ =>
    if p.type = identifierSlice then
      match runAll [[(p.name, .identifiers ids)]] body with
      | some (.returned (.text s)) => some s
      | _ => none
    else none
  | _ => none

end Evaluation

section Runs

/-- The blocks between the statements of the function. -/
def frame (ids : List String) (content : String) : Blocks :=
  [[("b", .builder content), ("ids", .identifiers ids)]]

/-- The blocks between the statements of the loop. -/
def turnFrame (ids : List String) (i : Nat) (id content : String) : Blocks :=
  [] :: loopVariables "i" (some "id") i id :: frame ids content

/-- A comma, unless nothing comes before it. -/
def separator (i : Nat) : String := if 0 < i then "," else ""

def separatorStmt : Stmt :=
  .branch (.binary (.name "i") ">" (.name "0")) [append (.text ",")]

/-- A turn of the loop. -/
def turn (i : Nat) (id : String) : Blocks → Option Ending :=
  inBlock (loopVariables "i" (some "id") i id) (inBlock [] fun bs =>
    runAll bs [separatorStmt, append quotedIdentifier])

variable (ids : List String) (content : String)

theorem runAll_next {bs next : Blocks} {s : Stmt} (h : run bs s = some (.next next))
    (ss : List Stmt) : runAll bs (s :: ss) = runAll next ss := by
  simp only [runAll, h]

theorem append_run (bs : Blocks) (value : Expr) {s : String}
    (hbuilder : bs.find? "b" = some (.builder content)) (hvalue : value? bs value = some (.text s)) :
    run bs (append value) = some (.next (bs.write "b" (.builder (content ++ s)))) := by
  simp only [append, run, hbuilder, hvalue]

theorem separator_run (i : Nat) (id : String) :
    run (turnFrame ids i id content) separatorStmt =
      some (.next (turnFrame ids i id (content ++ separator i))) := by
  have hcondition : value? (turnFrame ids i id content) (.binary (.name "i") ">" (.name "0")) =
      some (.bool (0 < i)) := rfl
  rw [separatorStmt, run, hcondition, separator]
  by_cases hi : 0 < i
  · have happend := append_run content ([] :: turnFrame ids i id content) (.text ",") rfl rfl
    simp only [hi, decide_true, inBlock, runAll, happend]
    rfl
  · simp [hi]

/-- What the loop writes for an identifier. -/
theorem turn_frame (i : Nat) (id : String) :
    turn i id (frame ids content) =
      some (.next (frame ids (content ++ separator i ++ quoted id))) := by
  have hquoted : value? (turnFrame ids i id (content ++ separator i)) quotedIdentifier =
      some (.text (quoted id)) := rfl
  have happend := append_run (content ++ separator i) _ quotedIdentifier rfl hquoted
  rw [turn, inBlock, inBlock]
  change ((runAll (turnFrame ids i id content) _).map _).map _ = _
  rw [runAll_next (separator_run ids content i id), runAll_next happend]
  rfl

theorem joined_quoted (before : List String) (id : String) :
    joined "," ((before ++ [id]).map quoted) =
      joined "," (before.map quoted) ++ separator before.length ++ quoted id := by
  cases before with
  | nil => simp [joined, separator]
  | cons s before =>
    have hbefore : (s :: before).map quoted ≠ [] := List.cons_ne_nil _ _
    have hid : [quoted id] ≠ [] := List.cons_ne_nil _ _
    have hcomma : separator (s :: before).length = "," := rfl
    rw [List.map_append, List.map_singleton, joined_append hbefore hid, hcomma, joined]

/-- Once the identifiers before are written, the loop writes the rest as well. -/
theorem forEach_turn (before rest : List String) :
    forEach turn before.length rest
        (frame ids ("\x7b" ++ joined "," (before.map quoted))) =
      some (.next (frame ids ("\x7b" ++ joined "," ((before ++ rest).map quoted)))) := by
  induction rest generalizing before with
  | nil => rw [List.append_nil, forEach]
  | cons id rest ih =>
    have hwritten : "\x7b" ++ joined "," (before.map quoted) ++ separator before.length ++
        quoted id = "\x7b" ++ joined "," ((before ++ [id]).map quoted) := by
      rw [joined_quoted]
      simp only [String.append_assoc]
    have hlength : before.length + 1 = (before ++ [id]).length := by simp
    rw [forEach, turn_frame, hwritten]
    simp only
    rw [hlength, ih, List.append_assoc, List.singleton_append]

theorem loop_run :
    run (frame ids "\x7b") (.range "i" (some "id") (.name "ids")
      [separatorStmt, append quotedIdentifier]) =
        some (.next (frame ids ("\x7b" ++ joined "," (ids.map quoted)))) := by
  have hsubject : value? (frame ids "\x7b") (.name "ids") = some (.identifiers ids) := rfl
  rw [run, hsubject]
  exact forEach_turn ids [] ids

theorem inlineBody_run (hne : ids ≠ []) :
    runAll [[("ids", .identifiers ids)]] inlineBody =
      some (.returned (.text (bracedList ids))) := by
  have hskip : run [[("ids", .identifiers ids)]]
      (.branch (.binary (.call "len" [.name "ids"]) "==" (.name "0")) [.ret [.text "NULL"]]) =
        some (.next [[("ids", .identifiers ids)]]) := by
    obtain ⟨id, rest, rfl⟩ := List.exists_cons_of_ne_nil hne
    rfl
  have hdeclare : run [[("ids", .identifiers ids)]] (.declare "b" "strings.Builder") =
      some (.next (frame ids "")) := rfl
  have hopen : run (frame ids "") (append (.text "\x7b")) =
      some (.next (frame ids "\x7b")) := rfl
  have hclose := append_run ("\x7b" ++ joined "," (ids.map quoted)) (frame ids _) (.text "\x7d")
    rfl rfl
  rw [inlineBody, runAll_next hskip, runAll_next hdeclare, runAll_next hopen]
  change runAll _ (.range "i" (some "id") (.name "ids")
    [separatorStmt, append quotedIdentifier] :: _) = _
  rw [runAll_next (loop_run ids), runAll_next hclose]
  rfl

end Runs

/-- The function writes `NULL` for no identifiers and otherwise the identifiers in quotes, in their
order, and the database reads back identifiers that are plain. -/
theorem inlineDecl_formats (ids : List String) :
    format? ids inlineDecl = some (if ids = [] then "NULL" else bracedList ids) ∧
      (ids ≠ [] → (∀ id ∈ ids, Plain id) →
        (format? ids inlineDecl).bind elements? = some (ids.map some)) := by
  have hformat : format? ids inlineDecl = some (if ids = [] then "NULL" else bracedList ids) := by
    by_cases hne : ids = []
    · subst hne
      rfl
    · simp only [format?, inlineDecl, if_true, inlineBody_run ids hne, if_neg hne]
  refine ⟨hformat, fun hne hplain => ?_⟩
  rw [hformat, if_neg hne]
  exact elements_bracedList hplain

/-- Commas, braces and the word `NULL` inside of quotes are read as text. -/
theorem mixedTexts_formats :
    (format? ["NULL", "a, \x7bb\x7d"] inlineDecl = some "\x7b\"NULL\",\"a, \x7bb\x7d\"\x7d") ∧
      (["NULL", "a, \x7bb\x7d"] ≠ [] ∧ (∀ id ∈ ["NULL", "a, \x7bb\x7d"], Plain id)) ∧
      (format? ["NULL", "a, \x7bb\x7d"] inlineDecl).bind elements? =
        some [some "NULL", some "a, \x7bb\x7d"] := by
  have hne : ["NULL", "a, \x7bb\x7d"] ≠ [] := List.cons_ne_nil _ _
  have hplain : ∀ id ∈ ["NULL", "a, \x7bb\x7d"], Plain id := by decide
  have hformats := inlineDecl_formats ["NULL", "a, \x7bb\x7d"]
  exact ⟨hformats.1, ⟨hne, hplain⟩, hformats.2 hne hplain⟩

end RoutineBindings.ArrayLiteral
