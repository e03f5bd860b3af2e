import RoutineBindings.Proofs.ExpressionTokens

/-!
# Reading expressions back

Printing writes no parentheses around operands, and it does not need to: a reader that takes one
token after the other always knows which operand goes on. It keeps the argument lists that are open,
and in each of them what waits for the operand that is being read. From the text of an expression it
gets the expression, so no two expressions print alike.
-/
namespace RoutineBindings.Go

/-- What waits for the operand that is being read: an operator with its left operand, and the sign
that takes an address. -/
structure Awaiting where
  left : Option (Expr × String)
  address : Bool

namespace Awaiting

def nothing : Awaiting := ⟨none, false⟩

/-- The expression that is complete when the operand is. -/
def complete (p : Awaiting) (e : Expr) : Expr :=
  let operand := if p.address then .address e else e
  match p.left with
  | none => operand
  | some (l, op) => .binary l op operand

/-- Nothing waits that the expression would have to stand in parentheses for. -/
def Admits (p : Awaiting) : Expr → Prop
  | .address _ => p.address = false
  | .binary _ _ _ => p = nothing
  | _ => True

end Awaiting

inductive Callee where
  | function (name : String)
  | method (receiver : Expr) (name : String)

def Callee.apply : Callee → List Expr → Expr
  | .function f, as => .call f as
  | .method r m, as => .method r m as

/-- An open list of arguments: those that are complete, the last first, and what waits for the
call. -/
structure OpenCall where
  callee : Callee
  read : List Expr
  outer : Awaiting

/-- Where in an expression the reader stands. -/
inductive ReaderState where
  /-- An operand begins. -/
  | before (p : Awaiting) (calls : List OpenCall)
  /-- An operand is read, but it may be selected from or called. -/
  | after (e : Expr) (p : Awaiting) (calls : List OpenCall)
  | selecting (e : Expr) (p : Awaiting) (calls : List OpenCall)
  | selected (e : Expr) (name : String) (p : Awaiting) (calls : List OpenCall)

namespace ReaderState

def next? : ReaderState → Token → Option ReaderState
  | .before p cs, .word t => some (.after (.name t) p cs)
  | .before p cs, .literal v => some (.after (.text v) p cs)
  | .before ⟨l, false⟩ cs, .ampersand => some (.before ⟨l, true⟩ cs)
  | .before ⟨none, false⟩ (⟨callee, [], outer⟩ :: cs), .closeParen =>
    some (.after (callee.apply []) outer cs)
  | .after e p cs, .dot => some (.selecting e p cs)
  | .after e p cs, .operator op => some (.before ⟨some (p.complete e, op), false⟩ cs)
  | .after (.name f) p cs, .openParen => some (.before .nothing (⟨.function f, [], p⟩ :: cs))
  | .after e p (⟨callee, read, outer⟩ :: cs), .comma =>
    some (.before .nothing (⟨callee, p.complete e :: read, outer⟩ :: cs))
  | .after e p (⟨callee, read, outer⟩ :: cs), .closeParen =>
    some (.after (callee.apply (p.complete e :: read).reverse) outer cs)
  | .selecting e p cs, .word m => some (.selected e m p cs)
  | .selected e m p cs, .openParen => some (.before .nothing (⟨.method e m, [], p⟩ :: cs))
  | _, _ => none

/-- The expression, if it is complete. -/
def result? : ReaderState → Option Expr
  | .after e p [] => some (p.complete e)
  | _ => none

end ReaderState

def readTokens : ReaderState → List Token → Option Expr
  | s, [] => s.result?
  | s, t :: ts => (s.next? t).bind (readTokens · ts)

/-- The expression that a text spells. -/
def readExpr (text : String) : Option Expr :=
  (lex text).bind (readTokens (.before .nothing []))

/-- Reading the tokens of the expression takes the reader behind an operand that completes it. An
operand that may be selected from is still open itself. -/
def Consumed (e : Expr) : Prop :=
  ∀ p cs, p.Admits e → ∃ operand q,
    (∀ ts, readTokens (.before p cs) (e.tokens ++ ts) = readTokens (.after operand q cs) ts) ∧
      q.complete operand = p.complete e ∧ (e.isPrimary = true → operand = e ∧ q = p)

section Reading
variable {e : Expr} {as : List Expr} {p : Awaiting} {cs : List OpenCall} {ts : List Token}

theorem admits_of_primary (h : e.isPrimary = true) : p.Admits e := by
  cases e with
  | name | text | call | method => trivial
  | address | binary => cases h

theorem nothing_admits (e : Expr) : Awaiting.nothing.Admits e := by
  cases e with
  | name | text | call | method => trivial
  | address | binary => rfl

theorem admits_operator {l : Expr} {op : String} (h : e.isBinary = false) :
    Awaiting.Admits ⟨some (l, op), false⟩ e := by
  cases e with
  | name | text | call | method => trivial
  | address => rfl
  | binary => cases h

/-- The reader stands directly behind the operand, which may go on. -/
theorem consumed_of_read
    (h : ∀ p cs ts, readTokens (.before p cs) (e.tokens ++ ts) = readTokens (.after e p cs) ts) :
    Consumed e :=
  fun p cs _ => ⟨e, p, h p cs, rfl, fun _ => ⟨rfl, rfl⟩⟩

theorem Consumed.primary (h : Consumed e) (he : e.isPrimary = true) :
    readTokens (.before p cs) (e.tokens ++ ts) = readTokens (.after e p cs) ts := by
  obtain ⟨operand, q, hread, -, hself⟩ := h p cs (admits_of_primary he)
  obtain ⟨rfl, rfl⟩ := hself he
  exact hread ts

/-- The arguments of a call, up to the parenthesis that closes them. -/
theorem readTokens_arguments (callee : Callee) (read : List Expr) (outer : Awaiting)
    (cs : List OpenCall) (ts : List Token) (has : ∀ a ∈ as, Consumed a)
    (hread : as = [] → read = []) :
    readTokens (.before .nothing (⟨callee, read, outer⟩ :: cs))
        (argumentTokens as ++ .closeParen :: ts) =
      readTokens (.after (callee.apply (read.reverse ++ as)) outer cs) ts := by
  induction as generalizing read with
  | nil =>
    rw [hread rfl]
    rfl
  | cons a as ih =>
    obtain ⟨operand, q, ha, hcomplete, -⟩ := has a List.mem_cons_self .nothing
      (⟨callee, read, outer⟩ :: cs) (nothing_admits a)
    have hcomplete : q.complete operand = a := hcomplete
    cases as with
    | nil =>
      rw [argumentTokens, ha, readTokens, ReaderState.next?, Option.bind_some, hcomplete,
        List.reverse_cons]
    | cons b bs =>
      have hrest := ih (a :: read) (fun c hc => has c (List.mem_cons_of_mem a hc))
        fun hnil => absurd hnil (List.cons_ne_nil b bs)
      rw [argumentTokens, List.append_assoc, ha, List.cons_append, readTokens, ReaderState.next?,
        Option.bind_some, hcomplete, hrest, List.reverse_cons, List.append_assoc,
        List.singleton_append]

theorem Expr.Plain.consumed (h : e.Plain) : Consumed e := by
  induction h with
  | name ht => exact consumed_of_read fun p cs ts => rfl
  | text v => exact consumed_of_read fun p cs ts => rfl
  | @call f as hf _ ih =>
    refine consumed_of_read fun p cs ts => ?_
    have hargs := readTokens_arguments (.function f) [] p cs ts ih fun _ => rfl
    rw [Expr.tokens, List.cons_append, List.cons_append, List.append_assoc]
    exact hargs
  | @method r m as hprimary _ hm _ hr ih =>
    refine consumed_of_read fun p cs ts => ?_
    have hargs := readTokens_arguments (.method r m) [] p cs ts ih fun _ => rfl
    rw [Expr.tokens, List.append_assoc, hr.primary hprimary, List.cons_append, List.cons_append,
      List.cons_append, List.append_assoc]
    exact hargs
  | @address e hprimary _ he =>
    intro p cs hp
    obtain ⟨left, address⟩ := p
    obtain rfl : address = false := hp
    refine ⟨e, ⟨left, true⟩, fun ts => ?_, rfl, fun hself => by cases hself⟩
    exact he.primary hprimary
  | @binary l r op _ _ hright _ hl hr =>
    intro p cs hp
    obtain rfl : p = .nothing := hp
    obtain ⟨x, q, hleft, hx, -⟩ := hl .nothing cs (nothing_admits l)
    have hx : q.complete x = l := hx
    obtain ⟨y, q', hoperand, hy, -⟩ := hr ⟨some (l, op), false⟩ cs (admits_operator hright)
    refine ⟨y, q', fun ts => ?_, hy, fun hself => by cases hself⟩
    rw [Expr.tokens, List.append_assoc, hleft, List.cons_append, readTokens, ReaderState.next?,
      Option.bind_some, hx]
    exact hoperand ts

theorem readExpr_print (h : e.Plain) : readExpr e.print = some e := by
  obtain ⟨operand, q, hread, hcomplete, -⟩ := h.consumed .nothing [] (nothing_admits e)
  have hread := hread []
  rw [List.append_nil] at hread
  rw [readExpr, h.lex_print, Option.bind_some, hread, readTokens, ReaderState.result?, hcomplete]
  rfl

/-- The text of an expression determines it: reading the text gives the expression, and no other
one has this text. -/
theorem print_lossless (h : e.Plain) :
    readExpr e.print = some e ∧ ∀ e' : Expr, e'.Plain → e'.print = e.print → e' = e := by
  refine ⟨readExpr_print h, fun e' h' hprint => ?_⟩
  have hread : some e' = some e := by
    rw [← readExpr_print h', hprint, readExpr_print h]
  exact Option.some.inj hread

/-- Between the operators stand calls in calls, and a literal that looks like more arguments. -/
def nestedCalls : Expr :=
  .binary
    (.binary
      (.method (.method (.name "db") "Query" [.text "f(\", $1)", .address (.name "id")]) "Scan" [])
      "+" (.call "len" [.binary (.text ", ") "+" (.name "x"), .call "next" []]))
    "==" (.address (.method (.text "") "rows" []))

theorem nestedCalls_lossless :
    nestedCalls.Plain ∧
      readExpr "db.Query(\"f(\\\", $1)\", &id).Scan() + len(\", \" + x, next()) == &\"\".rows()" =
        some nestedCalls ∧
      ∀ e' : Expr, e'.Plain →
        e'.print =
          "db.Query(\"f(\\\", $1)\", &id).Scan() + len(\", \" + x, next()) == &\"\".rows()" →
        e' = nestedCalls := by
  have hwords : ∀ t ∈ ["db", "Query", "id", "Scan", "len", "x", "next", "rows"], IsWord t := by
    decide +kernel
  have hpair : ∀ a b : Expr, a.Plain → b.Plain → ∀ e ∈ [a, b], e.Plain := by
    intro a b ha hb
    exact List.forall_mem_cons.2 ⟨ha, List.forall_mem_singleton.2 hb⟩
  have hquery : (Expr.method (.name "db") "Query"
      [.text "f(\", $1)", .address (.name "id")]).Plain :=
    .method rfl (.name (hwords "db" (by decide))) (hwords "Query" (by decide))
      (hpair _ _ (.text _) (.address rfl (.name (hwords "id" (by decide)))))
  have hlen : (Expr.call "len" [.binary (.text ", ") "+" (.name "x"), .call "next" []]).Plain :=
    .call (hwords "len" (by decide)) (hpair _ _
      (.binary (.text _) (by decide) rfl (.name (hwords "x" (by decide))))
      (.call (hwords "next" (by decide)) (List.forall_mem_nil _)))
  have hscan := Expr.Plain.method rfl hquery (hwords "Scan" (by decide)) (List.forall_mem_nil _)
  have hrows := Expr.Plain.method rfl (.text "") (hwords "rows" (by decide)) (List.forall_mem_nil _)
  have hplain : nestedCalls.Plain :=
    .binary (.binary hscan (by decide) rfl hlen) (by decide) rfl (.address rfl hrows)
  have hprint : nestedCalls.print =
      "db.Query(\"f(\\\", $1)\", &id).Scan() + len(\", \" + x, next()) == &\"\".rows()" := by
    decide +kernel
  have hlossless := print_lossless hplain
  rw [hprint] at hlossless
  exact ⟨hplain, hlossless⟩

end Reading
end RoutineBindings.Go
