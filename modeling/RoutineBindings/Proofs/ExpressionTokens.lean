import RoutineBindings.Go.Printer
import RoutineBindings.Proofs.StringLiterals

/-!
# Tokens of expressions

A printed expression is a row of words, literals and signs. A reader that takes one character after
the other finds them again: a word ends where a character comes that no word has, a literal ends at
the first quote that is not escaped, and an operator stands between two blanks.
-/
namespace RoutineBindings.Go

/-- Letters, digits and underscores. -/
def isNameCharacter (c : Char) : Bool := Text.isAlphanumeric c || c = '_'

/-- A name of Go is a word, and so is a numeral. -/
def IsWord (s : String) : Prop := s ≠ "" ∧ s.toList.all isNameCharacter = true

instance : DecidablePred IsWord :=
  fun s => inferInstanceAs (Decidable (s ≠ "" ∧ s.toList.all isNameCharacter = true))

def plainOperators : List String := ["+", ">", "==", "!="]

namespace Expr

/-- Operands that can be selected from. -/
def isPrimary : Expr → Bool
  | .name _ | .text _ | .call _ _ | .method _ _ _ => true
  | .address _ | .binary _ _ _ => false

def isBinary : Expr → Bool
  | .binary _ _ _ => true
  | _ => false

/-- Expressions over words that print without need of parentheses. -/
inductive Plain : Expr → Prop where
  | name {t : String} (h : IsWord t) : Plain (.name t)
  | text (v : String) : Plain (.text v)
  | call {f : String} {as : List Expr} (hf : IsWord f) (has : ∀ a ∈ as, Plain a) :
    Plain (.call f as)
  | method {r : Expr} {m : String} {as : List Expr} (hprimary : r.isPrimary = true)
    (hr : Plain r) (hm : IsWord m) (has : ∀ a ∈ as, Plain a) : Plain (.method r m as)
  | address {e : Expr} (hprimary : e.isPrimary = true) (he : Plain e) : Plain (.address e)
  | binary {l r : Expr} {op : String} (hl : Plain l) (hop : op ∈ plainOperators)
    (hright : r.isBinary = false) (hr : Plain r) : Plain (.binary l op r)

end Expr

inductive Token where
  | word (name : String)
  | literal (value : String)
  | openParen
  | closeParen
  | comma
  | dot
  | ampersand
  | operator (name : String)
  deriving Repr, DecidableEq

mutual
/-- The tokens of an expression in the order in which it is written. -/
def Expr.tokens : Expr → List Token
  | .name t => [.word t]
  | .text v => [.literal v]
  | .call f as => .word f :: .openParen :: (argumentTokens as ++ [.closeParen])
  | .method r m as => r.tokens ++ .dot :: .word m :: .openParen :: (argumentTokens as ++ [.closeParen])
  | .address e => .ampersand :: e.tokens
  | .binary l op r => l.tokens ++ .operator op :: r.tokens

def argumentTokens : List Expr → List Token
  | [] => []
  | [e] => e.tokens
  | e :: f :: es => e.tokens ++ .comma :: argumentTokens (f :: es)
end

/-- The token that is being read, with its characters so far, the last first. -/
inductive OpenToken where
  | none
  | word (read : List Char)
  | literal (read : List Char)
  | escape (read : List Char)
  | comma
  | operator (read : List Char)

namespace OpenToken

/-- What a character begins: a token of its own, or one that goes on. -/
def start? (c : Char) : Option (List Token × OpenToken) :=
  if isNameCharacter c then some ([], .word [c])
  else match c with
    | '(' => some ([.openParen], .none)
    | ')' => some ([.closeParen], .none)
    | '.' => some ([.dot], .none)
    | '&' => some ([.ampersand], .none)
    | ',' => some ([], .comma)
    | '"' => some ([], .literal [])
    | ' ' => some ([], .operator [])
    | _ => Option.none

/-- The tokens that a character completes, and the one that is read on. -/
def next? : OpenToken → Char → Option (List Token × OpenToken)
  | .none, c => start? c
  | .word w, c =>
    if isNameCharacter c then some ([], .word (c :: w))
    else (start? c).map fun (ts, p) => (.word (String.ofList w.reverse) :: ts, p)
  | .literal s, c =>
    if c = '"' then some ([.literal (String.ofList s.reverse)], .none)
    else if c = '\\' then some ([], .escape s)
    else some ([], .literal (c :: s))
  | .escape s, c =>
    match escape? c with
    | some (.char d) => some ([], .literal (d :: s))
    | _ => Option.none
  | .comma, c => if c = ' ' then some ([.comma], .none) else Option.none
  | .operator s, c =>
    if c = ' ' then some ([.operator (String.ofList s.reverse)], .none)
    else some ([], .operator (c :: s))

/-- The tokens that the end of the text completes. -/
def finish? : OpenToken → Option (List Token)
  | .none => some []
  | .word w => some [.word (String.ofList w.reverse)]
  | _ => Option.none

end OpenToken

/-- The tokens of the rest of a text. -/
def lexFrom (p : OpenToken) : List Char → Option (List Token)
  | [] => p.finish?
  | c :: s => do
    let (ts, q) ← p.next? c
    return ts ++ (← lexFrom q s)

def lex (text : String) : Option (List Token) := lexFrom .none text.toList

example : lex "db.Query(\"a, \\\"b\\\"\", &x)" =
    some [.word "db", .dot, .word "Query", .openParen, .literal "a, \"b\"", .comma, .ampersand,
      .word "x", .closeParen] := by
  decide +kernel

/-- No word goes on into the text. -/
def EndsWord (s : List Char) : Prop := ∀ c t, s = c :: t → isNameCharacter c = false

section Tokens
variable {s cs : List Char} {ts u : List Token} {c : Char} {p q : OpenToken}

theorem lexFrom_cons (hnext : p.next? c = some (u, q)) (h : lexFrom q s = some ts) :
    lexFrom p (c :: s) = some (u ++ ts) := by
  rw [lexFrom, hnext]
  simp [h]

theorem endsWord_cons (h : isNameCharacter c = false) : EndsWord (c :: s) := by
  intro d t hd
  cases hd
  exact h

/-- A sign that is one character. -/
theorem lex_sign {t : Token} (hc : OpenToken.start? c = some ([t], .none))
    (h : lexFrom .none s = some ts) : lexFrom .none (c :: s) = some (t :: ts) :=
  lexFrom_cons (p := .none) hc h

theorem lex_comma (h : lexFrom .none s = some ts) :
    lexFrom .none (',' :: ' ' :: s) = some (.comma :: ts) := by
  have hblank : lexFrom .comma (' ' :: s) = some (.comma :: ts) :=
    lexFrom_cons (p := .comma) (u := [.comma]) rfl h
  exact lexFrom_cons (p := .none) (u := []) rfl hblank

/-- A word ends before the rest. -/
theorem lexFrom_wordEnd {w : List Char} (hs : EndsWord s) (h : lexFrom .none s = some ts) :
    lexFrom (.word w) s = some (.word (String.ofList w.reverse) :: ts) := by
  cases s with
  | nil =>
    cases h
    rfl
  | cons c s =>
    have hc := hs c s rfl
    rw [lexFrom] at h
    obtain ⟨⟨us, q⟩, hstart, hrest⟩ := Option.bind_eq_some_iff.1 h
    obtain ⟨vs, hvs, hts⟩ := Option.bind_eq_some_iff.1 hrest
    have hstart : OpenToken.start? c = some (us, q) := hstart
    cases hts
    refine lexFrom_cons (u := .word (String.ofList w.reverse) :: us) ?_ hvs
    rw [OpenToken.next?, if_neg (by simp [hc]), hstart]
    rfl

theorem lexFrom_word {w : List Char} (hcs : ∀ c ∈ cs, isNameCharacter c = true) (hs : EndsWord s)
    (h : lexFrom .none s = some ts) :
    lexFrom (.word w) (cs ++ s) = some (.word (String.ofList (w.reverse ++ cs)) :: ts) := by
  induction cs generalizing w with
  | nil => simpa using lexFrom_wordEnd hs h
  | cons c cs ih =>
    have hc := hcs c List.mem_cons_self
    have hrest := ih (w := c :: w) fun d hd => hcs d (List.mem_cons_of_mem c hd)
    refine lexFrom_cons (u := []) (if_pos hc) ?_
    simpa using hrest

theorem lex_word {t : String} (ht : IsWord t) (hs : EndsWord s) (h : lexFrom .none s = some ts) :
    lexFrom .none (t.toList ++ s) = some (.word t :: ts) := by
  obtain ⟨hne, hcs⟩ := ht
  cases hlist : t.toList with
  | nil => exact absurd (String.toList_eq_nil_iff.1 hlist) hne
  | cons c cs =>
    rw [hlist, List.all_eq_true] at hcs
    have hc := hcs c List.mem_cons_self
    have hword := lexFrom_word (w := [c]) (fun d hd => hcs d (List.mem_cons_of_mem c hd)) hs h
    have ht : t = String.ofList (c :: cs) := by rw [← hlist, String.ofList_toList]
    rw [ht]
    exact lexFrom_cons (u := []) (if_pos hc) hword

theorem lexFrom_operator {w : List Char} (hcs : ' ' ∉ cs) (h : lexFrom .none s = some ts) :
    lexFrom (.operator w) (cs ++ ' ' :: s) =
      some (.operator (String.ofList (w.reverse ++ cs)) :: ts) := by
  induction cs generalizing w with
  | nil =>
    rw [List.append_nil]
    exact lexFrom_cons (u := [.operator (String.ofList w.reverse)]) (q := .none) rfl h
  | cons c cs ih =>
    obtain ⟨hc, hcs⟩ := not_or.1 (mt List.mem_cons.2 hcs)
    have hrest := ih (w := c :: w) hcs
    refine lexFrom_cons (u := []) (if_neg (Ne.symm hc)) ?_
    simpa using hrest

theorem lex_operator {op : String} (hop : op ∈ plainOperators) (h : lexFrom .none s = some ts) :
    lexFrom .none (' ' :: (op.toList ++ ' ' :: s)) = some (.operator op :: ts) := by
  have hblank : ∀ op ∈ plainOperators, ' ' ∉ op.toList := by decide
  have hword := lexFrom_operator (w := []) (hblank op hop) h
  rw [List.reverse_nil, List.nil_append, String.ofList_toList] at hword
  exact lexFrom_cons (p := .none) (u := []) rfl hword

/-- The escapes of a printed literal are single characters. -/
theorem lexFrom_literal {w : List Char} (v : List Char) (h : lexFrom .none s = some ts) :
    lexFrom (.literal w) (literalBody v ++ '"' :: s) =
      some (.literal (String.ofList (w.reverse ++ v)) :: ts) := by
  induction v generalizing w with
  | nil =>
    rw [List.append_nil]
    exact lexFrom_cons (u := [.literal (String.ofList w.reverse)]) (q := .none) rfl h
  | cons c v ih =>
    have hrest := ih (w := c :: w)
    rw [List.reverse_cons, List.append_assoc, List.singleton_append] at hrest
    rw [literalBody]
    cases hc : escapeLetter? c with
    | some e =>
      have hescape : OpenToken.next? (.escape w) e = some ([], .literal (c :: w)) := by
        rw [OpenToken.next?, escape?_of_escapeLetter hc]
      exact lexFrom_cons (p := .literal w) (u := []) rfl (lexFrom_cons (u := []) hescape hrest)
    | none =>
      obtain ⟨hquote, -, hbackslash⟩ := plain_of_escapeLetter hc
      have hplain : OpenToken.next? (.literal w) c = some ([], .literal (c :: w)) := by
        rw [OpenToken.next?, if_neg hquote, if_neg hbackslash]
      exact lexFrom_cons (u := []) hplain hrest

theorem lex_literal (v : String) (h : lexFrom .none s = some ts) :
    lexFrom .none ((quote v).toList ++ s) = some (.literal v :: ts) := by
  have hbody := lexFrom_literal (w := []) v.toList h
  rw [List.reverse_nil, List.nil_append, String.ofList_toList] at hbody
  rw [toList_quote, List.cons_append, List.append_assoc, List.singleton_append]
  exact lexFrom_cons (p := .none) (u := []) rfl hbody

end Tokens

/-- What an expression prints as is read as its tokens, whatever comes after them. -/
def Readable (e : Expr) : Prop :=
  ∀ s ts, EndsWord s → lexFrom .none s = some ts →
    lexFrom .none (e.print.toList ++ s) = some (e.tokens ++ ts)

section Expressions
variable {as : List Expr} {s : List Char} {ts : List Token} {f : String}

/-- A list of arguments up to the parenthesis that closes it. -/
theorem lex_arguments (has : ∀ a ∈ as, Readable a) (h : lexFrom .none s = some ts) :
    lexFrom .none ((printList as).toList ++ ')' :: s) =
      some (argumentTokens as ++ .closeParen :: ts) := by
  have hclose : lexFrom .none (')' :: s) = some (.closeParen :: ts) := lex_sign rfl h
  rw [printList, printAll_eq_map]
  induction as with
  | nil => exact hclose
  | cons a as ih =>
    have ha := has a List.mem_cons_self
    have hrest := ih fun b hb => has b (List.mem_cons_of_mem a hb)
    cases as with
    | nil => exact ha _ _ (endsWord_cons (by decide)) hclose
    | cons b bs =>
      have hcomma := ha _ _ (endsWord_cons (by decide)) (lex_comma hrest)
      simpa [Text.joined, argumentTokens] using hcomma

/-- The name of a function and its arguments in parentheses. -/
theorem lex_call (hf : IsWord f) (has : ∀ a ∈ as, Readable a) (h : lexFrom .none s = some ts) :
    lexFrom .none (f.toList ++ '(' :: ((printList as).toList ++ ')' :: s)) =
      some (.word f :: .openParen :: (argumentTokens as ++ .closeParen :: ts)) :=
  lex_word hf (endsWord_cons (by decide)) (lex_sign rfl (lex_arguments has h))

theorem Expr.Plain.readable {e : Expr} (h : e.Plain) : Readable e := by
  induction h with
  | name ht =>
    intro s ts hs hlex
    exact lex_word ht hs hlex
  | text v =>
    intro s ts hs hlex
    exact lex_literal v hlex
  | call hf _ ih =>
    intro s ts hs hlex
    have hcall := lex_call hf ih hlex
    simpa [Expr.print, Expr.tokens, printList] using hcall
  | method _ _ hm _ hr ih =>
    intro s ts hs hlex
    have hcall := lex_call hm ih hlex
    have hselected := hr _ _ (endsWord_cons (by decide)) (lex_sign (c := '.') rfl hcall)
    simpa [Expr.print, Expr.tokens, printList] using hselected
  | address _ _ he =>
    intro s ts hs hlex
    have hoperand := lex_sign (c := '&') rfl (he s ts hs hlex)
    simpa [Expr.print, Expr.tokens] using hoperand
  | binary _ hop _ _ hl hr =>
    intro s ts hs hlex
    have hoperator := lex_operator hop (hr s ts hs hlex)
    have hleft := hl _ _ (endsWord_cons (by decide)) hoperator
    simpa [Expr.print, Expr.tokens] using hleft

theorem Expr.Plain.lex_print {e : Expr} (h : e.Plain) : lex e.print = some e.tokens := by
  have hend : EndsWord [] := fun c t hnil => by cases hnil
  have hlex := h.readable [] [] hend rfl
  rwa [List.append_nil, List.append_nil] at hlex

end Expressions
end RoutineBindings.Go
