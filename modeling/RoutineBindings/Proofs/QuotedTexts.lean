import Mathlib.Algebra.Ring.Parity
import Mathlib.Data.List.Induction
import RoutineBindings.Proofs.StringLiterals

/-!
# Quoted texts

A text can hold quotes, backslashes and line ends of its own. Each of them is written as an escape,
so a literal stays on its line and ends at the first quote after the opening one that is not
escaped. Since the literal means the text that it was made from, different texts have different
literals.
-/
namespace RoutineBindings.Go
open Text

/-- How many backslashes stand at the end. -/
def backslashes (s : List Char) : Nat := (s.reverse.takeWhile (· = '\\')).length

/-- What follows is escaped. In a run of backslashes every second one is escaped itself. -/
def Escapes (s : List Char) : Prop := Odd (backslashes s)

/-- The characters that follow a backslash in printed literals. -/
def escapeLetters : List Char := ['\\', '"', 'n', 'r', 't']

/-- The text is one string literal on one line, with escapes for single characters only. -/
structure IsLiteral (text : String) : Prop where
  quoted : ∃ body, text.toList = '"' :: (body ++ ['"'])
  oneLine : '\n' ∉ text.toList ∧ '\r' ∉ text.toList
  /-- Of the quotes after the opening one, the last is the one that is not escaped. -/
  closed : ∀ before after, text.toList = '"' :: (before ++ '"' :: after) →
    (after = [] ↔ ¬ Escapes before)
  escapes : ∀ before c after, text.toList = '"' :: (before ++ c :: after) → Escapes before →
    c ∈ escapeLetters

section Runs
variable {c : Char} {s t : List Char}

theorem not_escapes_nil : ¬ Escapes [] := Nat.not_odd_zero

theorem escapes_concat : Escapes (s ++ [c]) ↔ c = '\\' ∧ ¬ Escapes s := by
  by_cases h : c = '\\'
  · have hrun : backslashes (s ++ [c]) = backslashes s + 1 := by simp [backslashes, h]
    rw [Escapes, hrun, Nat.odd_add_one, Escapes]
    exact (and_iff_right h).symm
  · have hrun : backslashes (s ++ [c]) = 0 := by simp [backslashes, h]
    rw [Escapes, hrun]
    exact iff_of_false Nat.not_odd_zero fun hc => h hc.1

/-- No escape goes on after a complete one. -/
theorem escapes_append (hs : ¬ Escapes s) : Escapes (s ++ t) ↔ Escapes t := by
  induction t using List.reverseRecOn with
  | nil => simp [hs, not_escapes_nil]
  | append_singleton t c ih => rw [← List.append_assoc, escapes_concat, escapes_concat, ih]

end Runs

section Bodies
variable {c e : Char} {s before after : List Char}

theorem mem_escapeLetters (h : escapeLetter? c = some e) : e ∈ escapeLetters := by
  unfold escapeLetter? at h
  split at h
  all_goals cases h
  all_goals decide

theorem not_escapes_pair (e : Char) : ¬ Escapes ['\\', e] := by
  have hfirst : Escapes ['\\'] := escapes_concat.2 ⟨rfl, not_escapes_nil⟩
  exact fun h => (escapes_concat (s := ['\\'])).1 h |>.2 hfirst

theorem not_escapes_plain (h : c ≠ '\\') : ¬ Escapes [c] :=
  fun hc => h ((escapes_concat (s := [])).1 hc).1

theorem not_escapes_literalBody (s : List Char) : ¬ Escapes (literalBody s) := by
  induction s with
  | nil => exact not_escapes_nil
  | cons c s ih =>
    rw [literalBody]
    cases h : escapeLetter? c with
    | some e => exact fun hbody => ih ((escapes_append (not_escapes_pair e)).1 hbody)
    | none =>
      have hplain := not_escapes_plain (plain_of_escapeLetter h).2.2
      exact fun hbody => ih ((escapes_append hplain).1 hbody)

/-- Between the quotes of a literal exactly the letters of escapes are escaped, and every quote is
one. -/
theorem literalBody_split (h : literalBody s = before ++ c :: after) :
    (Escapes before → c ∈ escapeLetters) ∧ (c = '"' → Escapes before) := by
  induction s generalizing before with
  | nil => simp [literalBody] at h
  | cons d s ih =>
    rw [literalBody] at h
    cases hd : escapeLetter? d with
    | some e =>
      rw [hd] at h
      rcases before with _ | ⟨b, _ | ⟨b', before⟩⟩
      · obtain ⟨rfl, -⟩ := List.cons.inj h
        exact ⟨fun hnil => absurd hnil not_escapes_nil, fun hquote => absurd hquote (by decide)⟩
      · obtain ⟨rfl, hrest⟩ := List.cons.inj h
        obtain ⟨rfl, -⟩ := List.cons.inj hrest
        exact ⟨fun _ => mem_escapeLetters hd, fun _ => escapes_concat.2 ⟨rfl, not_escapes_nil⟩⟩
      · obtain ⟨rfl, htail⟩ := List.cons.inj h
        obtain ⟨rfl, hrest⟩ := List.cons.inj htail
        have hpair : Escapes ('\\' :: e :: before) ↔ Escapes before :=
          escapes_append (not_escapes_pair e)
        rw [hpair]
        exact ih hrest
    | none =>
      rw [hd] at h
      obtain ⟨hquote, -, hbackslash⟩ := plain_of_escapeLetter hd
      cases before with
      | nil =>
        obtain ⟨rfl, -⟩ := List.cons.inj h
        exact ⟨fun hnil => absurd hnil not_escapes_nil, fun hc => absurd hc hquote⟩
      | cons b before =>
        obtain ⟨rfl, hrest⟩ := List.cons.inj h
        have hplain : Escapes (d :: before) ↔ Escapes before :=
          escapes_append (not_escapes_plain hbackslash)
        rw [hplain]
        exact ih hrest

theorem lineEnd_not_mem_literalBody (s : List Char) :
    '\n' ∉ literalBody s ∧ '\r' ∉ literalBody s := by
  induction s with
  | nil => exact ⟨List.not_mem_nil, List.not_mem_nil⟩
  | cons c s ih =>
    rw [literalBody]
    cases h : escapeLetter? c with
    | some e =>
      have hnewline : '\n' ≠ e := fun he => absurd (he ▸ mem_escapeLetters h) (by decide)
      have hreturn : '\r' ≠ e := fun he => absurd (he ▸ mem_escapeLetters h) (by decide)
      simp [ih, hnewline, hreturn]
    | none =>
      have hnewline : c ≠ '\n' := (plain_of_escapeLetter h).2.1
      have hreturn : c ≠ '\r' := by
        rintro rfl
        cases h
      simp [ih, hnewline.symm, hreturn.symm]

end Bodies

section Quoting
variable {s : String} {c : Char} {before after : List Char}

/-- A place after the opening quote is that of the closing one, or it lies between the two. -/
theorem quote_split (h : (quote s).toList = '"' :: (before ++ c :: after)) :
    (before = literalBody s.toList ∧ c = '"' ∧ after = []) ∨
      ∃ rest, after = rest ++ ['"'] ∧ literalBody s.toList = before ++ c :: rest := by
  rw [toList_quote] at h
  obtain ⟨-, hbody⟩ := List.cons.inj h
  rcases List.eq_nil_or_concat after with rfl | ⟨rest, d, rfl⟩
  · obtain ⟨hbefore, hc⟩ := List.append_inj' hbody rfl
    exact .inl ⟨hbefore.symm, (List.cons.inj hc).1.symm, rfl⟩
  · rw [List.concat_eq_append, ← List.cons_append, ← List.append_assoc] at hbody
    obtain ⟨hsplit, hd⟩ := List.append_inj' hbody rfl
    obtain ⟨rfl, -⟩ := List.cons.inj hd
    exact .inr ⟨rest, List.concat_eq_append, hsplit⟩

theorem quote_isLiteral (s : String) : IsLiteral (quote s) where
  quoted := ⟨literalBody s.toList, toList_quote s⟩
  oneLine := by
    have hbody := lineEnd_not_mem_literalBody s.toList
    simp [toList_quote, hbody]
  closed before after h := by
    rcases quote_split h with ⟨rfl, -, rfl⟩ | ⟨rest, rfl, hbody⟩
    · simp [not_escapes_literalBody]
    · simp [(literalBody_split hbody).2 rfl]
  escapes before c after h hescapes := by
    rcases quote_split h with ⟨rfl, -⟩ | ⟨rest, -, hbody⟩
    · exact absurd hescapes (not_escapes_literalBody _)
    · exact (literalBody_split hbody).1 hescapes

end Quoting

/-- Every text has a literal of its own: one line that begins with a quote, ends at the first quote
which is not escaped, and is read back as the text. -/
theorem quote_faithful :
    (∀ s, IsLiteral (quote s) ∧ decodeLiteral (quote s) = some (encode s)) ∧
      Function.Injective quote := by
  refine ⟨fun s => ⟨quote_isLiteral s, decode_quote s⟩, fun s t h => ?_⟩
  have hbytes : encode s = encode t := by
    have hread : some (encode s) = some (encode t) := by
      rw [← decode_quote s, h, decode_quote t]
    exact Option.some.inj hread
  exact encode_injective hbytes

end RoutineBindings.Go
