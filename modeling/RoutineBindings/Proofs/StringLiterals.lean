import RoutineBindings.Go.Printer
import RoutineBindings.Proofs.ByteOrder
import RoutineBindings.Text.Character

/-!
# What string literals mean

Go reads an interpreted string literal character by character. A backslash begins an escape, which
is one letter for some characters and otherwise the number of a byte or of a character. Strings are
sequences of bytes, and so are the values here. A printed literal means the text that it was made
from.
-/
namespace RoutineBindings.Go
open Text

/-- A number that is read after a backslash, digit by digit. -/
structure Numeral where
  base : Nat
  /-- How many digits are to come. -/
  missing : Nat
  value : Nat
  /-- The number is that of a byte, otherwise that of a character. -/
  isByte : Bool
  deriving Repr, DecidableEq

/-- What the character after a backslash begins. -/
inductive Escape where
  | char (c : Char)
  | numeral (n : Numeral)
  deriving Repr, DecidableEq

def digitValue? (c : Char) : Option Nat :=
  if isAsciiDigit c then some (c.toNat - 48)
  else if 'a' ≤ c ∧ c ≤ 'f' then some (c.toNat - 87)
  else if 'A' ≤ c ∧ c ≤ 'F' then some (c.toNat - 55)
  else none

namespace Numeral

/-- Takes one more digit. -/
def push? (n : Numeral) (c : Char) : Option Numeral := do
  let digit ← digitValue? c
  if digit < n.base then
    some { n with missing := n.missing - 1, value := n.base * n.value + digit }
  else none

/-- The bytes that a finished number stands for. No character has the number of a surrogate. -/
def bytes? (n : Numeral) : Option Bytes :=
  if n.isByte then if n.value < 0x100 then some [UInt8.ofNat n.value] else none
  else if n.value < 0xd800 ∨ 0xdfff < n.value ∧ n.value < 0x110000 then
    some (String.utf8EncodeChar (Char.ofNat n.value))
  else none

end Numeral

def escape? : Char → Option Escape
  | 'a' => some (.char '\x07')
  | 'b' => some (.char '\x08')
  | 'f' => some (.char '\x0c')
  | 'n' => some (.char '\n')
  | 'r' => some (.char '\r')
  | 't' => some (.char '\t')
  | 'v' => some (.char '\x0b')
  | '\\' => some (.char '\\')
  | '"' => some (.char '"')
  | 'x' => some (.numeral ⟨16, 2, 0, true⟩)
  | 'u' => some (.numeral ⟨16, 4, 0, false⟩)
  | 'U' => some (.numeral ⟨16, 8, 0, false⟩)
  -- Three octal digits, of which this is the first.
  | c => (Numeral.push? ⟨8, 3, 0, true⟩ c).map .numeral

/-- Where in a literal the reader stands. -/
inductive LiteralPosition where
  | plain
  | escape
  | numeral (n : Numeral)

/-- Reads the rest of a literal. The quote that ends it has to be the last character. -/
def decodeFrom : LiteralPosition → List Char → Option Bytes
  | _, [] => none
  | .plain, c :: s =>
    if c = '"' then if s.isEmpty then some [] else none
    else if c = '\n' then none
    else if c = '\\' then decodeFrom .escape s
    else (decodeFrom .plain s).map (String.utf8EncodeChar c ++ ·)
  | .escape, c :: s =>
    match escape? c with
    | some (.char d) => (decodeFrom .plain s).map (String.utf8EncodeChar d ++ ·)
    | some (.numeral n) => decodeFrom (.numeral n) s
    | none => none
  | .numeral n, c :: s =>
    match n.push? c with
    | some m =>
      if m.missing = 0 then
        m.bytes?.bind fun bytes => (decodeFrom .plain s).map (bytes ++ ·)
      else decodeFrom (.numeral m) s
    | none => none

/-- The value of a text that is a string literal. -/
def decodeLiteral (text : String) : Option Bytes :=
  match text.toList with
  | '"' :: s => decodeFrom .plain s
  | _ => none

section Quoting
variable {c e : Char}

theorem escape?_of_escapeLetter (h : escapeLetter? c = some e) : escape? e = some (.char c) := by
  unfold escapeLetter? at h
  split at h
  all_goals cases h
  all_goals rfl

/-- What is not escaped neither ends a literal nor begins an escape. -/
theorem plain_of_escapeLetter (h : escapeLetter? c = none) : c ≠ '"' ∧ c ≠ '\n' ∧ c ≠ '\\' := by
  refine ⟨?_, ?_, ?_⟩ <;>
    · rintro rfl
      cases h

theorem decodeFrom_literalBody (s : List Char) :
    decodeFrom .plain (literalBody s ++ ['"']) = some (s.flatMap String.utf8EncodeChar) := by
  induction s with
  | nil => rfl
  | cons c s ih =>
    rw [literalBody, List.flatMap_cons]
    cases h : escapeLetter? c with
    | some e =>
      have hescape := escape?_of_escapeLetter h
      simp [decodeFrom, hescape, ih]
    | none =>
      obtain ⟨hquote, hnewline, hbackslash⟩ := plain_of_escapeLetter h
      simp [decodeFrom, hquote, hnewline, hbackslash, ih]

theorem toList_quote (s : String) :
    (quote s).toList = '"' :: (literalBody s.toList ++ ['"']) := by
  rw [quote, String.toList_ofList]
  rfl

theorem decode_quote (s : String) : decodeLiteral (quote s) = some (encode s) := by
  rw [decodeLiteral, toList_quote, encode_eq]
  exact decodeFrom_literalBody s.toList

example : decodeLiteral "\"\\u00e9\\x41\\102\\n\"" = some [0xc3, 0xa9, 0x41, 0x42, 0x0a] := by
  decide +kernel

end Quoting
end RoutineBindings.Go
