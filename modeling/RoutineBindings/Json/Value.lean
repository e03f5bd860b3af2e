import RoutineBindings.Json.Shortest
import RoutineBindings.Text.Cut
import RoutineBindings.Text.Quoted

/-!
# JSON values and their indented form

Members of an object keep their order. The indented form has one element or member per line,
two blanks deeper than its container; an empty container is written on one line.
-/
namespace RoutineBindings.Json
open Text (joined)

inductive Value where
  | null
  | bool (b : Bool)
  | integer (n : Int)
  | real (x : Float)
  | text (s : String)
  | list (elements : List Value)
  | object (members : List (String × Value))
  deriving Inhabited

/-- The letter that stands for a character after a backslash. -/
def shortEscape? : Char → Option Char
  | '"' => some '"'
  | '\\' => some '\\'
  | '\x08' => some 'b'
  | '\t' => some 't'
  | '\n' => some 'n'
  | '\x0c' => some 'f'
  | '\r' => some 'r'
  | _ => none

/-- Four hexadecimal digits. -/
def hex4 (n : Nat) : List Char :=
  let d := Text.hexDigits n
  List.replicate (4 - d.length) '0' ++ d

def quotedChar (c : Char) : List Char :=
  match shortEscape? c with
  | some e => ['\\', e]
  | none => if c.toNat < 0x20 then ['\\', 'u'] ++ hex4 c.toNat else [c]

/-- A text in double quotes; only quotes, backslashes and controls are escaped. -/
def quoted (s : String) : String :=
  String.ofList ('"' :: s.toList.flatMap quotedChar ++ ['"'])

def zeros (n : Nat) : String := String.ofList (List.replicate n '0')

/-- An exponent is written with its sign. -/
def printExponent (e : Int) : String := (if e < 0 then "e" else "e+") ++ toString e

/-- A decimal is written out from `10 ^ -5` up to `10 ^ 16` and with an exponent beyond. -/
def Decimal.print (d : Decimal) : String :=
  let digits := toString d.digits
  let count := digits.length
  let point := Int.ofNat count + d.exponent
  if 0 ≤ d.exponent && point ≤ 16 then digits ++ zeros d.exponent.toNat ++ ".0"
  else if 0 < point && point ≤ 16 then
    String.ofList (digits.toList.take point.toNat) ++ "."
      ++ String.ofList (digits.toList.drop point.toNat)
  else if -5 < point && point ≤ 0 then "0." ++ zeros (-point).toNat ++ digits
  else if count = 1 then digits ++ printExponent (point - 1)
  else String.ofList (digits.toList.take 1) ++ "." ++ String.ofList (digits.toList.drop 1)
    ++ printExponent (point - 1)

/-- A double in its shortest form. What is no number is written as `null`. -/
def printReal (x : Float) : String :=
  let bits := x.toBits.toNat
  let sign := if isNegative bits then "-" else ""
  if scaleOf bits + 1 = scaleCount then "null"
  else if bits % (fractionCount * scaleCount) = 0 then sign ++ "0.0"
  else sign ++ (Binary.ofBits bits).shortest.print

def margin (depth : Nat) : String := String.ofList (List.replicate (2 * depth) ' ')

/-- Lines between an opening and a closing bracket. -/
def block (opening closing : String) (depth : Nat) : List String → String
  | [] => opening ++ closing
  | items =>
    opening ++ "\n" ++ joined ",\n" (items.map (margin (depth + 1) ++ ·)) ++ "\n"
      ++ margin depth ++ closing

mutual
/-- The indented form at a depth, without the margin of its first line. -/
def Value.indented (depth : Nat) : Value → String
  | .null => "null"
  | .bool b => if b then "true" else "false"
  | .integer n => toString n
  | .real x => printReal x
  | .text s => quoted s
  | .list es => block "[" "]" depth (indentedAll (depth + 1) es)
  | .object ms => block "\x7b" "\x7d" depth (indentedMembers (depth + 1) ms)

def indentedAll (depth : Nat) : List Value → List String
  | [] => []
  | v :: vs => v.indented depth :: indentedAll depth vs

def indentedMembers (depth : Nat) : List (String × Value) → List String
  | [] => []
  | (k, v) :: ms => (quoted k ++ ": " ++ v.indented depth) :: indentedMembers depth ms
end

def Value.pretty (v : Value) : String := v.indented 0

/-- The leading digits of a number that fit into 64 bits, and how many are left out. -/
def fitting : Nat → Nat → Nat × Nat
  | 0, n => (n, 0)
  | fuel + 1, n =>
    if n < UInt64.size then (n, 0)
    else
      let (kept, dropped) := fitting fuel (n / 10)
      (kept, dropped + 1)

/-- The double that is nearest to a power of ten. -/
def powerOfTen (n : Nat) : Float := Float.ofScientific 1 false n

/-- The largest exponent of a power of ten that is a finite double. -/
def largestPower : Nat := 308

/-- Scales a double by a power of ten. Every multiplication and division rounds. -/
def scaleReal : Nat → Float → Int → Float
  | 0, x, _ => x
  | fuel + 1, x, e =>
    if x == 0.0 then x
    else if 0 ≤ e then x * powerOfTen e.toNat
    else if e.natAbs ≤ largestPower then x / powerOfTen e.natAbs
    else scaleReal fuel (x / powerOfTen largestPower) (e + largestPower)

/-- The double of a literal: its leading digits are rounded first and scaled then. -/
def realOfLiteral (digits : Nat) (exponent : Int) : Float :=
  let (kept, dropped) := fitting (digitCount digits) digits
  let e := exponent + dropped
  scaleReal (e.natAbs + 1) (UInt64.ofNat kept).toFloat e

/-- The value of a number literal `digits * 10 ^ exponent`. A literal without a fraction or
exponent is an integer when it fits into 64 bits; any other is a double. -/
def Value.ofLiteral (negative : Bool) (digits : Nat) (exponent : Int) (integral : Bool) :
    Value :=
  let n : Int := if negative then -Int.ofNat digits else Int.ofNat digits
  let fits := Int64.minValue.toInt ≤ n && n < Int.ofNat UInt64.size
  if integral && fits && !(negative && digits = 0) then
    .integer n
  else
    let x := realOfLiteral digits exponent
    .real (if negative then -x else x)

end RoutineBindings.Json
