import RoutineBindings.Text.CharacterTables

/-!
# Characters and camel case

ASCII characters are decided by their ranges, all others by the tables. A case mapping gives
a list, since one letter may become several.

For camel case an identifier is first cut into words. Characters that are neither letters nor
numbers only separate. Inside a stretch of letters and numbers a word ends before an upper-case
letter that follows a lower-case one, and before the last capital of a group of capitals that a
lower-case letter follows. Camel case writes the words one after the other, each with an
upper-case first character and the rest in lower case; in lower camel case the first word is
all lower case.
-/
namespace RoutineBindings.Text

def isAsciiUpper (c : Char) : Bool := 'A' ≤ c && c ≤ 'Z'

def isAsciiLower (c : Char) : Bool := 'a' ≤ c && c ≤ 'z'

def isAsciiDigit (c : Char) : Bool := '0' ≤ c && c ≤ '9'

def isAscii (c : Char) : Bool := c.toNat < 0x80

/-- Letters, letter-like marks and numbers of any script. -/
def isAlphanumeric (c : Char) : Bool :=
  if isAscii c then isAsciiUpper c || isAsciiLower c || isAsciiDigit c
  else covered alphanumericRuns c.toNat

def isUppercase (c : Char) : Bool :=
  if isAscii c then isAsciiUpper c else covered uppercaseRuns c.toNat

def isLowercase (c : Char) : Bool :=
  if isAscii c then isAsciiLower c else covered lowercaseRuns c.toNat

/-- The mapping of one code point, given the shifts and the expansions of a case. -/
def mapCase (shifts : List ShiftedRun) (expansions : List (Nat × List Nat)) (c : Char) :
    List Char :=
  match expansions.lookup c.toNat with
  | some codes => codes.map Char.ofNat
  | none => [((shifted? shifts c.toNat).map Char.ofNat).getD c]

/-- The full upper-case mapping of a character, such as `SS` for `ß`. -/
def upper (c : Char) : List Char :=
  if isAscii c then [if isAsciiLower c then Char.ofNat (c.toNat - 32) else c]
  else mapCase upperShifts upperExpansions c

/-- The full lower-case mapping of a character. -/
def lower (c : Char) : List Char :=
  if isAscii c then [if isAsciiUpper c then Char.ofNat (c.toNat + 32) else c]
  else mapCase lowerShifts lowerExpansions c

/-- The case of the last cased character of the current word, if it has one yet. -/
inductive WordCase where
  | none | lower | upper
  deriving DecidableEq, Repr

/-- The case after reading `c`: characters without case leave it. -/
def WordCase.after (m : WordCase) (c : Char) : WordCase :=
  if isLowercase c then .lower else if isUppercase c then .upper else m

/-- Cuts a stretch of letters and numbers, given the case so far of its first word. The
first element continues the word that is being read. -/
def humps : WordCase → List Char → List (List Char)
  | _, [] => []
  | _, [c] => [[c]]
  | m, c :: d :: s =>
    if m.after c = .lower && isUppercase d then [c] :: humps .none (d :: s)
    else if m = .upper && isUppercase c && isLowercase d then
      [] :: onto c (humps .none (d :: s))
    else onto c (humps (m.after c) (d :: s))
where
  onto (c : Char) : List (List Char) → List (List Char)
    | [] => [[c]]
    | w :: ws => (c :: w) :: ws

/-- The maximal stretches of letters and numbers, empty ones included. -/
def stretches : List Char → List (List Char)
  | [] => [[]]
  | c :: s =>
    if isAlphanumeric c then humps.onto c (stretches s) else [] :: stretches s

/-- The words of an identifier. -/
def words (s : List Char) : List (List Char) :=
  (stretches s).flatMap (humps .none)

/-- Lower case, where a capital sigma that ends the word takes its final form. -/
def lowerWord : List Char → List Char
  | [] => []
  | ['Σ'] => ['ς']
  | c :: s => lower c ++ lowerWord s

/-- Upper case for the first character, lower case for the rest. -/
def capitalWord : List Char → List Char
  | [] => []
  | c :: s => upper c ++ lowerWord s

def upperCamel (s : List Char) : List Char := (words s).flatMap capitalWord

def lowerCamel (s : List Char) : List Char :=
  match words s with
  | [] => []
  | w :: ws => lowerWord w ++ ws.flatMap capitalWord

end RoutineBindings.Text
