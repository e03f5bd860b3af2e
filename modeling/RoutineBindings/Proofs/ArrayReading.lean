import RoutineBindings.Text.Cut
import RoutineBindings.Wrapper.Body

/-!
# Reading array literals

The database reads the literal of an array of one dimension as elements with commas between them,
inside braces. A backslash takes the next character as it is. Quotes are put around a whole element
and are taken off; without them blanks around an element are dropped, and the word `NULL` is no
value. Texts in quotes that hold neither quotes nor backslashes are read back as they are.
-/
namespace RoutineBindings.ArrayLiteral
open Text

def isSpace (c : Char) : Bool := c ∈ [' ', '\t', '\n', '\r', '\x0b', '\x0c']

/-- The value of an element without quotes. Its characters come last first, each with the mark
whether a backslash takes it as it is. -/
def bareElement (read : List (Char × Bool)) : Option String :=
  let kept := (read.dropWhile fun (c, escaped) => isSpace c && !escaped).reverse
  let text := String.ofList (kept.map Prod.fst)
  if kept.all (fun (_, escaped) => !escaped) && text.toLower = "null" then none else some text

/-- Where in a literal the reader stands, with what it has read of an element, last first. -/
inductive Place where
  | start
  /-- Before an element. An array without elements ends before the first. -/
  | element (first : Bool)
  | bare (read : List (Char × Bool))
  | bareEscape (read : List (Char × Bool))
  | quoted (read : List Char)
  | quotedEscape (read : List Char)
  | afterQuotes
  | closed

/-- Reads the rest of a literal, where `none` among the elements is no value. -/
def elementsFrom : Place → List Char → Option (List (Option String))
  | .closed, [] => some []
  | _, [] => none
  | .start, c :: s =>
    if isSpace c then elementsFrom .start s
    else if c = '{' then elementsFrom (.element true) s
    else none
  | .element first, c :: s =>
    if isSpace c then elementsFrom (.element first) s
    else if c = '"' then elementsFrom (.quoted []) s
    else if c = '\\' then elementsFrom (.bareEscape []) s
    else if c = '}' then if first then elementsFrom .closed s else none
    else if c = ',' || c = '{' then none
    else elementsFrom (.bare [(c, false)]) s
  | .bare read, c :: s =>
    if c = ',' then (elementsFrom (.element false) s).map (bareElement read :: ·)
    else if c = '}' then (elementsFrom .closed s).map (bareElement read :: ·)
    else if c = '\\' then elementsFrom (.bareEscape read) s
    else if c = '"' || c = '{' then none
    else elementsFrom (.bare ((c, false) :: read)) s
  | .bareEscape read, c :: s => elementsFrom (.bare ((c, true) :: read)) s
  | .quoted read, c :: s =>
    if c = '"' then (elementsFrom .afterQuotes s).map (some (String.ofList read.reverse) :: ·)
    else if c = '\\' then elementsFrom (.quotedEscape read) s
    else elementsFrom (.quoted (c :: read)) s
  | .quotedEscape read, c :: s => elementsFrom (.quoted (c :: read)) s
  | .afterQuotes, c :: s =>
    if isSpace c then elementsFrom .afterQuotes s
    else if c = ',' then elementsFrom (.element false) s
    else if c = '}' then elementsFrom .closed s
    else none
  | .closed, c :: s => if isSpace c then elementsFrom .closed s else none

/-- The elements of a literal. -/
def elements? (literal : String) : Option (List (Option String)) :=
  elementsFrom .start literal.toList

example : elements? " \x7b a b ,\"N,\\\"\", null,\"NULL\"\x7d" =
    some [some "a b", some "N,\"", none, some "NULL"] := by decide +kernel

/-- A text that quotes leave as it is. -/
def Plain (s : String) : Prop := '"' ∉ s.toList ∧ '\\' ∉ s.toList

instance (s : String) : Decidable (Plain s) :=
  inferInstanceAs (Decidable ('"' ∉ s.toList ∧ '\\' ∉ s.toList))

def quoted (s : String) : String := "\"" ++ s ++ "\""

/-- The texts in quotes, with commas between them, in braces. -/
def bracedList (texts : List String) : String :=
  "\x7b" ++ joined "," (texts.map quoted) ++ "\x7d"

section Reading

theorem elementsFrom_quoted {body : List Char} (hquote : '"' ∉ body) (hbackslash : '\\' ∉ body)
    (read rest : List Char) :
    elementsFrom (.quoted read) (body ++ '"' :: rest) =
      (elementsFrom .afterQuotes rest).map (some (String.ofList (read.reverse ++ body)) :: ·) := by
  induction body generalizing read with
  | nil => simp [elementsFrom]
  | cons c body ih =>
    obtain ⟨hcq, hquote⟩ := not_or.1 (mt List.mem_cons.2 hquote)
    obtain ⟨hcb, hbackslash⟩ := not_or.1 (mt List.mem_cons.2 hbackslash)
    rw [List.cons_append, elementsFrom, if_neg (Ne.symm hcq), if_neg (Ne.symm hcb),
      ih hquote hbackslash]
    simp

/-- One element in quotes. -/
theorem elementsFrom_element {s : String} (h : Plain s) (first : Bool) (rest : List Char) :
    elementsFrom (.element first) ((quoted s).toList ++ rest) =
      (elementsFrom .afterQuotes rest).map (some s :: ·) := by
  have hlist : (quoted s).toList ++ rest = '"' :: (s.toList ++ '"' :: rest) := by
    simp [quoted]
  rw [hlist, elementsFrom, if_neg (by decide), if_pos rfl, elementsFrom_quoted h.1 h.2]
  simp

theorem elementsFrom_joined {texts : List String} (hne : texts ≠ []) (h : ∀ s ∈ texts, Plain s)
    (first : Bool) :
    elementsFrom (.element first) ((joined "," (texts.map quoted)).toList ++ ['}']) =
      some (texts.map some) := by
  induction texts generalizing first with
  | nil => exact absurd rfl hne
  | cons s texts ih =>
    have hs := h s List.mem_cons_self
    cases texts with
    | nil =>
      rw [List.map_singleton, joined, elementsFrom_element hs]
      simp [elementsFrom, isSpace]
    | cons t texts =>
      have hrest := ih (List.cons_ne_nil t texts) (fun x hx => h x (List.mem_cons_of_mem s hx))
        false
      have hmap : (t :: texts).map quoted ≠ [] := List.cons_ne_nil _ _
      have hcomma : ",".toList = [','] := rfl
      rw [List.map_cons, joined_cons hmap, String.toList_append,
        String.toList_append, List.append_assoc, List.append_assoc, elementsFrom_element hs,
        hcomma, List.singleton_append, elementsFrom, if_neg (by decide), if_pos rfl, hrest]
      rfl

/-- Every array with plain elements is read back. -/
theorem elements_bracedList {texts : List String} (h : ∀ s ∈ texts, Plain s) :
    elements? (bracedList texts) = some (texts.map some) := by
  have hlist : (bracedList texts).toList =
      '{' :: ((joined "," (texts.map quoted)).toList ++ ['}']) := by
    simp [bracedList]
  rw [elements?, hlist, elementsFrom, if_neg (by decide), if_pos rfl]
  cases texts with
  | nil => rfl
  | cons s texts => exact elementsFrom_joined (List.cons_ne_nil s texts) h true

end Reading
end RoutineBindings.ArrayLiteral
