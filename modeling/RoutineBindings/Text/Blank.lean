/-!
# Blank space and lines

Blank characters are those of the Unicode property White_Space. Trimming removes them at the
ends of a text; a line ends at a line feed, together with the carriage return before it.
-/
namespace RoutineBindings.Text

/-- The white space characters. -/
def isBlank (c : Char) : Bool :=
  let n := c.toNat
  (0x9 ≤ n && n ≤ 0xD) || n == 0x20 || n == 0x85 || n == 0xA0 || n == 0x1680
    || (0x2000 ≤ n && n ≤ 0x200A) || n == 0x2028 || n == 0x2029 || n == 0x202F
    || n == 0x205F || n == 0x3000

def trimStart (s : List Char) : List Char := s.dropWhile isBlank

/-- Drops the blanks at the end. -/
def trimEnd : List Char → List Char
  | [] => []
  | c :: s =>
    match trimEnd s with
    | [] => if isBlank c then [] else [c]
    | t => c :: t

def trim (s : List Char) : List Char := trimEnd (trimStart s)

theorem trimEnd_eq_nil_iff {s : List Char} : trimEnd s = [] ↔ ∀ c ∈ s, isBlank c = true := by
  induction s with
  | nil => simp [trimEnd]
  | cons c s ih =>
    cases h : trimEnd s with
    | nil =>
      have hs := ih.1 h
      cases hc : isBlank c with
      | true => simpa [trimEnd, h, hc] using hs
      | false => simp [trimEnd, h, hc]
    | cons d t =>
      have hs : ¬ ∀ x ∈ s, isBlank x = true := fun hs => nomatch h.symm.trans (ih.2 hs)
      simp [trimEnd, h, -Bool.not_eq_true]
      exact fun _ => by simpa using hs

theorem trimEnd_append {t : List Char} (h : trimEnd t ≠ []) (s : List Char) :
    trimEnd (s ++ t) = s ++ trimEnd t := by
  induction s with
  | nil => rfl
  | cons c s ih =>
    cases ht : s ++ trimEnd t with
    | nil => exact absurd (List.append_eq_nil_iff.1 ht).2 h
    | cons d u => simp [trimEnd, ih, ht]

theorem trimEnd_append_of_blank {t : List Char} (h : ∀ c ∈ t, isBlank c = true)
    (s : List Char) : trimEnd (s ++ t) = trimEnd s := by
  induction s with
  | nil => exact trimEnd_eq_nil_iff.2 h
  | cons c s ih => simp only [List.cons_append, trimEnd, ih]

theorem trimEnd_length_le (s : List Char) : (trimEnd s).length ≤ s.length := by
  induction s with
  | nil => exact Nat.le_refl _
  | cons c s ih =>
    cases h : trimEnd s with
    | nil => cases hc : isBlank c <;> simp [trimEnd, h, hc]
    | cons d t => simpa [trimEnd, h] using ih

theorem trim_cons {c : Char} (h : isBlank c = false) (s : List Char) :
    trim (c :: s) = trimEnd (c :: s) := by
  rw [trim, trimStart, List.dropWhile_cons_of_neg (by simp [h])]

theorem trim_of_blank {c : Char} (h : isBlank c = true) (s : List Char) :
    trim (c :: s) = trim s := by
  rw [trim, trimStart, List.dropWhile_cons_of_pos h]
  rfl

theorem trim_eq_nil_iff {s : List Char} : trim s = [] ↔ ∀ c ∈ s, isBlank c = true := by
  induction s with
  | nil => simp [trim, trimStart, trimEnd]
  | cons c s ih =>
    cases hc : isBlank c with
    | true => simp [trim_of_blank hc, ih, hc]
    | false => rw [trim_cons hc, trimEnd_eq_nil_iff]

/-- A trimmed text does not start with a blank. -/
theorem not_blank_of_trim {c : Char} {s t : List Char} (h : trim s = c :: t) :
    isBlank c = false := by
  induction s with
  | nil => cases h
  | cons d s ih =>
    cases hd : isBlank d with
    | true => exact ih (trim_of_blank hd s ▸ h)
    | false =>
      rw [trim_cons hd] at h
      cases hs : trimEnd s with
      | nil =>
        rw [trimEnd, hs, hd] at h
        cases h
        exact hd
      | cons e u =>
        rw [trimEnd, hs] at h
        cases h
        exact hd

/-- A text that trimming leaves alone has no blank at its end. -/
theorem trimEnd_of_trim {s : List Char} (h : trim s = s) : trimEnd s = s := by
  have hle : s.length ≤ (trimStart s).length := by
    have hlen := trimEnd_length_le (trimStart s)
    rwa [← trim, h] at hlen
  have hstart : trimStart s = s := (List.dropWhile_suffix isBlank).eq_of_length_le hle
  rwa [trim, hstart] at h

/-- Drops one carriage return at the end. -/
def dropReturn : List Char → List Char
  | [] => []
  | ['\r'] => []
  | c :: s => c :: dropReturn s

/-- Puts a character before the first line. -/
def ontoFirst (c : Char) : List (List Char) → List (List Char)
  | [] => [[c]]
  | l :: ls => (c :: l) :: ls

/-- The pieces of a text that end at its line feeds; the text after the last one counts when
it is not empty. A carriage return belongs to the line feed that follows it. -/
def lines : List Char → List (List Char)
  | [] => []
  | '\n' :: s => [] :: lines s
  | '\r' :: '\n' :: s => [] :: lines s
  | [c] => [[c]]
  | c :: s@('\n' :: _) => ontoFirst c (lines s)
  | c :: s => ontoFirst c (lines s)

def trimText (s : String) : String := String.ofList (trim s.toList)

def trimTextEnd (s : String) : String := String.ofList (trimEnd s.toList)

def textLines (s : String) : List String := (lines s.toList).map String.ofList

end RoutineBindings.Text
