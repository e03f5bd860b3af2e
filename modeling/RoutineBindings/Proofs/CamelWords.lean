import RoutineBindings.Text.Character

/-!
# Words in camel case

Cutting a name into words loses its separators and nothing else. Of ASCII letters and digits camel
case makes letters and digits, where a letter stays a letter, and each word begins with a capital if
it begins with a letter.
-/
namespace RoutineBindings.Text

def isAsciiLetter (c : Char) : Bool := isAsciiUpper c || isAsciiLower c

def isAsciiAlphanumeric (c : Char) : Bool := isAsciiLetter c || isAsciiDigit c

/-- Whether the first character has the property. -/
def begins (p : Char → Bool) (s : List Char) : Bool := s.head?.any p

section Cutting
variable {s : List Char} {ws : List (List Char)}

theorem flatten_onto (c : Char) (ws : List (List Char)) :
    (humps.onto c ws).flatten = c :: ws.flatten := by
  cases ws with
  | nil => rfl
  | cons w ws => rfl

theorem flatten_humps (m : WordCase) (s : List Char) : (humps m s).flatten = s := by
  fun_induction humps m s with
  | case1 | case2 => rfl
  | case3 m c d s _ ih => rw [List.flatten_cons, ih, List.singleton_append]
  | case4 m c d s _ _ ih => rw [List.flatten_cons, flatten_onto, ih, List.nil_append]
  | case5 m c d s _ _ ih => rw [flatten_onto, ih]

theorem flatten_stretches (s : List Char) : (stretches s).flatten = s.filter isAlphanumeric := by
  induction s with
  | nil => rfl
  | cons c s ih =>
    rw [stretches]
    by_cases hc : isAlphanumeric c = true
    · rw [if_pos hc, flatten_onto, ih, List.filter_cons_of_pos hc]
    · rw [if_neg hc, List.flatten_cons, ih, List.filter_cons_of_neg hc, List.nil_append]

/-- The words are the letters and numbers of the name in their order. -/
theorem flatten_words (s : List Char) : (words s).flatten = s.filter isAlphanumeric := by
  rw [words, ← flatten_stretches]
  induction stretches s with
  | nil => rfl
  | cons t ts ih =>
    rw [List.flatMap_cons, List.flatten_append, flatten_humps, ih, List.flatten_cons]

end Cutting

section Ascii
variable {c d : Char} {w : List Char} {ws : List (List Char)}

theorem alphanumeric_lt (h : isAsciiAlphanumeric c = true) : c.toNat < 128 := by
  simp only [isAsciiAlphanumeric, isAsciiLetter, isAsciiUpper, isAsciiLower, isAsciiDigit,
    Bool.or_eq_true, Bool.and_eq_true, decide_eq_true_eq, Char.le_def, UInt32.le_iff_toNat_le] at h
  rcases h with (⟨-, h⟩ | ⟨-, h⟩) | ⟨-, h⟩
  · exact Nat.lt_of_le_of_lt h (by decide)
  · exact Nat.lt_of_le_of_lt h (by decide)
  · exact Nat.lt_of_le_of_lt h (by decide)

theorem begins_append {p : Char → Bool} {s : List Char} (hs : s ≠ []) (t : List Char) :
    begins p (s ++ t) = begins p s := by
  obtain ⟨c, s, rfl⟩ := List.exists_cons_of_ne_nil hs
  rfl

/-- A property of the ASCII characters is decided by going through them. -/
@[elab_as_elim]
theorem ascii_forall {p : Char → Prop} (c : Char) (hc : c.toNat < 128)
    (h : ∀ n < 128, p (Char.ofNat n)) : p c := by
  have hp := h c.toNat hc
  rwa [Char.ofNat_toNat] at hp

/-- The capital of a letter is a capital, and a digit has none. -/
theorem upper_ascii (h : isAsciiAlphanumeric c = true) :
    upper c ≠ [] ∧ (∀ d ∈ upper c, isAsciiAlphanumeric d = true) ∧
      begins isAsciiUpper (upper c) = isAsciiLetter c ∧
      begins isAsciiLetter (upper c) = isAsciiLetter c := by
  have hc : isAsciiAlphanumeric c = true →
      upper c ≠ [] ∧ (upper c).all isAsciiAlphanumeric = true ∧
        begins isAsciiUpper (upper c) = isAsciiLetter c ∧
        begins isAsciiLetter (upper c) = isAsciiLetter c := by
    refine ascii_forall c (alphanumeric_lt h) ?_
    decide +kernel
  rw [List.all_eq_true] at hc
  exact hc h

theorem lower_ascii (h : isAsciiAlphanumeric c = true) :
    lower c ≠ [] ∧ (∀ d ∈ lower c, isAsciiAlphanumeric d = true) ∧
      begins isAsciiLetter (lower c) = isAsciiLetter c := by
  have hc : isAsciiAlphanumeric c = true →
      lower c ≠ [] ∧ (lower c).all isAsciiAlphanumeric = true ∧
        begins isAsciiLetter (lower c) = isAsciiLetter c := by
    refine ascii_forall c (alphanumeric_lt h) ?_
    decide +kernel
  rw [List.all_eq_true] at hc
  exact hc h

theorem lowerWord_cons (h : isAsciiAlphanumeric c = true) (w : List Char) :
    lowerWord (c :: w) = lower c ++ lowerWord w := by
  have hc : c ≠ 'Σ' := by
    rintro rfl
    exact absurd h (by decide)
  cases w with
  | nil => simp [lowerWord, hc]
  | cons d w => rw [lowerWord]; simp

theorem lowerWord_ascii (h : ∀ c ∈ w, isAsciiAlphanumeric c = true) :
    (∀ d ∈ lowerWord w, isAsciiAlphanumeric d = true) ∧
      begins isAsciiLetter (lowerWord w) = begins isAsciiLetter w := by
  induction w with
  | nil => exact ⟨nofun, rfl⟩
  | cons c w ih =>
    obtain ⟨hc, hw⟩ := List.forall_mem_cons.1 h
    obtain ⟨hne, hmem, hbegins⟩ := lower_ascii hc
    rw [lowerWord_cons hc]
    exact ⟨List.forall_mem_append.2 ⟨hmem, (ih hw).1⟩, (begins_append hne _).trans hbegins⟩

theorem capitalWord_ascii (h : ∀ c ∈ w, isAsciiAlphanumeric c = true) :
    (∀ d ∈ capitalWord w, isAsciiAlphanumeric d = true) ∧
      begins isAsciiUpper (capitalWord w) = begins isAsciiLetter w ∧
      begins isAsciiLetter (capitalWord w) = begins isAsciiLetter w := by
  cases w with
  | nil => exact ⟨nofun, rfl, rfl⟩
  | cons c w =>
    obtain ⟨hc, hw⟩ := List.forall_mem_cons.1 h
    obtain ⟨hne, hmem, hupper, hletter⟩ := upper_ascii hc
    rw [capitalWord]
    exact ⟨List.forall_mem_append.2 ⟨hmem, (lowerWord_ascii hw).1⟩,
      (begins_append hne _).trans hupper, (begins_append hne _).trans hletter⟩

theorem capitalWord_ne_nil (hc : isAsciiAlphanumeric c = true) (w : List Char) :
    capitalWord (c :: w) ≠ [] :=
  List.append_ne_nil_of_left_ne_nil (upper_ascii hc).1 _

/-- Words one after the other begin as the first of them that is not empty. -/
theorem capitalWords_ascii (h : ∀ c ∈ ws.flatten, isAsciiAlphanumeric c = true) :
    (∀ d ∈ ws.flatMap capitalWord, isAsciiAlphanumeric d = true) ∧
      begins isAsciiUpper (ws.flatMap capitalWord) = begins isAsciiLetter ws.flatten ∧
      begins isAsciiLetter (ws.flatMap capitalWord) = begins isAsciiLetter ws.flatten := by
  induction ws with
  | nil => exact ⟨nofun, rfl, rfl⟩
  | cons w ws ih =>
    obtain ⟨hw, hws⟩ := List.forall_mem_append.1 h
    obtain ⟨hmem, hupper, hletter⟩ := capitalWord_ascii hw
    rw [List.flatMap_cons, List.flatten_cons]
    cases w with
    | nil => exact ih hws
    | cons c w =>
      have hne := capitalWord_ne_nil (hw c List.mem_cons_self) w
      rw [begins_append hne, begins_append hne, begins_append (List.cons_ne_nil c w)]
      exact ⟨List.forall_mem_append.2 ⟨hmem, (ih hws).1⟩, hupper, hletter⟩

end Ascii

section Names
variable {s : List Char}

theorem upperCamel_ascii (h : ∀ c ∈ s.filter isAlphanumeric, isAsciiAlphanumeric c = true) :
    (∀ d ∈ upperCamel s, isAsciiAlphanumeric d = true) ∧
      begins isAsciiUpper (upperCamel s) = begins isAsciiLetter (s.filter isAlphanumeric) := by
  rw [← flatten_words] at h ⊢
  obtain ⟨hmem, hupper, -⟩ := capitalWords_ascii h
  exact ⟨hmem, hupper⟩

theorem lowerCamel_ascii (h : ∀ c ∈ s.filter isAlphanumeric, isAsciiAlphanumeric c = true) :
    (∀ d ∈ lowerCamel s, isAsciiAlphanumeric d = true) ∧
      begins isAsciiLetter (lowerCamel s) = begins isAsciiLetter (s.filter isAlphanumeric) := by
  rw [← flatten_words] at h ⊢
  unfold lowerCamel
  cases hwords : words s with
  | nil => exact ⟨nofun, rfl⟩
  | cons w ws =>
    rw [hwords] at h
    obtain ⟨hw, hws⟩ := List.forall_mem_append.1 h
    obtain ⟨hmem, -, hletter⟩ := capitalWords_ascii hws
    obtain ⟨hfirst, hbegins⟩ := lowerWord_ascii hw
    rw [List.flatten_cons]
    refine ⟨List.forall_mem_append.2 ⟨hfirst, hmem⟩, ?_⟩
    cases w with
    | nil => exact hletter
    | cons c w =>
      have hne : lowerWord (c :: w) ≠ [] := by
        have hc := hw c List.mem_cons_self
        rw [lowerWord_cons hc]
        exact List.append_ne_nil_of_left_ne_nil (lower_ascii hc).1 _
      rw [begins_append hne, begins_append (List.cons_ne_nil c w)]
      exact hbegins

end Names
end RoutineBindings.Text
