import RoutineBindings.Proofs.CamelWords
import RoutineBindings.Proofs.ExportedNames
import RoutineBindings.Proofs.ParameterNames
import RoutineBindings.Proofs.RoutineNames

/-!
# Usable names

An identifier of the database can begin with separators, and digits can follow them. The separators
are lost in camel case, so the name in Go begins with the first letter or digit, and it is an
identifier of Go exactly if that is a letter. A name of separators only becomes the empty text.
-/
namespace RoutineBindings.Go
open Text

/-- The name is not empty, it begins as stated, and it has ASCII letters and digits only. -/
structure Spelled (first : Char → Bool) (name : String) : Prop where
  beginning : begins first name.toList = true
  characters : ∀ c ∈ name.toList, isAsciiAlphanumeric c = true

/-- A parameter is named with an identifier that is neither a keyword nor a local of wrappers. -/
structure UsableParameter (name : String) : Prop where
  spelled : Spelled isAsciiLetter name
  free : ¬ Taken name

/-- Behind the separators at its beginning the name has a letter. -/
def LetterFirst (name : String) : Prop :=
  ∃ separators c rest, name.toList = separators ++ c :: rest ∧
    (∀ d ∈ separators, d = '_' ∨ d = '$') ∧ isAsciiLetter c = true

section Acronyms
variable {table : List (String × String)} {name : List Char} {p : Char → Bool}

/-- An acronym begins as the ending that it is put for. -/
theorem begins_spellAcronym
    (htable : ∀ e ∈ table, begins p e.2.toList = begins p e.1.toList) :
    begins p (spellAcronym table name) = begins p name := by
  rcases spellAcronym_cases table name with ⟨-, hsame⟩ | ⟨e, he, stem, rfl, hspelled⟩
  · rw [hsame]
  · rw [hspelled]
    by_cases hstem : stem = []
    · rw [hstem]
      exact htable e he
    · rw [begins_append hstem, begins_append hstem]

theorem alphanumeric_spellAcronym
    (htable : ∀ e ∈ table, ∀ c ∈ e.2.toList, isAsciiAlphanumeric c = true)
    (h : ∀ c ∈ name, isAsciiAlphanumeric c = true) :
    ∀ c ∈ spellAcronym table name, isAsciiAlphanumeric c = true := by
  rcases spellAcronym_cases table name with ⟨-, hsame⟩ | ⟨e, he, stem, rfl, hspelled⟩
  · rwa [hsame]
  · rw [hspelled]
    obtain ⟨hstem, -⟩ := List.forall_mem_append.1 h
    exact List.forall_mem_append.2 ⟨hstem, htable e he⟩

theorem acronyms_alphanumeric :
    ∀ e ∈ acronyms, ∀ c ∈ e.2.toList, isAsciiAlphanumeric c = true := by
  have hall : ∀ e ∈ acronyms, e.2.toList.all isAsciiAlphanumeric = true := by decide +kernel
  exact fun e he => List.all_eq_true.1 (hall e he)

end Acronyms

section Identifiers
variable {c : Char} {name : String}

theorem isAlphanumeric_of_ascii (h : isAsciiAlphanumeric c = true) : isAlphanumeric c = true := by
  have hascii : isAscii c = true := decide_eq_true (alphanumeric_lt h)
  rw [isAlphanumeric, if_pos hascii]
  exact h

/-- What is neither a letter nor a digit separates the words of an identifier. -/
theorem continuesName_cases (h : ContinuesName c) :
    isAsciiAlphanumeric c = true ∨ isAlphanumeric c = false ∧ (c = '_' ∨ c = '$') := by
  rcases h with (⟨hlow, hhigh⟩ | ⟨hlow, hhigh⟩ | rfl) | ⟨hlow, hhigh⟩ | rfl
  · exact .inl (by simp [isAsciiAlphanumeric, isAsciiLetter, isAsciiLower, hlow, hhigh])
  · exact .inl (by simp [isAsciiAlphanumeric, isAsciiLetter, isAsciiUpper, hlow, hhigh])
  · exact .inr ⟨by decide, .inl rfl⟩
  · exact .inl (by simp [isAsciiAlphanumeric, isAsciiDigit, hlow, hhigh])
  · exact .inr ⟨by decide, .inr rfl⟩

theorem kept_alphanumeric (h : Identifier name) :
    ∀ c ∈ name.toList.filter isAlphanumeric, isAsciiAlphanumeric c = true := by
  intro c hc
  obtain ⟨hmem, hkept⟩ := List.mem_filter.1 hc
  rcases continuesName_cases (h.continues hmem) with hc | ⟨hc, -⟩
  · exact hc
  · rw [hc] at hkept
    cases hkept

/-- A list whose first character is not the letter begins with a separator before it. -/
theorem letter_behind_cons {d : Char} {ds : List Char} :
    (∃ separators c rest, d :: ds = separators ++ c :: rest ∧
        (∀ x ∈ separators, x = '_' ∨ x = '$') ∧ isAsciiLetter c = true) ↔
      isAsciiLetter d = true ∨ (d = '_' ∨ d = '$') ∧
        ∃ separators c rest, ds = separators ++ c :: rest ∧
          (∀ x ∈ separators, x = '_' ∨ x = '$') ∧ isAsciiLetter c = true := by
  constructor
  · rintro ⟨separators, c, rest, hsplit, hseparators, hc⟩
    cases separators with
    | nil =>
      cases hsplit
      exact .inl hc
    | cons x xs =>
      obtain ⟨rfl, hds⟩ := List.cons.inj hsplit
      obtain ⟨hd, hxs⟩ := List.forall_mem_cons.1 hseparators
      exact .inr ⟨hd, xs, c, rest, hds, hxs, hc⟩
  · rintro (hd | ⟨hd, separators, c, rest, rfl, hseparators, hc⟩)
    · exact ⟨[], d, ds, rfl, List.forall_mem_nil _, hd⟩
    · exact ⟨d :: separators, c, rest, rfl, List.forall_mem_cons.2 ⟨hd, hseparators⟩, hc⟩

/-- The separators before the first letter or digit are what camel case drops there. -/
theorem letter_behind_iff {cs : List Char} (h : ∀ c ∈ cs, ContinuesName c) :
    (∃ separators c rest, cs = separators ++ c :: rest ∧
        (∀ d ∈ separators, d = '_' ∨ d = '$') ∧ isAsciiLetter c = true) ↔
      begins isAsciiLetter (cs.filter isAlphanumeric) = true := by
  induction cs with
  | nil => simp [begins]
  | cons d ds ih =>
    obtain ⟨hd, hds⟩ := List.forall_mem_cons.1 h
    rw [letter_behind_cons, ih hds]
    rcases continuesName_cases hd with hd | ⟨hd, hseparator⟩
    · have hkept := isAlphanumeric_of_ascii hd
      have hseparator : ¬ (d = '_' ∨ d = '$') := by
        rintro (rfl | rfl)
        · exact absurd hkept (by decide)
        · exact absurd hkept (by decide)
      rw [List.filter_cons_of_pos hkept]
      exact or_iff_left fun hrest => hseparator hrest.1
    · have hletter : ¬ isAsciiLetter d = true := by
        rcases hseparator with rfl | rfl
        · decide
        · decide
      rw [List.filter_cons_of_neg (by simp [hd]), or_iff_right hletter]
      exact and_iff_right hseparator

theorem letterFirst_iff (h : Identifier name) :
    LetterFirst name ↔ begins isAsciiLetter (name.toList.filter isAlphanumeric) = true :=
  letter_behind_iff fun _ hc => h.continues hc

end Identifiers

section Names
variable {name : String}

theorem exportedName_characters (h : Identifier name) :
    ∀ c ∈ (exportedName name).toList, isAsciiAlphanumeric c = true := by
  rw [exportedName, String.toList_ofList]
  exact alphanumeric_spellAcronym acronyms_alphanumeric (upperCamel_ascii (kept_alphanumeric h)).1

theorem unexportedName_characters (h : Identifier name) :
    ∀ c ∈ (unexportedName name).toList, isAsciiAlphanumeric c = true := by
  rw [unexportedName, String.toList_ofList]
  exact alphanumeric_spellAcronym acronyms_alphanumeric (lowerCamel_ascii (kept_alphanumeric h)).1

theorem begins_exportedName (h : Identifier name) :
    begins isAsciiUpper (exportedName name).toList = true ↔ LetterFirst name := by
  have hacronyms : ∀ e ∈ acronyms,
      begins isAsciiUpper e.2.toList = begins isAsciiUpper e.1.toList := by decide +kernel
  rw [exportedName, String.toList_ofList, begins_spellAcronym hacronyms,
    (upperCamel_ascii (kept_alphanumeric h)).2, letterFirst_iff h]

theorem begins_unexportedName (h : Identifier name) :
    begins isAsciiLetter (unexportedName name).toList = true ↔ LetterFirst name := by
  have hacronyms : ∀ e ∈ acronyms,
      begins isAsciiLetter e.2.toList = begins isAsciiLetter e.1.toList := by decide +kernel
  rw [unexportedName, String.toList_ofList, begins_spellAcronym hacronyms,
    (lowerCamel_ascii (kept_alphanumeric h)).2, letterFirst_iff h]

theorem exportedName_usable_iff (h : Identifier name) :
    Spelled isAsciiUpper (exportedName name) ↔ LetterFirst name :=
  ⟨fun hs => (begins_exportedName h).1 hs.beginning,
    fun hl => ⟨(begins_exportedName h).2 hl, exportedName_characters h⟩⟩

theorem parameterName_not_taken (name : String) : ¬ Taken (parameterName name) := by
  by_cases h : Taken (unexportedName name)
  · rw [parameterName_of_taken h]
    exact not_taken_ending h
  · rwa [parameterName_of_not_taken h]

theorem parameterName_characters (h : Identifier name) :
    ∀ c ∈ (parameterName name).toList, isAsciiAlphanumeric c = true := by
  have hcharacters := unexportedName_characters h
  by_cases htaken : Taken (unexportedName name)
  · rw [parameterName_of_taken htaken, String.toList_append]
    exact List.forall_mem_append.2 ⟨hcharacters, forall_of_all (by decide)⟩
  · rwa [parameterName_of_not_taken htaken]

/-- The ending of a taken name does not change its beginning. -/
theorem begins_parameterName (h : Identifier name) :
    begins isAsciiLetter (parameterName name).toList = true ↔ LetterFirst name := by
  rw [← begins_unexportedName h]
  by_cases htaken : Taken (unexportedName name)
  · have hne : (unexportedName name).toList ≠ [] := by
      have hall : ∀ n ∈ wrapperLocals ++ keywords, n.toList ≠ [] := by decide
      exact hall _ (List.mem_append.2 htaken)
    rw [parameterName_of_taken htaken, String.toList_append, begins_append hne]
  · rw [parameterName_of_not_taken htaken]

theorem parameterName_usable_iff (h : Identifier name) :
    UsableParameter (parameterName name) ↔ LetterFirst name :=
  ⟨fun hu => (begins_parameterName h).1 hu.spelled.beginning,
    fun hl => ⟨⟨(begins_parameterName h).2 hl, parameterName_characters h⟩,
      parameterName_not_taken name⟩⟩

end Names
end RoutineBindings.Go

namespace RoutineBindings
open Go Text

theorem identifier_of_validate {q : String} (h : RoutineName.validate q = .ok ()) :
    Identifier (RoutineName.parts q).2 :=
  (validate_iff.1 h).parts.2

/-- The function of an accepted routine has an exported identifier, and an argument has a usable
parameter, exactly if the database names them with a letter behind their separators. In any case
the names have ASCII letters and digits only, and no parameter is a keyword or a local. -/
theorem names_usable_iff {q a : String} {r : Routine} (hq : RoutineName.validate q = .ok ())
    (hr : r.name = (RoutineName.parts q).2) (ha : Identifier a) :
    (Spelled isAsciiUpper r.goName ↔ LetterFirst r.name) ∧
      (UsableParameter (parameterName a) ↔ LetterFirst a) ∧
      (∀ c ∈ r.goName.toList ++ (parameterName a).toList, isAsciiAlphanumeric c = true) ∧
      ¬ Taken (parameterName a) := by
  have hname : Identifier r.name := hr ▸ identifier_of_validate hq
  refine ⟨exportedName_usable_iff hname, parameterName_usable_iff ha, ?_,
    parameterName_not_taken a⟩
  exact List.forall_mem_append.2 ⟨exportedName_characters hname, parameterName_characters ha⟩

/-- A routine and an argument with separators at every place. -/
def loadUser : Routine :=
  ⟨"ops", "__load$2_user_id", .normal, [⟨"_type_", "text"⟩], "", none⟩

theorem loadUser_usable :
    RoutineName.validate "ops.__load$2_user_id" = .ok () ∧
      loadUser.name = (RoutineName.parts "ops.__load$2_user_id").2 ∧ Identifier "_type_" ∧
      Spelled isAsciiUpper loadUser.goName ∧ UsableParameter (parameterName "_type_") := by
  have hq : RoutineName.validate "ops.__load$2_user_id" = .ok () := by decide +kernel
  have hr : loadUser.name = (RoutineName.parts "ops.__load$2_user_id").2 := by decide +kernel
  have ha : Identifier "_type_" := ⟨'_', "type_".toList, rfl, by decide, forall_of_all (by decide)⟩
  obtain ⟨hfunction, hparameter, -⟩ := names_usable_iff hq hr ha
  have hload : LetterFirst loadUser.name :=
    ⟨['_', '_'], 'l', "oad$2_user_id".toList, rfl, forall_of_all (by decide), rfl⟩
  have htype : LetterFirst "_type_" :=
    ⟨['_'], 't', "ype_".toList, rfl, forall_of_all (by decide), rfl⟩
  exact ⟨hq, hr, ha, hfunction.2 hload, hparameter.2 htype⟩

/-- A routine with a digit behind the separator of its name. -/
def secondFactor : Routine := ⟨"public", "_2fa", .normal, [⟨"_1", "text"⟩], "", none⟩

/-- Accepted names of which nothing is left, or nothing that begins with a letter. -/
theorem secondFactor_unusable :
    RoutineName.validate "_2fa" = .ok () ∧ secondFactor.name = (RoutineName.parts "_2fa").2 ∧
      Identifier "_1" ∧ secondFactor.goName = "2fa" ∧ parameterName "_1" = "1" ∧
      RoutineName.validate "_" = .ok () ∧ exportedName "_" = "" ∧ parameterName "_" = "" ∧
      ¬ Spelled isAsciiUpper secondFactor.goName ∧ ¬ UsableParameter (parameterName "_1") := by
  have hfunction : secondFactor.goName = "2fa" := by decide +kernel
  have hparameter : parameterName "_1" = "1" := by decide +kernel
  have hargument : Identifier "_1" := ⟨'_', ['1'], rfl, by decide, forall_of_all (by decide)⟩
  refine ⟨by decide +kernel, by decide +kernel, hargument, hfunction, hparameter,
    by decide +kernel, by decide +kernel, by decide +kernel, ?_, ?_⟩
  · rw [hfunction]
    exact fun h => absurd h.beginning (by decide)
  · rw [hparameter]
    exact fun h => absurd h.spelled.beginning (by decide)

end RoutineBindings
