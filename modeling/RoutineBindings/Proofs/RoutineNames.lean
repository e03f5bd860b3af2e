import Mathlib.Data.Nat.Digits.Defs
import RoutineBindings.Proofs.PositionalViews
import RoutineBindings.Proofs.Synthesis

/-!
# Names of routines in statements

A requested name is one plain identifier, or two with a dot between them. It is cut at that dot and
put together again in the statement, so the routine that is called is the requested one, and the
statement has no character that could end its literal or begin another command.
-/
namespace RoutineBindings
open Go

def BeginsName (c : Char) : Prop := ('a' ≤ c ∧ c ≤ 'z') ∨ ('A' ≤ c ∧ c ≤ 'Z') ∨ c = '_'

def ContinuesName (c : Char) : Prop := BeginsName c ∨ ('0' ≤ c ∧ c ≤ '9') ∨ c = '$'

def Identifier (s : String) : Prop :=
  ∃ c cs, s.toList = c :: cs ∧ BeginsName c ∧ ∀ d ∈ cs, ContinuesName d

/-- The spellings of a name, with and without its schema. -/
inductive RoutineNamed : String → Prop where
  | plain {name : String} (h : Identifier name) : RoutineNamed name
  | qualified {schema name : String} (hs : Identifier schema) (hn : Identifier name) :
    RoutineNamed (schema ++ "." ++ name)

/-- What happened besides warnings: the questions to the catalog, oldest first. -/
def lookups (events : List Event) : List Event := events.filter fun e => e.warning?.isNone

/-- The question for a requested routine. -/
def routineQuestion (requested : String) : Event :=
  .routineLookup (RoutineName.parts requested).1 (RoutineName.parts requested).2

/-- The characters of the statements that call a routine. -/
def StatementCharacter (c : Char) : Prop := ContinuesName c ∨ c ∈ ['.', ',', '*', '(', ')', ' ']

instance : DecidablePred BeginsName :=
  fun c => inferInstanceAs (Decidable (('a' ≤ c ∧ c ≤ 'z') ∨ ('A' ≤ c ∧ c ≤ 'Z') ∨ c = '_'))

instance : DecidablePred ContinuesName :=
  fun c => inferInstanceAs (Decidable (BeginsName c ∨ ('0' ≤ c ∧ c ≤ '9') ∨ c = '$'))

instance : DecidablePred StatementCharacter :=
  fun c => inferInstanceAs (Decidable (ContinuesName c ∨ c ∈ ['.', ',', '*', '(', ')', ' ']))

/-- A finite check in place of a quantifier over characters. -/
theorem forall_of_all {p : Char → Prop} [DecidablePred p] {cs : List Char}
    (h : cs.all (fun c => decide (p c)) = true) : ∀ c ∈ cs, p c :=
  fun c hc => of_decide_eq_true (List.all_eq_true.1 h c hc)

section Identifiers
variable {c : Char} {s : List Char} {name schema q : String}

theorem isInitial_iff : RoutineName.isInitial c = true ↔ BeginsName c := by
  simp only [RoutineName.isInitial, Text.isAsciiUpper, Text.isAsciiLower, Bool.or_eq_true,
    Bool.and_eq_true, decide_eq_true_eq, BeginsName]
  tauto

theorem isFollowing_iff : RoutineName.isFollowing c = true ↔ ContinuesName c := by
  simp only [RoutineName.isFollowing, Bool.or_eq_true, isInitial_iff, Text.isAsciiDigit,
    Bool.and_eq_true, decide_eq_true_eq, ContinuesName]
  tauto

theorem isIdentifier_iff : RoutineName.isIdentifier s = true ↔ Identifier (String.ofList s) := by
  unfold Identifier
  rw [String.toList_ofList]
  cases s with
  | nil => simp [RoutineName.isIdentifier]
  | cons c s =>
    simp only [RoutineName.isIdentifier, Bool.and_eq_true, isInitial_iff, List.all_eq_true,
      isFollowing_iff]
    constructor
    · intro h
      exact ⟨c, s, rfl, h⟩
    · rintro ⟨_, _, ⟨⟩, h⟩
      exact h

theorem Identifier.continues (h : Identifier name) (hc : c ∈ name.toList) : ContinuesName c := by
  obtain ⟨d, ds, hname, hd, hds⟩ := h
  rw [hname] at hc
  rcases List.mem_cons.1 hc with rfl | hc
  · exact .inl hd
  · exact hds c hc

theorem dot_not_continues : ¬ ContinuesName '.' := by decide

theorem Identifier.dotless (h : Identifier name) : '.' ∉ name.toList :=
  fun hmem => dot_not_continues (h.continues hmem)

theorem Identifier.ne_empty (h : Identifier name) : name ≠ "" := by
  rintro rfl
  obtain ⟨c, cs, hname, -⟩ := h
  cases hname

theorem cutAt_dotted (h : Identifier schema) (name : String) :
    Text.cutAt '.' (schema ++ "." ++ name).toList = some (schema.toList, name.toList) := by
  rw [Text.cutAt_eq_some_iff]
  refine ⟨?_, h.dotless⟩
  simp

theorem isAccepted_iff : RoutineName.isAccepted q.toList = true ↔ RoutineNamed q := by
  constructor
  · intro h
    unfold RoutineName.isAccepted at h
    split at h
    · rw [isIdentifier_iff, String.ofList_toList] at h
      exact .plain h
    · rename_i schema name hcut
      obtain ⟨hq, -⟩ := Text.cutAt_eq_some_iff.1 hcut
      obtain ⟨hs, hn⟩ := Bool.and_eq_true_iff.1 h
      have hjoined : q = String.ofList schema ++ "." ++ String.ofList name := by
        rw [← String.toList_inj, hq]
        simp
      rw [hjoined]
      exact .qualified (isIdentifier_iff.1 hs) (isIdentifier_iff.1 hn)
  · intro h
    cases h with
    | plain h =>
      rw [RoutineName.isAccepted, Text.cutAt_eq_none_iff.2 h.dotless]
      exact isIdentifier_iff.2 (String.ofList_toList ▸ h)
    | qualified hs hn =>
      rw [RoutineName.isAccepted, cutAt_dotted hs, Bool.and_eq_true]
      exact ⟨isIdentifier_iff.2 (String.ofList_toList ▸ hs),
        isIdentifier_iff.2 (String.ofList_toList ▸ hn)⟩

theorem RoutineNamed.ne_empty (h : RoutineNamed q) : q ≠ "" := by
  cases h with
  | plain h => exact h.ne_empty
  | qualified hs hn =>
    intro hq
    simpa using congrArg String.toList hq

theorem validate_iff : RoutineName.validate q = .ok () ↔ RoutineNamed q := by
  unfold RoutineName.validate
  by_cases hempty : q.isEmpty
  · rw [if_pos hempty]
    exact iff_of_false nofun fun h => h.ne_empty (String.isEmpty_iff.1 hempty)
  · rw [if_neg hempty, ← isAccepted_iff]
    by_cases h : RoutineName.isAccepted q.toList = true
    · simp [h]
    · simp [h]

theorem parts_plain (h : Identifier q) : RoutineName.parts q = ("public", q) := by
  rw [RoutineName.parts, Text.cutAt_eq_none_iff.2 h.dotless]
  rfl

theorem parts_qualified (h : Identifier schema) (name : String) :
    RoutineName.parts (schema ++ "." ++ name) = (schema, name) := by
  simp only [RoutineName.parts, cutAt_dotted h, String.ofList_toList]

theorem identifier_public : Identifier "public" :=
  ⟨'p', _, rfl, by decide, forall_of_all (by decide)⟩

theorem RoutineNamed.parts (h : RoutineNamed q) :
    Identifier (RoutineName.parts q).1 ∧ Identifier (RoutineName.parts q).2 := by
  cases h with
  | plain h =>
    rw [parts_plain h]
    exact ⟨identifier_public, h⟩
  | qualified hs hn =>
    rw [parts_qualified hs]
    exact ⟨hs, hn⟩

/-- The two parts of a name, written with the dot again. -/
theorem RoutineNamed.joined (h : RoutineNamed q) :
    (RoutineName.parts q).1 ++ "." ++ (RoutineName.parts q).2 =
      if '.' ∈ q.toList then q else "public." ++ q := by
  cases h with
  | plain h =>
    rw [parts_plain h, if_neg h.dotless]
    rfl
  | qualified hs hn =>
    rw [parts_qualified hs, if_pos (by simp)]

end Identifiers

section Introspection
variable {c : Catalog} {requested schema name : String} {rows : List RoutineRow} {r : Routine}

@[simp] theorem lookups_nil : lookups [] = [] := rfl

@[simp] theorem lookups_append (es fs : List Event) :
    lookups (es ++ fs) = lookups es ++ lookups fs := List.filter_append ..

/-- Questions of one kind are among the questions. -/
theorem filterMap_lookups {α : Type} {f : Event → Option α} (h : ∀ w, f (.warned w) = none)
    (events : List Event) : (lookups events).filterMap f = events.filterMap f := by
  rw [lookups, List.filterMap_filter]
  refine congrArg (List.filterMap · events) (funext fun e => ?_)
  cases e with
  | warned w => exact (h w).symm
  | routineLookup | enumLookup => rfl

/-- The first row counts. On the way nothing is looked up. -/
theorem chooseRoutine_cons (requested schema name : String) (row : RoutineRow)
    (others : List RoutineRow) :
    (chooseRoutine requested schema name (row :: others)).value =
        (Signature.parse row.arguments).map (row.routine schema name) ∧
      lookups (chooseRoutine requested schema name (row :: others)).events = [] := by
  rw [chooseRoutine]
  cases Signature.parse row.arguments with
  | error e => cases others.isEmpty <;> exact ⟨rfl, rfl⟩
  | ok arguments =>
    by_cases hkind : (row.routine schema name arguments).kind = .normal
    · cases others.isEmpty <;> simp [hkind, Except.map, lookups, Event.warning?]
    · cases others.isEmpty <;> simp [hkind, Except.map, lookups, Event.warning?]

theorem chooseRoutine_name (h : (chooseRoutine requested schema name rows).value = .ok r) :
    r.schema = schema ∧ r.name = name := by
  cases rows with
  | nil => cases h
  | cons row others =>
    rw [(chooseRoutine_cons requested schema name row others).1] at h
    cases hargs : Signature.parse row.arguments with
    | error e =>
      rw [hargs] at h
      cases h
    | ok arguments =>
      rw [hargs] at h
      cases h
      exact ⟨rfl, rfl⟩

theorem chooseRoutine_lookups (requested schema name : String) (rows : List RoutineRow) :
    lookups (chooseRoutine requested schema name rows).events = [] := by
  cases rows with
  | nil => rfl
  | cons row others => exact (chooseRoutine_cons requested schema name row others).2

theorem introspect_asks (h : RoutineNamed requested) (c : Catalog) :
    lookups (introspect c requested).events = [routineQuestion requested] := by
  rw [introspect, validate_iff.2 h]
  simp only [Catalog.askRoutines, Journaled.events_bind, Journaled.value_bind,
    Journaled.value_pure, Journaled.events_note, Journaled.events_pure]
  cases c.routines (RoutineName.parts requested).1 (RoutineName.parts requested).2 with
  | error e => rfl
  | ok rows =>
    simp only [lookups_append, chooseRoutine_lookups]
    rfl

/-- The catalog is asked once, under the two parts of the name. -/
theorem introspect_lookups (h : RoutineNamed requested) (c : Catalog) :
    routineLookups (introspect c requested).events = [RoutineName.parts requested] := by
  rw [routineLookups, ← filterMap_lookups fun _ => rfl, introspect_asks h]
  rfl

theorem found_name (h : Found c requested r) :
    RoutineName.parts requested = (r.schema, r.name) := by
  unfold Found introspect at h
  cases hv : RoutineName.validate requested with
  | error e =>
    rw [hv] at h
    cases h
  | ok u =>
    rw [hv] at h
    simp only [Catalog.askRoutines, Journaled.value_bind, Journaled.value_pure] at h
    cases hrows : c.routines (RoutineName.parts requested).1 (RoutineName.parts requested).2 with
    | error e =>
      rw [hrows] at h
      cases h
    | ok rows =>
      rw [hrows] at h
      obtain ⟨hschema, hname⟩ := chooseRoutine_name h
      rw [hschema, hname]

end Introspection
section Statements
variable {c : Char} {s : String} {r : Routine}

theorem literalBody_plain {cs : List Char} (h : ∀ c ∈ cs, escapeLetter? c = none) :
    literalBody cs = cs := by
  induction cs with
  | nil => rfl
  | cons c cs ih =>
    have hc := h c List.mem_cons_self
    have hcs := ih fun d hd => h d (List.mem_cons_of_mem c hd)
    rw [literalBody, hc, hcs]

theorem quote_plain (h : ∀ c ∈ s.toList, escapeLetter? c = none) : quote s = "\"" ++ s ++ "\"" := by
  rw [← String.toList_inj, quote, literalBody_plain h]
  simp

theorem StatementCharacter.unescaped (h : StatementCharacter c) : escapeLetter? c = none := by
  have hspecial : ∀ d ∈ ['\\', '"', '\n', '\r', '\t'], ¬ StatementCharacter d :=
    forall_of_all (by decide)
  unfold escapeLetter?
  split
  · exact absurd h (hspecial _ (by decide))
  · exact absurd h (hspecial _ (by decide))
  · exact absurd h (hspecial _ (by decide))
  · exact absurd h (hspecial _ (by decide))
  · exact absurd h (hspecial _ (by decide))
  · rfl

theorem digit_continues (h : c.isDigit = true) : ContinuesName c := by
  obtain ⟨hlow, hhigh⟩ := Bool.and_eq_true_iff.1 h
  exact .inr (.inl ⟨of_decide_eq_true hlow, of_decide_eq_true hhigh⟩)

theorem placeholder_characters {n : Nat} (hc : c ∈ (Wrapper.placeholders n).toList) :
    StatementCharacter c := by
  rw [Wrapper.placeholders, Wrapper.placeholdersFrom_eq] at hc
  rcases Text.mem_joined hc with hsep | ⟨p, hp, hcp⟩
  · have hseps : ∀ d ∈ ", ".toList, StatementCharacter d := forall_of_all (by decide)
    exact hseps c hsep
  · obtain ⟨i, -, rfl⟩ := List.mem_map.1 hp
    rw [String.toList_append] at hcp
    rcases List.mem_append.1 hcp with hdollar | hdigit
    · obtain rfl := List.mem_singleton.1 hdollar
      decide
    · rw [Nat.toString_eq_repr, Nat.repr_eq_ofList_toDigits, String.toList_ofList] at hdigit
      exact .inl (digit_continues (Nat.isDigit_of_mem_toDigits (by omega) (by omega) hdigit))

theorem query_characters (hs : Identifier r.schema) (hn : Identifier r.name) (n : Nat)
    (structScan : Bool) (hc : c ∈ (Wrapper.query r n structScan).toList) :
    StatementCharacter c := by
  have hselect : ∀ b : Bool,
      ∀ d ∈ (if b then "SELECT * FROM " else "SELECT ").toList, StatementCharacter d := by
    intro b
    cases b <;> exact forall_of_all (by decide)
  have hopen : ∀ d ∈ "(".toList, StatementCharacter d := forall_of_all (by decide)
  have hclose : ∀ d ∈ ")".toList, StatementCharacter d := forall_of_all (by decide)
  have hdot : ∀ d ∈ ".".toList, StatementCharacter d := forall_of_all (by decide)
  simp only [Wrapper.query, Routine.qualifiedName, String.toList_append, List.mem_append] at hc
  rcases hc with (((h | (h | h) | h) | h) | h) | h
  · exact hselect structScan c h
  · exact .inl (hs.continues h)
  · exact hdot c h
  · exact .inl (hn.continues h)
  · exact hopen c h
  · exact placeholder_characters h
  · exact hclose c h

end Statements

/-- A name is accepted exactly if it is spelled with plain identifiers. The catalog is asked for the
two of them, the routine has the requested name, and no statement that calls it, with any number
of arguments, has a character that its literal would escape. -/
theorem requestedName_harmless (q : String) :
    (RoutineName.validate q = .ok () ↔ RoutineNamed q) ∧
    (RoutineNamed q →
      Identifier (RoutineName.parts q).1 ∧ Identifier (RoutineName.parts q).2 ∧
      ∀ c, routineLookups (introspect c q).events = [RoutineName.parts q] ∧
        ∀ r, Found c q r →
          r.qualifiedName = (if '.' ∈ q.toList then q else "public." ++ q) ∧
          ∀ n structScan, (∀ ch ∈ (Wrapper.query r n structScan).toList, StatementCharacter ch) ∧
            quote (Wrapper.query r n structScan) =
              "\"" ++ Wrapper.query r n structScan ++ "\"") := by
  refine ⟨validate_iff, fun h => ?_⟩
  obtain ⟨hs, hn⟩ := h.parts
  refine ⟨hs, hn, fun c => ⟨introspect_lookups h c, fun r hr => ?_⟩⟩
  have hparts := found_name hr
  have hname := h.joined
  rw [hparts] at hs hn hname
  refine ⟨hname, fun n structScan => ?_⟩
  have hplain : ∀ ch ∈ (Wrapper.query r n structScan).toList, StatementCharacter ch :=
    fun ch hch => query_characters hs hn n structScan hch
  exact ⟨hplain, quote_plain fun ch hch => (hplain ch hch).unescaped⟩

/-- A catalog whose routines take two numbers and return nothing. -/
def rangeCatalog : Catalog where
  routines _ _ := .ok [⟨"low integer, high integer", "", "normal", none⟩]
  enumLabels _ _ := .ok []

def purgeRange : Routine :=
  ⟨"ops", "purge_range", .normal, [⟨"low", "integer"⟩, ⟨"high", "integer"⟩], "", none⟩

theorem purgeRange_harmless :
    RoutineNamed "ops.purge_range" ∧ Found rangeCatalog "ops.purge_range" purgeRange ∧
      purgeRange.qualifiedName = "ops.purge_range" ∧
      quote (Wrapper.query purgeRange 2 true) =
        "\"" ++ Wrapper.query purgeRange 2 true ++ "\"" := by
  have hnamed : RoutineNamed "ops.purge_range" := isAccepted_iff.1 (by decide)
  have hfound : Found rangeCatalog "ops.purge_range" purgeRange := rfl
  obtain ⟨-, -, hcatalog⟩ := (requestedName_harmless "ops.purge_range").2 hnamed
  obtain ⟨hname, hquery⟩ := (hcatalog rangeCatalog).2 purgeRange hfound
  exact ⟨hnamed, hfound, hname, (hquery 2 true).2⟩

end RoutineBindings
