import Mathlib.Data.Bool.AllAny
import RoutineBindings.Proofs.ArgumentReading

/-!
# Argument lists

A catalog writes an argument as its name, its type and, if it has one, its default. Reading gives
the names and types back whatever the defaults are, as long as each default keeps its commas inside
of parentheses and leaves none open. No other class of defaults is read back.
-/
namespace RoutineBindings.Signature
open Text

/-- A name and a type that can be told apart, and from what is written around them. -/
structure NamedType where
  name : String
  type : String
  name_ne : name ≠ ""
  name_plain : ∀ c ∈ name.toList, isBlank c = false ∧ c ≠ ',' ∧ c ≠ '(' ∧ c ≠ ')'
  type_ne : type ≠ ""
  type_trimmed : trimText type = type
  type_balanced : Balanced type.toList
  /-- The word `DEFAULT` does not stand in the type. -/
  type_word : ¬ defaultMark <:+: ' ' :: (type.toList ++ [' '])

/-- An argument as it is declared. -/
structure Declared extends NamedType where
  default : Option String

namespace Declared

def text (a : Declared) : String :=
  a.name ++ " " ++ a.type ++ (a.default.elim "" (" DEFAULT " ++ ·))

/-- The argument without its default. -/
def argument (a : Declared) : Argument := ⟨a.name, a.type⟩

end Declared

/-- The list as a catalog writes it. -/
def listing (as : List Declared) : String := joined ", " (as.map Declared.text)

/-- A default that ends where its parentheses say: something is written, every comma stands inside
of parentheses, and none are left open. Parentheses in quotes count like others. -/
structure DefaultEnclosed (e : String) : Prop where
  written : ∃ c ∈ e.toList, isBlank c = false
  selfContained : SelfContained e.toList

section Reading

theorem blank_space : isBlank ' ' = true := by decide

/-- A word that ends at a blank ends at the first one. -/
theorem word_ends {w q t u : List Char} (hw : ' ' ∉ w) (h : w ++ ' ' :: u = q ++ ' ' :: t) :
    ∃ v, q ++ [' '] = w ++ ' ' :: v := by
  rcases List.append_eq_append_iff.1 h with ⟨x, rfl, hx⟩ | ⟨x, hwx, hx⟩
  · cases x with
    | nil => exact ⟨[], by simp⟩
    | cons c x =>
      obtain ⟨rfl, -⟩ := List.cons.inj hx
      exact ⟨x ++ [' '], by simp⟩
  · cases x with
    | nil => exact ⟨[], by simp [hwx]⟩
    | cons c x =>
      obtain ⟨rfl, -⟩ := List.cons.inj hx
      exact absurd (hwx ▸ List.mem_append_right q List.mem_cons_self) hw

theorem defaultMark_prefix {q t : List Char} (hq : q ≠ []) (h : defaultMark <+: q ++ ' ' :: t) :
    defaultMark <+: q ++ [' '] := by
  have hmark : defaultMark = ' ' :: ("DEFAULT".toList ++ [' ']) := by decide
  obtain ⟨u, hu⟩ := h
  cases q with
  | nil => exact absurd rfl hq
  | cons c q =>
    rw [hmark, List.cons_append, List.cons_append, List.append_assoc] at hu
    obtain ⟨rfl, hrest⟩ := List.cons.inj hu
    obtain ⟨v, hv⟩ := word_ends (by decide) hrest
    exact ⟨v, by rw [hmark, List.cons_append, List.cons_append, hv, List.append_assoc]; rfl⟩

/-- What is written after a type starts where the type ends. -/
theorem before_type (a : NamedType) (t : List Char) :
    before defaultMark (a.type.toList ++ (defaultMark ++ t)) = a.type.toList := by
  refine before_append fun q hq hs hp => a.type_word ?_
  have hend : defaultMark <+: q ++ [' '] := defaultMark_prefix hq hp
  obtain ⟨p, hp'⟩ := hs
  obtain ⟨u, hu⟩ := hend
  refine ⟨' ' :: p, u, ?_⟩
  rw [List.append_assoc, hu, ← hp']
  simp

theorem before_type_self (a : NamedType) : before defaultMark a.type.toList = a.type.toList := by
  refine before_eq_self fun ⟨p, q, h⟩ => a.type_word ⟨' ' :: p, q ++ [' '], ?_⟩
  rw [← h]
  simp

theorem trim_type (a : NamedType) : trim a.type.toList = a.type.toList := by
  simpa [trimText] using congrArg String.toList a.type_trimmed

theorem name_starts (a : NamedType) : ∃ c name, a.name.toList = c :: name ∧ isBlank c = false := by
  cases hname : a.name.toList with
  | nil => exact absurd (String.toList_eq_nil_iff.1 hname) a.name_ne
  | cons c name => exact ⟨c, name, rfl, (a.name_plain c (hname ▸ List.mem_cons_self)).1⟩

/-- The text that follows the name of a declared argument. -/
def Declared.rest (a : Declared) : List Char :=
  a.type.toList ++ a.default.elim [] (defaultMark ++ ·.toList)

theorem Declared.toList_text (a : Declared) :
    a.text.toList = a.name.toList ++ ' ' :: a.rest := by
  have hspace : " ".toList = [' '] := rfl
  have hempty : "".toList = [] := rfl
  have hmark : " DEFAULT ".toList = defaultMark := rfl
  cases h : a.default <;>
    simp only [Declared.text, Declared.rest, h, Option.elim_none, Option.elim_some,
      String.toList_append, hspace, hempty, hmark, List.append_assoc, List.cons_append,
      List.nil_append, List.append_nil]

/-- Blanks at the end of a default do not count, and the type keeps its end. -/
theorem trimEnd_rest (a : Declared) (h : ∀ e ∈ a.default, ∃ c ∈ e.toList, isBlank c = false) :
    trimEnd a.rest ≠ [] ∧ before defaultMark (trimEnd a.rest) = a.type.toList := by
  have hne : a.type.toList ≠ [] := by simpa using a.type_ne
  cases hd : a.default with
  | none =>
    have hrest : a.rest = a.type.toList := by simp [Declared.rest, hd]
    rw [hrest, trimEnd_of_trim (trim_type _)]
    exact ⟨hne, before_type_self _⟩
  | some e =>
    have hwritten : trimEnd e.toList ≠ [] := by
      obtain ⟨c, hc, hblank⟩ := h e hd
      exact fun hnil => by simp [trimEnd_eq_nil_iff.1 hnil c hc] at hblank
    have hrest : a.rest = (a.type.toList ++ defaultMark) ++ e.toList := by
      simp [Declared.rest, hd]
    rw [hrest, trimEnd_append hwritten, List.append_assoc]
    exact ⟨by simp [hne], before_type _ _⟩

theorem trim_text {lead : List Char} (hlead : ∀ c ∈ lead, isBlank c = true) (a : Declared)
    (h : trimEnd a.rest ≠ []) :
    trim (lead ++ a.text.toList) = a.name.toList ++ ' ' :: trimEnd a.rest := by
  obtain ⟨c, name, hname, hc⟩ := name_starts a.toNamedType
  have hstart : trimStart (lead ++ c :: (name ++ ' ' :: a.rest)) =
      c :: (name ++ ' ' :: a.rest) := by
    rw [trimStart, List.dropWhile_append_of_pos hlead,
      List.dropWhile_cons_of_neg (by simp [hc])]
  have hend : trimEnd ([' '] ++ a.rest) ≠ [] := by
    rw [trimEnd_append h]
    simp
  have hsplit : c :: (name ++ ' ' :: a.rest) = (c :: name) ++ ([' '] ++ a.rest) := by simp
  rw [a.toList_text, hname, List.cons_append, trim, hstart, hsplit, trimEnd_append hend,
    trimEnd_append h]
  rfl

/-- A declared argument is read back without its default. -/
theorem argument_text {lead : List Char} (hlead : ∀ c ∈ lead, isBlank c = true) (a : Declared)
    (h : ∀ e ∈ a.default, ∃ c ∈ e.toList, isBlank c = false) :
    Signature.argument (trim (lead ++ a.text.toList)) = .ok a.argument := by
  obtain ⟨hne, hbefore⟩ := trimEnd_rest a h
  have hspace : ' ' ∉ a.name.toList := fun hc =>
    Bool.noConfusion ((a.name_plain _ hc).1.symm.trans blank_space)
  have hcut : cutAt ' ' (trim (lead ++ a.text.toList)) = some (a.name.toList, trimEnd a.rest) :=
    cutAt_eq_some_iff.2 ⟨trim_text hlead a hne, hspace⟩
  simp only [Signature.argument, hcut, hbefore, trim_type, String.ofList_toList]
  rfl

end Reading

section Cutting

theorem stem_selfContained (a : NamedType) :
    SelfContained (a.name.toList ++ ' ' :: a.type.toList) := by
  have hname : SelfContained a.name.toList :=
    selfContained_of_plain fun c hc => (a.name_plain c hc).2
  have hspace : SelfContained [' '] :=
    selfContained_of_plain (List.all_iff_forall_prop.1 (by decide))
  exact hname.append (hspace.append a.type_balanced.selfContained)

theorem default_selfContained {a : Declared} (h : ∀ e ∈ a.default, DefaultEnclosed e) :
    SelfContained (a.default.elim [] (defaultMark ++ ·.toList)) := by
  have hmark : SelfContained defaultMark :=
    selfContained_of_plain (List.all_iff_forall_prop.1 (by decide))
  cases hd : a.default with
  | none => exact selfContained_of_plain (by simp)
  | some e => exact hmark.append (h e hd).selfContained

theorem text_selfContained {a : Declared} (h : ∀ e ∈ a.default, DefaultEnclosed e) :
    SelfContained a.text.toList := by
  have hsplit : a.text.toList = (a.name.toList ++ ' ' :: a.type.toList) ++
      a.default.elim [] (defaultMark ++ ·.toList) := by
    simp [a.toList_text, Declared.rest]
  rw [hsplit]
  exact (stem_selfContained a.toNamedType).append (default_selfContained h)

theorem listing_singleton (a : Declared) : listing [a] = a.text := rfl

theorem listing_cons (a b : Declared) (as : List Declared) :
    (listing (a :: b :: as)).toList =
      a.text.toList ++ ',' :: ([' '] ++ (listing (b :: as)).toList) := by
  simp [listing, joined]

/-- Every piece of a list is one of its arguments. A blank may stand in front of the list. -/
theorem arguments_listing {as : List Declared} (hne : as ≠ [])
    (h : ∀ a ∈ as, ∀ e ∈ a.default, DefaultEnclosed e) {lead : List Char}
    (hlead : ∀ c ∈ lead, c = ' ') :
    arguments (split (lead ++ (listing as).toList)) = .ok (as.map Declared.argument) := by
  induction as generalizing lead with
  | nil => exact absurd rfl hne
  | cons a as ih =>
    have ha := h a List.mem_cons_self
    have hblank : ∀ c ∈ lead, isBlank c = true := fun c hc => hlead c hc ▸ blank_space
    have hplain : SelfContained lead := selfContained_of_plain fun c hc => by
      rw [hlead c hc]
      decide
    have hpiece := hplain.append (text_selfContained ha)
    have hread := argument_text hblank a fun e he => (ha e he).written
    cases as with
    | nil =>
      rw [listing_singleton, split, splitFrom_eq_singleton hpiece.commas]
      simp [arguments, hread]
      rfl
    | cons b as =>
      have hrest : arguments (split ([' '] ++ (listing (b :: as)).toList)) = .ok _ :=
        ih (List.cons_ne_nil b as) (fun x hx => h x (List.mem_cons_of_mem a hx)) (by simp)
      rw [listing_cons, ← List.append_assoc, split_comma hpiece, arguments, hread, hrest]
      rfl

theorem parse_listing_eq (a : Declared) (as : List Declared) :
    parse (listing (a :: as)) = arguments (split (listing (a :: as)).toList) := by
  have hstart : ∃ t, (listing (a :: as)).toList = a.text.toList ++ t := by
    cases as with
    | nil => exact ⟨[], (List.append_nil _).symm⟩
    | cons b as => exact ⟨_, listing_cons a b as⟩
  obtain ⟨t, ht⟩ := hstart
  have hne : trim (listing (a :: as)).toList ≠ [] := by
    obtain ⟨c, name, hname, hc⟩ := name_starts a.toNamedType
    rw [ht, a.toList_text, hname, List.cons_append, List.cons_append, trim_cons hc]
    intro hnil
    exact Bool.noConfusion (hc.symm.trans (trimEnd_eq_nil_iff.1 hnil c List.mem_cons_self))
  rw [parse, if_neg (by simpa using hne)]

theorem arguments_length {ss : List (List Char)} {as : List Argument}
    (h : arguments ss = .ok as) : as.length = ss.length := by
  rw [arguments_eq_mapM, mapM_eq_ok] at h
  exact h.length_eq.symm

end Cutting

section Necessity

/-- An argument of which only the default matters. -/
def probe (default : Option String) : Declared where
  name := "x"
  type := "int"
  name_ne := by decide
  name_plain := List.all_iff_forall_prop.1 (by decide)
  type_ne := by decide
  type_trimmed := by decide
  type_balanced := ⟨by decide, by decide, by decide⟩
  type_word := by decide
  default := default

theorem probe_stem : SelfContained "x int DEFAULT ".toList :=
  selfContained_of_plain (List.all_iff_forall_prop.1 (by decide))

theorem probe_text (e : String) :
    (probe (some e)).text.toList = "x int DEFAULT ".toList ++ e.toList := by
  simp [probe, Declared.text]

theorem pieces_length {a : Declared} {as : List Declared}
    (h : parse (listing (a :: as)) = .ok ((a :: as).map Declared.argument)) :
    (split (listing (a :: as)).toList).length = as.length + 1 := by
  rw [parse_listing_eq] at h
  rw [← arguments_length h, List.length_map, List.length_cons]

variable {e : String}

theorem text_commas {a : Declared} (h : parse (listing [a]) = .ok [a.argument]) :
    CommasEnclosed 0 a.text.toList := by
  have hlen : (split (listing [a]).toList).length = 1 := pieces_length h
  rw [listing_singleton] at hlen
  exact commasEnclosed_of_length hlen

theorem default_commas
    (h : parse (listing [probe (some e)]) = .ok [(probe (some e)).argument]) :
    CommasEnclosed 0 e.toList := by
  have htext := text_commas h
  rw [probe_text] at htext
  exact probe_stem.commas_append.1 htext

/-- A default of blanks leaves its mark in the type. -/
theorem default_written
    (h : parse (listing [probe (some e)]) = .ok [(probe (some e)).argument]) :
    ∃ c ∈ e.toList, isBlank c = false := by
  by_contra hnone
  have hblank : ∀ c ∈ ' ' :: e.toList, isBlank c = true := by
    intro c hc
    rcases List.mem_cons.1 hc with rfl | hc
    · exact blank_space
    · by_contra hne
      exact hnone ⟨c, hc, by simpa using hne⟩
  have hone : split (probe (some e)).text.toList = [(probe (some e)).text.toList] :=
    splitFrom_eq_singleton (text_commas h)
  have htext : (probe (some e)).text.toList = "x int DEFAULT".toList ++ ' ' :: e.toList := by
    rw [probe_text]
    rfl
  have htrim : trim (probe (some e)).text.toList = "x int DEFAULT".toList := by
    rw [htext]
    exact (trim_cons (by decide) _).trans (trimEnd_append_of_blank hblank "x int DEFAULT".toList)
  rw [parse_listing_eq, listing_singleton] at h
  have hread : arguments (split (probe (some e)).text.toList) = .ok [⟨"x", "int DEFAULT"⟩] := by
    rw [hone, arguments, htrim]
    rfl
  have hargument := hread.symm.trans h
  simp [probe, Declared.argument] at hargument

theorem default_closed (hcommas : CommasEnclosed 0 e.toList)
    (h : parse (listing [probe (some e), probe none]) =
      .ok ([probe (some e), probe none].map Declared.argument)) :
    depthOver 0 e.toList = 0 := by
  by_contra hopen
  have hlen := pieces_length h
  have htext : CommasEnclosed 0 (listing [probe (some e), probe none]).toList := by
    rw [listing_cons, probe_text, List.append_assoc, probe_stem.commas_append,
      commasEnclosed_append, commasEnclosed_cons]
    exact ⟨hcommas, fun _ => Nat.pos_of_ne_zero hopen,
      commasEnclosed_of_not_mem _ (by decide)⟩
  rw [split, splitFrom_eq_singleton htext] at hlen
  simp at hlen

end Necessity

/-- A class of defaults is read over, wherever they stand in a list, exactly if each of them ends
where its parentheses say. -/
theorem parse_listing_iff (D : String → Prop) :
    (∀ as : List Declared, as ≠ [] → (∀ a ∈ as, ∀ e ∈ a.default, D e) →
      parse (listing as) = .ok (as.map Declared.argument)) ↔ ∀ e, D e → DefaultEnclosed e := by
  constructor
  · intro h e he
    have hone := h [probe (some e)] (List.cons_ne_nil _ _) (by simpa [probe] using he)
    have htwo := h [probe (some e), probe none] (List.cons_ne_nil _ _) (by simpa [probe] using he)
    have hcommas := default_commas hone
    exact ⟨default_written hone, hcommas, default_closed hcommas htwo⟩
  · intro h as hne hd
    cases as with
    | nil => exact absurd rfl hne
    | cons a as =>
      have hlist : arguments (split ([] ++ (listing (a :: as)).toList)) = .ok _ :=
        arguments_listing hne (fun x hx e he => h e (hd x hx e he)) (by simp)
      rw [parse_listing_eq]
      exact hlist

/-- A list of numbers that is written as an array. -/
def scores : Declared where
  name := "scores"
  type := "integer[]"
  name_ne := by decide
  name_plain := List.all_iff_forall_prop.1 (by decide)
  type_ne := by decide
  type_trimmed := by decide
  type_balanced := ⟨by decide, by decide, by decide⟩
  type_word := by decide
  default := some "ARRAY[1, 2]"

/-- The list of its only argument is refused. -/
theorem scores_refused :
    parse (listing [scores]) = .error (.malformedArgument "2]") ∧
      parse (listing [scores]) ≠ .ok ([scores].map Declared.argument) := by
  have h : parse (listing [scores]) = .error (.malformedArgument "2]") := by decide +kernel
  exact ⟨h, by rw [h]; simp⟩

end RoutineBindings.Signature
