import Mathlib.Logic.Basic
import RoutineBindings.Go.Names
import RoutineBindings.Go.Syntax

/-!
# What names stand for

A name in a function stands for what the innermost block says that declares it, then for what the
package declares, and last for what Go declares beforehand. A package has one block for its types,
constants, variables and functions, and Go refuses a package that declares a name twice there.
-/
namespace RoutineBindings.Go
open Text

/-- The names that a text refers to by themselves, without those selected after a dot. -/
def namesFrom (selected : Bool) (name : List Char) : List Char → List String
  | [] => ended
  | c :: s =>
    if isAlphanumeric c || c = '_' then namesFrom selected (c :: name) s
    else ended ++ namesFrom (c = '.') [] s
where
  ended := if selected || name.isEmpty then [] else [String.ofList name.reverse]

def freeNames (text : String) : List String := namesFrom false [] text.toList

example : freeNames "map[string]*time.Time" = ["map", "string", "time"] := by decide +kernel

/-- What the blocks of a function declare, the innermost first. -/
abbrev Blocks (α : Type) := List (List (String × α))

/-- What a package declares. -/
abbrev PackageBlock (κ : Type) := String → Option κ

/-- What a name can stand for. -/
inductive Referent (α κ : Type) where
  | inner (a : α)
  | package (k : κ)
  /-- What Go declares beforehand, or an imported package. -/
  | outer

def Referent.isOuter {α κ : Type} : Referent α κ → Bool
  | .outer => true
  | _ => false

namespace Blocks
variable {α κ : Type}

def find? (bs : Blocks α) (name : String) : Option α := bs.findSome? (·.lookup name)

def referent (bs : Blocks α) (p : PackageBlock κ) (name : String) : Referent α κ :=
  match bs.find? name with
  | some a => .inner a
  | none =>
    match p name with
    | some k => .package k
    | none => .outer

/-- No block declares a name that the text refers to. -/
def isClear (bs : Blocks α) (text : String) : Bool :=
  (freeNames text).all fun x => (bs.find? x).isNone

/-- The text means what it means outside of the function and of the package. -/
def isPredeclared (bs : Blocks α) (p : PackageBlock κ) (text : String) : Bool :=
  (freeNames text).all fun x => (bs.referent p x).isOuter

theorem referent_of_package {bs : Blocks α} {p : PackageBlock κ} {x : String} {k : κ}
    (h : bs.find? x = none) (hp : p x = some k) : bs.referent p x = .package k := by
  rw [referent, h, hp]

theorem referent_of_none {bs : Blocks α} {p : PackageBlock κ} {x : String}
    (h : bs.find? x = none) (hp : p x = none) : bs.referent p x = .outer := by
  rw [referent, h, hp]

theorem find?_cons (b : List (String × α)) (bs : Blocks α) (x : String) :
    find? (b :: bs) x = (b.lookup x).or (bs.find? x) := by
  rw [find?, List.findSome?_cons]
  cases b.lookup x <;> rfl

theorem isClear_iff {bs : Blocks α} {text : String} :
    bs.isClear text = true ↔ ∀ x ∈ freeNames text, bs.find? x = none := by
  simp only [isClear, List.all_eq_true, Option.isNone_iff_eq_none]

theorem isOuter_referent (bs : Blocks α) (p : PackageBlock κ) (x : String) :
    (bs.referent p x).isOuter = ((bs.find? x).isNone && (p x).isNone) := by
  unfold referent
  cases bs.find? x with
  | some a => rfl
  | none => cases p x <;> rfl

/-- No block declares a name that the text refers to, and neither does the package. -/
theorem isPredeclared_iff {bs : Blocks α} {p : PackageBlock κ} {text : String} :
    bs.isPredeclared p text = true ↔
      bs.isClear text = true ∧ ∀ x ∈ freeNames text, p x = none := by
  simp only [isPredeclared, isOuter_referent, isClear_iff, List.all_eq_true, Bool.and_eq_true,
    Option.isNone_iff_eq_none]
  exact forall₂_and

end Blocks

/-- The letters and digits that identifiers are spelled with. Those of ASCII are the usual ones. -/
structure Alphabet where
  letter : Char → Bool
  digit : Char → Bool
  letter_ascii : ∀ c, isAscii c = true → letter c = (isAsciiUpper c || isAsciiLower c)
  digit_ascii : ∀ c, isAscii c = true → digit c = isAsciiDigit c

namespace Alphabet

/-- ASCII alone. -/
def ascii : Alphabet where
  letter c := isAsciiUpper c || isAsciiLower c
  digit := isAsciiDigit
  letter_ascii _ _ := rfl
  digit_ascii _ _ := rfl

variable (α : Alphabet)

/-- A name is an identifier. The blank one does not count, since it declares nothing. -/
def spells (name : String) : Bool :=
  match name.toList with
  | [] => false
  | c :: cs =>
    (α.letter c || c = '_') && cs.all (fun d => α.letter d || α.digit d || d = '_') && name ≠ "_"

/-- A package can declare the name. Only initializing functions may be named `init`, and they are
not declared. -/
def declares (name : String) : Bool := α.spells name && name ∉ "init" :: keywords

/-- The letters beyond ASCII do not matter to a name that has none. -/
theorem spells_of_ascii {name : String} (h : name.toList.all isAscii = true) :
    α.spells name = ascii.spells name := by
  unfold spells
  cases hname : name.toList with
  | nil => rfl
  | cons c cs =>
    rw [hname, List.all_eq_true] at h
    obtain ⟨hc, hcs⟩ := List.forall_mem_cons.1 h
    have htail : cs.all (fun d => α.letter d || α.digit d || d = '_') =
        cs.all fun d => ascii.letter d || ascii.digit d || d = '_' := by
      rw [Bool.eq_iff_iff, List.all_eq_true, List.all_eq_true]
      refine forall₂_congr fun d hd => ?_
      rw [α.letter_ascii d (hcs d hd), α.digit_ascii d (hcs d hd)]
      rfl
    simp only [htail, α.letter_ascii c hc]
    rfl

end Alphabet

/-- What a package can declare under a name. -/
inductive Entity where
  | type (underlying : String)
  | constant (spec : ConstSpec)
  | variable
  | function

/-- The names of a declaration in the block of the package, where methods have no place. -/
def Decl.entities : Decl → List (String × Entity)
  | .type _ name underlying => [(name, .type underlying)]
  | .const specs => specs.map fun spec => (spec.name, .constant spec)
  | .record _ name _ _ => [(name, .variable)]
  | .func f => if f.receiver.isNone ∧ f.name ≠ "init" then [(f.name, .function)] else []

def entities (ds : List Decl) : List (String × Entity) := ds.flatMap Decl.entities

def declaredNames (ds : List Decl) : List String := (entities ds).map Prod.fst

/-- The block of a package with these declarations, unless Go refuses them. -/
def packageBlock? (α : Alphabet) (ds : List Decl) : Option (PackageBlock Entity) :=
  if (declaredNames ds).Nodup ∧ ∀ x ∈ declaredNames ds, α.declares x = true then
    some fun x => (entities ds).lookup x
  else none

section Lookups
variable {κ : Type} {es : List (String × κ)} {x : String} {k : κ}

theorem lookup_of_nodup (h : (es.map Prod.fst).Nodup) (hx : (x, k) ∈ es) :
    es.lookup x = some k := by
  induction es with
  | nil => exact absurd hx List.not_mem_nil
  | cons e es ih =>
    obtain ⟨he, hes⟩ := List.nodup_cons.1 h
    rcases List.mem_cons.1 hx with rfl | hmem
    · exact List.lookup_cons_self
    · have hne : (x == e.1) = false := by
        rw [beq_eq_false_iff_ne]
        rintro rfl
        exact he (List.mem_map.2 ⟨_, hmem, rfl⟩)
      rw [List.lookup_cons, hne]
      exact ih hes hmem

theorem lookup_eq_none_of_not_mem (h : x ∉ es.map Prod.fst) : es.lookup x = none := by
  refine List.lookup_eq_none_iff.2 fun e he => ?_
  have hne : x ≠ e.1 := by
    rintro rfl
    exact h (List.mem_map_of_mem he)
  simpa using hne

end Lookups
end RoutineBindings.Go
