import Mathlib.Data.List.Forall2
import Mathlib.Data.List.Nodup
import RoutineBindings.Proofs.EnumTexts
import RoutineBindings.Proofs.ExportedNames
import RoutineBindings.Proofs.Scopes
import RoutineBindings.Proofs.StringLiterals

/-!
# What the declarations of an enum mean

The constants of an enum have its labels as their values, and the method `Valid` tells these from
all other texts. Go gives the method a meaning only in a package that it accepts: the type and the
constants need different names, each of them an identifier, and the one case has to list something.
-/
namespace RoutineBindings.Go
open Text

section Evaluation

/-- A text of a string type, or a truth value. -/
inductive Datum where
  | text (type : String) (bytes : Bytes)
  | bool (b : Bool)
  deriving Repr, DecidableEq

def Datum.type : Datum → String
  | .text type _ => type
  | .bool _ => "bool"

/-- The truth values, which Go declares beforehand. -/
def truthValue? : String → Option Datum
  | "true" => some (.bool true)
  | "false" => some (.bool false)
  | _ => none

/-- The package declares the type, and its values are texts. -/
def isTextType (p : PackageBlock Entity) (type : String) : Bool :=
  match p type with
  | some (.type underlying) => underlying = "string" && (p underlying).isNone
  | _ => false

/-- The value of a constant of a text type is that of its printed literal. -/
def ConstSpec.datum? (p : PackageBlock Entity) (spec : ConstSpec) : Option Datum :=
  if isTextType p spec.type then (decodeLiteral spec.value.print).map (.text spec.type) else none

variable (bs : Blocks Datum) (p : PackageBlock Entity)

def Expr.datum? : Expr → Option Datum
  | .name x =>
    match bs.referent p x with
    | .inner v => some v
    | .package (.constant spec) => spec.datum? p
    | .package _ => none
    | .outer => truthValue? x
  | _ => none

/-- The values that the clauses of a switch list. Each clause has to list one. -/
def clauseData? : List Clause → Option (List Datum)
  | [] => some []
  | .mk values _ :: cs =>
    if values.isEmpty then none
    else do
      let vs ← values.mapM (Expr.datum? bs p)
      let ws ← clauseData? cs
      some (vs ++ ws)

mutual
/-- Runs a statement: inside is what it returns, or nothing if the next one is to run. A switch may
not list a value twice, and only values of the type that it is about. -/
def Stmt.result? : Stmt → Option (Option Datum)
  | .ret [e] => (e.datum? bs p).map some
  | .choose e clauses => do
    let v ← e.datum? bs p
    let vs ← clauseData? bs p clauses
    if vs.Nodup ∧ ∀ w ∈ vs, w.type = v.type then choose? v clauses else none
  | _ => none

def blockResult? : List Stmt → Option (Option Datum)
  | [] => some none
  | s :: ss =>
    match s.result? with
    | some none => blockResult? ss
    | r => r

/-- Runs the first clause that lists the value, if there is one. -/
def choose? (v : Datum) : List Clause → Option (Option Datum)
  | [] => some none
  | .mk values body :: cs =>
    if some v ∈ values.map (Expr.datum? bs p) then blockResult? body else choose? v cs
end

/-- All constants have a value, the method and its receiver are named by identifiers, and the
receiver has a text type. -/
def Callable (α : Alphabet) (ds : List Decl) (p : PackageBlock Entity) (method : String)
    (receiver : Param) : Prop :=
  (∀ spec ∈ constSpecs ds, (spec.datum? p).isSome = true) ∧
    (∀ x ∈ [method, receiver.name], α.spells x = true ∧ x ∉ keywords) ∧
    isTextType p receiver.type = true ∧ p "bool" = none

instance (α : Alphabet) (ds : List Decl) (p : PackageBlock Entity) (method : String)
    (receiver : Param) : Decidable (Callable α ds p method receiver) :=
  inferInstanceAs (Decidable (_ ∧ _))

/-- Calls a method without parameters on a text, in a package of these declarations. -/
def callOn? (α : Alphabet) (ds : List Decl) (method : String) (bytes : Bytes) : Option Bool := do
  let p ← packageBlock? α ds
  match methodsNamed method ds with
  | [⟨_, some c, _, [], .unnamed ["bool"], body⟩] =>
    if Callable α ds p method c then
      match blockResult? [[(c.name, .text c.type bytes)]] p body with
      | some (some (.bool b)) => some b
      | _ => none
    else none
  | _ => none

end Evaluation

namespace Enum

section Declarations
variable (e : Enum)

theorem entities_decls : entities e.decls = (e.goName, .type "string") ::
    e.labels.map fun label => ((e.constSpec label).name, .constant (e.constSpec label)) := by
  simp [entities, Decl.entities, decls, typeDecl, constDecl, validDecl, consts, constSpec,
    Function.comp_def]

theorem declaredNames_decls :
    declaredNames e.decls = e.goName :: e.labels.map fun label => (e.constSpec label).name := by
  simp [declaredNames, entities_decls, Function.comp_def]

theorem beginsSmall_goName : beginsSmall e.goName.toList = false := by
  unfold goName
  cases cutAtLast '.' e.name.toList with
  | none => exact beginsSmall_exportedName e.name
  | some parts => exact beginsSmall_exportedName (String.ofList parts.2)

/-- The names that Go declares beforehand or keeps for itself, and that of the receiver, are none of
those that are declared. -/
theorem not_declared {x : String} (hx : beginsSmall x.toList = true) :
    x ∉ declaredNames e.decls := by
  have hsmall : ∀ y ∈ declaredNames e.decls, beginsSmall y.toList = false := by
    rw [declaredNames_decls]
    refine List.forall_mem_cons.2 ⟨beginsSmall_goName e, fun y hy => ?_⟩
    obtain ⟨label, -, rfl⟩ := List.mem_map.1 hy
    rw [constSpec, String.toList_append]
    exact beginsSmall_append (beginsSmall_goName e) (beginsSmall_exportedName label)
  intro hmem
  exact Bool.false_ne_true ((hsmall x hmem).symm.trans hx)

theorem declares_iff (α : Alphabet) {x : String} (hx : x ∈ declaredNames e.decls) :
    α.declares x = true ↔ α.spells x = true := by
  have hkept : x ∉ "init" :: keywords := by
    have hall : ∀ y ∈ "init" :: keywords, beginsSmall y.toList = true := by decide
    exact fun hmem => not_declared e (hall x hmem) hx
  rw [Alphabet.declares, Bool.and_eq_true, decide_eq_true_eq]
  exact and_iff_left hkept

end Declarations

/-- The names of an enum are identifiers, and no two of them are the same. -/
def Accepted (α : Alphabet) (e : Enum) : Prop :=
  (declaredNames e.decls).Nodup ∧ ∀ x ∈ declaredNames e.decls, α.spells x = true

instance (α : Alphabet) (e : Enum) : Decidable (Accepted α e) :=
  inferInstanceAs (Decidable (_ ∧ _))

/-- What the names of an enum stand for. -/
def package (e : Enum) : PackageBlock Entity := fun x => (entities e.decls).lookup x

section Package
variable (e : Enum)

theorem packageBlock_of_accepted {α : Alphabet} (h : Accepted α e) :
    packageBlock? α e.decls = some e.package :=
  if_pos ⟨h.1, fun x hx => (declares_iff e α hx).2 (h.2 x hx)⟩

theorem packageBlock_of_not_accepted {α : Alphabet} (h : ¬ Accepted α e) :
    packageBlock? α e.decls = none :=
  if_neg fun hp => h ⟨hp.1, fun x hx => (declares_iff e α hx).1 (hp.2 x hx)⟩

theorem package_small {x : String} (hx : beginsSmall x.toList = true) : e.package x = none :=
  lookup_eq_none_of_not_mem (not_declared e hx)

theorem package_type : e.package e.goName = some (.type "string") := by
  rw [package, entities_decls]
  exact List.lookup_cons_self

theorem package_const (h : (declaredNames e.decls).Nodup) {label : String}
    (hlabel : label ∈ e.labels) :
    e.package (e.constSpec label).name = some (.constant (e.constSpec label)) := by
  refine lookup_of_nodup h ?_
  rw [entities_decls]
  exact List.mem_cons_of_mem _ (List.mem_map.2 ⟨label, hlabel, rfl⟩)

theorem isTextType_goName : isTextType e.package e.goName = true := by
  have hstring : e.package "string" = none := package_small e (by decide)
  simp [isTextType, package_type, hstring]

theorem constSpec_datum (label : String) :
    (e.constSpec label).datum? e.package = some (.text e.goName (encode label)) := by
  have hdecoded : decodeLiteral (e.constSpec label).value.print = some (encode label) :=
    decode_quote label
  rw [ConstSpec.datum?, hdecoded]
  exact if_pos (isTextType_goName e)

theorem valid_callable (α : Alphabet) : Callable α e.decls e.package "Valid" ⟨"c", e.goName⟩ := by
  refine ⟨fun spec hspec => ?_, ?_, isTextType_goName e, package_small e (by decide)⟩
  · rw [constSpecs_decls] at hspec
    obtain ⟨label, -, rfl⟩ := List.mem_map.1 hspec
    rw [constSpec_datum]
    rfl
  · have hascii : ∀ x ∈ ["Valid", "c"], x.toList.all isAscii = true ∧
        Alphabet.ascii.spells x = true ∧ x ∉ keywords := by decide
    intro x hx
    obtain ⟨hletters, hspelled, hkept⟩ := hascii x hx
    exact ⟨(α.spells_of_ascii hletters).trans hspelled, hkept⟩

end Package

section Runs
variable (e : Enum) (bytes : Bytes)

/-- The block of the method: it declares the receiver. -/
def receiverBlock : Blocks Datum := [[("c", .text e.goName bytes)]]

theorem datum_receiver :
    (Expr.name "c").datum? (e.receiverBlock bytes) e.package = some (.text e.goName bytes) := rfl

theorem find_receiverBlock {x : String} (hx : x ≠ "c") : (e.receiverBlock bytes).find? x = none := by
  have hc : (x == "c") = false := beq_eq_false_iff_ne.2 hx
  simp [receiverBlock, Blocks.find?, List.lookup_cons, hc]

theorem datum_truth {x : String} (hx : beginsSmall x.toList = true) (hc : x ≠ "c") :
    (Expr.name x).datum? (e.receiverBlock bytes) e.package = truthValue? x := by
  rw [Expr.datum?, Blocks.referent_of_none (find_receiverBlock e bytes hc) (package_small e hx)]

theorem datum_const (h : (declaredNames e.decls).Nodup) {label : String}
    (hlabel : label ∈ e.labels) :
    (Expr.name (e.constSpec label).name).datum? (e.receiverBlock bytes) e.package =
      some (.text e.goName (encode label)) := by
  have hc : (e.constSpec label).name ≠ "c" := by
    intro hname
    refine not_declared e (x := "c") (by decide) ?_
    rw [← hname, declaredNames_decls]
    exact List.mem_cons_of_mem _ (List.mem_map.2 ⟨label, hlabel, rfl⟩)
  rw [Expr.datum?,
    Blocks.referent_of_package (find_receiverBlock e bytes hc) (package_const e h hlabel)]
  exact constSpec_datum e label

/-- The values of the one clause. -/
theorem data_consts (h : (declaredNames e.decls).Nodup) :
    (e.labels.map fun label => Expr.name (e.constSpec label).name).map
        (Expr.datum? (e.receiverBlock bytes) e.package) =
      e.labels.map fun label => some (.text e.goName (encode label)) := by
  rw [List.map_map]
  exact List.map_congr_left fun label hlabel => datum_const e bytes h hlabel

theorem clauseData_valid (h : (declaredNames e.decls).Nodup) (hlabels : e.labels ≠ [])
    (body : List Stmt) :
    clauseData? (e.receiverBlock bytes) e.package
        [.mk (e.labels.map fun label => .name (e.constSpec label).name) body] =
      some (e.labels.map fun label => .text e.goName (encode label)) := by
  have hvalues : (e.labels.map fun label => Expr.name (e.constSpec label).name).mapM
      (Expr.datum? (e.receiverBlock bytes) e.package) =
        some (e.labels.map fun label => .text e.goName (encode label)) := by
    have hmap := List.mapM_map (g := id)
      (f := Expr.datum? (e.receiverBlock bytes) e.package)
      (l := e.labels.map fun label => .name (e.constSpec label).name)
    rw [Function.id_comp] at hmap
    rw [← hmap, data_consts e bytes h, List.mapM_map]
    exact List.mapM_pure
  simp [clauseData?, hlabels, hvalues]

/-- Different names come from different labels, whose literals have different values. -/
theorem consts_nodup (h : (declaredNames e.decls).Nodup) :
    (e.labels.map fun label => Datum.text e.goName (encode label)).Nodup := by
  rw [declaredNames_decls] at h
  have hlabels : e.labels.Nodup := (List.nodup_cons.1 h).2.of_map _
  refine hlabels.map fun label label' heq => ?_
  exact encode_injective (Datum.text.inj heq).2

/-- A statement that returns a truth value. -/
theorem blockResult_ret {x : String} (hx : beginsSmall x.toList = true) (hc : x ≠ "c") :
    blockResult? (e.receiverBlock bytes) e.package [.ret [.name x]] =
      (truthValue? x).map some := by
  rw [blockResult?, Stmt.result?, datum_truth e bytes hx hc]
  cases truthValue? x <;> rfl

/-- The method returns `true` from its one clause, and `false` if that is not taken. -/
theorem valid_result (h : (declaredNames e.decls).Nodup) (hlabels : e.labels ≠ []) :
    blockResult? (e.receiverBlock bytes) e.package e.valid.body =
      some (some (.bool (decide (bytes ∈ e.labels.map encode)))) := by
  have htrue := blockResult_ret e bytes (x := "true") (by decide) (by decide)
  have hfalse := blockResult_ret e bytes (x := "false") (by decide) (by decide)
  have hmem : some (Datum.text e.goName bytes) ∈
      (e.labels.map fun label => Expr.name (e.constSpec label).name).map
        (Expr.datum? (e.receiverBlock bytes) e.package) ↔ bytes ∈ e.labels.map encode := by
    rw [data_consts e bytes h]
    simp
  have htypes : ∀ w ∈ e.labels.map fun label => Datum.text e.goName (encode label),
      w.type = e.goName := by
    intro w hw
    obtain ⟨label, -, rfl⟩ := List.mem_map.1 hw
    rfl
  rw [valid, blockResult?, Stmt.result?, datum_receiver, Option.bind_eq_bind, Option.bind_some,
    clauseData_valid e bytes h hlabels, Option.bind_eq_bind, Option.bind_some,
    if_pos ⟨consts_nodup e h, htypes⟩, choose?]
  by_cases hlisted : bytes ∈ e.labels.map encode
  · rw [if_pos (hmem.2 hlisted), htrue, decide_eq_true hlisted]
    rfl
  · rw [if_neg (mt hmem.1 hlisted), choose?, decide_eq_false hlisted]
    exact hfalse

theorem valid_stuck (hlabels : e.labels = []) :
    blockResult? (e.receiverBlock bytes) e.package e.valid.body = none := by
  rw [valid, hlabels, blockResult?, Stmt.result?, datum_receiver]
  rfl

/-- The method has a meaning exactly if the package accepts the names and there is a label. -/
theorem callOn_valid (α : Alphabet) :
    callOn? α e.decls "Valid" bytes =
      if Accepted α e ∧ e.labels ≠ [] then some (decide (bytes ∈ e.labels.map encode)) else none := by
  by_cases haccepted : Accepted α e
  · have hrun : callOn? α e.decls "Valid" bytes =
        match blockResult? (e.receiverBlock bytes) e.package e.valid.body with
        | some (some (.bool b)) => some b
        | _ => none := by
      rw [callOn?, packageBlock_of_accepted e haccepted, Option.bind_eq_bind, Option.bind_some,
        methodsNamed_decls]
      exact if_pos (valid_callable e α)
    by_cases hlabels : e.labels = []
    · rw [hrun, valid_stuck e bytes hlabels, if_neg fun h => h.2 hlabels]
    · rw [hrun, valid_result e bytes haccepted.1 hlabels, if_pos ⟨haccepted, hlabels⟩]
  · rw [callOn?, packageBlock_of_not_accepted e haccepted, if_neg fun h => haccepted h.1]
    rfl

end Runs

/-- The declarations of an enum say what its labels are: there is a constant for each of them, whose
literal means the label, the one case of `Valid` lists the constants, the declarations are written
like this, and a call of the method tells whether a text is a label. -/
structure Faithful (e : Enum) : Prop where
  constants : List.Forall₂ (fun spec label => spec.name = e.goName ++ exportedName label ∧
    spec.type = e.goName ∧ decodeLiteral spec.value.print = some (encode label))
    (constSpecs e.decls) e.labels
  cases : ∃ valid, methodsNamed "Valid" e.decls = [valid] ∧
    blockCaseLists valid.body = [(constSpecs e.decls).map fun spec => .name spec.name]
  written : ∃ comments, (∀ l ∈ comments, IsLineComment l) ∧ e.decls.map Decl.print =
    [block ["type " ++ e.goName ++ " string"], block (constLines (constSpecs e.decls)),
      block (comments ++ validLines e.goName ((constSpecs e.decls).map ConstSpec.name))]
  called : ∀ α : Alphabet, e.Accepted α → e.labels ≠ [] →
    ∀ bytes, callOn? α e.decls "Valid" bytes = some (decide (bytes ∈ e.labels.map encode))

/-- The declarations of every enum are faithful. -/
theorem decls_faithful (e : Enum) : e.Faithful where
  constants := by
    rw [constSpecs_decls, List.forall₂_map_left_iff, List.forall₂_same]
    exact fun label _ => ⟨rfl, rfl, decode_quote label⟩
  cases := ⟨e.valid, methodsNamed_decls e, caseLists_valid e⟩
  written := ⟨commentLines e.valid.doc, fun _ hl => isLineComment_of_mem hl, decls_print e⟩
  called α haccepted hlabels bytes := by
    rw [callOn_valid, if_pos ⟨haccepted, hlabels⟩]

end Enum

def moodEnum : Enum := ⟨"public.mood", ["happy", "so_so", "\"meh\"\n"]⟩

theorem moodEnum_valid :
    declaredNames moodEnum.decls = ["Mood", "MoodHappy", "MoodSoSo", "MoodMeh"] ∧
      ∀ α : Alphabet, callOn? α moodEnum.decls "Valid" (encode "\"meh\"\n") = some true ∧
        callOn? α moodEnum.decls "Valid" (encode "meh") = some false := by
  have hnames : declaredNames moodEnum.decls = ["Mood", "MoodHappy", "MoodSoSo", "MoodMeh"] := by
    decide +kernel
  refine ⟨hnames, fun α => ?_⟩
  have hnodup : (declaredNames moodEnum.decls).Nodup := by
    rw [hnames]
    decide
  have hspelled : ∀ x ∈ declaredNames moodEnum.decls, α.spells x = true := by
    have hascii : ∀ x ∈ ["Mood", "MoodHappy", "MoodSoSo", "MoodMeh"],
        x.toList.all isAscii = true ∧ Alphabet.ascii.spells x = true := by decide
    rw [hnames]
    exact fun x hx => (α.spells_of_ascii (hascii x hx).1).trans (hascii x hx).2
  have hcalled := moodEnum.decls_faithful.called α ⟨hnodup, hspelled⟩ (List.cons_ne_nil _ _)
  constructor
  · rw [hcalled, funext encode_eq]
    decide +kernel
  · rw [hcalled, funext encode_eq]
    decide +kernel

/-- An enum with a label of which nothing is left in the name of its constant. -/
def dashMood : Enum := ⟨"mood", ["-", "a"]⟩

/-- The constants of `dashMood` differ in name, but the first one has the name of the type. Neither
does Go accept a case that lists nothing, nor a type whose name begins with a digit. -/
theorem dashMood_refused :
    (constSpecs dashMood.decls).map ConstSpec.name = ["Mood", "MoodA"] ∧
      declaredNames dashMood.decls = ["Mood", "Mood", "MoodA"] ∧
      (∀ α bytes, callOn? α dashMood.decls "Valid" bytes = none) ∧
      (∀ α bytes, callOn? α (Enum.mk "mood" []).decls "Valid" bytes = none) ∧
      ∀ α bytes, callOn? α (Enum.mk "_2fa" ["on"]).decls "Valid" bytes = none := by
  have hnames : declaredNames dashMood.decls = ["Mood", "Mood", "MoodA"] := by decide +kernel
  refine ⟨by decide +kernel, hnames, fun α bytes => ?_, fun α bytes => ?_, fun α bytes => ?_⟩
  · rw [Enum.callOn_valid, if_neg]
    rintro ⟨⟨hnodup, -⟩, -⟩
    rw [hnames] at hnodup
    exact absurd hnodup (by decide)
  · rw [Enum.callOn_valid, if_neg]
    exact fun h => h.2 rfl
  · have hdigits : declaredNames (Enum.mk "_2fa" ["on"]).decls = ["2fa", "2faOn"] := by
      decide +kernel
    rw [Enum.callOn_valid, if_neg]
    rintro ⟨⟨-, hspelled⟩, -⟩
    have hname := hspelled "2fa" (by simp [hdigits])
    rw [α.spells_of_ascii (by decide)] at hname
    exact absurd hname (by decide)

end RoutineBindings.Go
