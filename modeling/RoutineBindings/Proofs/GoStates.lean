import RoutineBindings.Go.Names
import RoutineBindings.Proofs.GoMeaning

/-!
# Names and cells

While a function runs, every declared name has a cell of its own. So a name keeps its value until
it is assigned itself, and a cell that no name has keeps its content.
-/
namespace RoutineBindings.Go
variable {δ ε : Type}

/-- The names that bodies of wrappers use whatever the types are. -/
def bodyNames : List String := wrapperLocals ++ ["nil", "new", "append"]

theorem freeNames_bodyName {x : String} (h : x ∈ bodyNames) : freeNames x = [x] := by
  have hall : ∀ y ∈ bodyNames, freeNames y = [y] := by decide +kernel
  exact hall x h

namespace State

/-- The blocks declare exactly these names, each with a cell of its own. -/
structure Frame (s : State δ ε) (names : List String) : Prop where
  declared : ∀ x, (s.find x).isSome = true ↔ x ∈ names
  below : ∀ {x k}, s.find x = some k → k < s.next
  apart : ∀ {x y k}, s.find x = some k → s.find y = some k → x = y

/-- The value of a declared name. -/
def value? (s : State δ ε) (x : String) : Option (Value δ ε) := (s.find x).map s.cells

/-- Gives a declared name a value. -/
def set (s : State δ ε) (x : String) (v : Value δ ε) : State δ ε :=
  match s.find x with
  | some k => s.write k v
  | none => s

/-- No name has the cell. -/
def Unnamed (s : State δ ε) (k : Nat) : Prop := k < s.next ∧ ∀ x, s.find x ≠ some k

/-- The state at the start of a block in the body. -/
def enter (s : State δ ε) : State δ ε := { s with blocks := [] :: s.blocks }

section Find
variable (s : State δ ε) (x y : String) (k : Nat) (v : Value δ ε)

@[simp] theorem find_write : (s.write k v).find x = s.find x := rfl

@[simp] theorem find_allocate : (s.allocate v).find x = s.find x := rfl

@[simp] theorem find_enter : s.enter.find x = s.find x := rfl

@[simp] theorem find_declare :
    (s.declare y v).find x = if x = y then some s.next else s.find x := by
  by_cases h : x = y
  · simp [find, declare, Blocks.find?_cons, h]
  · have hb : (x == y) = false := by simpa using h
    have hl : ∀ b, List.lookup x ((y, s.next) :: b) = List.lookup x b := by
      simp [List.lookup_cons, hb]
    cases hs : s.blocks <;>
      simp [find, declare, allocate, Blocks.find?_cons, hl, h, hs]

@[simp] theorem find_set : (s.set y v).find x = s.find x := by
  unfold set
  split <;> rfl

@[simp] theorem next_set : (s.set x v).next = s.next := by
  unfold set
  split <;> rfl

@[simp] theorem blocks_set : (s.set x v).blocks = s.blocks := by
  unfold set
  split <;> rfl

@[simp] theorem deferred_set : (s.set x v).deferred = s.deferred := by
  unfold set
  split <;> rfl

@[simp] theorem ahead_set : (s.set x v).ahead = s.ahead := by
  unfold set
  split <;> rfl

@[simp] theorem closed_set : (s.set x v).closed = s.closed := by
  unfold set
  split <;> rfl

theorem write_eq_set {s : State δ ε} {x : String} {k : Nat} (h : s.find x = some k)
    (v : Value δ ε) : s.write k v = s.set x v := by simp [set, h]

end Find

section Frames
variable {s : State δ ε} {names : List String} {x y : String} {k : Nat} {v : Value δ ε}

theorem Frame.find (h : s.Frame names) (hx : x ∈ names) : ∃ k, s.find x = some k :=
  Option.isSome_iff_exists.1 ((h.declared x).2 hx)

theorem Frame.congr {names' : List String} (h : s.Frame names)
    (hn : ∀ x, x ∈ names ↔ x ∈ names') : s.Frame names' where
  declared x := (h.declared x).trans (hn x)
  below := h.below
  apart := h.apart

theorem Frame.find_eq_none (h : s.Frame names) (hx : x ∉ names) : s.find x = none := by
  rw [← Option.not_isSome_iff_eq_none, h.declared]
  exact hx

theorem Frame.set (h : s.Frame names) (x : String) (v : Value δ ε) : (s.set x v).Frame names where
  declared y := by simpa using h.declared y
  below hy := by simpa using h.below (by simpa using hy)
  apart hy hz := h.apart (by simpa using hy) (by simpa using hz)

theorem Frame.enter (h : s.Frame names) : s.enter.Frame names where
  declared y := by simpa using h.declared y
  below hy := h.below (by simpa using hy)
  apart hy hz := h.apart (by simpa using hy) (by simpa using hz)

theorem Frame.allocate (h : s.Frame names) (v : Value δ ε) : (s.allocate v).Frame names where
  declared := h.declared
  below hy := Nat.lt_succ_of_lt (h.below hy)
  apart := h.apart

theorem Frame.declare (h : s.Frame names) (x : String) (v : Value δ ε) :
    (s.declare x v).Frame (x :: names) where
  declared y := by
    rw [find_declare, List.mem_cons]
    by_cases hy : y = x
    · simp [hy]
    · simpa [hy] using h.declared y
  below {y k} hy := by
    rw [find_declare] at hy
    split at hy
    · cases hy
      exact Nat.lt_succ_self _
    · exact Nat.lt_succ_of_lt (h.below hy)
  apart {y z k} hy hz := by
    rw [find_declare] at hy hz
    split at hy <;> split at hz
    · simp [*]
    · cases hy
      exact absurd (h.below hz) (Nat.lt_irrefl _)
    · cases hz
      exact absurd (h.below hy) (Nat.lt_irrefl _)
    · exact h.apart hy hz

theorem value?_set (h : s.Frame names) (hx : x ∈ names) (y : String) :
    (s.set x v).value? y = if y = x then some v else s.value? y := by
  obtain ⟨k, hk⟩ := h.find hx
  by_cases hy : y = x
  · rw [value?, find_set, hy, hk]
    simp [State.set, hk, write]
  · simp only [value?, find_set, if_neg hy]
    cases hj : s.find y with
    | none => rfl
    | some j =>
      have hjk : j ≠ k := fun he => hy (h.apart hj (he ▸ hk))
      simp [State.set, hk, write, hjk]

theorem value?_declare (h : s.Frame names) (x : String) (v : Value δ ε) (y : String) :
    (s.declare x v).value? y = if y = x then some v else s.value? y := by
  by_cases hy : y = x
  · rw [value?, find_declare, if_pos hy]
    simp [hy, State.declare, State.allocate]
  · simp only [value?, find_declare, if_neg hy]
    cases hj : s.find y with
    | none => rfl
    | some j => simp [State.declare, State.allocate, Nat.ne_of_lt (h.below hj)]

theorem value?_allocate (h : s.Frame names) (v : Value δ ε) (y : String) :
    (s.allocate v).value? y = s.value? y := by
  simp only [value?, find_allocate]
  cases hj : s.find y with
  | none => rfl
  | some j => simp [State.allocate, Nat.ne_of_lt (h.below hj)]

theorem value?_write_unnamed (hk : s.Unnamed k) (v : Value δ ε) (y : String) :
    (s.write k v).value? y = s.value? y := by
  simp only [value?, find_write]
  cases hj : s.find y with
  | none => rfl
  | some j =>
    have hjk : j ≠ k := fun he => hk.2 y (he ▸ hj)
    simp [write, hjk]

theorem cells_set_of_unnamed (hk : s.Unnamed k) (x : String) (v : Value δ ε) :
    (s.set x v).cells k = s.cells k := by
  unfold State.set
  cases hx : s.find x with
  | none => rfl
  | some j =>
    have hkj : k ≠ j := fun he => hk.2 x (he ▸ hx)
    simp [write, hkj]

theorem Unnamed.set (hk : s.Unnamed k) (x : String) (v : Value δ ε) : (s.set x v).Unnamed k :=
  ⟨by simpa using hk.1, fun y => by simpa using hk.2 y⟩

theorem Unnamed.allocate (hk : s.Unnamed k) (v : Value δ ε) : (s.allocate v).Unnamed k :=
  ⟨Nat.lt_succ_of_lt hk.1, hk.2⟩

theorem Unnamed.declare (hk : s.Unnamed k) (x : String) (v : Value δ ε) :
    (s.declare x v).Unnamed k := by
  refine ⟨Nat.lt_succ_of_lt hk.1, fun y => ?_⟩
  rw [find_declare]
  split
  · exact fun he => absurd hk.1 (by simp_all)
  · exact hk.2 y

theorem Frame.write (h : s.Frame names) (j : Nat) (v : Value δ ε) : (s.write j v).Frame names where
  declared := h.declared
  below := h.below
  apart := h.apart

theorem Unnamed.write (hk : s.Unnamed k) (j : Nat) (v : Value δ ε) : (s.write j v).Unnamed k := hk

theorem unnamed_next (h : s.Frame names) (v : Value δ ε) : (s.allocate v).Unnamed s.next :=
  ⟨Nat.lt_succ_self _, fun _ hy => absurd (h.below hy) (Nat.lt_irrefl _)⟩

theorem isClear_iff (h : s.Frame names) {t : String} :
    s.isClear t = true ↔ ∀ x ∈ freeNames t, x ∉ names := by
  rw [isClear, Blocks.isClear_iff]
  simp only [← h.declared, Bool.not_eq_true, Option.isSome_eq_false_iff, Option.isNone_iff_eq_none]
  rfl

theorem isPredeclared_iff {p : Package} (h : s.Frame names) {t : String}
    (hp : ∀ x ∈ freeNames t, p x = none) :
    s.isPredeclared p t = true ↔ ∀ x ∈ freeNames t, x ∉ names := by
  rw [isPredeclared, Blocks.isPredeclared_iff, and_iff_left hp]
  exact isClear_iff h

theorem isClear_of_isPredeclared {p : Package} {t : String} (h : s.isPredeclared p t = true) :
    s.isClear t = true :=
  (Blocks.isPredeclared_iff.1 h).1

theorem isPredeclared_bodyName {p : Package} {x : String} (hx : x ∈ bodyNames) :
    s.isPredeclared p x = true ↔ s.find x = none ∧ p x = none := by
  rw [isPredeclared, Blocks.isPredeclared_iff, Blocks.isClear_iff, freeNames_bodyName hx,
    List.forall_mem_singleton, List.forall_mem_singleton]
  rfl

theorem lookup_head (h : s.blocks.tail = []) (x : String) :
    (s.blocks.headD []).lookup x = s.find x := by
  unfold State.find
  cases hb : s.blocks with
  | nil => rfl
  | cons b bs =>
    rw [hb, List.tail_cons] at h
    rw [Blocks.find?_cons, h]
    exact Option.or_none.symm

/-- `x, y := v, u` where only the first name is new. -/
theorem define_first (hs : s.blocks.tail = []) (hx : s.find x = none) (hy : s.find y = some k)
    (hblank : x ≠ "_" ∧ y ≠ "_") (v u : Value δ ε) :
    s.define [x, y] [v, u] = some ((s.declare x v).set y u) := by
  have hyx : y ≠ x := by
    rintro rfl
    exact nomatch hx.symm.trans hy
  simp [define, -List.headD_eq_head?_getD, lookup_head hs, hx, hy, hblank, State.set, hyx]

/-- `x, y := v, u` where both names are new. -/
theorem define_both (hs : s.blocks.tail = []) (hx : s.find x = none) (hy : s.find y = none)
    (hblank : x ≠ "_" ∧ y ≠ "_") (v u : Value δ ε) :
    s.define [x, y] [v, u] = some ((s.declare x v).declare y u) := by
  simp [define, -List.headD_eq_head?_getD, lookup_head hs, hx, hy, hblank]

/-- `_, y := v, u` -/
theorem define_second (hs : s.blocks.tail = []) (hy : s.find y = none) (hblank : y ≠ "_")
    (v u : Value δ ε) : s.define ["_", y] [v, u] = some (s.declare y u) := by
  simp [define, -List.headD_eq_head?_getD, lookup_head hs, hy, hblank]

/-- `x := v` in a block that declares nothing yet. -/
theorem define_one (hs : s.blocks.headD [] = []) (hblank : x ≠ "_") (v : Value δ ε) :
    s.define [x] [v] = some (s.declare x v) := by
  simp [define, -List.headD_eq_head?_getD, hs, hblank]

end Frames
end State

section Steps
variable {p : Package} {a : Answers δ ε} {s t u : State δ ε} {names : List String} {n : Nat}

theorem eval_variable {x : String} {v : Value δ ε} (hx : x ∈ bodyNames)
    (hv : s.value? x = some v) : (Expr.name x).eval p a s = some ([v], s) := by
  obtain ⟨k, hk, rfl⟩ := Option.map_eq_some_iff.1 hv
  have hinner : ¬ s.isPredeclared p x = true := by
    simp [State.isPredeclared_bodyName hx, hk]
  simp [Expr.eval, hinner, hk]

theorem isPredeclared_enter (x : String) : s.enter.isPredeclared p x = s.isPredeclared p x := rfl

theorem eval_declared (hf : s.Frame names) {x : String} (hx : x ∈ names) :
    ∃ v, (Expr.name x).eval p a s = some ([v], s) := by
  obtain ⟨k, hk⟩ := hf.find hx
  by_cases h : s.isPredeclared p x = true
  · exact ⟨_, eval_outer h⟩
  · exact ⟨s.cells k, by simp [Expr.eval, h, hk]⟩

theorem eval_accessor {f : String} (hclear : s.isClear f = true) (hf : p f = some .accessor) :
    (Expr.call f []).eval p a s =
      some ([a.accessor.elim .connection fun _ => .nil, .ofError a.accessor], s) := by
  cases h : a.accessor <;> simp [Expr.eval, hclear, hf, h, Value.ofError]

theorem eval_new {x : String} (hnew : s.isPredeclared p "new" = true)
    (hx : s.isPredeclared p x = true) :
    (Expr.call "new" [.name x]).eval p a s = some ([.pointer s.next], s.allocate (.zeroOf x)) := by
  have hclear := State.isClear_of_isPredeclared hnew
  obtain ⟨-, hp⟩ := (State.isPredeclared_bodyName (by decide)).1 hnew
  simp [Expr.eval, hclear, hp, hx]

theorem eval_append {e e' : Expr} {v x : Value δ ε} {vs : List (Value δ ε)}
    (happend : s.isPredeclared p "append" = true) (he : e.eval p a s = some ([v], s))
    (he' : e'.eval p a s = some ([x], s)) (hv : v.elements? = some vs) :
    (Expr.call "append" [e, e']).eval p a s = some ([.slice (vs ++ [x])], s) := by
  have hclear := State.isClear_of_isPredeclared happend
  obtain ⟨-, hp⟩ := (State.isPredeclared_bodyName (by decide)).1 happend
  simp [Expr.eval, hclear, hp, evalAll, he, he', hv]

theorem evalAll_cons_stuck {e : Expr} {es : List Expr} (he : e.eval p a s = none) :
    evalAll p a s (e :: es) = none := by
  simp [evalAll, he]

theorem eval_method {r : Expr} {m : String} {as : List Expr} {v : Value δ ε}
    {vs : List (Value δ ε)} (hr : r.eval p a s = some ([v], t))
    (has : evalAll p a t as = some (vs, u)) :
    (Expr.method r m as).eval p a s = u.call a v m vs := by
  simp [Expr.eval, hr, has]

theorem test_ne_nil {l : Expr} {v : Value δ ε} (hl : l.eval p a s = some ([v], t))
    (hnil : t.isPredeclared p "nil" = true) :
    (Expr.binary l "!=" (.name "nil")).test p a s = some (!v.isNil, t) := by
  simp [Expr.test, Expr.eval, hl, hnil, Value.ofOuter]

theorem exec_define {xs : List String} {e : Expr} {vs : List (Value δ ε)}
    (he : e.eval p a s = some (vs, t)) (hd : t.define xs vs = some u) :
    (Stmt.define xs e).exec p a n s = some (.next, u) := by
  simp [Stmt.exec, he, hd]

theorem exec_assign {x : String} {e : Expr} {v : Value δ ε} (he : e.eval p a s = some ([v], t))
    (hf : t.Frame names) (hx : x ∈ names) (hblank : x ≠ "_") :
    (Stmt.assign [x] e).exec p a n s = some (.next, t.set x v) := by
  obtain ⟨k, hk⟩ := hf.find hx
  simp [Stmt.exec, he, State.assign, hblank, hk, State.set]

theorem inBlock_returned {bs : List Stmt} {vs : List (Value δ ε)}
    (h : execBlock p a n s.enter bs = some (.returned vs, s.enter)) :
    inBlock (fun s => execBlock p a n s bs) s = some (.returned vs, s) := by
  have h' : execBlock p a n { s with blocks := [] :: s.blocks } bs =
      some (.returned vs, s.enter) := h
  simp [inBlock, h', State.enter]

/-- A condition that holds returns from the function. -/
theorem exec_branch_returned {c : Expr} {es : List Expr} {vs : List (Value δ ε)}
    (hc : c.test p a s = some (true, s)) (hes : evalAll p a s.enter es = some (vs, s.enter)) :
    (Stmt.branch c [.ret es]).exec p a n s = some (.returned vs, s) := by
  simp [Stmt.exec, hc, inBlock_returned (execBlock_returned (exec_ret hes))]

theorem exec_branch_next {c : Expr} {bs : List Stmt} (hc : c.test p a s = some (false, t)) :
    (Stmt.branch c bs).exec p a n s = some (.next, t) := by
  simp [Stmt.exec, hc]

theorem exec_branch_stuck {c : Expr} {bs : List Stmt} (hc : c.test p a s = none) :
    (Stmt.branch c bs).exec p a n s = none := by
  simp [Stmt.exec, hc]

theorem exec_returnOnError_next {es : List Expr} (herr : s.value? "err" = some .nil)
    (hnil : s.isPredeclared p "nil" = true) :
    (Stmt.returnOnError es).exec p a n s = some (.next, s) :=
  exec_branch_next (test_ne_nil (eval_variable (by decide) herr) hnil)

theorem exec_returnOnError_returned {es : List Expr} {vs : List (Value δ ε)} {e : ε}
    (herr : s.value? "err" = some (.error e)) (hnil : s.isPredeclared p "nil" = true)
    (hes : evalAll p a s.enter es = some (vs, s.enter)) :
    (Stmt.returnOnError es).exec p a n s = some (.returned vs, s) :=
  exec_branch_returned (test_ne_nil (eval_variable (by decide) herr) hnil) hes

end Steps

section Stuck
variable {p : Package} {a : Answers δ ε} {s t : State δ ε} {n : Nat}

theorem eval_call_stuck {f : String} {as : List Expr} (h : s.isClear f = false) :
    (Expr.call f as).eval p a s = none := by
  simp [Expr.eval, h]

theorem eval_new_stuck {x : String} (hp : p "new" = none)
    (h : ¬ (s.isPredeclared p "new" = true ∧ s.isPredeclared p x = true)) :
    (Expr.call "new" [.name x]).eval p a s = none := by
  by_cases hclear : s.isClear "new" = true
  · have hnew : s.isPredeclared p "new" = true := by
      refine Blocks.isPredeclared_iff.2 ⟨hclear, ?_⟩
      rwa [freeNames_bodyName (by decide), List.forall_mem_singleton]
    have hx : ¬ s.isPredeclared p x = true := fun hx => h ⟨hnew, hx⟩
    simp [Expr.eval, hp, hx]
  · exact eval_call_stuck (Bool.not_eq_true _ ▸ hclear)

theorem eval_method_stuck {r : Expr} {m : String} {as : List Expr} {v : Value δ ε}
    (hr : r.eval p a s = some ([v], t)) (has : evalAll p a t as = none) :
    (Expr.method r m as).eval p a s = none := by
  simp [Expr.eval, hr, has]

theorem eval_receiver_stuck {r : Expr} {m : String} {as : List Expr}
    (hr : r.eval p a s = none) : (Expr.method r m as).eval p a s = none := by
  simp [Expr.eval, hr]

/-- An error cannot be compared with a text. -/
theorem test_stuck {l : Expr} {v : Value δ ε} {x : String} (hl : l.eval p a s = some ([v], t))
    (hnil : t.value? "nil" = some (.text x)) :
    (Expr.binary l "!=" (.name "nil")).test p a s = none := by
  have hr : (Expr.name "nil").eval p a t = some ([.text x], t) :=
    eval_variable (by decide) hnil
  have hbinary : (Expr.binary l "!=" (.name "nil")).eval p a s = none := by
    rw [Expr.eval, hl]
    simp only [Option.bind_eq_bind, Option.bind_some, hr]
  simp [Expr.test, hbinary]

theorem exec_define_stuck {xs : List String} {e : Expr} (he : e.eval p a s = none) :
    (Stmt.define xs e).exec p a n s = none := by
  simp [Stmt.exec, he]

theorem exec_assign_stuck {xs : List String} {e : Expr} (he : e.eval p a s = none) :
    (Stmt.assign xs e).exec p a n s = none := by
  simp [Stmt.exec, he]

theorem exec_branch_values_stuck {c : Expr} {es : List Expr} (hc : c.test p a s = some (true, s))
    (hes : evalAll p a s.enter es = none) : (Stmt.branch c [.ret es]).exec p a n s = none := by
  have hblock : execBlock p a n { s with blocks := [] :: s.blocks } [.ret es] = none := by
    have hes' : evalAll p a { s with blocks := [] :: s.blocks } es = none := hes
    simp [execBlock, Stmt.exec, hes']
  simp [Stmt.exec, hc, inBlock, hblock]

end Stuck
end RoutineBindings.Go
