import Mathlib.Data.List.Forall2
import RoutineBindings.Proofs.GoStates
import RoutineBindings.Proofs.Resolution
import RoutineBindings.Wrapper.Decls

/-!
# What wrappers return

A wrapper stops at the first call that fails and returns that failure; otherwise it returns what it
has decoded. Here this is said for every outcome of the calls, and the texts are listed that have
to mean something outside of the wrapper for it to be so.
-/
namespace RoutineBindings.Wrapper
open Go

/-- The names that are declared when a wrapper starts. -/
def entry (w : WrapperOptions) (r : ResolvedRoutine) : List String :=
  (params w r).map Param.name ++ (results r.result).names

/-- The names that are declared where a wrapper sends its statement. -/
def connected (w : WrapperOptions) (r : ResolvedRoutine) : List String :=
  (if usesAccessor w then ["db", "err"] else []) ++ entry w r

/-- A text in the body of a wrapper, and the names that are declared where it stands. -/
structure Use where
  text : String
  declared : List String

/-- What the text refers to is not declared by the wrapper. -/
def Use.IsOuter (u : Use) : Prop := ∀ x ∈ freeNames u.text, x ∉ u.declared

instance : DecidablePred Use.IsOuter :=
  fun u => inferInstanceAs (Decidable (∀ x ∈ freeNames u.text, x ∉ u.declared))

/-- The texts that refer to functions of the package or of an imported one. -/
def functionUses (w : WrapperOptions) (r : ResolvedRoutine) : List Use :=
  (if usesAccessor w then [⟨w.dbAccessor, entry w r⟩] else []) ++
    (if passesIdentifierSlice r then [⟨arrayFunction w, connected w r⟩] else [])

/-- The types that a row is decoded into. -/
def rowTypeUses (w : WrapperOptions) (r : ResolvedRoutine) (element : String) : List Use :=
  if isPointer element then
    [⟨"new", "rows" :: connected w r⟩, ⟨pointee element, "rows" :: connected w r⟩]
  else [⟨element, "rows" :: connected w r⟩]

/-- The texts that refer to types and values when the result is read. -/
def resultUses (w : WrapperOptions) (r : ResolvedRoutine) : List Use :=
  match r.result with
  | .none => []
  | .single goType structScan =>
    ⟨"nil", connected w r⟩ :: (zeroValue? goType).toList.map (⟨·, connected w r⟩) ++
      if structScan then [⟨"new", connected w r⟩, ⟨pointee goType, connected w r⟩] else []
  | .rows _ element _ =>
    [⟨"nil", "rows" :: connected w r⟩, ⟨"append", "value" :: "rows" :: connected w r⟩] ++
      rowTypeUses w r element

/-- The texts that refer to types, values and functions that are predeclared or imported. -/
def predeclaredUses (w : WrapperOptions) (r : ResolvedRoutine) : List Use :=
  (if usesAccessor w then [⟨"nil", connected w r⟩] else []) ++ resultUses w r

/-- No text of the body is captured by a parameter or a variable of the wrapper. -/
def Uncaptured (w : WrapperOptions) (r : ResolvedRoutine) : Prop :=
  ∀ u ∈ functionUses w r ++ predeclaredUses w r, u.IsOuter

instance (w : WrapperOptions) (r : ResolvedRoutine) : Decidable (Uncaptured w r) :=
  inferInstanceAs (Decidable (∀ u ∈ functionUses w r ++ predeclaredUses w r, u.IsOuter))

theorem Uncaptured.accessor {w : WrapperOptions} {r : ResolvedRoutine} (h : Uncaptured w r)
    (hu : usesAccessor w = true) : Use.IsOuter ⟨w.dbAccessor, entry w r⟩ :=
  h _ (List.mem_append_left _ (by rw [functionUses, if_pos hu]; exact List.mem_cons_self))

theorem Uncaptured.arrayFormatter {w : WrapperOptions} {r : ResolvedRoutine} (h : Uncaptured w r)
    (hp : passesIdentifierSlice r = true) : Use.IsOuter ⟨arrayFunction w, connected w r⟩ :=
  h _ (List.mem_append_left _
    (List.mem_append_right _ (by rw [if_pos hp]; exact List.mem_cons_self)))

theorem Uncaptured.predeclared {w : WrapperOptions} {r : ResolvedRoutine} (h : Uncaptured w r)
    {u : Use} (hu : u ∈ predeclaredUses w r) : u.IsOuter :=
  h u (List.mem_append_right _ hu)

/-- The package has the functions that the options name, and declares none of the other names. -/
structure Suits (p : Package) (w : WrapperOptions) (r : ResolvedRoutine) : Prop where
  accessor : usesAccessor w = true → p w.dbAccessor = some .accessor
  arrayFormatter : passesIdentifierSlice r = true → p (arrayFunction w) = some .arrayFormatter
  predeclared : ∀ u ∈ predeclaredUses w r, ∀ x ∈ freeNames u.text, p x = none

section Outcomes
variable {δ ε : Type}

/-- The failure of the accessor, where there is one. -/
def accessorFailure (w : WrapperOptions) (a : Answers δ ε) : Option ε :=
  if usesAccessor w then a.accessor else none

/-- What is returned with a failure: the zero literal of the type or, where none is known, the
variable of the result with what may have been written to it. -/
def withFailure (goType : String) (written : Option δ) : Value δ ε :=
  match zeroValue? goType with
  | some literal => .ofOuter literal
  | none => (written.map .decoded).getD (.zeroOf goType)

/-- The value is the decoded content, or a pointer to it. -/
def IsDecoded (s : State δ ε) (pointer : Bool) (v : Value δ ε) (content : δ) : Prop :=
  if pointer then ∃ k, v = .pointer k ∧ s.cells k = .decoded content else v = .decoded content

/-- What a wrapper returns, given the answers to its calls, and the state that it leaves. -/
def Returned (w : WrapperOptions) (a : Answers δ ε) (vs : List (Value δ ε)) (s : State δ ε) :
    ResultShape → Prop
  | .none => s.closed = 0 ∧ vs = [.ofError ((accessorFailure w a).or a.exec)]
  | .single goType structScan => s.closed = 0 ∧
    match accessorFailure w a, a.row with
    | some e, _ => vs = [withFailure goType none, .error e]
    | none, .failed e written => vs = [withFailure goType written, .error e]
    | none, .done d => ∃ v, vs = [v, .nil] ∧ IsDecoded s structScan v d
  | .rows _ element _ =>
    match accessorFailure w a, a.query with
    | some e, _ => s.closed = 0 ∧ vs = [.nil, .error e]
    | none, .error e => s.closed = 0 ∧ vs = [.nil, .error e]
    | none, .ok set => s.closed = 1 ∧
      match set.failure with
      | some e => vs = [.nil, .error e]
      | none => ∃ v xs, vs = [v, .nil] ∧ v.elements? = some xs ∧
        List.Forall₂ (IsDecoded s (isPointer element)) xs (set.rows.filterMap Scan.written)

/-- The arguments of a call: the connection, if it is a parameter, and then the values. -/
def callArguments (w : WrapperOptions) (values : List (Value δ ε)) : List (Value δ ε) :=
  if usesAccessor w then values else .connection :: values

end Outcomes

/-- Whatever the values of the parameters are and however the calls end, the wrapper returns what
it should. Loops may run once more than there are rows. -/
def Faithful (p : Package) (w : WrapperOptions) (r : ResolvedRoutine) : Prop :=
  ∀ (δ ε : Type) (a : Answers δ ε) (values : List (Value δ ε)) (fuel : Nat),
    values.length = r.arguments.length → (∀ set, a.query = .ok set → set.rows.length < fuel) →
    ∃ vs s, (funcDecl w r).run p a fuel (callArguments w values) = some (vs, s) ∧
      Returned w a vs s r.result

end RoutineBindings.Wrapper
