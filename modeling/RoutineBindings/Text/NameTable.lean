/-!
# Tables of names

A table gives texts for names, each name once and in ascending order.
-/
namespace RoutineBindings.Text

abbrev NameTable := List (String × String)

namespace NameTable

/-- Binds a name; an earlier binding of it gives way. -/
def insert (name value : String) : NameTable → NameTable
  | [] => [(name, value)]
  | (n, v) :: rest =>
    if name < n then (name, value) :: (n, v) :: rest
    else if name = n then (name, value) :: rest
    else (n, v) :: insert name value rest

/-- The table of a list of bindings, of which the last for a name counts. -/
def ofList (bindings : List (String × String)) : NameTable :=
  bindings.foldl (fun t (n, v) => insert n v t) []

def get? (t : NameTable) (name : String) : Option String := t.lookup name

theorem get?_insert_self (name value : String) (t : NameTable) :
    get? (insert name value t) name = some value := by
  induction t with
  | nil => simp [insert, get?]
  | cons b t ih =>
    obtain ⟨n, v⟩ := b
    by_cases hlt : name < n
    · simp [insert, hlt, get?]
    · by_cases heq : name = n
      · simp [insert, heq, get?]
      · have hne : (name == n) = false := by simpa using heq
        simpa [insert, hlt, heq, get?, List.lookup_cons, hne] using ih

theorem get?_insert_of_ne {other name : String} (h : other ≠ name) (value : String)
    (t : NameTable) : get? (insert name value t) other = get? t other := by
  have hb : (other == name) = false := by simpa using h
  induction t with
  | nil => simp [insert, get?, List.lookup_cons, hb]
  | cons b t ih =>
    obtain ⟨n, v⟩ := b
    by_cases hlt : name < n
    · simp [insert, hlt, get?, List.lookup_cons, hb]
    · by_cases heq : name = n
      · subst heq
        simp [insert, get?, List.lookup_cons, hb]
      · simp only [get?] at ih
        simp [insert, hlt, heq, get?, List.lookup_cons, ih]

end NameTable
end RoutineBindings.Text
