/-! # Data

What a settings file holds, whatever its notation: single values, lists and tables, which are
values by name.
-/

namespace Admission

/-! ## Values by name

A list of values with their names, in the order in which the names came. `set`
keeps every name once: it replaces the value of a name that is there and adds a
new name at the end.
-/

/-- Values by name. -/
abbrev Keyed (α : Type) := List (String × α)

namespace Keyed

variable {α : Type}

def find? (entries : Keyed α) (name : String) : Option α :=
  match entries with
  | [] => none
  | (other, value) :: rest => if other = name then some value else find? rest name

/-- Gives a name a value. -/
def set (entries : Keyed α) (name : String) (value : α) : Keyed α :=
  match entries with
  | [] => [(name, value)]
  | (other, old) :: rest =>
    if other = name then (name, value) :: rest else (other, old) :: set rest name value

@[simp] theorem find?_set_self (entries : Keyed α) (name : String) (value : α) :
    (entries.set name value).find? name = some value := by
  fun_induction set entries name value with
  | case1 => simp [find?]
  | case2 => simp [find?]
  | case3 other old rest different ih => simp [find?, different, ih]

theorem find?_set_of_ne (entries : Keyed α) {name other : String} (value : α)
    (different : name ≠ other) : (entries.set name value).find? other = entries.find? other := by
  fun_induction set entries name value with
  | case1 => simp [find?, different]
  | case2 old rest => simp [find?, different]
  | case3 key old rest unequal ih => simp [find?, ih]

/-! ## Values by name, looked up

What `Keyed.set` and a map over the values do to look-ups, and what setting new values does to the
list.
-/

variable {α β : Type} {entries : Keyed α} {name : String} {value : α}

/-- What a name has once one was given a value. -/
theorem find?_set (entries : Keyed α) (name other : String) (value : α) :
    (entries.set name value).find? other =
      if name = other then some value else entries.find? other := by
  by_cases same : name = other
  · subst same
    rw [find?_set_self, if_pos rfl]
  · rw [find?_set_of_ne entries value same, if_neg same]

/-- Only what is no name has no value. -/
theorem find?_eq_none_iff : entries.find? name = none ↔ name ∉ entries.map Prod.fst := by
  fun_induction find? entries name with
  | case1 => exact iff_of_true rfl List.not_mem_nil
  | case2 value rest => exact iff_of_false nofun fun absent => absent List.mem_cons_self
  | case3 other value rest different ih =>
      rw [ih, List.map_cons, List.mem_cons, not_or, and_iff_right (Ne.symm different)]

/-- A map over the values changes what is found and nothing about where. -/
theorem find?_map (f : α → β) (entries : Keyed α) (name : String) :
    Keyed.find? (entries.map fun (other, value) => (other, f value)) name =
      (entries.find? name).map f := by
  fun_induction find? entries name with
  | case1 => rfl
  | case2 value rest => simp [find?]
  | case3 other value rest different ih => simpa [find?, different] using ih

/-- What is found is there, under the name. -/
theorem mem_of_find? (found : entries.find? name = some value) : (name, value) ∈ entries := by
  fun_induction find? entries name with
  | case1 => cases found
  | case2 other rest =>
      cases found
      exact List.mem_cons_self
  | case3 other old rest different ih => exact List.mem_cons_of_mem _ (ih found)

/-- A new name comes last. -/
theorem set_of_absent (absent : entries.find? name = none) (value : α) :
    entries.set name value = entries ++ [(name, value)] := by
  fun_induction set entries name value with
  | case1 => rfl
  | case2 old rest => simp [find?] at absent
  | case3 other old rest different ih =>
      rw [find?, if_neg different] at absent
      exact congrArg ((other, old) :: ·) (ih absent)

/-- Values with new and distinct names, set one after the other, come behind those that are
there. -/
theorem foldl_set {new : Keyed α} (distinct : (new.map Prod.fst).Nodup)
    (fresh : ∀ name ∈ new.map Prod.fst, entries.find? name = none) :
    new.foldl (fun entries entry => entries.set entry.1 entry.2) entries = entries ++ new := by
  induction new generalizing entries with
  | nil => exact (List.append_nil entries).symm
  | cons entry new ih =>
      obtain ⟨absent, distinct⟩ := List.nodup_cons.mp distinct
      obtain ⟨here, later⟩ := List.forall_mem_cons.mp fresh
      rw [List.foldl_cons, ih distinct, set_of_absent here, List.append_assoc]
      · rfl
      · intro other member
        have different : entry.1 ≠ other := fun same => absent (same ▸ member)
        rw [find?_set, if_neg different, later other member]

end Keyed

/-! ## Single values, lists and tables

A date is a text here.
-/

/-- A single value. -/
inductive Atom where
  | nothing
  | boolean (value : Bool)
  | integer (value : Int)
  | real (value : Float)
  | text (value : String)
  deriving Repr

/-- A value with everything inside it. -/
inductive Datum where
  | atom (value : Atom)
  | list (items : List Datum)
  | table (entries : List (String × Datum))
  deriving Repr

end Admission
