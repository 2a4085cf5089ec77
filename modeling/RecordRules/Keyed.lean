/-
Lists of values with keys, in the order in which the keys came.

* `Keyed.put`: a value for a key, in its place if the key is there, else at the
  end;
* `Keyed.change`: the value of a key that is there changes;
* `Keyed.changeOrAdd`: the same, and a key that is not there comes with a start
  value.
-/

namespace RecordRules

/-- Values with keys, in order. -/
abbrev Keyed (α : Type) := List (String × α)

namespace Keyed

variable {α : Type}

/-- The value of a key. -/
def get? (list : Keyed α) (key : String) : Option α := list.lookup key

/-- The keys in order. -/
def keys (list : Keyed α) : List String := list.map (·.1)

/-- Sets the value of a key: in its place if the key is there, else at the end. -/
def put : Keyed α → String → α → Keyed α
  | [], key, value => [(key, value)]
  | (k, v) :: rest, key, value =>
    if k = key then (k, value) :: rest else (k, v) :: put rest key value

/-- Changes the value of a key, if the key is there. -/
def change : Keyed α → String → (α → α) → Keyed α
  | [], _, _ => []
  | (k, v) :: rest, key, f => if k = key then (k, f v) :: rest else (k, v) :: change rest key f

/-- Changes the value of a key; a key that is not there comes to the end, and
its start value is changed. -/
def changeOrAdd (start : α) : Keyed α → String → (α → α) → Keyed α
  | [], key, f => [(key, f start)]
  | (k, v) :: rest, key, f => if k = key then (k, f v) :: rest else (k, v) :: changeOrAdd start rest key f

theorem get?_put_self (list : Keyed α) (key : String) (value : α) : (list.put key value).get? key = some value := by
  induction list with
  | nil => simp [put, get?]
  | cons m rest ih =>
    obtain ⟨k, v⟩ := m
    rw [put]
    split
    · next same => simp [get?, same]
    · next other =>
      have differ : (key == k) = false := by simpa using fun h : key = k => other h.symm
      simpa [get?, List.lookup_cons, differ] using ih

theorem get?_put_of_ne (list : Keyed α) {key other : String} (value : α) (h : other ≠ key) :
    (list.put key value).get? other = list.get? other := by
  induction list with
  | nil =>
    have differ : (other == key) = false := by simpa using h
    simp [put, get?, List.lookup_cons, differ]
  | cons m rest ih =>
    obtain ⟨k, v⟩ := m
    rw [put]
    split
    · next same =>
      subst same
      have differ : (other == k) = false := by simpa using h
      simp [get?, List.lookup_cons, differ]
    · simp only [get?, List.lookup_cons] at ih ⊢
      split <;> simp_all

/-- Changing a value keeps the keys. -/
theorem keys_change (list : Keyed α) (key : String) (f : α → α) : (list.change key f).keys = list.keys := by
  induction list with
  | nil => rfl
  | cons m rest ih =>
    obtain ⟨k, v⟩ := m
    rw [change]
    split
    · rfl
    · simpa [keys] using ih

/-- A key that is there stays in its place; another one comes to the end. -/
theorem keys_changeOrAdd (start : α) (list : Keyed α) (key : String) (f : α → α) :
    (list.changeOrAdd start key f).keys = if key ∈ list.keys then list.keys else list.keys ++ [key] := by
  induction list with
  | nil => rfl
  | cons m rest ih =>
    obtain ⟨k, v⟩ := m
    rw [changeOrAdd]
    split
    · next same => simp [keys, same]
    · next other =>
      have differ : ¬ key = k := fun h => other h.symm
      simp only [keys, List.map_cons, List.mem_cons, differ, false_or] at ih ⊢
      rw [ih]
      split <;> simp_all

end Keyed

end RecordRules
