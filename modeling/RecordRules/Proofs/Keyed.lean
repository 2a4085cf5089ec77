/-
Keys of lists of values with keys.

* `eraseDups_concat`: names in the order of their first mention;
* `mem_keys_iff`, `isSome_get?_iff`, `get?_eq_none_iff`: the keys that are there have values;
* `get?_concat`: one more entry at the end;
* `keys_put`: a value for a key that is there keeps the keys, and the value that it
  has already keeps the list (`put_eq_self`);
* `get?_change`, `get?_changeOrAdd`: the values after a change;
* `get?_foldl_change`, `keys_foldl_change`: changes under some of the keys;
* `nodup_keys_changeOrAdd`: no key comes twice;
* `forall_mem_changeOrAdd`: what every entry has, it has after a change;
* `eq_of_get?_eq`: a list without repeated keys is given by its keys and values;
* `Keyed.all`: all values of a key in a list in which keys come more than once;
* `getD_foldl_changeOrAdd`, `keys_foldl_changeOrAdd`: changes entry by entry.
-/
import Mathlib.Data.List.Forall2
import Mathlib.Data.List.Induction
import Mathlib.Data.List.Nodup
import RecordRules.Keyed

namespace RecordRules

/-! ### First mentions -/

section FirstMention

variable {α : Type} [DecidableEq α]

lemma eraseDups_concat (l : List α) (a : α) :
    (l ++ [a]).eraseDups = if a ∈ l then l.eraseDups else l.eraseDups ++ [a] := by
  rw [List.eraseDups_append]
  by_cases mem : a ∈ l
  · have nothing : [a].removeAll l = [] := by simp [List.removeAll, mem]
    rw [nothing, List.eraseDups_nil, List.append_nil, if_pos mem]
  · have itself : [a].removeAll l = [a] := by simp [List.removeAll, mem]
    rw [itself, if_neg mem]
    rfl

lemma eraseDups_append_eraseDups (l m : List α) : (l ++ m.eraseDups).eraseDups = (l ++ m).eraseDups := by
  induction m using List.reverseRecOn with
  | nil => rfl
  | append_singleton m a ih =>
    rw [← List.append_assoc, eraseDups_concat m, eraseDups_concat (l ++ m), ← ih]
    by_cases mem : a ∈ m
    · rw [if_pos mem, if_pos (List.mem_append_right l mem)]
    · rw [if_neg mem, ← List.append_assoc, eraseDups_concat]
      simp only [List.mem_append, List.mem_eraseDups]

lemma eraseDups_of_nodup {l : List α} (nodup : l.Nodup) : l.eraseDups = l := by
  induction l with
  | nil => rfl
  | cons a l ih =>
    obtain ⟨absent, nodup⟩ := List.nodup_cons.mp nodup
    have kept : l.filter (fun b => !b == a) = l := by
      refine List.filter_eq_self.mpr fun b mem => ?_
      have differ : b ≠ a := fun same => absent (same ▸ mem)
      simpa using differ
    rw [List.eraseDups_cons, kept, ih nodup]

omit [DecidableEq α] in
lemma nodup_append_singleton {l : List α} {a : α} (nodup : l.Nodup) (fresh : a ∉ l) : (l ++ [a]).Nodup := by
  rw [← List.concat_eq_append]
  exact nodup.concat fresh

lemma nodup_eraseDups (l : List α) : l.eraseDups.Nodup := by
  induction l using List.reverseRecOn with
  | nil => exact List.nodup_nil
  | append_singleton l a ih =>
    rw [eraseDups_concat]
    split
    · exact ih
    · next absent =>
      exact nodup_append_singleton ih (mt List.mem_eraseDups.mp absent)

lemma eraseDups_eraseDups_append (l m : List α) : (l.eraseDups ++ m).eraseDups = (l ++ m).eraseDups := by
  induction m using List.reverseRecOn with
  | nil =>
    rw [List.append_nil, List.append_nil]
    exact eraseDups_of_nodup (nodup_eraseDups l)
  | append_singleton m a ih =>
    rw [← List.append_assoc, ← List.append_assoc, eraseDups_concat, eraseDups_concat, ih]
    simp only [List.mem_append, List.mem_eraseDups]

end FirstMention

namespace Keyed

variable {α : Type} {list : Keyed α} {key : String} {value : α}

/-! ### Looking up -/

lemma get?_cons (k : String) (v : α) (rest : Keyed α) (key : String) :
    get? ((k, v) :: rest) key = if key = k then some v else rest.get? key := by
  rw [get?, List.lookup_cons]
  by_cases same : key = k
  · simp [same]
  · have differ : (key == k) = false := by simpa using same
    rw [differ, if_neg same]
    rfl

lemma mem_of_get? (h : list.get? key = some value) : (key, value) ∈ list := by
  obtain ⟨before, after, rfl, -⟩ := List.lookup_eq_some_iff.mp h
  exact List.mem_append_right before List.mem_cons_self

lemma mem_keys_of_mem (h : (key, value) ∈ list) : key ∈ list.keys :=
  List.mem_map.mpr ⟨(key, value), h, rfl⟩

/-- A key is there iff it has a value. -/
lemma mem_keys_iff : key ∈ list.keys ↔ ∃ value, list.get? key = some value := by
  constructor
  · intro there
    obtain ⟨⟨_, value⟩, mem, rfl⟩ := List.mem_map.mp there
    exact Option.isSome_iff_exists.mp (List.lookup_isSome_iff.mpr ⟨_, mem, beq_self_eq_true _⟩)
  · rintro ⟨value, found⟩
    exact mem_keys_of_mem (mem_of_get? found)

lemma isSome_get?_iff : (list.get? key).isSome ↔ key ∈ list.keys := by
  rw [mem_keys_iff, Option.isSome_iff_exists]

lemma get?_eq_none_iff : list.get? key = none ↔ key ∉ list.keys := by
  rw [mem_keys_iff, not_exists, Option.eq_none_iff_forall_ne_some]

lemma get?_of_mem (nodup : list.keys.Nodup) (mem : (key, value) ∈ list) : list.get? key = some value := by
  induction list with
  | nil => cases mem
  | cons m rest ih =>
    obtain ⟨k, v⟩ := m
    obtain ⟨fresh, nodup⟩ := List.nodup_cons.mp nodup
    rw [get?_cons]
    rcases List.mem_cons.mp mem with same | mem
    · cases same
      rw [if_pos rfl]
    · have differ : ¬ key = k := fun same => fresh (same ▸ mem_keys_of_mem mem)
      rw [if_neg differ, ih nodup mem]

/-- An entry at the end counts for its key if the key is not there before. -/
lemma get?_concat (list : Keyed α) (key : String) (value : α) (other : String) :
    get? (list ++ [(key, value)]) other = (list.get? other).or (if other = key then some value else none) := by
  rw [get?, List.lookup_append]
  exact congrArg _ (get?_cons key value [] other)

lemma get?_concat_self (fresh : key ∉ list.keys) : get? (list ++ [(key, value)]) key = some value := by
  rw [get?_concat, get?_eq_none_iff.mpr fresh, Option.none_or, if_pos rfl]

lemma get?_concat_of_ne {other : String} (differ : other ≠ key) :
    get? (list ++ [(key, value)]) other = list.get? other := by
  rw [get?_concat, if_neg differ, Option.or_none]

lemma get?_concat_of_eq_some {other : String} {found : α} (h : list.get? other = some found) :
    get? (list ++ [(key, value)]) other = some found := by
  rw [get?_concat, h, Option.some_or]

lemma keys_concat (list : Keyed α) (key : String) (value : α) :
    keys (list ++ [(key, value)]) = list.keys ++ [key] := List.map_append

/-- Two lists without repeated keys are the same if they have the same keys, in
the same order, with the same values. -/
lemma eq_of_get?_eq {other : Keyed α} (nodup : list.keys.Nodup) (keys : other.keys = list.keys)
    (values : ∀ key, other.get? key = list.get? key) : other = list := by
  induction list generalizing other with
  | nil => exact List.map_eq_nil_iff.mp keys
  | cons m rest ih =>
    obtain ⟨k, v⟩ := m
    obtain ⟨fresh, distinct⟩ := List.nodup_cons.mp nodup
    obtain ⟨⟨k', w⟩, more, rfl, same_key, others⟩ := List.map_eq_cons_iff.mp keys
    obtain rfl : k' = k := same_key
    have first := values k'
    rw [get?_cons, get?_cons, if_pos rfl, if_pos rfl, Option.some.injEq] at first
    subst first
    refine congrArg _ (ih distinct others fun key => ?_)
    by_cases same : key = k'
    · subst same
      have fresh' : key ∉ Keyed.keys more := by
        rw [Keyed.keys, others]
        exact fresh
      rw [get?_eq_none_iff.mpr fresh', get?_eq_none_iff.mpr fresh]
    · have later := values key
      rw [get?_cons, get?_cons, if_neg same, if_neg same] at later
      exact later

lemma get?_map {β : Type} (list : Keyed α) (f : α → β) (key : String) :
    get? (list.map fun (k, value) => (k, f value)) key = (list.get? key).map f := by
  induction list with
  | nil => rfl
  | cons m rest ih =>
    rw [List.map_cons, get?_cons, get?_cons, ih]
    split <;> rfl

/-! ### Setting and changing -/

/-- A key that is there stays in its place; another one comes to the end. -/
lemma keys_put (list : Keyed α) (key : String) (value : α) :
    (list.put key value).keys = if key ∈ list.keys then list.keys else list.keys ++ [key] := by
  induction list with
  | nil => rfl
  | cons m rest ih =>
    obtain ⟨k, v⟩ := m
    rw [put]
    split
    · next same => simp [keys, same]
    · next other =>
      have differ : ¬ key = k := fun h => other h.symm
      simp only [keys, List.map_cons, List.mem_cons, differ, false_or] at ih ⊢
      rw [ih]
      exact apply_ite (List.cons k) _ _ _

/-- A value for a new key comes to the end. -/
lemma put_of_notMem (h : key ∉ list.keys) (value : α) : list.put key value = list ++ [(key, value)] := by
  induction list with
  | nil => rfl
  | cons entry rest ih =>
    obtain ⟨other, absent⟩ := not_or.mp (mt List.mem_cons.mpr h)
    rw [put, if_neg (Ne.symm other), ih absent, List.cons_append]

lemma keys_put_of_mem (h : key ∈ list.keys) (value : α) : (list.put key value).keys = list.keys := by
  rw [keys_put, if_pos h]

/-- Setting the value that a key has already. -/
lemma put_eq_self (h : list.get? key = some value) : list.put key value = list := by
  induction list with
  | nil => cases h
  | cons m rest ih =>
    obtain ⟨k, v⟩ := m
    rw [get?_cons] at h
    rw [put]
    by_cases same : key = k
    · rw [if_pos same, Option.some.injEq] at h
      rw [if_pos same.symm, h]
    · rw [if_neg same] at h
      rw [if_neg (Ne.symm same), ih h]

lemma nodup_keys_put (nodup : list.keys.Nodup) (key : String) (value : α) : (list.put key value).keys.Nodup := by
  rw [keys_put]
  split
  · exact nodup
  · next absent => exact nodup_append_singleton nodup absent

lemma get?_change (list : Keyed α) (key : String) (f : α → α) (other : String) :
    (list.change key f).get? other = if other = key then (list.get? key).map f else list.get? other := by
  induction list with
  | nil => simp [change, get?]
  | cons m rest ih =>
    obtain ⟨k, v⟩ := m
    by_cases same : k = key
    · subst same
      by_cases here : other = k <;> simp [change, get?_cons, here]
    · have apart : ¬ key = k := fun h => same h.symm
      rw [change, if_neg same, get?_cons, ih, get?_cons, get?_cons, if_neg apart]
      by_cases here : other = k
      · subst here
        simp [same]
      · simp [here]

/-- Values that are changed under each of some keys; a change that is made twice
is like one. -/
lemma get?_foldl_change {f : α → α} (twice : ∀ value, f (f value) = f value) (keys : List String)
    (list : Keyed α) (key : String) :
    (keys.foldl (fun list k => list.change k f) list).get? key =
      if key ∈ keys then (list.get? key).map f else list.get? key := by
  induction keys generalizing list with
  | nil => rfl
  | cons k keys ih =>
    rw [List.foldl_cons, ih, get?_change]
    by_cases same : key = k
    · subst same
      have again : ((list.get? key).map f).map f = (list.get? key).map f := by
        rw [Option.map_map]
        exact congrArg (Option.map · (list.get? key)) (funext twice)
      simp [again]
    · simp [same]

lemma get?_changeOrAdd (start : α) (list : Keyed α) (key : String) (f : α → α) (other : String) :
    (list.changeOrAdd start key f).get? other =
      if other = key then some (f ((list.get? key).getD start)) else list.get? other := by
  induction list with
  | nil =>
    rw [changeOrAdd, get?_cons]
    rfl
  | cons m rest ih =>
    obtain ⟨k, v⟩ := m
    by_cases same : k = key
    · subst same
      by_cases here : other = k <;> simp [changeOrAdd, get?_cons, here]
    · have apart : ¬ key = k := fun h => same h.symm
      rw [changeOrAdd, if_neg same, get?_cons, ih, get?_cons, get?_cons, if_neg apart]
      by_cases here : other = k
      · subst here
        simp [same]
      · simp [here]

lemma keys_foldl_change (keys : List String) (f : α → α) (list : Keyed α) :
    (keys.foldl (fun list k => list.change k f) list).keys = list.keys := by
  induction keys generalizing list with
  | nil => rfl
  | cons k keys ih => rw [List.foldl_cons, ih, keys_change]

lemma nodup_keys_changeOrAdd (start : α) (nodup : list.keys.Nodup) (key : String) (f : α → α) :
    (list.changeOrAdd start key f).keys.Nodup := by
  rw [keys_changeOrAdd]
  split
  · exact nodup
  · next absent => exact nodup_append_singleton nodup absent

/-- What every entry has, it has after a change that brings it to the key. -/
lemma forall_mem_changeOrAdd {P : String × α → Prop} {start : α} {f : α → α} (all : ∀ m ∈ list, P m)
    (new : P (key, f start)) (kept : ∀ value, P (key, value) → P (key, f value)) :
    ∀ m ∈ list.changeOrAdd start key f, P m := by
  induction list with
  | nil => exact List.forall_mem_singleton.mpr new
  | cons m rest ih =>
    obtain ⟨k, v⟩ := m
    obtain ⟨first, others⟩ := List.forall_mem_cons.mp all
    rw [changeOrAdd]
    split
    · next same =>
      subst same
      exact List.forall_mem_cons.mpr ⟨kept v first, others⟩
    · exact List.forall_mem_cons.mpr ⟨first, ih others⟩

/-! ### Keys that come more than once -/

/-- All values that stand under a key, in order. -/
def all (list : Keyed α) (key : String) : List α :=
  list.filterMap fun (k, value) => if k = key then some value else none

lemma all_cons (m : String × α) (rest : Keyed α) (key : String) :
    all (m :: rest) key = (if m.1 = key then [m.2] else []) ++ rest.all key := by
  rw [all, List.filterMap_cons]
  split <;> simp_all [all]

lemma mem_all_iff {list : Keyed α} {key : String} {value : α} :
    value ∈ list.all key ↔ (key, value) ∈ list := by
  rw [all, List.mem_filterMap]
  constructor
  · rintro ⟨⟨k, v⟩, mem, same⟩
    dsimp only at same
    split at same
    · next here =>
      cases same
      exact here ▸ mem
    · cases same
  · exact fun mem => ⟨_, mem, if_pos rfl⟩

lemma all_of_nodup (nodup : list.keys.Nodup) (key : String) : list.all key = (list.get? key).toList := by
  induction list with
  | nil => rfl
  | cons m rest ih =>
    obtain ⟨k, v⟩ := m
    obtain ⟨fresh, nodup⟩ := List.nodup_cons.mp nodup
    rw [all_cons, get?_cons, ih nodup]
    by_cases same : key = k
    · subst same
      rw [if_pos rfl, if_pos rfl, get?_eq_none_iff.mpr fresh]
      rfl
    · rw [if_neg fun h => same h.symm, if_neg same]
      rfl

/-- Changes under the keys of some entries, each made by the value of its entry:
the values of a key change it in their order. -/
lemma getD_foldl_changeOrAdd {β : Type} (start : String → α) (f : β → α → α) (added : Keyed β)
    (list : Keyed α) (key : String) :
    (get? (added.foldl (fun list (k, b) => list.changeOrAdd (start k) k (f b)) list) key).getD (start key) =
      (added.all key).foldl (fun a b => f b a) ((list.get? key).getD (start key)) := by
  induction added generalizing list with
  | nil => rfl
  | cons m rest ih =>
    rw [List.foldl_cons, ih, all_cons, get?_changeOrAdd]
    by_cases same : key = m.1
    · subst same
      simp
    · have apart : ¬ m.1 = key := fun h => same h.symm
      simp [same, apart]

lemma keys_foldl_changeOrAdd {β : Type} {mentioned : List String} (start : String → α) (f : β → α → α)
    (added : Keyed β) (h : list.keys = mentioned.eraseDups) :
    keys (added.foldl (fun list (k, b) => list.changeOrAdd (start k) k (f b)) list) =
      (mentioned ++ added.keys).eraseDups := by
  induction added generalizing list mentioned with
  | nil => simpa [keys] using h
  | cons m rest ih =>
    have first : (list.changeOrAdd (start m.1) m.1 (f m.2)).keys = (mentioned ++ [m.1]).eraseDups := by
      rw [keys_changeOrAdd, h, eraseDups_concat]
      simp only [List.mem_eraseDups]
    rw [List.foldl_cons, ih first, List.append_assoc]
    rfl

/-- Lists whose entries have the same keys and related values. -/
abbrev Alike {β : Type} (R : α → β → Prop) : Keyed α → Keyed β → Prop :=
  List.Forall₂ fun m n => m.1 = n.1 ∧ R m.2 n.2

lemma Alike.keys_eq {β : Type} {R : α → β → Prop} {l : Keyed α} {out : Keyed β} (h : Alike R l out) :
    out.keys = l.keys := by
  induction h with
  | nil => rfl
  | cons first _ ih => exact congrArg₂ List.cons first.1.symm ih

lemma Alike.all {β : Type} {R : α → β → Prop} {l : Keyed α} {out : Keyed β} (h : Alike R l out)
    (key : String) : List.Forall₂ R (l.all key) (out.all key) := by
  induction h with
  | nil => exact .nil
  | cons first _ ih =>
    rw [all_cons, all_cons, first.1]
    split
    · exact .cons first.2 ih
    · exact ih

end Keyed

end RecordRules
