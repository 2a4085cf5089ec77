/-
Rules on the leaves of values.

* `Json.leaves`: the values inside a value that are no arrays and no objects;
* `Json.exists_leaf_of_mapLeaves_error`, `Json.leaf_of_mapLeaves`: a replacement
  of the leaves fails iff it fails on one of them;
* `Resolved.applyAll`: rules on a value, one after another;
* `Resolved.eq_insideCharacter_of_apply`: all that a rule can fail with.
-/
import RecordRules.Engine.Value
import RecordRules.Proofs.Folds
import RecordRules.Registry

namespace RecordRules

namespace Json

/-! ### Leaves -/

mutual

/-- The values inside a value that are no arrays and no objects, in order. -/
def leaves : Json → List Json
  | array items => itemLeaves items
  | object members => memberLeaves members
  | leaf => [leaf]

/-- The leaves of all items. -/
def itemLeaves : List Json → List Json
  | [] => []
  | item :: rest => leaves item ++ itemLeaves rest

/-- The leaves of all members. -/
def memberLeaves : List (String × Json) → List Json
  | [] => []
  | (_, value) :: rest => leaves value ++ memberLeaves rest

end

variable {f : Json → Except Fault Json} {e : Fault}

mutual

/-- Leaves that cannot be replaced fail because one of them fails. -/
lemma exists_leaf_of_mapLeaves_error : ∀ {value : Json},
    value.mapLeaves f = .error e → ∃ leaf ∈ value.leaves, f leaf = .error e
  | array items, h => by
    rw [mapLeaves, map_eq_error_iff] at h
    rw [leaves]
    exact exists_leaf_of_mapItems_error h
  | object members, h => by
    rw [mapLeaves, map_eq_error_iff] at h
    rw [leaves]
    exact exists_leaf_of_mapMembers_error h
  | null, h | bool _, h | number _, h | string _, h => ⟨_, List.mem_singleton_self _, h⟩

lemma exists_leaf_of_mapItems_error : ∀ {items : List Json},
    mapItems f items = .error e → ∃ leaf ∈ itemLeaves items, f leaf = .error e
  | [], h => nomatch h
  | item :: rest, h => by
    rw [mapItems, bind_eq_error_iff] at h
    rw [itemLeaves]
    rcases h with h | ⟨_, -, h⟩
    · obtain ⟨leaf, mem, failed⟩ := exists_leaf_of_mapLeaves_error h
      exact ⟨leaf, List.mem_append_left _ mem, failed⟩
    · rcases bind_eq_error_iff.mp h with h | ⟨_, -, h⟩
      · obtain ⟨leaf, mem, failed⟩ := exists_leaf_of_mapItems_error h
        exact ⟨leaf, List.mem_append_right _ mem, failed⟩
      · cases h

lemma exists_leaf_of_mapMembers_error : ∀ {members : List (String × Json)},
    mapMembers f members = .error e → ∃ leaf ∈ memberLeaves members, f leaf = .error e
  | [], h => nomatch h
  | (_, value) :: rest, h => by
    rw [mapMembers, bind_eq_error_iff] at h
    rw [memberLeaves]
    rcases h with h | ⟨_, -, h⟩
    · obtain ⟨leaf, mem, failed⟩ := exists_leaf_of_mapLeaves_error h
      exact ⟨leaf, List.mem_append_left _ mem, failed⟩
    · rcases bind_eq_error_iff.mp h with h | ⟨_, -, h⟩
      · obtain ⟨leaf, mem, failed⟩ := exists_leaf_of_mapMembers_error h
        exact ⟨leaf, List.mem_append_right _ mem, failed⟩
      · cases h

end

mutual

/-- Where the leaves are replaced, each of them has a replacement. -/
lemma leaf_of_mapLeaves : ∀ {value out : Json}, value.mapLeaves f = .ok out →
    ∀ leaf ∈ value.leaves, ∃ replaced, f leaf = .ok replaced
  | array items, _, h => by
    rw [mapLeaves, map_eq_ok_iff] at h
    obtain ⟨_, h, -⟩ := h
    rw [leaves]
    exact leaf_of_mapItems h
  | object members, _, h => by
    rw [mapLeaves, map_eq_ok_iff] at h
    obtain ⟨_, h, -⟩ := h
    rw [leaves]
    exact leaf_of_mapMembers h
  | null, out, h | bool _, out, h | number _, out, h | string _, out, h => fun leaf mem =>
    ⟨out, List.mem_singleton.mp mem ▸ h⟩

lemma leaf_of_mapItems : ∀ {items out : List Json}, mapItems f items = .ok out →
    ∀ leaf ∈ itemLeaves items, ∃ replaced, f leaf = .ok replaced
  | [], _, _ => fun _ mem => nomatch mem
  | item :: rest, _, h => by
    rw [mapItems, bind_eq_ok_iff] at h
    obtain ⟨_, first, h⟩ := h
    obtain ⟨_, others, -⟩ := bind_eq_ok_iff.mp h
    rw [itemLeaves, List.forall_mem_append]
    exact ⟨leaf_of_mapLeaves first, leaf_of_mapItems others⟩

lemma leaf_of_mapMembers : ∀ {members out : List (String × Json)}, mapMembers f members = .ok out →
    ∀ leaf ∈ memberLeaves members, ∃ replaced, f leaf = .ok replaced
  | [], _, _ => fun _ mem => nomatch mem
  | (_, value) :: rest, _, h => by
    rw [mapMembers, bind_eq_ok_iff] at h
    obtain ⟨_, first, h⟩ := h
    obtain ⟨_, others, -⟩ := bind_eq_ok_iff.mp h
    rw [memberLeaves, List.forall_mem_append]
    exact ⟨leaf_of_mapLeaves first, leaf_of_mapMembers others⟩

end

end Json

/-! ### Rules on leaves -/

namespace NoiseWord

lemma eq_insideCharacter_of_removeWord {word s : List Char} {e : Fault}
    (h : removeWord word s = .error e) : e = .insideCharacter := by
  fun_induction removeWord word s with
  | case1 => cases h
  | case2 _ _ _ _ _ _ _ ih => exact ih h
  | case3 => exact (Except.error.inj h).symm
  | case4 => cases h

lemma eq_insideCharacter_of_strip {s : List Char} {e : Fault} (h : strip s = .error e) :
    e = .insideCharacter := by
  rw [strip, bind_eq_error_iff] at h
  rcases h with h | ⟨_, -, h⟩
  · obtain ⟨_, _, _, _, -, -, h⟩ := foldlM_eq_error_iff.mp h
    exact eq_insideCharacter_of_removeWord h
  · cases h

end NoiseWord

namespace Resolved

/-- Rules on a value, one after another, each on all leaves. -/
def applyAll (rules : List (Resolved SanitizerRule)) (value : Json) : Except Fault Json :=
  rules.foldlM (fun value rule => value.mapLeaves rule.apply) value

/-- A rule can fail only where it would divide a text inside a character. -/
lemma eq_insideCharacter_of_apply {resolved : Resolved SanitizerRule} {leaf : Json} {e : Fault}
    (h : resolved.apply leaf = .error e) : e = .insideCharacter := by
  rw [apply] at h
  split at h
  · next sanitizer _ =>
    cases sanitizer with
    | noiseWords =>
      cases leaf with
      | string s => exact NoiseWord.eq_insideCharacter_of_strip (map_eq_error_iff.mp h)
      | _ => cases h
    | _ => cases h
  · cases h
  · split at h <;> cases h

end Resolved

end RecordRules
