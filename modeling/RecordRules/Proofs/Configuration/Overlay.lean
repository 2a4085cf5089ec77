/-
Configurations on top of one another.

* `FieldSpec.foldl_overlay`: of specs on top of one another, the last one that sets
  an attribute gives its value;
* `Configuration.spec`: what a configuration says about a field, also about one
  that it does not mention;
* `Configuration.spec_overlay`, `Configuration.keys_overlay`: a configuration on top
  of another one, field by field, and the order of the fields;
* `Configuration.Distinct`: the configurations in which no field comes twice; with
  the empty one they are a monoid;
* `Configuration.overlay_laws`: these laws, and what they say about files.
-/
import Mathlib.Algebra.BigOperators.Group.List.Basic
import Mathlib.Data.Set.List
import RecordRules.Proofs.Configuration.Loading

namespace RecordRules

namespace FieldSpec

/-! ### One field -/

lemma empty_overlay (spec : FieldSpec) : empty.overlay spec = spec := by
  simp [overlay, empty, Option.orElse_eq_orElse, Option.orElse_eq_or]

lemma overlay_empty (spec : FieldSpec) : spec.overlay empty = spec := by
  simp [overlay, empty, Option.orElse_eq_orElse, Option.orElse_eq_or]

lemma overlay_self (spec : FieldSpec) : spec.overlay spec = spec := by
  simp [overlay, Option.orElse_eq_orElse, Option.orElse_eq_or]

/-- The value of an attribute in the last spec that sets it. -/
def lastSet (value : FieldSpec → Option String) (specs : List FieldSpec) : Option String :=
  specs.reverse.findSome? value

lemma lastSet_concat (value : FieldSpec → Option String) (specs : List FieldSpec) (spec : FieldSpec) :
    lastSet value (specs ++ [spec]) = (value spec <|> lastSet value specs) := by
  rw [lastSet, List.reverse_append, List.reverse_singleton, List.singleton_append, List.findSome?_cons]
  cases value spec <;> rfl

/-- Specs on top of one another: each attribute has the value that was set last. -/
lemma foldl_overlay (specs : List FieldSpec) :
    specs.foldl overlay empty = ⟨lastSet label specs, lastSet sanitizations specs, lastSet validations specs⟩ := by
  induction specs using List.reverseRecOn with
  | nil => rfl
  | append_singleton specs spec ih =>
    rw [List.foldl_concat, ih, lastSet_concat, lastSet_concat, lastSet_concat]
    rfl

end FieldSpec

namespace Configuration

variable {lower upper : Configuration} {id : String}

/-! ### Field by field -/

/-- What a configuration says about a field: nothing, if it does not mention it. -/
def spec (configuration : Configuration) (id : String) : FieldSpec := (configuration.fields.get? id).getD .empty

lemma get?_eq_spec (there : id ∈ upper.fields.keys) : upper.fields.get? id = some (upper.spec id) := by
  obtain ⟨value, found⟩ := Keyed.mem_keys_iff.mp there
  rw [spec, found]
  rfl

/-- Configurations without repeated fields are the same if they mention the same
fields in the same order and say the same about each. -/
lemma eq_of_spec_eq (nodup : upper.fields.keys.Nodup) (keys : lower.fields.keys = upper.fields.keys)
    (specs : ∀ id, lower.spec id = upper.spec id) : lower = upper := by
  refine congrArg Configuration.mk (Keyed.eq_of_get?_eq nodup keys fun id => ?_)
  by_cases there : id ∈ upper.fields.keys
  · rw [get?_eq_spec there, get?_eq_spec (keys ▸ there), specs]
  · rw [Keyed.get?_eq_none_iff.mpr there, Keyed.get?_eq_none_iff.mpr (keys ▸ there)]

lemma spec_overlay (lower : Configuration) (nodup : upper.fields.keys.Nodup) (id : String) :
    (lower.overlay upper).spec id = (lower.spec id).overlay (upper.spec id) := by
  have changes := Keyed.getD_foldl_changeOrAdd (fun _ => .empty) (fun spec below => below.overlay spec)
    upper.fields lower.fields id
  rw [spec, overlay, changes, Keyed.all_of_nodup nodup, spec, spec]
  cases upper.fields.get? id with
  | none => exact (FieldSpec.overlay_empty _).symm
  | some above => rfl

/-- The fields in the order of their first mention. -/
lemma keys_overlay (nodup : lower.fields.keys.Nodup) (upper : Configuration) :
    (lower.overlay upper).fields.keys = (lower.fields.keys ++ upper.fields.keys).eraseDups :=
  Keyed.keys_foldl_changeOrAdd (fun _ => FieldSpec.empty) (fun spec below => below.overlay spec) upper.fields
    (eraseDups_of_nodup nodup).symm

/-- The fields of the lower configuration, and then those that only the upper one
has. -/
lemma keys_overlay_eq_append (nodup : lower.fields.keys.Nodup) (nodup' : upper.fields.keys.Nodup) :
    (lower.overlay upper).fields.keys =
      lower.fields.keys ++ upper.fields.keys.filter (· ∉ lower.fields.keys) := by
  have others : upper.fields.keys.removeAll lower.fields.keys =
      upper.fields.keys.filter (· ∉ lower.fields.keys) :=
    List.filter_congr fun key _ => by simp
  rw [keys_overlay nodup, List.eraseDups_append, eraseDups_of_nodup nodup, others,
    eraseDups_of_nodup (nodup'.filter _)]

lemma nodup_overlay (nodup : lower.fields.keys.Nodup) (upper : Configuration) :
    (lower.overlay upper).fields.keys.Nodup := by
  rw [keys_overlay nodup]
  exact nodup_eraseDups _

/-! ### The monoid of configurations -/

/-- Both sides mention the same fields in the same order and say the same about
each. -/
lemma overlay_assoc {a b : Configuration} (ha : a.fields.keys.Nodup) (hb : b.fields.keys.Nodup)
    {c : Configuration} (hc : c.fields.keys.Nodup) :
    (a.overlay b).overlay c = a.overlay (b.overlay c) := by
  refine eq_of_spec_eq (nodup_overlay ha _) ?_ fun id => ?_
  · rw [keys_overlay (nodup_overlay ha _), keys_overlay ha, keys_overlay ha, keys_overlay hb,
      eraseDups_eraseDups_append, eraseDups_append_eraseDups, List.append_assoc]
  · rw [spec_overlay _ hc, spec_overlay _ hb, spec_overlay _ (nodup_overlay hb _), spec_overlay _ hc,
      FieldSpec.overlay_assoc]

lemma empty_overlay {configuration : Configuration} (nodup : configuration.fields.keys.Nodup) :
    empty.overlay configuration = configuration := by
  refine eq_of_spec_eq nodup ?_ fun id => ?_
  · have none : empty.fields.keys.Nodup := List.nodup_nil
    rw [keys_overlay none]
    exact eraseDups_of_nodup nodup
  · rw [spec_overlay _ nodup]
    exact FieldSpec.empty_overlay _

lemma overlay_empty (configuration : Configuration) : configuration.overlay empty = configuration := rfl

lemma overlay_self {configuration : Configuration} (nodup : configuration.fields.keys.Nodup) :
    configuration.overlay configuration = configuration := by
  refine eq_of_spec_eq nodup ?_ fun id => ?_
  · have none : configuration.fields.keys.filter (· ∉ configuration.fields.keys) = [] :=
      List.filter_eq_nil_iff.mpr fun key there => by simpa using there
    rw [keys_overlay_eq_append nodup nodup, none, List.append_nil]
  · rw [spec_overlay _ nodup, FieldSpec.overlay_self]

/-- The configurations in which no field comes twice. -/
abbrev Distinct := { configuration : Configuration // configuration.fields.keys.Nodup }

namespace Distinct

/-- The product has its right factor on top. -/
instance : Monoid Distinct where
  mul lower upper := ⟨lower.1.overlay upper.1, nodup_overlay lower.2 upper.1⟩
  one := ⟨empty, List.nodup_nil⟩
  mul_assoc a b c := Subtype.ext (overlay_assoc a.2 b.2 c.2)
  one_mul a := Subtype.ext (empty_overlay a.2)
  mul_one a := Subtype.ext (overlay_empty a.1)

lemma val_prod (layers : List Distinct) : layers.prod.1 = (layers.map (·.1)).foldl overlay empty := by
  induction layers using List.reverseRecOn with
  | nil => rfl
  | append_singleton layers layer ih =>
    rw [List.prod_append, List.prod_singleton, List.map_append, List.foldl_append, ← ih]
    rfl

end Distinct

/-! ### Many configurations -/

variable {layers : List Configuration}

/-- However the configurations are grouped, they say the same together. -/
lemma foldl_overlay_flatten {groups : List (List Configuration)}
    (nodup : ∀ group ∈ groups, ∀ layer ∈ group, layer.fields.keys.Nodup) :
    (groups.map (List.foldl overlay empty)).foldl overlay empty = groups.flatten.foldl overlay empty := by
  lift groups to List (List Distinct) using nodup
  have grouped : (groups.map List.prod).map (·.1) =
      (groups.map (List.map (·.1))).map (List.foldl overlay empty) := by
    rw [List.map_map, List.map_map]
    exact List.map_congr_left fun group _ => Distinct.val_prod group
  rw [← List.map_flatten, ← Distinct.val_prod, List.prod_flatten, Distinct.val_prod, grouped]

lemma keys_foldl_overlay (layers : List Configuration) :
    (layers.foldl overlay empty).fields.keys = (layers.flatMap (·.fields.keys)).eraseDups := by
  induction layers using List.reverseRecOn with
  | nil => rfl
  | append_singleton layers layer ih =>
    have nodup : (layers.foldl overlay empty).fields.keys.Nodup := by
      rw [ih]
      exact nodup_eraseDups _
    rw [List.foldl_concat, keys_overlay nodup, ih, eraseDups_eraseDups_append, List.flatMap_append,
      List.flatMap_singleton]

lemma spec_foldl_overlay (nodup : ∀ layer ∈ layers, layer.fields.keys.Nodup) (id : String) :
    (layers.foldl overlay empty).spec id = (layers.map (·.spec id)).foldl FieldSpec.overlay .empty := by
  induction layers using List.reverseRecOn with
  | nil => rfl
  | append_singleton layers layer ih =>
    obtain ⟨below, top⟩ := List.forall_mem_append.mp nodup
    have top := top layer (List.mem_singleton.mpr rfl)
    rw [List.foldl_concat, List.map_append, List.foldl_append, spec_overlay _ top, ih below]
    rfl

/-- The configurations of files, each by itself. -/
lemma ofFiles_eq_ok {files : Files} {paths : List String}
    (read : List.Forall₂ (fun path layer => ofFile files path = .ok layer) paths layers) :
    ofFiles files paths = .ok (layers.foldl overlay empty) := by
  rw [ofFiles, mapM_eq_ok_iff.mpr read]
  rfl

lemma nodup_of_ofFile {files : Files} {paths : List String}
    (read : List.Forall₂ (fun path layer => ofFile files path = .ok layer) paths layers) :
    ∀ layer ∈ layers, layer.fields.keys.Nodup := by
  induction read with
  | nil => exact nofun
  | cons first _ ih => exact List.forall_mem_cons.mpr ⟨(loaded_ofFile first).nodup, ih⟩

/-- **The laws of configurations on top of one another.** They are a monoid, the
order of the fields included: the upper one adds its own fields to those of the
lower one. So files may be grouped in any way: each attribute of a field has the
value of the last file that sets it. -/
theorem overlay_laws (a b c : Distinct) :
    (a.1.overlay b.1).overlay c.1 = a.1.overlay (b.1.overlay c.1) ∧
    empty.overlay a.1 = a.1 ∧ a.1.overlay empty = a.1 ∧ a.1.overlay a.1 = a.1 ∧
    (a.1.overlay b.1).fields.keys = a.1.fields.keys ++ b.1.fields.keys.filter (· ∉ a.1.fields.keys) ∧
    ∀ (files : Files) (paths : List String) (layers : List Configuration),
      List.Forall₂ (fun path layer => ofFile files path = .ok layer) paths layers →
      ∃ whole, ofFiles files paths = .ok whole ∧
        (∀ groups : List (List Configuration), groups.flatten = layers →
          (groups.map (List.foldl overlay empty)).foldl overlay empty = whole) ∧
        whole.fields.keys = (layers.flatMap (·.fields.keys)).eraseDups ∧
        ∀ id,
          let said := layers.map (·.spec id)
          whole.spec id = ⟨FieldSpec.lastSet (·.label) said, FieldSpec.lastSet (·.sanitizations) said,
            FieldSpec.lastSet (·.validations) said⟩ := by
  refine ⟨overlay_assoc a.2 b.2 c.2, empty_overlay a.2, overlay_empty a.1, overlay_self a.2,
    keys_overlay_eq_append a.2 b.2, fun files paths layers read => ?_⟩
  have nodup := nodup_of_ofFile read
  refine ⟨layers.foldl overlay empty, ofFiles_eq_ok read, ?_, keys_foldl_overlay layers, fun id => ?_⟩
  · rintro groups rfl
    exact foldl_overlay_flatten fun group mem layer inside => nodup layer (List.mem_flatten_of_mem mem inside)
  · rw [spec_foldl_overlay nodup, FieldSpec.foldl_overlay]

/-- A file in JSON, and on top of it one in YAML that sets an attribute again and
adds a field before it. -/
theorem overlay_laws_two_files :
    let files : Files := fun path =>
      if path = "base.json" then
        .ok "\x7b\"fields\":\x7b\"a\":\x7b\"label\":\"A\",\"validations\":\"required\"\x7d,\"z\":\x7b\x7d\x7d\x7d"
      else .ok "fields:\n  b:\n  a:\n    validations: email\n"
    let base : Configuration := ⟨[("a", ⟨some "A", none, some "required"⟩), ("z", .empty)]⟩
    let user : Configuration := ⟨[("b", .empty), ("a", ⟨none, none, some "email"⟩)]⟩
    List.Forall₂ (fun path layer => ofFile files path = .ok layer) ["base.json", "user.yaml"] [base, user] ∧
      (base.overlay user).overlay base = base.overlay (user.overlay base) ∧
      ∃ whole, ofFiles files ["base.json", "user.yaml"] = .ok whole ∧
        whole.fields.keys = ["a", "z", "b"] ∧ whole.spec "a" = ⟨some "A", none, some "email"⟩ := by
  intro files base user
  have read : List.Forall₂ (fun path layer => ofFile files path = .ok layer) ["base.json", "user.yaml"]
      [base, user] := .cons (by decide +kernel) (.cons (by decide +kernel) .nil)
  obtain ⟨assoc, -, -, -, -, loads⟩ :=
    overlay_laws ⟨base, by decide⟩ ⟨user, by decide⟩ ⟨base, by decide⟩
  obtain ⟨whole, loaded, -, keys, specs⟩ := loads files _ _ read
  exact ⟨read, assoc, whole, loaded, keys.trans (by decide +kernel), (specs "a").trans (by decide +kernel)⟩

end Configuration

end RecordRules
