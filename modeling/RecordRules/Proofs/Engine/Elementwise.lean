/-
Rules run element by element.

* `Json.Elementwise`: functions that make of a container what they make of its
  elements;
* `Json.Elementwise.eq_mapLeaves`: such a function is given by what it makes of
  leaves;
* `Resolved.elementwise_applyAll`: rules that run one after another over whole
  values are such a function;
* `Engine.applyRules_elementwise`: the same for the rules of a field.
-/
import RecordRules.Engine.Basic
import RecordRules.Proofs.Engine.Leaves

namespace RecordRules

namespace Json

variable {f : Json → Except Fault Json}

/-- A member whose value is replaced; its key stays. -/
def mapMember (f : Json → Except Fault Json) (member : String × Json) : Except Fault (String × Json) :=
  (f member.2).map (member.1, ·)

lemma mapItems_eq_mapM (items : List Json) : mapItems f items = items.mapM (mapLeaves f) := by
  induction items with
  | nil => rfl
  | cons item rest ih =>
    rw [mapItems, List.mapM_cons, ih]
    rfl

lemma mapMembers_eq_mapM (members : Members) :
    mapMembers f members = members.mapM (mapMember (mapLeaves f)) := by
  induction members with
  | nil => rfl
  | cons member rest ih =>
    rw [mapMembers, List.mapM_cons, ih, mapMember]
    cases mapLeaves f member.2 <;> rfl

/-- What a function makes of a container is what it makes of the elements, each
by itself, in their places. -/
structure Elementwise (f : Json → Except Fault Json) : Prop where
  array : ∀ items, f (array items) = (items.mapM f).map array
  object : ∀ members, f (object members) = (members.mapM (mapMember f)).map object

lemma elementwise_mapLeaves (f : Json → Except Fault Json) : Elementwise (mapLeaves f) where
  array items := by rw [mapLeaves, mapItems_eq_mapM]
  object members := by rw [mapLeaves, mapMembers_eq_mapM]

namespace Elementwise

mutual

/-- Such a function is given by what it makes of leaves, however deep they are. -/
lemma eq_mapLeaves (h : Elementwise f) : ∀ value : Json, f value = value.mapLeaves f
  | .array items => by rw [h.array, mapLeaves, h.mapM_eq_mapItems]
  | .object members => by rw [h.object, mapLeaves, h.mapM_eq_mapMembers]
  | .null | .bool _ | .number _ | .string _ => rfl

lemma mapM_eq_mapItems (h : Elementwise f) : ∀ items : List Json, items.mapM f = mapItems f items
  | [] => rfl
  | item :: rest => by
    rw [List.mapM_cons, mapItems, h.eq_mapLeaves item, h.mapM_eq_mapItems rest]
    rfl

lemma mapM_eq_mapMembers (h : Elementwise f) :
    ∀ members : List (String × Json), members.mapM (mapMember f) = mapMembers f members
  | [] => rfl
  | (key, value) :: rest => by
    rw [List.mapM_cons, mapMembers, mapMember, h.eq_mapLeaves value, h.mapM_eq_mapMembers rest]
    cases mapLeaves f value <;> rfl

end

end Elementwise

end Json

namespace Resolved

/-- Resolved rules run on containers element by element. A rule can fail in one
way only, so it does not matter which element fails first. -/
lemma elementwise_applyAll (rules : List (Resolved SanitizerRule)) : Json.Elementwise (applyAll rules) := by
  have only : ∀ (value : Json) (rule : Resolved SanitizerRule) e,
      value.mapLeaves rule.apply = .error e → e = .insideCharacter := by
    intro value rule e failed
    obtain ⟨leaf, -, failed⟩ := Json.exists_leaf_of_mapLeaves_error failed
    exact eq_insideCharacter_of_apply failed
  constructor
  · intro items
    calc applyAll rules (.array items)
        = (rules.foldlM (fun items rule => List.mapM (Json.mapLeaves rule.apply) items) items).map .array :=
          foldlM_map_comm (fun items rule => (Json.elementwise_mapLeaves rule.apply).array items) rules items
      _ = (items.mapM (applyAll rules)).map .array := by rw [foldlM_mapM only]; rfl
  · intro members
    have onMember : ∀ member : String × Json,
        rules.foldlM (fun member rule => Json.mapMember (Json.mapLeaves rule.apply) member) member =
          Json.mapMember (applyAll rules) member := fun (key, value) =>
      foldlM_map_comm (fun _ _ => rfl) rules value
    have onlyMember : ∀ (member : String × Json) (rule : Resolved SanitizerRule) e,
        Json.mapMember (Json.mapLeaves rule.apply) member = .error e → e = .insideCharacter :=
      fun member rule e failed => only member.2 rule e (map_eq_error_iff.mp failed)
    calc applyAll rules (.object members)
        = (rules.foldlM (fun members rule => List.mapM (Json.mapMember (Json.mapLeaves rule.apply)) members)
            members).map .object :=
          foldlM_map_comm (fun members rule => (Json.elementwise_mapLeaves rule.apply).object members)
            rules members
      _ = (members.mapM (Json.mapMember (applyAll rules))).map .object := by
          rw [foldlM_mapM onlyMember, funext onMember]

end Resolved

namespace Engine

variable {registry : Registry} {rules : List Rule}

/-- **Rules run element by element.** Rules that all stand for something run one
after another over a whole value, and each of them reaches into what the rules
before it have made; the same comes out when all of them run on each element by
itself, and so, at any depth, when all of them run on each leaf. -/
theorem applyRules_elementwise
    (resolvable : ∀ rule ∈ rules, ∃ resolved, registry.sanitizer rule.name rule.arguments = .ok resolved) :
    Json.Elementwise (applyRules registry rules) ∧
      ∀ value, applyRules registry rules value = value.mapLeaves (applyRules registry rules) := by
  obtain ⟨resolved, found⟩ := exists_mapM_eq_ok_iff.mpr resolvable
  have same : applyRules registry rules = Resolved.applyAll resolved := by
    funext value
    exact foldlM_bind_eq found value
  have elementwise : Json.Elementwise (applyRules registry rules) := by
    rw [same]
    exact Resolved.elementwise_applyAll resolved
  exact ⟨elementwise, elementwise.eq_mapLeaves⟩

/-- Rules that double each leaf and then mark each text, on an array inside an
object. -/
theorem applyRules_elementwise_pair :
    let registry : Registry := { Registry.initial with
      sanitizers := [("pair", fun leaf _ => .array [leaf, leaf])]
      textFunctions := Registry.initial.textFunctions ++ [("mark", (· ++ "!"))] }
    let rules : List Rule := [⟨"Trim", [], none⟩, ⟨"pair", [], none⟩, ⟨"mark", [], none⟩]
    (∀ rule ∈ rules, ∃ resolved, registry.sanitizer rule.name rule.arguments = .ok resolved) ∧
      applyRules registry rules (.array [.string " a ", .object [("b", .string "c"), ("d", .null)]]) =
        .ok (.array [.array [.string "a!", .string "a!"],
          .object [("b", .array [.string "c!", .string "c!"]), ("d", .array [.null, .null])]]) := by
  intro registry rules
  have resolvable : ∀ rule ∈ rules,
      ∃ resolved, registry.sanitizer rule.name rule.arguments = .ok resolved := by
    intro rule mem
    cases found : registry.sanitizer rule.name rule.arguments with
    | ok resolved => exact ⟨resolved, rfl⟩
    | error e =>
      simp only [rules, List.mem_cons, List.not_mem_nil, or_false] at mem
      rcases mem with rfl | rfl | rfl <;> cases found
  refine ⟨resolvable, ?_⟩
  rw [(applyRules_elementwise resolvable).1.array]
  rfl

end Engine

end RecordRules
