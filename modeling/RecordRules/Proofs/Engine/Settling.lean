/-
Records that are sanitized twice.

* `Json.exists_mapLeaves`, `Json.mapLeaves_eq_self`, `Json.exists_made_of_mem_leaves`:
  a value whose leaves are changed is, one whose leaves stay stays, and the leaves of a
  changed value come from the leaves before;
* `Resolved.Settling`: rules that leave alone what all of them together make of a
  leaf; they leave alone what they make of any value
  (`Resolved.Settling.exists_applyAll`);
* `Sanitizer.settling_trim`, `Sanitizer.settling_percentEncode`,
  `Sanitizer.settling_integer`, `Sanitizer.settling_trim_percentEncode`: such rules;
* `Engine.Normalizing`: lists of rules that stand for them in every registry;
* `Engine.sanitize_sanitize`: with such lists, a record that was sanitized is not
  changed when it is sanitized again.
-/
import RecordRules.Proofs.Engine.Elementwise
import RecordRules.Proofs.Engine.Sanitizing
import RecordRules.Proofs.Registry.Resolving
import RecordRules.Proofs.Text.Percent
import RecordRules.Proofs.Text.Trimming

namespace RecordRules

namespace Json

/-! ### Leaves of a changed value -/

/-- A value that is no array and no object. -/
def IsLeaf : Json → Prop
  | array _ | object _ => False
  | null | bool _ | number _ | string _ => True

variable {f : Json → Except Fault Json}

lemma IsLeaf.mapLeaves_eq {value : Json} (h : value.IsLeaf) (f : Json → Except Fault Json) :
    value.mapLeaves f = f value := by
  cases value with
  | array | object => exact h.elim
  | null | bool | number | string => rfl

lemma IsLeaf.leaves_eq {value : Json} (h : value.IsLeaf) : value.leaves = [value] := by
  cases value with
  | array | object => exact h.elim
  | null | bool | number | string => rfl

mutual

lemma isLeaf_of_mem_leaves : ∀ {value leaf : Json}, leaf ∈ value.leaves → leaf.IsLeaf
  | array items, _, mem => isLeaf_of_mem_itemLeaves mem
  | object members, _, mem => isLeaf_of_mem_memberLeaves mem
  | null, _, mem | bool _, _, mem | number _, _, mem | string _, _, mem => by
    rw [List.mem_singleton.mp mem]
    trivial

lemma isLeaf_of_mem_itemLeaves : ∀ {items : List Json} {leaf : Json}, leaf ∈ itemLeaves items → leaf.IsLeaf
  | item :: rest, _, mem => by
    rw [itemLeaves, List.mem_append] at mem
    exact mem.elim isLeaf_of_mem_leaves isLeaf_of_mem_itemLeaves

lemma isLeaf_of_mem_memberLeaves : ∀ {members : List (String × Json)} {leaf : Json},
    leaf ∈ memberLeaves members → leaf.IsLeaf
  | (_, value) :: rest, _, mem => by
    rw [memberLeaves, List.mem_append] at mem
    exact mem.elim isLeaf_of_mem_leaves isLeaf_of_mem_memberLeaves

end

/-- Where every leaf is replaced, the whole value is. -/
lemma exists_mapLeaves (runs : ∀ leaf, leaf.IsLeaf → ∃ made, f leaf = .ok made) (value : Json) :
    ∃ out, value.mapLeaves f = .ok out := by
  cases ran : value.mapLeaves f with
  | ok out => exact ⟨out, rfl⟩
  | error e =>
    obtain ⟨leaf, mem, failed⟩ := exists_leaf_of_mapLeaves_error ran
    obtain ⟨made, changed⟩ := runs leaf (isLeaf_of_mem_leaves mem)
    rw [failed] at changed
    cases changed

mutual

/-- A value whose leaves stay stays. -/
lemma mapLeaves_eq_self : ∀ {value : Json}, (∀ leaf ∈ value.leaves, f leaf = .ok leaf) →
    value.mapLeaves f = .ok value
  | array items, h => by rw [mapLeaves, mapItems_eq_self h]; rfl
  | object members, h => by rw [mapLeaves, mapMembers_eq_self h]; rfl
  | null, h | bool _, h | number _, h | string _, h => h _ (List.mem_singleton_self _)

lemma mapItems_eq_self : ∀ {items : List Json}, (∀ leaf ∈ itemLeaves items, f leaf = .ok leaf) →
    mapItems f items = .ok items
  | [], _ => rfl
  | item :: rest, h => by
    rw [itemLeaves, List.forall_mem_append] at h
    rw [mapItems, mapLeaves_eq_self h.1, mapItems_eq_self h.2]
    rfl

lemma mapMembers_eq_self : ∀ {members : List (String × Json)},
    (∀ leaf ∈ memberLeaves members, f leaf = .ok leaf) → mapMembers f members = .ok members
  | [], _ => rfl
  | (key, value) :: rest, h => by
    rw [memberLeaves, List.forall_mem_append] at h
    rw [mapMembers, mapLeaves_eq_self h.1, mapMembers_eq_self h.2]
    rfl

end

mutual

/-- Each leaf of a changed value is part of what a leaf before was changed to. -/
lemma exists_made_of_mem_leaves : ∀ {value out leaf : Json}, value.mapLeaves f = .ok out → leaf ∈ out.leaves →
    ∃ before ∈ value.leaves, ∃ made, f before = .ok made ∧ leaf ∈ made.leaves
  | array items, _, _, h, mem => by
    rw [mapLeaves, map_eq_ok_iff] at h
    obtain ⟨changed, h, rfl⟩ := h
    rw [leaves] at mem ⊢
    exact exists_made_of_mem_itemLeaves h mem
  | object members, _, _, h, mem => by
    rw [mapLeaves, map_eq_ok_iff] at h
    obtain ⟨changed, h, rfl⟩ := h
    rw [leaves] at mem ⊢
    exact exists_made_of_mem_memberLeaves h mem
  | null, out, _, h, mem | bool _, out, _, h, mem | number _, out, _, h, mem | string _, out, _, h, mem =>
    ⟨_, List.mem_singleton_self _, out, h, mem⟩

lemma exists_made_of_mem_itemLeaves : ∀ {items out : List Json} {leaf : Json}, mapItems f items = .ok out →
    leaf ∈ itemLeaves out → ∃ before ∈ itemLeaves items, ∃ made, f before = .ok made ∧ leaf ∈ made.leaves
  | [], _, _, h, mem => by
    cases h
    cases mem
  | item :: rest, _, _, h, mem => by
    rw [mapItems, bind_eq_ok_iff] at h
    obtain ⟨first, changed, h⟩ := h
    obtain ⟨others, changed_rest, h⟩ := bind_eq_ok_iff.mp h
    cases h
    rw [itemLeaves, List.mem_append] at mem
    rcases mem with mem | mem
    · obtain ⟨before, there, made⟩ := exists_made_of_mem_leaves changed mem
      exact ⟨before, List.mem_append_left _ there, made⟩
    · obtain ⟨before, there, made⟩ := exists_made_of_mem_itemLeaves changed_rest mem
      exact ⟨before, List.mem_append_right _ there, made⟩

lemma exists_made_of_mem_memberLeaves : ∀ {members out : List (String × Json)} {leaf : Json},
    mapMembers f members = .ok out → leaf ∈ memberLeaves out →
    ∃ before ∈ memberLeaves members, ∃ made, f before = .ok made ∧ leaf ∈ made.leaves
  | [], _, _, h, mem => by
    cases h
    cases mem
  | (key, value) :: rest, _, _, h, mem => by
    rw [mapMembers, bind_eq_ok_iff] at h
    obtain ⟨first, changed, h⟩ := h
    obtain ⟨others, changed_rest, h⟩ := bind_eq_ok_iff.mp h
    cases h
    rw [memberLeaves, List.mem_append] at mem
    rcases mem with mem | mem
    · obtain ⟨before, there, made⟩ := exists_made_of_mem_leaves changed mem
      exact ⟨before, List.mem_append_left _ there, made⟩
    · obtain ⟨before, there, made⟩ := exists_made_of_mem_memberLeaves changed_rest mem
      exact ⟨before, List.mem_append_right _ there, made⟩

end

end Json

/-! ### Rules that settle -/

namespace Resolved

/-- Rules that make a leaf of every leaf, and each of which leaves alone what all
of them together make. -/
structure Settling (rules : List (Resolved SanitizerRule)) (make : Json → Json) : Prop where
  runs : ∀ leaf, leaf.IsLeaf → applyAll rules leaf = .ok (make leaf)
  isLeaf : ∀ leaf, leaf.IsLeaf → (make leaf).IsLeaf
  stays : ∀ leaf, leaf.IsLeaf → ∀ rule ∈ rules, rule.apply (make leaf) = .ok (make leaf)

/-- Settling rules run on every value, however deep it is, and change nothing when
they run once more. -/
theorem Settling.exists_applyAll {rules : List (Resolved SanitizerRule)} {make : Json → Json}
    (h : Settling rules make) (value : Json) :
    ∃ out, applyAll rules value = .ok out ∧ applyAll rules out = .ok out := by
  have leafwise : applyAll rules value = value.mapLeaves (applyAll rules) :=
    (elementwise_applyAll rules).eq_mapLeaves value
  obtain ⟨out, ran⟩ := Json.exists_mapLeaves (fun leaf isLeaf => ⟨make leaf, h.runs leaf isLeaf⟩) value
  have stays : ∀ rule ∈ rules, out.mapLeaves rule.apply = .ok out := by
    intro rule rule_mem
    -- each leaf of the result is what all rules made of a leaf before
    refine Json.mapLeaves_eq_self fun leaf mem => ?_
    obtain ⟨before, there, made, changed, mem⟩ := Json.exists_made_of_mem_leaves ran mem
    have before_leaf := Json.isLeaf_of_mem_leaves there
    rw [h.runs before before_leaf] at changed
    cases changed
    rw [(h.isLeaf before before_leaf).leaves_eq, List.mem_singleton] at mem
    rw [mem]
    exact h.stays before before_leaf rule rule_mem
  exact ⟨out, leafwise.trans ran, foldlM_eq_self stays⟩

lemma applyAll_cons_of_isLeaf (rule : Resolved SanitizerRule) (rest : List (Resolved SanitizerRule))
    {leaf made : Json} (isLeaf : leaf.IsLeaf) (changed : rule.apply leaf = .ok made) :
    applyAll (rule :: rest) leaf = applyAll rest made := by
  rw [applyAll, List.foldlM_cons, isLeaf.mapLeaves_eq, changed]
  rfl

/-- A single rule settles if it makes a leaf of every leaf and leaves it alone. -/
lemma settling_singleton {rule : Resolved SanitizerRule} {make : Json → Json}
    (runs : ∀ leaf, rule.apply leaf = .ok (make leaf)) (isLeaf : ∀ leaf, leaf.IsLeaf → (make leaf).IsLeaf)
    (twice : ∀ leaf, make (make leaf) = make leaf) : Settling [rule] make where
  runs leaf h := applyAll_cons_of_isLeaf rule [] h (runs leaf)
  isLeaf := isLeaf
  stays leaf _ := by
    rw [List.forall_mem_singleton, runs, twice]

end Resolved

namespace Sanitizer

open Text Resolved

/-! ### Sanitizers that settle -/

lemma isLeaf_mapText (f : List Char → List Char) {leaf : Json} (h : leaf.IsLeaf) : (mapText f leaf).IsLeaf := by
  cases leaf with
  | array | object => exact h.elim
  | null | bool | number | string => trivial

lemma mapText_mapText (f g : List Char → List Char) (value : Json) :
    mapText f (mapText g value) = mapText (f ∘ g) value := by
  cases value with
  | string s => simp [mapText]
  | null | bool | number | array | object => rfl

lemma mapText_congr {f g : List Char → List Char} (h : ∀ s, f s = g s) (value : Json) :
    mapText f value = mapText g value := by
  rw [funext h]

variable (name : String) (arguments : List String)

lemma settling_trim : Settling [⟨name, arguments, .builtin trim⟩] (mapText (trimBoth (trimClass arguments))) :=
  settling_singleton (fun _ => rfl) (fun _ => isLeaf_mapText _) fun leaf => by
    rw [mapText_mapText]
    exact mapText_congr (trimBoth_trimBoth _) leaf

lemma settling_percentEncode : Settling [⟨name, arguments, .builtin percentEncode⟩] (mapText Percent.encode) :=
  settling_singleton (fun _ => rfl) (fun _ => isLeaf_mapText _) fun leaf => by
    rw [mapText_mapText]
    exact mapText_congr Percent.encode_encode leaf

/-- No blank is left in a text that is encoded. -/
lemma trimBoth_encode (s : List Char) : trimBoth isTrimmed (Percent.encode s) = Percent.encode s := by
  refine trimBoth_eq_self_of_forall fun c mem => ?_
  rcases (Percent.encoded_encode s).of_mem mem with plain | rfl
  · have ascii := Percent.toNat_lt_of_isPlainChar plain
    exact Percent.forall_ascii (P := fun c => Percent.isPlainChar c = true → isTrimmed c = false)
      (by decide) ascii plain
  · decide

/-- Trimming blanks and then encoding: what is encoded has no blanks to trim. -/
lemma settling_trim_percentEncode (second : String) :
    Settling [⟨name, [], .builtin trim⟩, ⟨second, arguments, .builtin percentEncode⟩]
      (mapText (Percent.encode ∘ trimBoth isTrimmed)) where
  runs leaf h := by
    have trimmed := isLeaf_mapText (trimBoth isTrimmed) h
    calc applyAll [⟨name, [], .builtin trim⟩, ⟨second, arguments, .builtin percentEncode⟩] leaf
        = applyAll [⟨second, arguments, .builtin percentEncode⟩] (mapText (trimBoth isTrimmed) leaf) :=
          applyAll_cons_of_isLeaf _ _ h rfl
      _ = .ok (mapText Percent.encode (mapText (trimBoth isTrimmed) leaf)) :=
          applyAll_cons_of_isLeaf _ _ trimmed rfl
      _ = .ok (mapText (Percent.encode ∘ trimBoth isTrimmed) leaf) := by rw [mapText_mapText]
  isLeaf _ := isLeaf_mapText _
  stays leaf _ := by
    have untrimmed : mapText (trimBoth isTrimmed) (mapText (Percent.encode ∘ trimBoth isTrimmed) leaf) =
        mapText (Percent.encode ∘ trimBoth isTrimmed) leaf := by
      rw [mapText_mapText]
      exact mapText_congr (fun s => trimBoth_encode _) leaf
    have encoded : mapText Percent.encode (mapText (Percent.encode ∘ trimBoth isTrimmed) leaf) =
        mapText (Percent.encode ∘ trimBoth isTrimmed) leaf := by
      rw [mapText_mapText]
      exact mapText_congr (fun s => Percent.encode_encode _) leaf
    simp only [List.mem_cons, List.not_mem_nil, or_false, forall_eq_or_imp, forall_eq]
    exact ⟨congrArg Except.ok untrimmed, congrArg Except.ok encoded⟩

/-! #### Integers -/

lemma leadingMagnitude_bounds (s : List Char) :
    0 ≤ leadingMagnitude s ∧ leadingMagnitude s ≤ JsonNumber.int64Max := by
  rw [leadingMagnitude]
  have zero_le : 0 ≤ JsonNumber.int64Max := by decide
  split
  · next fits => exact ⟨by omega, fits⟩
  · exact ⟨Int.le_refl 0, zero_le⟩

/-- What a leaf is cast to fits into 64 bits. -/
lemma castInteger_bounds (leaf : Json) :
    JsonNumber.int64Min ≤ castInteger leaf ∧ castInteger leaf ≤ JsonNumber.int64Max := by
  have clamped : ∀ n, JsonNumber.int64Min ≤ clampInteger n ∧ clampInteger n ≤ JsonNumber.int64Max := by
    intro n
    simp only [clampInteger, JsonNumber.int64Min, JsonNumber.int64Max]
    omega
  have zero_bounds : JsonNumber.int64Min ≤ 0 ∧ 0 ≤ JsonNumber.int64Max := ⟨by decide, by decide⟩
  cases leaf with
  | null | array | object => exact zero_bounds
  | bool b => cases b <;> exact ⟨by decide, by decide⟩
  | number n =>
    cases n with
    | integer n => exact clamped n
    | double x => exact clamped x.truncate
  | string s =>
    have bounds := leadingMagnitude_bounds
    simp only [JsonNumber.int64Min, JsonNumber.int64Max] at bounds ⊢
    rw [castInteger, leadingInteger]
    split
    · next rest _ =>
      have := bounds rest
      omega
    · next rest _ =>
      have := bounds rest
      omega
    · have := bounds (trimLeft s.toList)
      omega

lemma castInteger_integer_castInteger (leaf : Json) :
    castInteger (.number (.integer (castInteger leaf))) = castInteger leaf := by
  have bounds := castInteger_bounds leaf
  rw [castInteger, clampInteger]
  omega

lemma settling_integer :
    Settling [⟨name, arguments, .builtin integer⟩] (fun leaf => .number (.integer (castInteger leaf))) :=
  settling_singleton (fun _ => rfl) (fun _ _ => trivial) fun leaf => by
    rw [castInteger_integer_castInteger]

end Sanitizer

namespace Engine

open Resolved

variable {engine : Engine} {registry : Registry}

/-! ### Lists of rules that settle -/

/-- The lists of rules that bring a value into a normal form: none at all, one rule
that trims, encodes or casts to an integer, or one that trims blanks and then one
that encodes. -/
inductive Normalizing : List Rule → Prop where
  | none : Normalizing []
  | trim {rule : Rule} (named : Text.lowerString rule.name = Sanitizer.trim.name) : Normalizing [rule]
  | encode {rule : Rule} (named : Text.lowerString rule.name = Sanitizer.percentEncode.name) : Normalizing [rule]
  | integer {rule : Rule} (named : Text.lowerString rule.name = Sanitizer.integer.name) : Normalizing [rule]
  | trimAndEncode {first second : Rule} (named : Text.lowerString first.name = Sanitizer.trim.name)
      (bare : first.arguments = []) (named' : Text.lowerString second.name = Sanitizer.percentEncode.name) :
      Normalizing [first, second]

lemma Normalizing.exists_settling {rules : List Rule} (h : Normalizing rules) (registry : Registry) :
    ∃ resolved make,
      rules.mapM (fun rule => registry.sanitizer rule.name rule.arguments) = .ok resolved ∧
        Settling resolved make := by
  cases h with
  | none => exact ⟨[], id, rfl, ⟨fun _ _ => rfl, fun _ => id, fun _ _ _ mem => nomatch mem⟩⟩
  | @trim rule named =>
    refine ⟨_, _, ?_, Sanitizer.settling_trim Sanitizer.trim.name (Synonym.resolveAll rule.arguments)⟩
    rw [List.mapM_cons, Registry.sanitizer_of_named named]
    rfl
  | @encode rule named =>
    refine ⟨_, _, ?_, Sanitizer.settling_percentEncode Sanitizer.percentEncode.name
      (Synonym.resolveAll rule.arguments)⟩
    rw [List.mapM_cons, Registry.sanitizer_of_named named]
    rfl
  | @integer rule named =>
    refine ⟨_, _, ?_, Sanitizer.settling_integer Sanitizer.integer.name (Synonym.resolveAll rule.arguments)⟩
    rw [List.mapM_cons, Registry.sanitizer_of_named named]
    rfl
  | @trimAndEncode first second named bare named' =>
    refine ⟨_, _, ?_, Sanitizer.settling_trim_percentEncode Sanitizer.trim.name
      (Synonym.resolveAll second.arguments) Sanitizer.percentEncode.name⟩
    rw [List.mapM_cons, List.mapM_cons, Registry.sanitizer_of_named named, Registry.sanitizer_of_named named',
      bare]
    rfl

/-- Such rules run on every value, and leave alone what they have made. -/
lemma Normalizing.exists_applyRules {rules : List Rule} (h : Normalizing rules) (registry : Registry)
    (value : Json) :
    ∃ out, applyRules registry rules value = .ok out ∧ applyRules registry rules out = .ok out := by
  obtain ⟨resolved, make, found, settling⟩ := h.exists_settling registry
  have same : ∀ value, applyRules registry rules value = applyAll resolved value := foldlM_bind_eq found
  rw [same]
  simp only [same]
  exact settling.exists_applyAll value

/-! ### Whole records -/

/-- Fields whose rules are such lists are sanitized, whatever is in them. -/
lemma exists_sanitizeFields {fields : Keyed FieldRules}
    (normalizing : ∀ id field, (id, field) ∈ fields → Normalizing field.sanitizations) (record : Record) :
    ∃ out, sanitizeFields registry fields record = .ok out := by
  cases ran : sanitizeFields registry fields record with
  | ok out => exact ⟨out, rfl⟩
  | error e =>
    obtain ⟨before, ⟨id, field⟩, after, reached, rfl, -, failed⟩ := foldlM_eq_error_iff.mp ran
    obtain ⟨value, -, failed⟩ := sanitizeField_eq_error_iff.mp failed
    have list := normalizing id field (List.mem_append_right before List.mem_cons_self)
    obtain ⟨out, applied, -⟩ := list.exists_applyRules registry value
    rw [failed] at applied
    cases applied

/-- A field that holds what its rules have made stays. -/
lemma sanitizeField_eq_self {record : Record} {id : String} {field : FieldRules}
    (stays : ∀ value, record.get? id = some value → applyRules registry field.sanitizations value = .ok value) :
    sanitizeField registry record id field = .ok record := by
  refine sanitizeField_eq_ok_iff.mpr ?_
  cases present : record.get? id with
  | none => exact .inl ⟨rfl, rfl⟩
  | some value => exact .inr ⟨value, value, rfl, stays value present, (Keyed.put_eq_self present).symm⟩

/-- **Sanitizing twice is sanitizing once.** An engine whose fields have such lists
of rules sanitizes every record, whatever values it has and however deep they are,
and leaves alone what it has made. No field comes twice in an engine, as
`Reachable.nodup_fields` says. -/
theorem sanitize_sanitize (nodup : engine.fields.keys.Nodup)
    (normalizing : ∀ id field, (id, field) ∈ engine.fields → Normalizing field.sanitizations)
    (record : Record) : ∃ out, engine.sanitize record = .ok out ∧ engine.sanitize out = .ok out := by
  have sanitizes : ∃ out, engine.sanitize record = .ok out := exists_sanitizeFields normalizing record
  obtain ⟨out, ran⟩ := sanitizes
  have sanitized := sanitized_of_sanitizeFields nodup ran
  refine ⟨out, ran, foldlM_eq_self fun (id, field) mem => sanitizeField_eq_self fun value present => ?_⟩
  -- the value came from the input by the rules of the field
  have there : id ∈ record.keys := by
    rw [← sanitized.keys]
    exact Keyed.mem_keys_iff.mpr ⟨value, present⟩
  obtain ⟨input, given⟩ := Keyed.mem_keys_iff.mp there
  obtain ⟨resolved, final, found, applied, holds⟩ := sanitized.own id field input mem given
  rw [present] at holds
  cases holds
  obtain ⟨made, first, again⟩ := (normalizing id field mem).exists_applyRules engine.registry input
  rw [applyRules_eq_ok_iff.mpr ⟨resolved, found, applied⟩] at first
  cases first
  exact again

/-- Fields of each kind, and values that are texts, numbers, containers or nothing. -/
theorem sanitize_sanitize_order :
    let engine : Engine :=
      ⟨[("code", ⟨"Code", [⟨"trim", ["-x"], none⟩], []⟩), ("path", ⟨"Path", [⟨"UrlEncode", [], none⟩], []⟩),
          ("amounts", ⟨"Amounts", [⟨"integer", [], none⟩], []⟩),
          ("query", ⟨"Query", [⟨"trim", [], none⟩, ⟨"urlencode", [], none⟩], []⟩)], [], .initial⟩
    let record : Record :=
      [("query", .object [("q", .string " a %62 "), ("of", .array [.null, .string " "])]),
        ("amounts", .array [.string " 12 apples", .bool true, .null]),
        ("path", .string "%E9/b"), ("code", .string "x-a-x b-"), ("other", .string " kept ")]
    let out : Record :=
      [("query", .object [("q", .string "a%20%62"), ("of", .array [.null, .string ""])]),
        ("amounts", .array [.number (.integer 12), .number (.integer 1), .number (.integer 0)]),
        ("path", .string "%E9%2Fb"), ("code", .string "a-x b"), ("other", .string " kept ")]
    engine.fields.keys.Nodup ∧
      (∀ id field, (id, field) ∈ engine.fields → Normalizing field.sanitizations) ∧
      engine.sanitize record = .ok out ∧ engine.sanitize out = .ok out := by
  intro engine record out
  have nodup : engine.fields.keys.Nodup := by decide
  have normalizing : ∀ id field, (id, field) ∈ engine.fields → Normalizing field.sanitizations := by
    intro id field mem
    simp only [engine, List.mem_cons, Prod.mk.injEq, List.not_mem_nil, or_false] at mem
    rcases mem with ⟨rfl, rfl⟩ | ⟨rfl, rfl⟩ | ⟨rfl, rfl⟩ | ⟨rfl, rfl⟩
    · exact .trim (by decide)
    · exact .encode (by decide)
    · exact .integer (by decide)
    · exact .trimAndEncode (by decide) rfl (by decide)
  obtain ⟨made, once, twice⟩ := sanitize_sanitize nodup normalizing record
  have sanitized : engine.sanitize record = .ok out := rfl
  rw [sanitized] at once
  cases once
  exact ⟨nodup, normalizing, sanitized, twice⟩

end Engine

end RecordRules
