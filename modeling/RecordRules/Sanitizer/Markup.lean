/-
Tags and comments in markup.

* `Markup.tag?`, `Markup.comment?`: the tag or the comment at the start of a
  text;
* `Markup.stripTags`: the text without comments and without the tags that are
  not kept.
-/
import RecordRules.Text.Case
import RecordRules.Text.Category
import RecordRules.Text.Utf8

namespace RecordRules.Markup

/-- A tag at the start of a text: its name, all of it, and what follows. -/
structure Tag where
  name : List Char
  whole : List Char
  after : List Char

/-- The text up to and with the first `>`, and the text after it. -/
def throughAngle? : List Char → Option (List Char × List Char)
  | [] => none
  | c :: rest =>
    if c = '>' then some (['>'], rest)
    else (throughAngle? rest).map fun (front, after) => (c :: front, after)

/-- A name, then anything up to the next `>`. The name begins with an ASCII
letter, goes on with ASCII letters and digits, and ends where a word ends. -/
def tagBody? (opening : List Char) (s : List Char) : Option Tag :=
  let name := s.takeWhile Char.isAlphanum
  let rest := s.dropWhile Char.isAlphanum
  if name.head?.any Char.isAlpha && !rest.head?.any Text.isWordChar then
    (throughAngle? rest).map fun (front, after) => ⟨name, opening ++ name ++ front, after⟩
  else none

/-- The opening or closing tag at the start of a text. -/
def tag? : List Char → Option Tag
  | '<' :: '/' :: rest => tagBody? ['<', '/'] rest
  | '<' :: rest => tagBody? ['<'] rest
  | _ => none

/-- The text after the comment at the start of a text. -/
def comment? : List Char → Option (List Char)
  | '<' :: '!' :: '-' :: '-' :: rest => (Text.splitOnFirst? ['-', '-', '>'] rest).map (·.2)
  | _ => none

theorem throughAngle?_length {s front after : List Char} (h : throughAngle? s = some (front, after)) :
    after.length < s.length := by
  induction s generalizing front after with
  | nil => simp [throughAngle?] at h
  | cons c rest ih =>
    rw [throughAngle?] at h
    split at h
    · simp_all
    · obtain ⟨⟨front', after'⟩, found, eq⟩ := Option.map_eq_some_iff.1 h
      simp only [Prod.mk.injEq] at eq
      have := ih found
      simp only [← eq.2, List.length_cons]
      omega

theorem tagBody?_length {opening s : List Char} {tag : Tag} (h : tagBody? opening s = some tag) :
    tag.after.length < s.length := by
  rw [tagBody?] at h
  dsimp only at h
  split at h
  · obtain ⟨⟨front, after⟩, found, eq⟩ := Option.map_eq_some_iff.1 h
    have shorter := throughAngle?_length found
    have dropped := (List.dropWhile_sublist (l := s) Char.isAlphanum).length_le
    rw [← eq]
    dsimp only
    omega
  · simp at h

theorem tag?_length {s : List Char} {tag : Tag} (h : tag? s = some tag) :
    tag.after.length < s.length := by
  rw [tag?.eq_def] at h
  split at h
  · have := tagBody?_length h
    simp only [List.length_cons]
    omega
  · have := tagBody?_length h
    simp only [List.length_cons]
    omega
  · simp at h

theorem splitOnFirst?_length {needle s front after : List Char}
    (h : Text.splitOnFirst? needle s = some (front, after)) : after.length ≤ s.length := by
  induction s generalizing front after with
  | nil =>
    rw [Text.splitOnFirst?] at h
    split at h
    · simp_all
    · simp at h
  | cons c rest ih =>
    rw [Text.splitOnFirst?] at h
    split at h
    · simp only [Option.some.injEq, Prod.mk.injEq] at h
      rw [← h.2, List.length_drop]
      omega
    · obtain ⟨⟨front', after'⟩, found, eq⟩ := Option.map_eq_some_iff.1 h
      simp only [Prod.mk.injEq] at eq
      have := ih found
      simp only [← eq.2, List.length_cons]
      omega

theorem comment?_length {s after : List Char} (h : comment? s = some after) :
    after.length < s.length := by
  rw [comment?.eq_def] at h
  split at h
  · obtain ⟨⟨front, after'⟩, found, eq⟩ := Option.map_eq_some_iff.1 h
    have := splitOnFirst?_length found
    rw [← eq]
    simp only [List.length_cons]
    omega
  · simp at h

/-- The text without comments and without the tags whose name in lower case is
not kept. The text is read once from left to right: what a removal brings
together is not read again. -/
def stripTagsExcept (keep : List Char → Bool) (s : List Char) : List Char :=
  match s with
  | [] => []
  | c :: rest =>
    match _comment : comment? (c :: rest) with
    | some after => stripTagsExcept keep after
    | none =>
      match _tag : tag? (c :: rest) with
      | some tag =>
        (if keep (Text.lower tag.name) then tag.whole else []) ++ stripTagsExcept keep tag.after
      | none => c :: stripTagsExcept keep rest
termination_by s.length
decreasing_by
  · exact comment?_length _comment
  · exact tag?_length _tag
  · simp

/-- The text without comments and tags. -/
def stripTags (s : List Char) : List Char := stripTagsExcept (fun _ => false) s

/-- The tags of basic formatting. -/
def basicTags : List String :=
  ["a", "b", "blockquote", "br", "code", "dd", "dl", "em", "hr", "h1", "h2", "h3", "h4", "h5", "h6", "i",
   "img", "label", "li", "p", "span", "strong", "sub", "sup", "ul"]

/-- The text with no tags but those of basic formatting. -/
def keepBasicTags (s : List Char) : List Char :=
  stripTagsExcept (fun name => basicTags.contains (String.ofList name)) s

end RecordRules.Markup
