/-
Message templates with placeholders in braces.

A template is cut into literal pieces and placeholders before anything is filled
in, so text that is filled in is never read as a placeholder.

* `Template.pieces`: the pieces of a template for a number of arguments;
* `Template.fill`: the text of a piece;
* `Template.render`: the text of a template.
-/
import RecordRules.Decimal.Natural

namespace RecordRules.Template

/-- A part of a template. -/
inductive Piece where
  | literal (text : List Char)
  | label
  | rule
  | arguments
  | value
  /-- The argument at an index that counts from zero. -/
  | argument (index : Nat)
  deriving DecidableEq, Repr

/-- What is filled in. -/
structure Context where
  label : String
  value : String
  rule : String
  arguments : List String

/-- The text that stands for a value that is blank. -/
def emptyValue : String := "empty"

/-- The placeholder that a text between braces names, if there are `count`
arguments. Arguments are numbered from one. -/
def placeholder? (count : Nat) (token : List Char) : Option Piece :=
  if token = "field".toList then some .label
  else if token = "filter".toList then some .rule
  else if token = "args".toList then some .arguments
  else if token = "value".toList then some .value
  else
    match token with
    | 'a' :: 'r' :: 'g' :: number =>
      match readNatural? countMax number with
      | some n => if 1 ≤ n ∧ n ≤ count then some (.argument (n - 1)) else none
      | none => none
    | _ => none

/-- The text up to a closing brace and the text after it. -/
def untilBrace? : List Char → Option (List Char × List Char)
  | [] => none
  | c :: rest =>
    if c = '\x7d' then some ([], rest)
    else (untilBrace? rest).map fun (token, after) => (c :: token, after)

theorem untilBrace?_length {s token after : List Char} (h : untilBrace? s = some (token, after)) :
    after.length < s.length := by
  induction s generalizing token after with
  | nil => simp [untilBrace?] at h
  | cons c rest ih =>
    rw [untilBrace?] at h
    split at h
    · simp_all
    · obtain ⟨⟨token', after'⟩, found, eq⟩ := Option.map_eq_some_iff.1 h
      simp only [Prod.mk.injEq] at eq
      have := ih found
      simp only [← eq.2, List.length_cons]
      omega

/-- Puts a literal character in front of pieces. -/
def consLiteral (c : Char) : List Piece → List Piece
  | .literal text :: rest => .literal (c :: text) :: rest
  | pieces => .literal [c] :: pieces

/-- The placeholder at the start of a text, if a brace opens one there, and the
text after it. -/
def opening? (count : Nat) (s : List Char) : Option (Piece × List Char) :=
  match s with
  | [] => none
  | c :: rest =>
    if c = '\x7b' then
      match untilBrace? rest with
      | some (token, after) => (placeholder? count token).map fun piece => (piece, after)
      | none => none
    else none

theorem opening?_length {count : Nat} {s after : List Char} {piece : Piece}
    (h : opening? count s = some (piece, after)) : after.length < s.length := by
  rw [opening?.eq_def] at h
  split at h
  · simp at h
  · split at h
    · split at h
      · next found =>
        obtain ⟨piece', _, eq⟩ := Option.map_eq_some_iff.1 h
        simp only [Prod.mk.injEq] at eq
        have := untilBrace?_length found
        simp only [← eq.2, List.length_cons]
        omega
      · simp at h
    · simp at h

/-- The pieces of a template. A brace that opens no placeholder is a literal. -/
def pieces (count : Nat) (s : List Char) : List Piece :=
  match s with
  | [] => []
  | c :: rest =>
    match _found : opening? count (c :: rest) with
    | some (piece, after) => piece :: pieces count after
    | none => consLiteral c (pieces count rest)
termination_by s.length
decreasing_by
  · exact opening?_length _found
  · simp

/-- The text of a piece. -/
def fill (context : Context) : Piece → List Char
  | .literal text => text
  | .label => context.label.toList
  | .rule => context.rule.toList
  | .arguments => (String.intercalate ", " context.arguments).toList
  | .value => if context.value = "" then emptyValue.toList else context.value.toList
  | .argument index => (context.arguments.getD index "").toList

/-- The text of a template. -/
def render (template : String) (context : Context) : String :=
  String.ofList ((pieces context.arguments.length template.toList).flatMap (fill context))

end RecordRules.Template
