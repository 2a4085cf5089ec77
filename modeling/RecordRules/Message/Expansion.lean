/-
Templates filled in as they are read.

This is the work of `Template.render` done from brace to brace: what stands before a
brace is copied, and where the text up to the next closing brace names a placeholder,
its text is copied and the reader goes on behind it.

* `Template.argumentNumber?`: the number in the name of an argument;
* `Template.replacement?`: the text that is put in the place of a placeholder;
* `Template.expand`: the text of a template.
-/
import RecordRules.Message.Template

namespace RecordRules.Template

/-- The number of the argument that a token names: `arg` and a count. -/
def argumentNumber? (token : List Char) : Option Nat :=
  if "arg".toList.isPrefixOf token then readNatural? countMax (token.drop 3) else none

/-- The text in the place of what stands between braces, if that is a placeholder. -/
def replacement? (context : Context) (token : List Char) : Option (List Char) :=
  if token = "field".toList then some context.label.toList
  else if token = "filter".toList then some context.rule.toList
  else if token = "args".toList then some (String.intercalate ", " context.arguments).toList
  else if token = "value".toList then
    some (if context.value = "" then emptyValue.toList else context.value.toList)
  else
    match argumentNumber? token with
    | none | some 0 => none
    | some (index + 1) => context.arguments[index]?.map String.toList

/-- The text of a template. A brace that opens no placeholder is copied, and the reader
goes on with the character behind it. -/
def expand (context : Context) (rest : List Char) : List Char :=
  match _open : rest.dropWhile (· ≠ '\x7b') with
  | [] => rest
  | brace :: inside =>
    rest.takeWhile (· ≠ '\x7b') ++
      match _close : untilBrace? inside with
      | none => brace :: inside
      | some (token, after) =>
        match replacement? context token with
        | some text => text ++ expand context after
        | none => brace :: expand context inside
termination_by rest.length
decreasing_by
  all_goals
    have skipped := (List.dropWhile_sublist (l := rest) (· ≠ '\x7b')).length_le
    rw [_open, List.length_cons] at skipped
  · have closed := untilBrace?_length _close
    omega
  · omega

end RecordRules.Template
