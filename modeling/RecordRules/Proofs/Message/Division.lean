/-
What a template is divided into before anything is filled in.

* `Names`: what a text between braces names, if it is a placeholder at all;
* `Opens`: a placeholder at the start of a text, up to the first closing brace;
* `Part`, `Divides`: the division of a template into characters that are copied and
  placeholders, for a number of arguments. Nothing that is filled in takes part in it;
* `exists_divides`, `Divides.unique`: every template has one division;
* `Divides.pieces`, `Divides.expand`: what is made of a template, divided first or read
  from brace to brace, is what is made of the parts one by one;
* `render_division`: all of this about `Template.render`.
-/
import Mathlib.Data.List.Basic
import RecordRules.Message.Expansion

namespace RecordRules.Template

/-! ### Placeholders -/

/-- What a text between braces names. Arguments are numbered from one. -/
inductive Names (count : Nat) : List Char → Piece → Prop where
  | label : Names count "field".toList .label
  | rule : Names count "filter".toList .rule
  | arguments : Names count "args".toList .arguments
  | value : Names count "value".toList .value
  | argument {number : List Char} {index : Nat}
      (read : readNatural? countMax number = some (index + 1)) (within : index < count) :
      Names count ('a' :: 'r' :: 'g' :: number) (.argument index)

/-- The names are the ones that are looked up. -/
lemma placeholder?_eq_some_iff {count : Nat} {token : List Char} {piece : Piece} :
    placeholder? count token = some piece ↔ Names count token piece := by
  constructor
  · intro named
    rw [placeholder?.eq_def] at named
    split_ifs at named with label rule arguments value
    · cases named
      exact label ▸ .label
    · cases named
      exact rule ▸ .rule
    · cases named
      exact arguments ▸ .arguments
    · cases named
      exact value ▸ .value
    · split at named
      · next number =>
        split at named
        · next n read =>
          split_ifs at named with bounds
          cases named
          refine .argument ?_ (by omega)
          rw [read, Nat.sub_add_cancel bounds.1]
        · cases named
      · cases named
  · intro names
    cases names with
    | label => rfl
    | rule => rfl
    | arguments => rfl
    | value => rfl
    | @argument number index read within =>
      -- `args` is no number, and the other names begin with other letters
      have other : 'a' :: 'r' :: 'g' :: number ≠ "args".toList := by
        intro same
        obtain rfl : number = ['s'] := by simpa using same
        cases read
      rw [placeholder?.eq_def, if_neg (by simp), if_neg (by simp), if_neg other, if_neg (by simp)]
      simp only [read, Nat.le_add_left, Nat.succ_le_of_lt within, and_self, ↓reduceIte,
        Nat.add_sub_cancel]

/-- Of an argument the number is looked up, and nothing else is looked up by a number. -/
lemma placeholder?_of_number {count : Nat} {token : List Char} (label : token ≠ "field".toList)
    (rule : token ≠ "filter".toList) (arguments : token ≠ "args".toList)
    (value : token ≠ "value".toList) :
    placeholder? count token = (argumentNumber? token).bind fun n =>
      if 1 ≤ n ∧ n ≤ count then some (.argument (n - 1)) else none := by
  rw [placeholder?.eq_def, if_neg label, if_neg rule, if_neg arguments, if_neg value, argumentNumber?]
  split
  · next number =>
    have begins : "arg".toList.isPrefixOf ('a' :: 'r' :: 'g' :: number) = true := by simp
    rw [if_pos begins]
    change _ = (readNatural? countMax number).bind _
    cases readNatural? countMax number <;> rfl
  · next other =>
    rw [if_neg, Option.bind_none]
    intro begins
    obtain ⟨number, text⟩ := List.isPrefixOf_iff_prefix.mp begins
    exact other number text.symm

/-- What is put in the place of a token is the text of what it names. -/
lemma replacement?_eq (context : Context) (token : List Char) :
    replacement? context token =
      (placeholder? context.arguments.length token).map (fill context) := by
  rw [replacement?]
  split_ifs with label rule arguments value empty
  · rw [label]
    rfl
  · rw [rule]
    rfl
  · rw [arguments]
    rfl
  · rw [value]
    exact congrArg some (if_pos empty).symm
  · rw [value]
    exact congrArg some (if_neg empty).symm
  · rw [placeholder?_of_number label rule arguments value]
    cases argumentNumber? token with
    | none => rfl
    | some n =>
      cases n with
      | zero => rfl
      | succ index =>
        by_cases within : index < context.arguments.length
        · have bound : index + 1 ≤ context.arguments.length := within
          simp [within, bound, fill]
        · have bound : ¬index + 1 ≤ context.arguments.length := within
          simp [within, bound]

/-- The first closing brace divides a text. -/
lemma untilBrace?_eq_some_iff {s token after : List Char} :
    untilBrace? s = some (token, after) ↔ s = token ++ '\x7d' :: after ∧ '\x7d' ∉ token := by
  induction s generalizing token with
  | nil => simp [untilBrace?]
  | cons c rest ih =>
    rw [untilBrace?]
    by_cases brace : c = '\x7d'
    · subst brace
      rw [if_pos rfl]
      cases token with
      | nil => simp [eq_comm]
      | cons d token => grind
    · rw [if_neg brace, Option.map_eq_some_iff]
      cases token with
      | nil => simp [brace]
      | cons d token => grind

/-- A text that begins with a placeholder: a brace, a token without closing braces that
names something, and a closing brace. -/
structure Opens (count : Nat) (s token : List Char) (piece : Piece) (after : List Char) : Prop where
  text : s = '\x7b' :: (token ++ '\x7d' :: after)
  closes : '\x7d' ∉ token
  names : Names count token piece

lemma opening?_eq_some_iff {count : Nat} {s after : List Char} {piece : Piece} :
    opening? count s = some (piece, after) ↔ ∃ token, Opens count s token piece after := by
  constructor
  · intro opened
    rw [opening?.eq_def] at opened
    split at opened
    · cases opened
    · next c rest =>
      split_ifs at opened with brace
      split at opened
      · next token after' found =>
        obtain ⟨piece', named, parts⟩ := Option.map_eq_some_iff.mp opened
        cases parts
        obtain ⟨text, closes⟩ := untilBrace?_eq_some_iff.mp found
        exact ⟨token, by rw [brace, text], closes, placeholder?_eq_some_iff.mp named⟩
      · cases opened
  · rintro ⟨token, rfl, closes, names⟩
    rw [opening?, if_pos rfl, untilBrace?_eq_some_iff.mpr ⟨rfl, closes⟩]
    dsimp only
    rw [placeholder?_eq_some_iff.mpr names, Option.map_some]

lemma opening?_eq_none_iff {count : Nat} {s : List Char} :
    opening? count s = none ↔ ∀ token piece after, ¬Opens count s token piece after := by
  rw [Option.eq_none_iff_forall_ne_some]
  constructor
  · intro none token piece after opens
    exact none _ (opening?_eq_some_iff.mpr ⟨token, opens⟩)
  · rintro plain ⟨piece, after⟩ opened
    obtain ⟨token, opens⟩ := opening?_eq_some_iff.mp opened
    exact plain token piece after opens

/-- At most one placeholder stands at the start of a text. -/
lemma Opens.unique {count : Nat} {s token token' after after' : List Char} {piece piece' : Piece}
    (opens : Opens count s token piece after) (opens' : Opens count s token' piece' after') :
    token = token' ∧ piece = piece' ∧ after = after' := by
  have same := opens.text.symm.trans opens'.text
  rw [List.cons_inj_right] at same
  have found := untilBrace?_eq_some_iff.mpr ⟨same, opens'.closes⟩
  rw [untilBrace?_eq_some_iff.mpr ⟨rfl, opens.closes⟩] at found
  obtain ⟨rfl, rfl⟩ := Prod.mk.inj (Option.some.inj found)
  have named := placeholder?_eq_some_iff.mpr opens.names
  rw [placeholder?_eq_some_iff.mpr opens'.names] at named
  exact ⟨rfl, (Option.some.inj named).symm, rfl⟩

/-! ### Divisions -/

/-- A part of a division: a character that is copied, or a placeholder with the token
that stands between its braces. -/
inductive Part where
  | literal (c : Char)
  | placeholder (token : List Char) (piece : Piece)

/-- The characters of the template that a part takes up. -/
def Part.source : Part → List Char
  | .literal c => [c]
  | .placeholder token _ => '\x7b' :: (token ++ ['\x7d'])

/-- What is made of a part. -/
def Part.text (context : Context) : Part → List Char
  | .literal c => [c]
  | .placeholder _ piece => fill context piece

/-- The division of a text: a placeholder where one opens, and else a character that is
copied, be it a brace or not. -/
inductive Divides (count : Nat) : List Char → List Part → Prop where
  | nil : Divides count [] []
  | literal {c : Char} {rest : List Char} {parts : List Part}
      (plain : ∀ token piece after, ¬Opens count (c :: rest) token piece after)
      (more : Divides count rest parts) : Divides count (c :: rest) (.literal c :: parts)
  | placeholder {s token after : List Char} {piece : Piece} {parts : List Part}
      (opens : Opens count s token piece after) (more : Divides count after parts) :
      Divides count s (.placeholder token piece :: parts)

section

variable {count : Nat} {s : List Char} {parts : List Part}

/-- Every text has a division. -/
lemma exists_divides (count : Nat) (s : List Char) : ∃ parts, Divides count s parts := by
  fun_induction pieces count s with
  | case1 => exact ⟨[], .nil⟩
  | case2 c rest piece after opened ih =>
    obtain ⟨token, opens⟩ := opening?_eq_some_iff.mp opened
    obtain ⟨parts, more⟩ := ih
    exact ⟨.placeholder token piece :: parts, .placeholder opens more⟩
  | case3 c rest plain ih =>
    obtain ⟨parts, more⟩ := ih
    exact ⟨.literal c :: parts, .literal (opening?_eq_none_iff.mp plain) more⟩

/-- A text has no second division. -/
lemma Divides.unique (divides : Divides count s parts) {other : List Part}
    (divides' : Divides count s other) : parts = other := by
  induction divides generalizing other with
  | nil =>
    cases divides' with
    | nil => rfl
    | placeholder opens => cases opens.text
  | literal plain more ih =>
    cases divides' with
    | literal _ more' => rw [ih more']
    | placeholder opens => exact (plain _ _ _ opens).elim
  | placeholder opens more ih =>
    cases divides' with
    | nil => cases opens.text
    | literal plain => exact (plain _ _ _ opens).elim
    | placeholder opens' more' =>
      obtain ⟨rfl, rfl, rfl⟩ := opens.unique opens'
      rw [ih more']

/-- Nothing of the text is lost or moved. -/
lemma Divides.source (divides : Divides count s parts) : parts.flatMap Part.source = s := by
  induction divides with
  | nil => rfl
  | literal plain more ih => rw [List.flatMap_cons, ih, Part.source, List.singleton_append]
  | placeholder opens more ih =>
    rw [List.flatMap_cons, ih, Part.source, opens.text]
    simp

end

/-! ### Filling in -/

section

variable (context : Context)

/-- A character in front of pieces stands in front of their text. -/
lemma flatMap_fill_consLiteral (c : Char) (ps : List Piece) :
    (consLiteral c ps).flatMap (fill context) = c :: ps.flatMap (fill context) := by
  fun_cases consLiteral c ps with
  | case1 text rest => simp [fill]
  | case2 => simp [fill]

/-- What is made of the pieces of a template is made of the parts. -/
lemma Divides.pieces {count : Nat} {s : List Char} {parts : List Part}
    (divides : Divides count s parts) :
    (Template.pieces count s).flatMap (fill context) = parts.flatMap (Part.text context) := by
  induction divides with
  | nil =>
    rw [Template.pieces]
    rfl
  | @literal c rest parts plain more ih =>
    have none := opening?_eq_none_iff.mpr plain
    rw [Template.pieces]
    split
    · next opened =>
      rw [none] at opened
      cases opened
    · rw [flatMap_fill_consLiteral, ih, List.flatMap_cons, Part.text, List.singleton_append]
  | @placeholder s token after piece parts opens more ih =>
    have found := opening?_eq_some_iff.mpr ⟨token, opens⟩
    obtain rfl := opens.text
    rw [Template.pieces]
    split
    · next opened =>
      rw [found] at opened
      cases opened
      rw [List.flatMap_cons, ih, List.flatMap_cons, Part.text]
    · next none =>
      rw [found] at none
      cases none

/-! The loop of `expand` goes from brace to brace; the division goes by characters. These
are its steps at one character. -/

lemma expand_of_no_open {rest : List Char} (none : rest.dropWhile (· ≠ '\x7b') = []) :
    expand context rest = rest := by
  rw [expand]
  split
  · rfl
  · next open_ =>
    rw [none] at open_
    cases open_

lemma expand_of_open {rest inside : List Char} {brace : Char}
    (open_ : rest.dropWhile (· ≠ '\x7b') = brace :: inside) :
    expand context rest = rest.takeWhile (· ≠ '\x7b') ++
      match untilBrace? inside with
      | none => brace :: inside
      | some (token, after) =>
        match replacement? context token with
        | some text => text ++ expand context after
        | none => brace :: expand context inside := by
  rw [expand]
  split
  · next none =>
    rw [none] at open_
    cases open_
  · next open' =>
    rw [open_] at open'
    cases open'
    congr 1
    split <;> split <;> simp_all

@[simp] lemma expand_nil : expand context [] = [] := expand_of_no_open context rfl

lemma expand_cons {c : Char} (other : c ≠ '\x7b') (rest : List Char) :
    expand context (c :: rest) = c :: expand context rest := by
  have skip : (c :: rest).dropWhile (· ≠ '\x7b') = rest.dropWhile (· ≠ '\x7b') :=
    List.dropWhile_cons_of_pos (by simpa using other)
  cases open_ : rest.dropWhile (· ≠ '\x7b') with
  | nil => rw [expand_of_no_open context open_, expand_of_no_open context (skip.trans open_)]
  | cons brace inside =>
    rw [expand_of_open context open_, expand_of_open context (skip.trans open_),
      List.takeWhile_cons_of_pos (by simpa using other), List.cons_append]

lemma expand_brace (inside : List Char) :
    expand context ('\x7b' :: inside) =
      match untilBrace? inside with
      | none => '\x7b' :: inside
      | some (token, after) =>
        match replacement? context token with
        | some text => text ++ expand context after
        | none => '\x7b' :: expand context inside := by
  have open_ : ('\x7b' :: inside).dropWhile (· ≠ '\x7b') = '\x7b' :: inside := rfl
  rw [expand_of_open context open_]
  rfl

/-- Without a closing brace the rest is copied. -/
lemma expand_of_not_closed {s : List Char} (never : untilBrace? s = none) : expand context s = s := by
  induction s with
  | nil => exact expand_nil context
  | cons c rest ih =>
    have never' : untilBrace? rest = none := by
      rw [untilBrace?] at never
      split_ifs at never
      exact Option.map_eq_none_iff.mp never
    by_cases brace : c = '\x7b'
    · rw [brace, expand_brace, never']
    · rw [expand_cons context brace, ih never']

/-- At a placeholder its text is put, and the reader goes on behind it. -/
lemma expand_of_opens {s token after : List Char} {piece : Piece}
    (opens : Opens context.arguments.length s token piece after) :
    expand context s = fill context piece ++ expand context after := by
  rw [opens.text, expand_brace, untilBrace?_eq_some_iff.mpr ⟨rfl, opens.closes⟩]
  dsimp only
  rw [replacement?_eq, placeholder?_eq_some_iff.mpr opens.names, Option.map_some]

/-- Every other character is copied, and the reader goes on with the next one. -/
lemma expand_of_plain {c : Char} {rest : List Char}
    (plain : ∀ token piece after, ¬Opens context.arguments.length (c :: rest) token piece after) :
    expand context (c :: rest) = c :: expand context rest := by
  by_cases brace : c = '\x7b'
  · subst brace
    rw [expand_brace]
    cases found : untilBrace? rest with
    | none => rw [expand_of_not_closed context found]
    | some parts =>
      obtain ⟨token, after⟩ := parts
      obtain ⟨rfl, closes⟩ := untilBrace?_eq_some_iff.mp found
      have unnamed : placeholder? context.arguments.length token = none := by
        rw [Option.eq_none_iff_forall_ne_some]
        exact fun piece named =>
          plain token piece after ⟨rfl, closes, placeholder?_eq_some_iff.mp named⟩
      dsimp only
      rw [replacement?_eq, unnamed, Option.map_none]
  · exact expand_cons context brace rest

/-- What is made of a template from brace to brace is made of the parts. -/
lemma Divides.expand {s : List Char} {parts : List Part}
    (divides : Divides context.arguments.length s parts) :
    Template.expand context s = parts.flatMap (Part.text context) := by
  induction divides with
  | nil => exact expand_nil context
  | literal plain more ih =>
    rw [expand_of_plain context plain, ih, List.flatMap_cons, Part.text, List.singleton_append]
  | placeholder opens more ih => rw [expand_of_opens context opens, ih, List.flatMap_cons, Part.text]

end

/-- **One pass over a template.** For a number of arguments a template has one
division, and for every label, value, rule name and list of so many arguments the
text of the template is made of its parts in order: the characters that are no part
of a placeholder, and for each placeholder what it names. The reader that fills in
from brace to brace comes to the same text. So what is filled in is never read as a
placeholder, whatever braces it has. -/
theorem render_division (template : String) (count : Nat) :
    ∃ parts : List Part, parts.flatMap Part.source = template.toList ∧
      (∀ other, Divides count template.toList other ↔ other = parts) ∧
      ∀ context : Context, context.arguments.length = count →
        (render template context).toList = parts.flatMap (Part.text context) ∧
          expand context template.toList = parts.flatMap (Part.text context) := by
  obtain ⟨parts, divides⟩ := exists_divides count template.toList
  refine ⟨parts, divides.source, fun other => ⟨fun divides' => divides'.unique divides, ?_⟩, ?_⟩
  · rintro rfl
    exact divides
  · rintro context rfl
    refine ⟨?_, divides.expand context⟩
    rw [render, String.toList_ofList, divides.pieces context]

/-- Braces around a placeholder, an argument that there is not, and placeholders in all
that is filled in. -/
theorem render_division_braces :
    let template := "\x7b\x7bfield\x7d\x7d\x7barg3\x7d\x7barg02\x7d\x7bvalue\x7d\x7b \x7bargs"
    let context : Context :=
      ⟨"\x7bvalue\x7d", "", "\x7bargs\x7d", ["\x7bfilter\x7d", "\x7bfield\x7d"]⟩
    let text := "\x7b\x7bvalue\x7d\x7d\x7barg3\x7d\x7bfield\x7dempty\x7b \x7bargs"
    context.arguments.length = 2 ∧ render template context = text ∧
      expand context template.toList = text.toList := by
  intro template context text
  have rendered : render template context = text := by decide +kernel
  obtain ⟨parts, -, -, texts⟩ := render_division template 2
  obtain ⟨divided, stepwise⟩ := texts context rfl
  have filled : expand context template.toList = text.toList :=
    calc expand context template.toList
        = parts.flatMap (Part.text context) := stepwise
      _ = (render template context).toList := divided.symm
      _ = text.toList := congrArg String.toList rendered
  exact ⟨rfl, rendered, filled⟩

end RecordRules.Template
