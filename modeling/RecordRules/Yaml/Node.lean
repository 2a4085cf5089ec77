/-
The nodes of YAML documents.

* `Yaml.Node`: scalars, sequences and mappings; aliases are replaced by what
  they stand for;
* `Yaml.Node.readNode`: a node at the start of tokens;
* `Yaml.document?`: the node of a text with one document.
-/
import RecordRules.Keyed
import RecordRules.Yaml.Token

namespace RecordRules.Yaml

/-- A node of a document. -/
inductive Node where
  /-- A text, whether it stands without quotes, and its tag. -/
  | scalar (text : String) (isPlain : Bool) (tag : Option String)
  | sequence (items : List Node)
  | mapping (entries : List (Node × Node))
  /-- An alias of a node that contains it. -/
  | unfinished
  deriving Repr

namespace Node

/-- A scalar that is not written. -/
def nothing : Node := .scalar "" true none

/-! ### Reading -/

/-- Tokens that are not read yet, and what names in them stand for. -/
structure Source where
  tokens : List Token
  /-- The nodes of anchors. -/
  anchors : Keyed Node
  /-- What the handles of tags stand for. -/
  handles : Keyed String

namespace Source

/-- The token that comes next. -/
def head? (source : Source) : Option Token := source.tokens.head?

/-- The source without its next token. -/
def tail (source : Source) : Source := { source with tokens := source.tokens.drop 1 }

/-- The source with a node for an anchor. -/
def define (source : Source) (anchor : Option String) (node : Node) : Source :=
  match anchor with
  | some name => { source with anchors := source.anchors.put name node }
  | none => source

/-- The tag of a handle and a suffix. -/
def tag? (source : Source) (handle suffix : String) : Option String :=
  if handle = "" then some suffix else (source.handles.get? handle).map (· ++ suffix)

end Source

/-- The anchor and the tag before a node, in any order. -/
def readProperties (source : Source) : Option (Option String × Option String × Source) :=
  match source.tokens with
  | .anchor name :: .tag handle suffix :: _ =>
    (source.tag? handle suffix).map fun tag => (some name, some tag, source.tail.tail)
  | .tag handle suffix :: .anchor name :: _ =>
    (source.tag? handle suffix).map fun tag => (some name, some tag, source.tail.tail)
  | .anchor name :: _ => some (some name, none, source.tail)
  | .tag handle suffix :: _ => (source.tag? handle suffix).map fun tag => (none, some tag, source.tail)
  | _ => some (none, none, source)

/-- Whether one of some tokens comes next, or nothing. -/
def endsAt (source : Source) (ends : List Token) : Bool :=
  match source.head? with
  | some token => ends.contains token
  | none => false

mutual

/-- A node at the start of tokens, with the tokens after it. Block collections
may begin only if `inBlock` holds, and sequences without an indentation of their
own only if `afterKey` holds. `fuel` bounds the depth of the calls. -/
def readNode (inBlock afterKey : Bool) : Nat → Source → Option (Node × Source)
  | 0, _ => none
  | fuel + 1, source =>
    match source.head? with
    | some (.alias name) => (source.anchors.get? name).map fun node => (node, source.tail)
    | _ => do
      let (anchor, tag, source) ← readProperties source
      let open' := source.define anchor .unfinished
      let (node, source) ←
        match source.head? with
        | some (.scalar text isPlain) => some (Node.scalar text isPlain tag, source.tail)
        | some .flowSequenceStart =>
          (readFlowItems true fuel open'.tail).map fun (items, source) => (.sequence items, source)
        | some .flowMappingStart =>
          (readFlowEntries true fuel open'.tail).map fun (entries, source) => (.mapping entries, source)
        | some .blockEntry =>
          if afterKey then (readIndentlessItems fuel open').map fun (items, source) => (.sequence items, source)
          else if anchor.isSome || tag.isSome then some (Node.scalar "" true tag, source)
          else none
        | some .blockSequenceStart =>
          if inBlock then (readBlockItems fuel open'.tail).map fun (items, source) => (.sequence items, source)
          else if anchor.isSome || tag.isSome then some (Node.scalar "" true tag, source)
          else none
        | some .blockMappingStart =>
          if inBlock then (readBlockEntries fuel open'.tail).map fun (entries, source) => (.mapping entries, source)
          else if anchor.isSome || tag.isSome then some (Node.scalar "" true tag, source)
          else none
        | _ => if anchor.isSome || tag.isSome then some (Node.scalar "" true tag, source) else none
      some (node, source.define anchor node)

/-- A node, unless one of some tokens comes next. -/
def readOptional (inBlock afterKey : Bool) (ends : List Token) : Nat → Source → Option (Node × Source)
  | 0, _ => none
  | fuel + 1, source =>
    if endsAt source ends then some (nothing, source) else readNode inBlock afterKey fuel source

/-- The items of a block sequence up to its end. -/
def readBlockItems : Nat → Source → Option (List Node × Source)
  | 0, _ => none
  | fuel + 1, source =>
    match source.head? with
    | some .blockEntry => do
      let (item, source) ← readOptional true false [.blockEntry, .blockEnd] fuel source.tail
      let (items, source) ← readBlockItems fuel source
      some (item :: items, source)
    | some .blockEnd => some ([], source.tail)
    | _ => none

/-- The items of a sequence that has the indentation of the mapping around it. -/
def readIndentlessItems : Nat → Source → Option (List Node × Source)
  | 0, _ => none
  | fuel + 1, source =>
    match source.head? with
    | some .blockEntry => do
      let (item, source) ← readOptional true false [.blockEntry, .key, .value, .blockEnd] fuel source.tail
      let (items, source) ← readIndentlessItems fuel source
      some (item :: items, source)
    | _ => some ([], source)

/-- The entries of a block mapping up to its end. -/
def readBlockEntries : Nat → Source → Option (List (Node × Node) × Source)
  | 0, _ => none
  | fuel + 1, source =>
    match source.head? with
    | some .key => do
      let (key, source) ← readOptional true true [.key, .value, .blockEnd] fuel source.tail
      let (value, source) ← readBlockValue fuel source
      let (entries, source) ← readBlockEntries fuel source
      some ((key, value) :: entries, source)
    | some .blockEnd => some ([], source.tail)
    | _ => none

/-- The value after a key of a block mapping, if there is one. -/
def readBlockValue : Nat → Source → Option (Node × Source)
  | 0, _ => none
  | fuel + 1, source =>
    match source.head? with
    | some .value => readOptional true true [.key, .value, .blockEnd] fuel source.tail
    | _ => some (nothing, source)

/-- The items of a sequence in brackets up to its end. A key and a value may
stand for a mapping with one entry. -/
def readFlowItems (isFirst : Bool) : Nat → Source → Option (List Node × Source)
  | 0, _ => none
  | fuel + 1, source =>
    if source.head? = some .flowSequenceEnd then some ([], source.tail)
    else if !isFirst && source.head? ≠ some .flowEntry then none
    else
      let source := if isFirst then source else source.tail
      match source.head? with
      | some .flowSequenceEnd => some ([], source.tail)
      | some .key => do
        let (key, source) ← readOptional false false [.value, .flowEntry, .flowSequenceEnd] fuel source.tail
        let (value, source) ← readFlowValue .flowSequenceEnd fuel source
        let (items, source) ← readFlowItems false fuel source
        some (.mapping [(key, value)] :: items, source)
      | _ => do
        let (item, source) ← readNode false false fuel source
        let (items, source) ← readFlowItems false fuel source
        some (item :: items, source)

/-- The entries of a mapping in brackets up to its end. -/
def readFlowEntries (isFirst : Bool) : Nat → Source → Option (List (Node × Node) × Source)
  | 0, _ => none
  | fuel + 1, source =>
    if source.head? = some .flowMappingEnd then some ([], source.tail)
    else if !isFirst && source.head? ≠ some .flowEntry then none
    else
      let source := if isFirst then source else source.tail
      match source.head? with
      | some .flowMappingEnd => some ([], source.tail)
      | some .key => do
        let (key, source) ← readOptional false false [.value, .flowEntry, .flowMappingEnd] fuel source.tail
        let (value, source) ← readFlowValue .flowMappingEnd fuel source
        let (entries, source) ← readFlowEntries false fuel source
        some ((key, value) :: entries, source)
      | _ => do
        let (key, source) ← readNode false false fuel source
        let (entries, source) ← readFlowEntries false fuel source
        some ((key, nothing) :: entries, source)

/-- The value after a key in brackets, if there is one. -/
def readFlowValue (closing : Token) : Nat → Source → Option (Node × Source)
  | 0, _ => none
  | fuel + 1, source =>
    match source.head? with
    | some .value => readOptional false false [.flowEntry, closing] fuel source.tail
    | _ => some (nothing, source)

end

end Node

/-! ### Documents -/

/-- The handles of tags that are always there. -/
def usualHandles : Keyed String := [("!", "!"), ("!!", "tag:yaml.org,2002:")]

/-- The directives before a document: the handles that they declare, and the
tokens after them. Only versions 1.1 and 1.2 are known; no directive may be
repeated. -/
def readDirectives (versionSeen : Bool) (handles : Keyed String) : List Token → Option (Keyed String × List Token)
  | .versionDirective major minor :: rest =>
    if versionSeen ∨ major ≠ 1 ∨ (minor ≠ 1 ∧ minor ≠ 2) then none else readDirectives true handles rest
  | .tagDirective handle start :: rest =>
    if handle ∈ handles.keys then none else readDirectives versionSeen (handles ++ [(handle, start)]) rest
  | rest => some (handles, rest)

/-- The handles that a document may use: its own come first. -/
def allHandles (declared : Keyed String) : Keyed String := declared ++ usualHandles

/-- Nothing but marks of document ends follows. -/
def endsDocuments (tokens : List Token) : Bool := tokens.all (· == .documentEnd)

/-- The only node of tokens after its beginning. -/
def readOnly (handles : Keyed String) (mayBeEmpty : Bool) (tokens : List Token) : Option Node :=
  if mayBeEmpty && (tokens.head?.all (· == .documentEnd)) then
    if endsDocuments tokens then some Node.nothing else none
  else
    match Node.readNode true false (4 * tokens.length + 4) ⟨tokens, [], allHandles handles⟩ with
    | some (node, source) => if endsDocuments source.tokens then some node else none
    | none => none

/-- The node of a text with one document, or `none` for a text without one. The
outer option is for texts that are no YAML or have several documents. -/
def document? (text : String) : Option (Option Node) := do
  let tokens ← Token.tokens? text.toList
  match tokens with
  | [] => some none
  | _ =>
    let (handles, rest) ← readDirectives false [] tokens
    match rest with
    | .documentStart :: rest => (readOnly handles true rest).map some
    | _ => if rest.length = tokens.length then (readOnly handles false tokens).map some else none

end RecordRules.Yaml
