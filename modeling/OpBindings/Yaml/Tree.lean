/-
OpBindings.Yaml.Tree — the shape of a document.

A tree is what the tokens of a document say, before anchors are followed and
words are given a meaning. `Tree.document?` reads the one document of a
text: a second document, or a token that fits nowhere, refuses the text.
-/
import OpBindings.Yaml.Token.Stream

namespace OpBindings.Yaml

/-- What can stand before a node. -/
structure Props where
  anchor : Option String := none
  /-- The tag with its handle replaced by what it stands for, in octets. -/
  tag : Option (List UInt8) := none
deriving DecidableEq, Repr

/-- A node and what is below it. -/
inductive Tree where
  | reference (name : String)
  | scalar (props : Props) (text : String) (plain : Bool)
  | sequence (props : Props) (items : List Tree)
  | mapping (props : Props) (entries : List (Tree × Tree))
deriving Repr

namespace Tree

/-- The node that stands where nothing was written. -/
def missing : Tree := .scalar {} "" true

/-! ## Properties -/

/-- What the handles of a document stand for. -/
abbrev Handles := List (String × List UInt8)

/-- The handles that need no directive. -/
def defaultHandles : Handles :=
  [("!", "!".toUTF8.toList), ("!!", "tag:yaml.org,2002:".toUTF8.toList)]

/-- The tag that a word stands for; its handle must be known. -/
def resolve? (handles : Handles) (word : TagWord) : Option (List UInt8) :=
  if word.handle = "" then some word.suffix
  else (handles.lookup word.handle).map (· ++ word.suffix)

/-- The properties before a node: an anchor and a tag, in either order. -/
def props? (handles : Handles) : List Token → Option (Props × List Token)
  | .anchor name :: .tag word :: rest | .tag word :: .anchor name :: rest => do
    return ({ anchor := some name, tag := some (← resolve? handles word) }, rest)
  | .anchor name :: rest => some ({ anchor := some name }, rest)
  | .tag word :: rest => do return ({ tag := some (← resolve? handles word) }, rest)
  | rest => some ({}, rest)

/-! ## Nodes -/

/-- Whether the next token is one of `tokens`. -/
def nextIs (tokens : List Token) (ts : List Token) : Bool :=
  ts.head?.any tokens.contains

/-- The tokens behind a comma, unless the first item is still to come. -/
def behindComma? (first : Bool) (ts : List Token) : Option (List Token) :=
  if first then some ts
  else
    match ts with
    | .flowEntry :: rest => some rest
    | _ => none

mutual

/-- The node at the head of the tokens, and the tokens behind it. `block`
allows a block's own marks, `indentless` a sequence without one. Every call
passes a token or hands a smaller limit on. -/
def node? (handles : Handles) (block indentless : Bool) (ts : List Token) :
    Nat → Option (Tree × List Token)
  | 0 => none
  | limit + 1 => do
    match ts with
    | .reference name :: rest => return (.reference name, rest)
    | ts =>
      let (props, ts) ← props? handles ts
      match ts with
      | .scalar text plain :: rest => return (.scalar props text plain, rest)
      | .flowSequenceStart :: rest =>
        let (items, rest) ← flowItems? handles true rest limit
        return (.sequence props items, rest)
      | .flowMappingStart :: rest =>
        let (entries, rest) ← flowEntries? handles true rest limit
        return (.mapping props entries, rest)
      | ts =>
        match ts, block, indentless with
        | .blockEntry :: _, _, true =>
          let (items, rest) ← looseItems? handles ts limit
          return (.sequence props items, rest)
        | .blockSequenceStart :: rest, true, _ =>
          let (items, rest) ← blockItems? handles rest limit
          return (.sequence props items, rest)
        | .blockMappingStart :: rest, true, _ =>
          let (entries, rest) ← blockEntries? handles rest limit
          return (.mapping props entries, rest)
        | ts, _, _ => if props = {} then none else return (.scalar props "" true, ts)

/-- The node at the head of the tokens, or a missing one before any of `ends`. -/
def nodeUnless? (handles : Handles) (ends : List Token) (block indentless : Bool)
    (ts : List Token) : Nat → Option (Tree × List Token)
  | 0 => none
  | limit + 1 =>
    if nextIs ends ts then some (missing, ts) else node? handles block indentless ts limit

/-- The value behind a key, which is missing without its mark. -/
def value? (handles : Handles) (ends : List Token) (block : Bool) (ts : List Token) :
    Nat → Option (Tree × List Token)
  | 0 => none
  | limit + 1 =>
    match ts with
    | .value :: rest => nodeUnless? handles ends block block rest limit
    | ts => some (missing, ts)

/-- The items of an indented sequence, up to its end. -/
def blockItems? (handles : Handles) (ts : List Token) : Nat → Option (List Tree × List Token)
  | 0 => none
  | limit + 1 => do
    match ts with
    | .blockEntry :: rest =>
      let (item, rest) ← nodeUnless? handles [.blockEntry, .blockEnd] true false rest limit
      let (items, rest) ← blockItems? handles rest limit
      return (item :: items, rest)
    | .blockEnd :: rest => return ([], rest)
    | _ => none

/-- The items of a sequence that stands no deeper than its key. -/
def looseItems? (handles : Handles) (ts : List Token) : Nat → Option (List Tree × List Token)
  | 0 => none
  | limit + 1 => do
    match ts with
    | .blockEntry :: rest =>
      let ends := [.blockEntry, .key, .value, .blockEnd]
      let (item, rest) ← nodeUnless? handles ends true false rest limit
      let (items, rest) ← looseItems? handles rest limit
      return (item :: items, rest)
    | ts => return ([], ts)

/-- The entries of an indented mapping, up to its end. -/
def blockEntries? (handles : Handles) (ts : List Token) :
    Nat → Option (List (Tree × Tree) × List Token)
  | 0 => none
  | limit + 1 => do
    match ts with
    | .key :: rest =>
      let ends := [.key, .value, .blockEnd]
      let (key, rest) ← nodeUnless? handles ends true true rest limit
      let (value, rest) ← value? handles ends true rest limit
      let (entries, rest) ← blockEntries? handles rest limit
      return ((key, value) :: entries, rest)
    | .blockEnd :: rest => return ([], rest)
    | _ => none

/-- The items of a sequence in brackets, up to its end. A key in it makes an
item that is a mapping of one entry; where that key is missing, the token
that shows so is passed over. -/
def flowItems? (handles : Handles) (first : Bool) (ts : List Token) :
    Nat → Option (List Tree × List Token)
  | 0 => none
  | limit + 1 => do
    match ts with
    | .flowSequenceEnd :: rest => return ([], rest)
    | ts =>
      match ← behindComma? first ts with
      | .flowSequenceEnd :: rest => return ([], rest)
      | .key :: rest =>
        let (key, rest) ←
          if nextIs [.value, .flowEntry, .flowSequenceEnd] rest then
            some (missing, rest.drop 1)
          else node? handles false false rest limit
        let (value, rest) ← value? handles [.flowEntry, .flowSequenceEnd] false rest limit
        let (items, rest) ← flowItems? handles false rest limit
        return (.mapping {} [(key, value)] :: items, rest)
      | ts =>
        let (item, rest) ← node? handles false false ts limit
        let (items, rest) ← flowItems? handles false rest limit
        return (item :: items, rest)

/-- The entries of a mapping in braces, up to its end. Without a mark a node is a key alone. -/
def flowEntries? (handles : Handles) (first : Bool) (ts : List Token) :
    Nat → Option (List (Tree × Tree) × List Token)
  | 0 => none
  | limit + 1 => do
    match ts with
    | .flowMappingEnd :: rest => return ([], rest)
    | ts =>
      match ← behindComma? first ts with
      | .flowMappingEnd :: rest => return ([], rest)
      | .key :: rest =>
        let ends := [.value, .flowEntry, .flowMappingEnd]
        let (key, rest) ← nodeUnless? handles ends false false rest limit
        let (value, rest) ← value? handles [.flowEntry, .flowMappingEnd] false rest limit
        let (entries, rest) ← flowEntries? handles false rest limit
        return ((key, value) :: entries, rest)
      | ts =>
        let (key, rest) ← node? handles false false ts limit
        let (entries, rest) ← flowEntries? handles false rest limit
        return ((key, missing) :: entries, rest)

end

/-! ## The document -/

/-- The handles of a document, after its directives. At most one of them
names the version, which must be known, and no handle is declared twice. -/
def directives? (versioned : Bool) (declared : Handles) :
    List Token → Option (Handles × List Token)
  | .versionDirective major minor :: rest =>
    if versioned || major ≠ 1 || (minor ≠ 1 && minor ≠ 2) then none
    else directives? true declared rest
  | .tagDirective handle meant :: rest =>
    if (declared.lookup handle).isSome then none
    else directives? versioned (declared ++ [(handle, meant)]) rest
  | rest => some (declared ++ defaultHandles, rest)

/-- A token that begins or ends a document. -/
def isEdge : Token → Bool
  | .versionDirective .. | .tagDirective .. | .documentStart | .documentEnd => true
  | _ => false

/-- A limit on calls that the reading of these tokens cannot reach. -/
def callLimit (ts : List Token) : Nat := 4 * ts.length + 4

/-- The content of a document that begins with its mark. -/
def content? (handles : Handles) (ts : List Token) : Option (Tree × List Token) :=
  match ts with
  | [] => some (missing, [])
  | t :: _ =>
    if isEdge t then some (missing, ts) else node? handles true false ts (callLimit ts)

/-- The first document, and the tokens behind it. -/
def first? (ts : List Token) : Option (Tree × List Token) :=
  match ts with
  | .versionDirective .. :: _ | .tagDirective .. :: _ | .documentStart :: _ => do
    match ← directives? false [] ts with
    | (handles, .documentStart :: rest) => content? handles rest
    | _ => none
  | ts => node? defaultHandles true false ts (callLimit ts)

/-- The document of a text; a text without any is an empty document. -/
def document? (ts : List Token) : Option Tree :=
  if ts.isEmpty then some missing
  else do
    let (tree, rest) ← first? ts
    if rest.all (· == .documentEnd) then some tree else none

end Tree

end OpBindings.Yaml
