/-
OpBindings.Yaml.Node — the values of a document.

A document's tree becomes a node in two steps. First every alias is tied to
the anchor that it names (`Linked`); then the aliases are followed, words
get their meaning, and a mapping with two equal keys is refused. How deep a
document nests and how often an alias is followed is limited, so that a
short text cannot stand for an endless one.
-/
import OpBindings.Yaml.CoreSchema
import OpBindings.Yaml.Tree

namespace OpBindings.Yaml

/-- A value of a document. -/
inductive Node where
  | null
  | boolean (value : Bool)
  | integer (value : Int)
  | float (value : Floating)
  | text (value : String)
  | sequence (items : List Node)
  | mapping (entries : List (Node × Node))
  | tagged (tag : String) (content : Node)
deriving Repr

namespace Node

/-! ## Equal nodes -/

mutual

/-- Equality of keys. The order of a mapping's entries does not count. -/
def same : Node → Node → Bool
  | null, null => true
  | boolean a, boolean b => a == b
  | integer a, integer b => a == b
  | float a, float b => a.sameKey b
  | text a, text b => a == b
  | sequence a, sequence b => sameItems a b
  | mapping a, mapping b => a.length == b.length && holdsAll b a
  | tagged s a, tagged t b => s == t && same a b
  | _, _ => false
termination_by a b => sizeOf a + sizeOf b

/-- Equality item by item. -/
def sameItems : List Node → List Node → Bool
  | [], [] => true
  | a :: as, b :: bs => same a b && sameItems as bs
  | _, _ => false
termination_by as bs => sizeOf as + sizeOf bs

/-- Whether every one of the second list's entries is among the first's. -/
def holdsAll (entries : List (Node × Node)) : List (Node × Node) → Bool
  | [] => true
  | (key, value) :: rest => holds key value entries && holdsAll entries rest
termination_by others => sizeOf entries + sizeOf others

/-- Whether an entry with this key and value is in the list. -/
def holds (key value : Node) : List (Node × Node) → Bool
  | [] => false
  | (k, v) :: rest => (same key k && same value v) || holds key value rest
termination_by entries => sizeOf key + sizeOf value + sizeOf entries

end

end Node

/-! ## Tags -/

/-- What a tag says about its node. -/
inductive TagMeaning where
  | nothing
  /-- The node is wrapped under a name of its own. -/
  | named (name : String)
  | boolean
  | integer
  | float
  | null
  /-- A tag that says no more than that a scalar is text. -/
  | foreign
deriving DecidableEq, Repr

namespace TagMeaning

/-- The tags of the core schema that give a scalar its meaning. -/
def core : List (String × TagMeaning) :=
  [("tag:yaml.org,2002:bool", boolean), ("tag:yaml.org,2002:int", integer),
    ("tag:yaml.org,2002:float", float), ("tag:yaml.org,2002:null", null)]

/-- The name without a mark before it; the mark alone is a name. -/
def bareName (name : String) : String :=
  match name.toList with
  | '!' :: c :: rest => String.ofList (c :: rest)
  | _ => name

/-- What a tag in octets says. A mark makes the rest of the tag a name, or is
one itself where nothing follows; a name that is no text says nothing. -/
def ofOctets (octets : List UInt8) : TagMeaning :=
  if octets.head? = some 0x21 then
    match String.fromUTF8? ⟨octets.toArray⟩ with
    | some tag => named (bareName (bareName tag))
    | none => nothing
  else
    match core.find? (·.1.toUTF8.toList == octets) with
    | some (_, meaning) => meaning
    | none => foreign

def of : Option (List UInt8) → TagMeaning
  | none => nothing
  | some octets => ofOctets octets

end TagMeaning

/-! ## Anchors -/

/-- A tree whose aliases point to the numbers of anchors. -/
inductive Linked where
  | reference (anchor : Nat)
  | scalar (tag : TagMeaning) (text : String) (plain : Bool)
  | sequence (tag : TagMeaning) (items : List Linked)
  | mapping (tag : TagMeaning) (entries : List (Linked × Linked))
deriving Repr

/-- The anchors met so far. -/
structure Anchors where
  /-- The number of the anchor of a name. -/
  numbers : List (String × Nat) := []
  /-- The nodes by number, with the order in which they began. -/
  nodes : List (Nat × Nat × Linked) := []
  /-- The number of anchored nodes. -/
  begun : Nat := 0

namespace Anchors

/-- The anchors with one more name. Its number is the count of names before
it, so that a name which is used again moves on to a new number. -/
def name (a : Anchors) (anchor : String) : Anchors :=
  { a with numbers := (anchor, a.numbers.length) :: a.numbers.filter (·.1 != anchor)
           begun := a.begun + 1 }

/-- The anchors with the node of a number. -/
def put (a : Anchors) (number order : Nat) (node : Linked) : Anchors :=
  { a with nodes := (number, order, node) :: a.nodes }

/-- The node of a number: of several, the one that began last. -/
def node? (a : Anchors) (number : Nat) : Option Linked :=
  let candidates := a.nodes.filter (·.1 == number)
  let latest := (candidates.map (·.2.1)).foldr max 0
  (candidates.find? (·.2.1 == latest)).map (·.2.2)

/-- Names the anchor of a node, and keeps the node when it is linked. -/
def anchored (anchor : Option String) (a : Anchors)
    (link : Anchors → Option (Linked × Anchors)) : Option (Linked × Anchors) :=
  match anchor with
  | none => link a
  | some anchor => do
    let (node, after) ← link (a.name anchor)
    return (node, after.put a.numbers.length a.begun node)

end Anchors

namespace Tree

mutual

/-- The tree with its aliases tied to anchors; every alias needs one before it. -/
def link? : Tree → Anchors → Option (Linked × Anchors)
  | .reference name, a => (a.numbers.lookup name).map fun number => (.reference number, a)
  | .scalar props text plain, a =>
    Anchors.anchored props.anchor a fun a => some (.scalar (.of props.tag) text plain, a)
  | .sequence props items, a =>
    Anchors.anchored props.anchor a fun a => do
      let (items, a) ← linkItems? items a
      return (.sequence (.of props.tag) items, a)
  | .mapping props entries, a =>
    Anchors.anchored props.anchor a fun a => do
      let (entries, a) ← linkEntries? entries a
      return (.mapping (.of props.tag) entries, a)

def linkItems? : List Tree → Anchors → Option (List Linked × Anchors)
  | [], a => some ([], a)
  | item :: items, a => do
    let (item, a) ← link? item a
    let (items, a) ← linkItems? items a
    return (item :: items, a)

def linkEntries? : List (Tree × Tree) → Anchors → Option (List (Linked × Linked) × Anchors)
  | [], a => some ([], a)
  | (key, value) :: entries, a => do
    let (key, a) ← link? key a
    let (value, a) ← link? value a
    let (entries, a) ← linkEntries? entries a
    return ((key, value) :: entries, a)

end

mutual

/-- The number of nodes and ends of collections. -/
def size : Tree → Nat
  | .reference _ | .scalar .. => 1
  | .sequence _ items => 2 + sizeItems items
  | .mapping _ entries => 2 + sizeEntries entries

def sizeItems : List Tree → Nat
  | [] => 0
  | item :: items => size item + sizeItems items

def sizeEntries : List (Tree × Tree) → Nat
  | [] => 0
  | (key, value) :: entries => size key + size value + sizeEntries entries

end

end Tree

/-! ## Values -/

namespace Linked

/-- The value of an unquoted word. -/
def wordNode? (text : String) : Option Node :=
  match CoreSchema.meaning text with
  | .null => some .null
  | .boolean value => some (.boolean value)
  | .integer value => some (.integer value)
  | .float value => some (.float value)
  | .text => some (.text text)
  | .outOfRange => none

/-- The value of a scalar without a tag. -/
def untaggedNode? (text : String) (plain : Bool) : Option Node :=
  if plain then wordNode? text else some (.text text)

/-- The value of an integer word under the integer tag. -/
def integerNode? (text : String) : Option Node :=
  match (CoreSchema.integer? text.toList).bind CoreSchema.integerMeaning? with
  | some (.integer value) => some (.integer value)
  | _ => none

/-- The value of a scalar. A tag of the core schema demands a word of its kind. -/
def scalarNode? (tag : TagMeaning) (text : String) (plain : Bool) : Option Node :=
  match tag with
  | .nothing => untaggedNode? text plain
  | .named name => (untaggedNode? text plain).map (.tagged name)
  | .boolean => (CoreSchema.boolean? text).map .boolean
  | .integer => integerNode? text
  | .float => (CoreSchema.float? text.toList).map .float
  | .null => if text ≠ "" && CoreSchema.isNull text then some .null else none
  | .foreign => some (.text text)

/-- A collection under its tag. -/
def wrapped (tag : TagMeaning) (node : Node) : Node :=
  match tag with
  | .named name => .tagged name node
  | _ => node

/-- Follows aliases; the state is how often that may still be done. -/
abbrev Follow := StateT Nat Option

/-- Takes one alias into account. -/
def follow : Follow Unit := fun left => if left = 0 then none else some ((), left - 1)

/-- The entries of a mapping, unless two keys are equal. -/
def distinctEntries? (entries : List (Node × Node)) :
    List (Node × Node) → Option (List (Node × Node))
  | [] => some entries.reverse
  | (key, value) :: rest =>
    if entries.any fun (other, _) => other.same key then none
    else distinctEntries? ((key, value) :: entries) rest

/-- The value of a linked tree; collections nest at most `depth` deep. -/
def node (anchors : Anchors) : (depth : Nat) → Linked → Follow Node
  | depth, linked => do
    let target ←
      match linked with
      | .reference number => do
        follow
        StateT.lift (anchors.node? number)
      | other => pure other
    match target, depth with
    | .reference _, _ => failure
    | .scalar tag text plain, _ => StateT.lift (scalarNode? tag text plain)
    | .sequence _ _, 0 | .mapping _ _, 0 => failure
    | .sequence tag items, depth + 1 => do
      let items ← items.mapM (node anchors depth)
      return wrapped tag (.sequence items)
    | .mapping tag entries, depth + 1 => do
      let entries ← entries.mapM fun (key, value) => do
        let key ← node anchors depth key
        let value ← node anchors depth value
        pure (key, value)
      return wrapped tag (.mapping (← StateT.lift (distinctEntries? [] entries)))

end Linked

namespace Node

/-- How deep collections nest at most. -/
def maxDepth : Nat := 128

/-- How often aliases are followed at most, for each part of a document. -/
def followsPerPart : Nat := 100

/-- The value of a tree. -/
def ofTree? (tree : Tree) : Option Node := do
  let (linked, anchors) ← tree.link? {}
  let (node, _) ← (linked.node anchors maxDepth).run (followsPerPart * tree.size)
  return node

/-- The value of the one document in a text. -/
def ofText? (text : String) : Option Node := do
  ofTree? (← Tree.document? (← tokens? text))

end Node

end OpBindings.Yaml
