/-
OpBindings.DescriptorTable — the records of a document.

A table is a sequence of records, and an empty document is an empty table.
The entries of a record are read in their order, and the first that does not
fit is reported. Tags do not matter, except on the document and on variants.
-/
import OpBindings.Fault
import OpBindings.Yaml.Node

namespace OpBindings

open Yaml (Node)

namespace DescriptorTable

/-! ## Values -/

/-- The node inside its tags. -/
def untagged : Node → Node
  | .tagged _ content => untagged content
  | node => node

mutual

/-- Whether a tag stands on the node or anywhere in it. -/
def hasTag : Node → Bool
  | .tagged .. => true
  | .sequence items => itemsHaveTag items
  | .mapping entries => entriesHaveTag entries
  | _ => false

def itemsHaveTag : List Node → Bool
  | [] => false
  | item :: items => hasTag item || itemsHaveTag items

def entriesHaveTag : List (Node × Node) → Bool
  | [] => false
  | (key, value) :: entries => hasTag key || hasTag value || entriesHaveTag entries

end

/-- What a node is, in a message. -/
def found : Node → Record.Found
  | .null => .null
  | .boolean value => .boolean value
  | .integer value => .integer (toString value)
  | .float value => .float value.text
  | .text value => .string value
  | .sequence _ => .sequence
  | .mapping _ => .mapping
  | .tagged _ content => found content

/-- The text of a field; null is none. -/
def textField (node : Node) : Except Record.Mismatch (Option String) :=
  match node with
  | .null => .ok none
  | node =>
    match untagged node with
    | .text value => .ok (some value)
    | other => .error (.notText (found other))

/-- The texts of a list, if it holds nothing else. -/
def texts? : List Node → Option (List String)
  | [] => some []
  | .text value :: rest => (texts? rest).map (value :: ·)
  | _ => none

/-- The variants of a record: a text or a list of texts; null is none. -/
def variantsField (node : Node) : Except Record.Mismatch (Option VariantSpec) :=
  match node with
  | .null => .ok none
  | node =>
    if hasTag node then .error .taggedVariants
    else
      match node with
      | .text value => .ok (some (.oneText value))
      | .sequence items =>
        match texts? items with
        | some names => .ok (some (.listed names))
        | none => .error .notVariants
      | _ => .error .notVariants

/-! ## Records -/

/-- The name of an entry. -/
def fieldName (key : Node) : Except Record.Mismatch String :=
  match untagged key with
  | .text name => .ok name
  | other => .error (.notKey (found other))

/-- The record with one more entry. -/
def setField (r : Record) (name : String) (value : Node) : Except Record.Mismatch Record :=
  match name with
  | "func" => do return { r with declaration := ← textField value }
  | "python_module" => do return { r with moduleTag := ← textField value }
  | "variants" => do return { r with variants := ← variantsField value }
  | _ => .ok r

/-- The fields that can be there once only. -/
def fieldNames : List String := ["func", "python_module", "variants"]

/-- Reads the entries of a record; `seen` are the names before them. -/
def readEntries (r : Record) (seen : List String) :
    List (Node × Node) → Except Record.Mismatch Record
  | [] => .ok r
  | (key, value) :: entries => do
    let name ← fieldName key
    if fieldNames.contains name && seen.contains name then .error (.repeatedField name)
    else readEntries (← setField r name value) (name :: seen) entries

/-- The record that a node holds; null is a record without fields. -/
def readRecord (node : Node) : Except Record.Mismatch Record :=
  match untagged node with
  | .mapping entries => readEntries {} [] entries
  | .null => .ok {}
  | other => .error (.notRecord (found other))

/-! ## The table -/

/-- The records of the nodes from `index` on. -/
def readRecords (index : Nat) : List Node → Except Fault (List Record)
  | [] => .ok []
  | node :: nodes => do
    let r ← (readRecord node).mapError fun m => .record index (.mismatch m)
    let rs ← readRecords (index + 1) nodes
    .ok (r :: rs)

/-- The records of a document. -/
def ofNode : Node → Except Fault (List Record)
  | .sequence nodes => readRecords 0 nodes
  | .null => .ok []
  | _ => .error .notATable

/-- The records of a text. -/
def ofYaml (text : String) : Except Fault (List Record) :=
  match Node.ofText? text with
  | some node => ofNode node
  | none => .error .load

end DescriptorTable

end OpBindings
