import DeferredJobs.Encoding.Codec
import DeferredJobs.Yaml.Plain
import DeferredJobs.Yaml.Token

/-!
# Reading YAML

A `Node` is a YAML value before anything is known about its type. `Node.ofText?` reads a text that
holds one document or none. A `Site`, a node in its text, is a document in the sense of decoders,
who decide what a plain scalar stands for: a number for one may be a text for another.
-/

namespace DeferredJobs.Yaml

/-- What may stand in front of a node. -/
structure Properties where
  tag : Option Tag := none
  /-- The label under which aliases refer to the node. -/
  anchor : Option Nat := none
deriving DecidableEq

/-- A YAML value. -/
inductive Node where
  /-- What a text without a document holds. -/
  | absent
  /-- An alias: the node with a label once more. -/
  | reference (label : Nat)
  | scalar (properties : Properties) (style : Style) (text : String)
  | sequence (properties : Properties) (items : List Node)
  | mapping (properties : Properties) (entries : List (Node × Node))
deriving Inhabited

namespace Node

/-- Nothing at all, where a value might stand. -/
def empty (properties : Properties := {}) : Node := scalar properties .plain ""

/-! ### Nodes from tokens -/

/-- Whether the next token is one of those given, so that no node starts. -/
def nextIn (ts stops : List Token) : Bool := ts.head?.any stops.contains

/-- The tag and the anchor at the front of a node, in any order and if there are any. -/
def readProperties : List Token → Properties × List Token
  | .anchor label :: .tag tag :: ts => ({ tag, anchor := label }, ts)
  | .tag tag :: .anchor label :: ts => ({ tag, anchor := label }, ts)
  | .anchor label :: ts => ({ anchor := some label }, ts)
  | .tag tag :: ts => ({ tag := some tag }, ts)
  | ts => ({}, ts)

/-- A collection from its parts. -/
def collect {α : Type} (make : α → Node) (r : Option (α × List Token)) :
    Option (Node × List Token) :=
  r.map fun (a, ts) => (make a, ts)

mutual

/-- Reads a node. A block collection may stand where `block` is set, and a sequence without an
indentation of its own where `bare` is. -/
def read (fuel : Nat) (block bare : Bool) (ts : List Token) : Option (Node × List Token) :=
  match fuel with
  | 0 => none
  | fuel + 1 =>
    let (ps, ts) := readProperties ts
    let nothing := if ps = {} then none else some (empty ps, ts)
    match ts with
    | .reference label :: rest => if ps = {} then some (reference label, rest) else nothing
    | .scalar style text :: ts => some (scalar ps style text, ts)
    | .flowSequenceStart :: ts => collect (sequence ps) (readFlowItems fuel true ts)
    | .flowMappingStart :: ts => collect (mapping ps) (readFlowEntries fuel true ts)
    | .blockEntry :: _ =>
      if bare then collect (sequence ps) (readBareItems fuel ts) else nothing
    | .blockSequenceStart :: rest =>
      if block then collect (sequence ps) (readBlockItems fuel rest) else nothing
    | .blockMappingStart :: rest =>
      if block then collect (mapping ps) (readBlockEntries fuel rest) else nothing
    | _ => nothing

/-- Reads a node, or nothing where one of the given tokens comes next. -/
def readUnless (fuel : Nat) (block bare : Bool) (stops ts : List Token) :
    Option (Node × List Token) :=
  match fuel with
  | 0 => none
  | fuel + 1 => if nextIn ts stops then some (empty, ts) else read fuel block bare ts

/-- Reads the items of a block sequence up to its end. -/
def readBlockItems (fuel : Nat) (ts : List Token) : Option (List Node × List Token) :=
  match fuel with
  | 0 => none
  | fuel + 1 =>
    match ts with
    | .blockEntry :: ts => do
      let (item, ts) ← readUnless fuel true false [.blockEntry, .blockEnd] ts
      let (items, ts) ← readBlockItems fuel ts
      return (item :: items, ts)
    | .blockEnd :: ts => some ([], ts)
    | _ => none

/-- Reads the items of a sequence that ends where no further item follows. -/
def readBareItems (fuel : Nat) (ts : List Token) : Option (List Node × List Token) :=
  match fuel with
  | 0 => none
  | fuel + 1 =>
    match ts with
    | .blockEntry :: ts => do
      let (item, ts) ← readUnless fuel true false [.blockEntry, .key, .value, .blockEnd] ts
      let (items, ts) ← readBareItems fuel ts
      return (item :: items, ts)
    | ts => some ([], ts)

/-- Reads the entries of a block mapping up to its end. -/
def readBlockEntries (fuel : Nat) (ts : List Token) : Option (List (Node × Node) × List Token) :=
  match fuel with
  | 0 => none
  | fuel + 1 =>
    match ts with
    | .key :: ts => do
      let (name, ts) ← readUnless fuel true true [.key, .value, .blockEnd] ts
      let (content, ts) ← match ts with
        | .value :: ts => readUnless fuel true true [.key, .value, .blockEnd] ts
        | ts => some (empty, ts)
      let (entries, ts) ← readBlockEntries fuel ts
      return ((name, content) :: entries, ts)
    | .blockEnd :: ts => some ([], ts)
    | _ => none

/-- Reads the items of a flow sequence up to its end. A key and its value make an item of their
own; a key that is left out takes the mark after it with it. -/
def readFlowItems (fuel : Nat) (first : Bool) (ts : List Token) :
    Option (List Node × List Token) :=
  match fuel with
  | 0 => none
  | fuel + 1 =>
    let next := match first, ts with
      | false, .flowEntry :: ts => some ts
      | false, .flowSequenceEnd :: _ => some ts
      | false, _ => none
      | true, ts => some ts
    match next with
    | none => none
    | some (.flowSequenceEnd :: ts) => some ([], ts)
    | some (.key :: ts) => do
      let (name, ts) ←
        if nextIn ts [.value, .flowEntry, .flowSequenceEnd] then some (empty, ts.tail)
        else read fuel false false ts
      let (content, ts) ← match ts with
        | .value :: ts => readUnless fuel false false [.flowEntry, .flowSequenceEnd] ts
        | ts => some (empty, ts)
      let (items, ts) ← readFlowItems fuel false ts
      return (mapping {} [(name, content)] :: items, ts)
    | some ts => do
      let (item, ts) ← read fuel false false ts
      let (items, ts) ← readFlowItems fuel false ts
      return (item :: items, ts)

/-- Reads the entries of a flow mapping up to its end. A value may be left out. -/
def readFlowEntries (fuel : Nat) (first : Bool) (ts : List Token) :
    Option (List (Node × Node) × List Token) :=
  match fuel with
  | 0 => none
  | fuel + 1 =>
    let next := match first, ts with
      | false, .flowEntry :: ts => some ts
      | false, .flowMappingEnd :: _ => some ts
      | false, _ => none
      | true, ts => some ts
    match next with
    | none => none
    | some (.flowMappingEnd :: ts) => some ([], ts)
    | some (.key :: ts) => do
      let (name, ts) ← readUnless fuel false false [.value, .flowEntry, .flowMappingEnd] ts
      let (content, ts) ← match ts with
        | .value :: ts => readUnless fuel false false [.flowEntry, .flowMappingEnd] ts
        | ts => some (empty, ts)
      let (entries, ts) ← readFlowEntries fuel false ts
      return ((name, content) :: entries, ts)
    | some ts => do
      let (name, ts) ← read fuel false false ts
      let (entries, ts) ← readFlowEntries fuel false ts
      return ((name, empty) :: entries, ts)

end

/-! ### Documents -/

/-- Reads a document. Directives may stand in front of its mark, and its content may be missing
after the mark. -/
def readDocument (fuel : Nat) (ts : List Token) : Option (Node × List Token) :=
  match ts, ts.dropWhile (· == .directive) with
  | [.streamEnd], _ => some (absent, ts)
  | _, .documentStart :: ts =>
    readUnless fuel true false [.directive, .documentStart, .documentEnd, .streamEnd] ts
  | ts, _ => read fuel true false ts

/-- The value of a text that holds at most one document. -/
def ofText? (text : String) : Option Node := do
  let ts ← Token.ofText? text
  let (node, ts) ← readDocument (4 * ts.length + 4) ts
  if ts.dropWhile (· == .documentEnd) = [.streamEnd] then some node else none

/-! ### Anchors -/

/-- The properties of a node. -/
def properties : Node → Properties
  | absent | reference _ => {}
  | scalar ps _ _ | sequence ps _ | mapping ps _ => ps

/-- The node without its properties. -/
def bare : Node → Node
  | scalar _ style text => scalar {} style text
  | sequence _ items => sequence {} items
  | mapping _ entries => mapping {} entries
  | node => node

/-- The label of a node, with the node. -/
def labelled (node : Node) : List (Nat × Node) :=
  match node.properties.anchor with
  | some label => [(label, node)]
  | none => []

mutual

/-- The nodes with labels in a node, in the order in which they start. -/
def anchors : Node → List (Nat × Node)
  | sequence ps items => labelled (sequence ps items) ++ anchorsOfItems items
  | mapping ps entries => labelled (mapping ps entries) ++ anchorsOfEntries entries
  | node => labelled node

/-- The nodes with labels in some items. -/
def anchorsOfItems : List Node → List (Nat × Node)
  | [] => []
  | item :: items => anchors item ++ anchorsOfItems items

/-- The nodes with labels in some entries. -/
def anchorsOfEntries : List (Node × Node) → List (Nat × Node)
  | [] => []
  | (name, value) :: entries => anchors name ++ anchors value ++ anchorsOfEntries entries

end

end Node

/-! ### Nodes as documents -/

open Encoding (Document)

/-- A node in its text. -/
structure Site where
  /-- What labels stand for. Of the nodes with one label, the last in the text comes first. -/
  targets : List (Nat × Node)
  node : Node

namespace Site

/-- The place of the outermost node. -/
def root (node : Node) : Site := ⟨node.anchors.reverse, node⟩

/-- Another node of the same text. -/
def beside (s : Site) (node : Node) : Site := { s with node }

/-- The node that stands at a place, itself or by an alias. -/
def target (s : Site) : Node :=
  match s.node with
  | .reference label => (s.targets.lookup label).getD .absent
  | node => node

/-- Whether nothing is written at a place. -/
def isNothing (s : Site) : Bool :=
  match s.target with
  | .absent => true
  | .scalar _ .plain "" => true
  | _ => false

/-- The text of a scalar of any kind. -/
def scalarText? (s : Site) : Option String :=
  match s.target with
  | .scalar _ _ text => some text
  | _ => none

/-- The text that shows a value of the type of a standard tag: a plain scalar, or a literal block
with that tag. -/
def typedText? (tag : Tag) (s : Site) : Option (List Char) :=
  match s.target with
  | .scalar _ .plain text => some text.toList
  | .scalar ps .literal text => if ps.tag = some tag then some text.toList else none
  | _ => none

instance : Document Site where
  isNull? s :=
    match s.target with
    | .absent => some true
    | .scalar ps .plain text =>
      let isWord := Plain.isNullWord text.toList
      match ps.tag with
      | none => some (text.isEmpty || isWord)
      | some tag => if tag ≠ .null then some false else if isWord then some true else none
    | _ => some false
  bool? s := (s.typedText? .bool).bind Plain.bool?
  int? s := (s.typedText? .int).bind Plain.signed?
  natural? s := (s.typedText? .int).bind Plain.unsigned?
  text? := scalarText?
  items? s :=
    match s.target with
    | .sequence _ items => some (items.map s.beside)
    | _ => if s.isNothing then some [] else none
  entries? s :=
    match s.target with
    | .mapping _ entries =>
      entries.mapM fun (name, value) => do
        return (← (s.beside name).scalarText?, s.beside value)
    | _ => if s.isNothing then some [] else none
  choice? s :=
    match s.target.properties.tag.bind Tag.variantName? with
    | some name => some (name, some (s.beside s.target.bare))
    | none => s.scalarText?.map (·, none)

end Site

end DeferredJobs.Yaml
