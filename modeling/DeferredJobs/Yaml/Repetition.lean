import DeferredJobs.Yaml.Node

/-!
# Repetition in a YAML text

Aliases let a short text stand for a large value: a record that contains many aliases may itself
have many. A text is read as a value only as long as it stays in proportion: the aliases that
reading follows, each of them as often as it is met, are at most a hundred times as many as the
events of the text.

* **Events** are scalars, aliases, and the starts and ends of collections (`Node.events`).
* **Aliases are followed** where a decoder looks (`Site.followed`). What it ignores may repeat as it
  likes, and so may what nobody asks for behind an alias.
-/

namespace DeferredJobs.Yaml

open Encoding

/-! ### Events -/

namespace Node

mutual

/-- The number of events that write a node. -/
def events : Node → Nat
  | absent | reference _ | scalar .. => 1
  | sequence _ items => eventsOfItems items + 2
  | mapping _ entries => eventsOfEntries entries + 2

/-- The number of events that write some items. -/
def eventsOfItems : List Node → Nat
  | [] => 0
  | item :: items => events item + eventsOfItems items

/-- The number of events that write some entries. -/
def eventsOfEntries : List (Node × Node) → Nat
  | [] => 0
  | (name, value) :: entries => events name + events value + eventsOfEntries entries

end

/-- The number of aliases that a node is: one or none. -/
def aliasCount : Node → Nat
  | reference _ => 1
  | _ => 0

end Node

/-! ### Aliases that are followed -/

namespace Site

/-- The names of the entries of a mapping. All of them are looked at. -/
def names (s : Site) : List Node :=
  match s.target with
  | .mapping _ entries => entries.map (·.1)
  | _ => []

mutual

/-- The number of aliases that are followed where a value of some shape is read. -/
def followed : Shape → Site → Nat
  | .scalar, s => s.node.aliasCount
  | .list item, s =>
    s.node.aliasCount + (((Document.items? s).getD []).map (followed item)).sum
  | .fields layout, s =>
    s.node.aliasCount + (s.names.map Node.aliasCount).sum
      + followedIn layout ((Document.entries? s).getD [])
  | .variant payloads, s =>
    s.node.aliasCount
      + match Document.choice? s with
        | some (name, some payload) => followedIn payloads [(name, payload)]
        | _ => 0

/-- The number of aliases that are followed where those of some entries are read that have one of
the given names. -/
def followedIn : List (String × Shape) → List (String × Site) → Nat
  | [], _ => 0
  | (name, shape) :: layout, entries =>
    (((entries.filter (·.1 == name)).map fun e => followed shape e.2).sum)
      + followedIn layout entries

end

end Site

end DeferredJobs.Yaml

/-! ### Reading -/

namespace DeferredJobs.Encoding

/-- Reads a value from a YAML text that holds at most one document and that stays in proportion. -/
def decodeYaml {α : Type} [Codec α] (text : String) : Option α := do
  let node ← Yaml.Node.ofText? text
  let site := Yaml.Site.root node
  if site.followed (shape α) ≤ 100 * node.events then decode site else none

end DeferredJobs.Encoding
