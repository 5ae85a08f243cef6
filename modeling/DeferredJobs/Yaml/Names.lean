import DeferredJobs.Yaml.Tag

/-!
# Names in a YAML text

A text introduces two kinds of names: handles of tags, by directives in front of a document, and
anchors of nodes, at the nodes themselves. `Names` keeps what they stand for while the text is read;
`Names.directive?` reads a directive, and `Names.anchor` introduces an anchor.

* **Handles** are introduced once each.
* **Anchors** may be given again; an alias refers to the node that had the name last. They are told
  apart by labels, and the label of an anchor is the number of names that are known before it.
-/

namespace DeferredJobs.Yaml

/-- What the names in a text stand for. -/
structure Names where
  /-- Whether the version of the language has been told. -/
  versioned : Bool := false
  handles : Tag.Handles := []
  /-- The labels of anchors, each name once. -/
  labels : List (String × Nat) := []

namespace Names

/-! ### Anchors -/

/-- Introduces an anchor. A name that is given again shares its new label with the next new name;
of the nodes with one label, the last one counts. -/
def anchor (n : Names) (name : String) : Nat × Names :=
  let label := n.labels.length
  (label, { n with labels := (name, label) :: n.labels.filter (·.1 ≠ name) })

/-- The label of the node that an alias refers to. -/
def label? (n : Names) (name : String) : Option Nat := n.labels.lookup name

/-- Reads the name of an anchor or an alias after its mark. -/
def anchorName? (cs : List Char) : Option String :=
  let word := cs.takeWhile isWordChar
  let rest := cs.drop word.length
  let ends := blankFollows rest || rest.head?.any fun c => "?:,]\x7d%@\x60".toList.contains c
  if word.isEmpty || !ends then none else some (String.ofList word)

/-! ### Directives -/

/-- Takes note of the version of the language, which is told once. The versions 1.1 and 1.2 are
known. -/
def withVersion? (n : Names) (major minor : Nat) : Option Names :=
  if n.versioned || major ≠ 1 || (minor ≠ 1 && minor ≠ 2) then none
  else some { n with versioned := true }

/-- Introduces a handle. -/
def withHandle? (n : Names) (handle : String) (start : Tag) : Option Names :=
  if (n.handles.lookup handle).isSome then none
  else some { n with handles := (handle, start) :: n.handles }

/-- Reads a number of up to nine digits. -/
def versionNumber? (cs : List Char) : Option (Nat × List Char) :=
  let digits := cs.takeWhile Char.isDigit
  if digits.isEmpty || 9 < digits.length then none
  else some (digits.foldl (fun n c => n * 10 + (c.toNat - '0'.toNat)) 0, cs.drop digits.length)

/-- Reads the version of the language. -/
def version? (n : Names) (cs : List Char) : Option (Names × List Char) := do
  let (major, cs) ← versionNumber? (cs.dropWhile isBlank)
  if cs.head? ≠ some '.' then none
  let (minor, cs) ← versionNumber? cs.tail
  return (← n.withVersion? major minor, cs)

/-- Reads a handle, up to its second mark or, if there is none, as a single mark. -/
def handle? : List Char → Option (String × List Char)
  | '!' :: cs =>
    let word := cs.takeWhile isWordChar
    match cs.drop word.length with
    | '!' :: rest => some ("!" ++ String.ofList word ++ "!", rest)
    | rest => if word.isEmpty then some ("!", rest) else none
  | _ => none

/-- Reads a handle and what it stands for. -/
def declaration? (n : Names) (cs : List Char) : Option (Names × List Char) := do
  let (handle, cs) ← handle? (cs.dropWhile isBlank)
  if !cs.head?.any isBlank then none
  let (start, cs) ← Tag.someSuffix? true (cs.dropWhile isBlank)
  if !blankFollows cs then none
  return (← n.withHandle? handle start, cs)

/-- Reads a directive after its percent sign, up to the next line. -/
def directive? (n : Names) (cs : List Char) : Option (Names × List Char) := do
  let word := cs.takeWhile isWordChar
  let cs := cs.drop word.length
  if !blankFollows cs then none
  let (n, cs) ← match String.ofList word with
    | "YAML" => n.version? cs
    | "TAG" => n.declaration? cs
    | _ => none
  return (n, ← nextLine? cs)

end Names

end DeferredJobs.Yaml
