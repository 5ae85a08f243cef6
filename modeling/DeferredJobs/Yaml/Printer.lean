import DeferredJobs.Encoding.Tree
import DeferredJobs.Yaml.Chars
import DeferredJobs.Yaml.Plain

/-!
# Writing YAML

`Tree.toYaml` writes an encoded value as a YAML document: mappings and sequences as blocks, the
fields in order, two columns further in for a mapping inside a mapping, and no further in for the
items of a sequence. Lines are never wrapped.

A string is written in the first of these forms that can hold it: plain, in single quotes, in
double quotes with escapes; a string of several lines as a literal block.
-/

namespace DeferredJobs.Yaml

open Encoding (Tree)

/-! ### Forms of a string -/

/-- How a string is written. -/
inductive Form where
  | plain
  | singleQuoted
  | doubleQuoted
  | literal
deriving DecidableEq

/-- The characters that a plain scalar must not start with. -/
def startIndicators : List Char :=
  ['#', ',', '[', ']', '{', '}', '&', '*', '!', '|', '>', '\'', '"', '%', '@', '\u0060']

/-- Whether some two neighbours, in order, are of two kinds. -/
def hasNeighbours (p q : Char → Bool) : List Char → Bool
  | a :: b :: cs => (p a && q b) || hasNeighbours p q (b :: cs)
  | _ => false

/-- Whether some colon is followed by a blank or ends the text. -/
def hasKeyColon : List Char → Bool
  | [] => false
  | c :: cs => (c == ':' && blankFollows cs) || hasKeyColon cs

/-- Whether the text starts like something that is not a plain scalar. -/
def startsWithIndicator : List Char → Bool
  | [] => false
  | c :: cs =>
    startIndicators.contains c || ((c == '-' || c == '?') && blankFollows cs)
      || (c :: cs).take 3 == ['-', '-', '-'] || (c :: cs).take 3 == ['.', '.', '.']

/-- Whether the text holds something that only double quotes can express: a character that is not
written as it is, or a space before the end of a line. -/
def needsEscapes (s : List Char) : Bool :=
  s.any (!isPrintable ·) || hasNeighbours (· == ' ') isBreak s

def isSpaceOrBreak (c : Char) : Bool := c == ' ' || isBreak c

/-- Whether the text can be written plain and be read as the same text, looks apart. -/
def plainFits (s : List Char) : Bool :=
  !needsEscapes s && !s.any isBreak && !s.head?.any isSpaceOrBreak && !s.getLast?.any isSpaceOrBreak
    && !startsWithIndicator s && !hasKeyColon s
    && !hasNeighbours (fun c => isBlank c || isBreak c) (· == '#') s

/-- The form in which a string is written. -/
def formOf (s : List Char) : Form :=
  if s.contains '\n' then
    if needsEscapes s || s.getLast? == some ' ' then .doubleQuoted else .literal
  else if !Plain.looksTyped s && plainFits s then .plain
  else if needsEscapes s || hasNeighbours isBreak (· == ' ') s then .doubleQuoted
  else .singleQuoted

/-! ### Writing strings -/

/-- `n` spaces. -/
def spaces (n : Nat) : List Char := List.replicate n ' '

/-- Text whose lines start at column `n`: spaces go in front of every character that starts a
line, `fresh` telling whether the first one does. -/
def indented (n : Nat) : (fresh : Bool) → List Char → List Char
  | _, [] => []
  | fresh, c :: cs =>
    if isBreak c then c :: indented n true cs
    else (if fresh then spaces n else []) ++ c :: indented n false cs

/-- Text in single quotes, with its own single quotes doubled. -/
def singleQuoted (n : Nat) (s : List Char) : List Char :=
  let doubled := s.flatMap fun c => if c = '\'' then ['\'', '\''] else [c]
  let closing := if s.getLast?.any isBreak then spaces n else []
  '\'' :: indented n false doubled ++ closing ++ ['\'']

/-- The hexadecimal digits of `n` in capitals, `width` of them. -/
def hexDigits (width n : Nat) : List Char :=
  let ds := (Nat.toDigits 16 n).map Char.toUpper
  List.replicate (width - ds.length) '0' ++ ds

/-- The characters with a short escape, and the letter of it. -/
def shortEscapes : List (Char × Char) :=
  [('\x00', '0'), ('\x07', 'a'), ('\x08', 'b'), ('\t', 't'), ('\n', 'n'), ('\x0b', 'v'),
    ('\x0c', 'f'), ('\r', 'r'), ('\x1b', 'e'), ('"', '"'), ('\\', '\\'), ('\u0085', 'N'),
    ('\u00a0', '_'), ('\u2028', 'L'), ('\u2029', 'P')]

/-- A character as it stands between double quotes. -/
def escaped (c : Char) : List Char :=
  if isPrintable c && !isBreak c && c != '"' && c != '\\' then [c]
  else
    match shortEscapes.lookup c with
    | some letter => ['\\', letter]
    | none =>
      let n := c.toNat
      if n ≤ 0xFF then '\\' :: 'x' :: hexDigits 2 n
      else if n ≤ 0xFFFF then '\\' :: 'u' :: hexDigits 4 n
      else '\\' :: 'U' :: hexDigits 8 n

def doubleQuoted (s : List Char) : List Char := '"' :: s.flatMap escaped ++ ['"']

/-- The mark after a literal block's bar: an indentation where the text does not show it, and what
becomes of the line ends at the end. -/
def literalMark (s : List Char) : List Char :=
  let indentation := if s.head?.any isSpaceOrBreak then ['2'] else []
  let ending := match s.reverse with
    | [] => ['-']
    | c :: cs =>
      if !isBreak c then ['-'] else if cs.isEmpty || cs.head?.any isBreak then ['+'] else []
  indentation ++ ending

/-- A literal block with its lines at column `n`, up to the end of its last line. -/
def literal (n : Nat) (s : List Char) : List Char :=
  let ending := if s.getLast?.any isBreak then [] else ['\n']
  '|' :: literalMark s ++ '\n' :: indented n true s ++ ending

/-- A string up to the end of its last line. Lines of its own start at column `n`. -/
def stringLine (n : Nat) (s : String) : String :=
  let cs := s.toList
  String.ofList <|
    match formOf cs with
    | .plain => cs ++ ['\n']
    | .singleQuoted => singleQuoted n cs ++ ['\n']
    | .doubleQuoted => doubleQuoted cs ++ ['\n']
    | .literal => literal n cs

/-! ### Writing trees -/

/-- Where a value stands, and how it is laid out there. -/
structure Spot where
  /-- What stands in front of a value that goes on in the same line. -/
  gap : String
  /-- What stands in front of a block. -/
  lead : String
  /-- The column of the entries of a mapping. -/
  entries : Nat
  /-- The column of the items of a sequence. -/
  items : Nat

namespace Spot

/-- The start of a document. -/
def root : Spot := ⟨"", "", 0, 0⟩

/-- After a key of a mapping at column `n`. -/
def afterKey (n : Nat) : Spot := ⟨" ", "\n", n + 2, n⟩

/-- After the dash of an item at column `n`. -/
def afterDash (n : Nat) : Spot := ⟨" ", " ", n + 2, n + 2⟩

/-- After a tag, where blocks start on a new line. -/
def afterTag (spot : Spot) : Spot := { spot with gap := " ", lead := "\n" }

/-- The column of the lines of a string. -/
def stringColumn (spot : Spot) : Nat := max 2 spot.entries

/-- What stands in front of the first line of a block at a column. -/
def firstLead (spot : Spot) (column : Nat) : String :=
  if spot.lead = "\n" then "\n" ++ String.ofList (spaces column) else spot.lead

end Spot

mutual

/-- A value in a spot, from the spot to the end of the value's last line. -/
def render (spot : Spot) : Tree → String
  | .null => spot.gap ++ "null\n"
  | .bool b => spot.gap ++ (if b then "true\n" else "false\n")
  | .int n => spot.gap ++ toString n ++ "\n"
  | .text s => spot.gap ++ stringLine spot.stringColumn s
  | .list [] => spot.gap ++ "[]\n"
  | .list (item :: items) =>
    spot.firstLead spot.items ++ renderItem spot.items item ++ renderItems spot.items items
  | .fields [] => spot.gap ++ "\x7b\x7d\n"
  | .fields (entry :: entries) =>
    spot.firstLead spot.entries ++ renderEntry spot.entries entry
      ++ renderEntries spot.entries entries
  | .variant name payload => spot.gap ++ "!" ++ name ++ render spot.afterTag payload

/-- An item of a sequence at a column, from its dash on. -/
def renderItem (column : Nat) (item : Tree) : String :=
  "-" ++ render (.afterDash column) item

/-- Further items of a sequence at a column. -/
def renderItems (column : Nat) : List Tree → String
  | [] => ""
  | item :: items =>
    String.ofList (spaces column) ++ renderItem column item ++ renderItems column items

/-- An entry of a mapping at a column, from its key on. -/
def renderEntry (column : Nat) : String × Tree → String
  | (key, value) => key ++ ":" ++ render (.afterKey column) value

/-- Further entries of a mapping at a column. -/
def renderEntries (column : Nat) : List (String × Tree) → String
  | [] => ""
  | entry :: entries =>
    String.ofList (spaces column) ++ renderEntry column entry ++ renderEntries column entries

end

end DeferredJobs.Yaml

namespace DeferredJobs.Encoding

/-- An encoded value as a YAML document. -/
def Tree.toYaml (t : Tree) : String := Yaml.render .root t

end DeferredJobs.Encoding
