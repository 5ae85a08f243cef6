import DeferredJobs.Yaml.Names
import DeferredJobs.Yaml.Scalar

/-!
# Tokens of a YAML text

`Token.ofText?` splits a text into tokens. Indentation becomes tokens of its own: a collection in
block form starts with a token and ends with `blockEnd`. That a scalar is a key shows only at the
colon after it, so places where a key may have started are kept in mind (`KeyStart`), and the
tokens of a key are put there once the colon is found.

Names are resolved here, because what they stand for is told by the text in front of them
(`Names`): tokens hold whole tags, and a label in place of the name of an anchor.
-/

namespace DeferredJobs.Yaml

/-- A token of a YAML text. -/
inductive Token where
  | documentStart
  | documentEnd
  | blockSequenceStart
  | blockMappingStart
  | blockEnd
  | flowSequenceStart
  | flowSequenceEnd
  | flowMappingStart
  | flowMappingEnd
  /-- The dash of an item. -/
  | blockEntry
  /-- The comma of a flow collection. -/
  | flowEntry
  | key
  | value
  | tag (tag : Tag)
  /-- The label that the node behind it gets. -/
  | anchor (label : Nat)
  /-- An alias: the label of a node that stands here once more. -/
  | reference (label : Nat)
  | scalar (style : Style) (text : String)
  | directive
  | streamEnd
deriving DecidableEq, Repr

namespace Token

/-- A place where a key may have started. -/
structure KeyStart where
  /-- Without a colon after it, the text is wrong. -/
  required : Bool
  /-- The number of tokens before it. -/
  position : Nat
  place : Place

/-- How far a text has been read. -/
structure Progress where
  rest : List Char
  place : Place := {}
  tokens : Array Token := #[]
  /-- The number of flow collections that are open. -/
  flowDepth : Nat := 0
  /-- Whether a key may start here. -/
  keyAllowed : Bool := true
  /-- The column of the innermost block collection; negative outside of all. -/
  indent : Int := -1
  /-- The columns of the block collections around it. -/
  outerIndents : List Int := []
  /-- Where a key may have started, in the innermost flow collection and in those around it. -/
  keyStart : Option KeyStart := none
  outerKeyStarts : List (Option KeyStart) := []
  names : Names := {}

namespace Progress

/-! ### Small steps -/

def inFlow (s : Progress) : Bool := 0 < s.flowDepth

def push (s : Progress) (t : Token) : Progress := { s with tokens := s.tokens.push t }

/-- Goes on where less of the text is left. -/
def goTo (s : Progress) (rest : List Char) : Progress :=
  { s with rest, place := s.place.past (s.rest.take (s.rest.length - rest.length)) }

/-- Passes `n` ASCII characters of the line. -/
def skip (s : Progress) (n : Nat) : Progress :=
  { s with rest := s.rest.drop n, place := s.place.along n }

/-- Blanks, comments and line ends before a token: whether a key may start after them, the text
that follows, and its place. Tabs count as blanks only where no key may start. A byte order mark
counts as a blank at the start of a line. -/
def skipGap (flow : Bool) (keyAllowed comment : Bool) (place : Place) :
    List Char → Bool × List Char × Place
  | [] => (keyAllowed, [], place)
  | c :: cs =>
    if isBreak c then skipGap flow (keyAllowed || !flow) false (place.after c) cs
    else if comment || c == ' ' || (c == '\t' && (flow || !keyAllowed))
        || (c == '\uFEFF' && place.column == 0) then
      skipGap flow keyAllowed comment (place.after c) cs
    else if c == '#' then skipGap flow keyAllowed true (place.after c) cs
    else (keyAllowed, c :: cs, place)

/-- Goes to the next token. -/
def toToken (s : Progress) : Progress :=
  let (keyAllowed, rest, place) := skipGap s.inFlow s.keyAllowed false s.place s.rest
  { s with keyAllowed, rest, place }

/-! ### Keys -/

/-- Gives up a possible key; a required one must not be given up. -/
def KeyStart.dropped : Option KeyStart → Option (Option KeyStart)
  | some k => if k.required then none else some none
  | none => some none

/-- Keys end on their line and within 1024 characters. -/
def KeyStart.refreshed (place : Place) (k : Option KeyStart) : Option (Option KeyStart) :=
  if k.any fun k => k.place.line < place.line || k.place.index + 1024 < place.index then dropped k
  else some k

/-- Gives up the possible key of the innermost collection if it has become too long. Those of the
collections around it can wait until they are innermost again. -/
def dropStaleKey (s : Progress) : Option Progress := do
  return { s with keyStart := ← KeyStart.refreshed s.place s.keyStart }

/-- Gives up the possible key of the innermost collection. -/
def dropKey (s : Progress) : Option Progress := do
  return { s with keyStart := ← KeyStart.dropped s.keyStart }

/-- Keeps in mind that a key may start here. -/
def markKey (s : Progress) : Option Progress :=
  if s.keyAllowed then do
    let s ← s.dropKey
    let required := !s.inFlow && s.indent == s.place.column
    return { s with keyStart := some ⟨required, s.tokens.size, s.place⟩ }
  else some s

/-! ### Indentation -/

/-- Opens a block collection at a column further in, its token at some position. -/
def openBlock (s : Progress) (column position : Nat) (t : Token) : Progress :=
  if !s.inFlow && s.indent < column then
    { s with
      indent := column, outerIndents := s.indent :: s.outerIndents
      tokens := s.tokens.insertIdxIfInBounds position t }
  else s

/-- Closes the block collections that start right of a column. -/
def closeBlocks (s : Progress) (column : Int) : Progress :=
  if s.inFlow then s
  else
    let closed := (s.indent :: s.outerIndents).takeWhile (column < ·)
    match (s.indent :: s.outerIndents).drop closed.length with
    | [] => s
    | indent :: outerIndents =>
      { s with
        indent, outerIndents
        tokens := s.tokens ++ Array.replicate closed.length blockEnd }

/-! ### Tokens -/

/-- The end of the text. -/
def endStream (s : Progress) : Option (Array Token) := do
  let s ← (s.closeBlocks (-1)).dropKey
  return s.tokens.push streamEnd

/-- A mark between documents. -/
def documentMark (s : Progress) (t : Token) : Option Progress := do
  let s ← (s.closeBlocks (-1)).dropKey
  return ({ s with keyAllowed := false }.push t).skip 3

def openFlow (s : Progress) (t : Token) : Option Progress := do
  let s ← s.markKey
  return ({ s with
    flowDepth := s.flowDepth + 1, keyStart := none
    outerKeyStarts := s.keyStart :: s.outerKeyStarts, keyAllowed := true }.push t).skip 1

def closeFlow (s : Progress) (t : Token) : Option Progress := do
  let s ← s.dropKey
  let s := if s.inFlow then
    { s with
      flowDepth := s.flowDepth - 1, keyStart := s.outerKeyStarts.head?.join
      outerKeyStarts := s.outerKeyStarts.tail }
    else s
  return ({ s with keyAllowed := false }.push t).skip 1

def comma (s : Progress) : Option Progress := do
  let s ← s.dropKey
  return ({ s with keyAllowed := true }.push flowEntry).skip 1

def dash (s : Progress) : Option Progress := do
  if !s.inFlow && !s.keyAllowed then none
  let s := s.openBlock s.place.column s.tokens.size blockSequenceStart
  let s ← s.dropKey
  return ({ s with keyAllowed := true }.push blockEntry).skip 1

def questionMark (s : Progress) : Option Progress := do
  if !s.inFlow && !s.keyAllowed then none
  let s := s.openBlock s.place.column s.tokens.size blockMappingStart
  let s ← s.dropKey
  return ({ s with keyAllowed := !s.inFlow }.push key).skip 1

def colon (s : Progress) : Option Progress :=
  match s.keyStart with
  | some k =>
    let s := { s with
      keyStart := none, keyAllowed := false
      tokens := s.tokens.insertIdxIfInBounds k.position key }
    let s := s.openBlock k.place.column k.position blockMappingStart
    some ((s.push value).skip 1)
  | none =>
    if !s.inFlow && !s.keyAllowed then none
    else
      let s := s.openBlock s.place.column s.tokens.size blockMappingStart
      some (({ s with keyAllowed := !s.inFlow }.push value).skip 1)

/-- A directive, to the end of its line. -/
def directiveToken (s : Progress) : Option Progress := do
  let s ← (s.closeBlocks (-1)).dropKey
  let (names, rest) ← s.names.directive? s.rest.tail
  return ({ s with keyAllowed := false, names }.push directive).goTo rest

def tagToken (s : Progress) : Option Progress := do
  let s ← s.markKey
  let (handle, suffix, rest) ← Tag.read? s.rest.tail
  let t ← Tag.ofParts? s.names.handles handle suffix
  if blankFollows rest || (s.inFlow && rest.head? == some ',') then
    return ({ s with keyAllowed := false }.push (tag t)).goTo rest
  else none

def anchorToken (s : Progress) : Option Progress := do
  let s ← s.markKey
  let name ← Names.anchorName? s.rest.tail
  let (label, names) := s.names.anchor name
  return ({ s with keyAllowed := false, names }.push (anchor label)).skip (name.length + 1)

/-- An alias of an anchor in front of it. -/
def aliasToken (s : Progress) : Option Progress := do
  let s ← s.markKey
  let name ← Names.anchorName? s.rest.tail
  let label ← s.names.label? name
  return ({ s with keyAllowed := false }.push (reference label)).skip (name.length + 1)

/-- A scalar that has been read. -/
def scanned (s : Progress) (style : Style) (r : Scanned) : Progress :=
  { s.push (scalar style (String.ofList r.text)) with
    rest := r.rest, place := r.place, keyAllowed := r.brokeLine }

def quoted (s : Progress) (read : List Char → Gap → Place → List Char → Option Scanned) :
    Option Progress := do
  let s ← s.markKey
  return s.scanned .quoted (← read [] .none (s.place.along 1) s.rest.tail)

def block (s : Progress) (folds : Bool) : Option Progress := do
  let s ← s.dropKey
  let r ← blockFrom folds s.indent (s.place.along 1) s.rest.tail
  return { s.scanned (if folds then .folded else .literal) r with keyAllowed := true }

def plain (s : Progress) : Option Progress := do
  let s ← s.markKey
  return s.scanned .plain (← plainFrom s.inFlow (s.indent + 1).toNat [] .none s.place s.rest)

/-- Whether a plain scalar may start with a character that has another meaning before a blank. -/
def startsPlain (flow : Bool) (c : Char) (cs : List Char) : Bool :=
  if c == '-' then !cs.head?.any isBlank
  else if c == '?' || c == ':' then !flow && !blankFollows cs
  else !(isBlank c || ",[]\x7b\x7d#&*!|>'\"%@".toList.contains c || c == '\u0060')

/-- Reads the token at the current character. -/
def next (s : Progress) (c : Char) (cs : List Char) : Option Progress :=
  let flow := s.inFlow
  if s.place.column == 0 && c == '%' then s.directiveToken
  else if s.place.column == 0 && isDocumentMark s.rest then
    s.documentMark (if c == '-' then documentStart else documentEnd)
  else if c == '[' then s.openFlow flowSequenceStart
  else if c == '{' then s.openFlow flowMappingStart
  else if c == ']' then s.closeFlow flowSequenceEnd
  else if c == '}' then s.closeFlow flowMappingEnd
  else if c == ',' then s.comma
  else if c == '-' && blankFollows cs then s.dash
  else if c == '?' && (flow || blankFollows cs) then s.questionMark
  else if c == ':' && (flow || blankFollows cs) then s.colon
  else if c == '*' then s.aliasToken
  else if c == '&' then s.anchorToken
  else if c == '!' then s.tagToken
  else if c == '|' && !flow then s.block false
  else if c == '>' && !flow then s.block true
  else if c == '\'' then s.quoted singleQuotedFrom
  else if c == '"' then s.quoted doubleQuotedFrom
  else if startsPlain flow c cs then s.plain
  else none

/-- Reads all tokens; each of them takes a character at least. -/
def run : Nat → Progress → Option (Array Token)
  | 0, _ => none
  | fuel + 1, s => do
    let s ← s.toToken.dropStaleKey
    let s := s.closeBlocks s.place.column
    match s.rest with
    | [] => s.endStream
    | c :: cs => run fuel (← s.next c cs)

end Progress

/-- The tokens of a text, if it is well formed as far as tokens go. -/
def ofText? (text : String) : Option (List Token) := do
  let cs := text.toList
  if cs.all isAllowed then
    let tokens ← Progress.run (cs.length + 1) { rest := unifyBreaks cs }
    return tokens.toList
  else none

end Token

end DeferredJobs.Yaml
