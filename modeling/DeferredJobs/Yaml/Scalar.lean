import DeferredJobs.Yaml.Chars

/-!
# Scalars in a YAML text

Each function here reads one scalar from the start of a text and returns its value, the text that
follows, and the place where that begins. A scalar may run over several lines: a single line end
inside it becomes a space, and empty lines become line ends (`Gap`). In a literal block all line
ends are kept.
-/

namespace DeferredJobs.Yaml

/-- How a scalar stands in a text. -/
inductive Style where
  | plain
  | quoted
  | literal
  | folded
deriving DecidableEq, Repr

/-- A scalar that was read. -/
structure Scanned where
  text : List Char
  rest : List Char
  place : Place
  /-- Whether the scalar was followed by a line end, which was read too. -/
  brokeLine : Bool := false

/-! ### Gaps between words -/

/-- What stands between two words of a scalar, the latest characters first. -/
inductive Gap where
  | none
  | blanks (cs : List Char)
  /-- A line end and those after it. The first one is missing where it was escaped. -/
  | lines (first : Option Char) (more : List Char)

namespace Gap

def isNone : Gap → Bool
  | none => true
  | _ => false

def isLines : Gap → Bool
  | lines _ _ => true
  | _ => false

/-- The gap with a blank after it. Blanks at the start of a line do not count. -/
def blank (c : Char) : Gap → Gap
  | none => blanks [c]
  | blanks cs => blanks (c :: cs)
  | lines first more => lines first more

/-- The gap with a line end after it. Blanks at the end of a line do not count. -/
def line (c : Char) : Gap → Gap
  | lines first more => lines first (c :: more)
  | _ => lines (some c) []

/-- What the gap amounts to in the value. -/
def folded : Gap → List Char
  | none => []
  | blanks cs => cs
  | lines (some '\n') [] => [' ']
  | lines (some '\n') more => more
  | lines (some c) more => more ++ [c]
  | lines Option.none more => more

end Gap

/-! ### Plain scalars -/

/-- Whether a plain scalar that stands in a flow collection must not go on with these characters:
a colon before another indicator. -/
def isFlowColon : List Char → Bool
  | ':' :: c :: _ => [',', '?', '[', ']', '{', '}'].contains c
  | _ => false

/-- Whether a plain scalar ends before these characters. -/
def endsPlain (flow : Bool) : List Char → Bool
  | [] => true
  | c :: cs =>
    (c == ':' && blankFollows cs) || (flow && [',', '[', ']', '{', '}'].contains c)

/-- Whether a word after a gap no longer belongs to a plain scalar. -/
def endsPlainAfterGap (flow : Bool) (indent : Nat) (place : Place) (cs : List Char) : Bool :=
  (!flow && place.column < indent) || (place.column == 0 && isDocumentMark cs)
    || cs.head? == some '#'

/-- A plain scalar that ends with some gap behind it. -/
def plainEnd (out : List Char) (gap : Gap) (place : Place) (rest : List Char) : Scanned :=
  { text := out.reverse, rest, place, brokeLine := gap.isLines }

/-- Reads on in a plain scalar. Its further lines start at column `indent` or beyond. -/
def plainFrom (flow : Bool) (indent : Nat) (out : List Char) (gap : Gap) (place : Place) :
    List Char → Option Scanned
  | [] => some (plainEnd out gap place [])
  | c :: cs =>
    if isBlank c then
      if c == '\t' && gap.isLines && place.column < indent then none
      else plainFrom flow indent out (gap.blank c) (place.after c) cs
    else if isBreak c then
      plainFrom flow indent out (gap.line c) (place.after c) cs
    else if !gap.isNone && endsPlainAfterGap flow indent place (c :: cs) then
      some (plainEnd out gap place (c :: cs))
    else if flow && isFlowColon (c :: cs) then none
    else if endsPlain flow (c :: cs) then some (plainEnd out gap place (c :: cs))
    else plainFrom flow indent (c :: gap.folded ++ out) .none (place.after c) cs

/-! ### Quoted scalars -/

/-- Whether a document mark stands where a quoted scalar goes on. -/
def isStrayMark (gap : Gap) (place : Place) (cs : List Char) : Bool :=
  gap.isLines && place.column == 0 && isDocumentMark cs

/-- Reads on in a scalar in single quotes, after its opening quote. -/
def singleQuotedFrom (out : List Char) (gap : Gap) (place : Place) :
    List Char → Option Scanned
  | [] => none
  | '\'' :: '\'' :: cs => singleQuotedFrom ('\'' :: gap.folded ++ out) .none (place.along 2) cs
  | '\'' :: cs =>
    some { text := (gap.folded ++ out).reverse, rest := cs, place := place.along 1 }
  | c :: cs =>
    if isBlank c then singleQuotedFrom out (gap.blank c) (place.after c) cs
    else if isBreak c then singleQuotedFrom out (gap.line c) (place.after c) cs
    else if isStrayMark gap place (c :: cs) then none
    else singleQuotedFrom (c :: gap.folded ++ out) .none (place.after c) cs

/-- The character that a letter stands for after a backslash. -/
def escapedChar? : Char → Option Char
  | '0' => some '\x00'
  | 'a' => some '\x07'
  | 'b' => some '\x08'
  | 't' | '\t' => some '\t'
  | 'n' => some '\n'
  | 'v' => some '\x0b'
  | 'f' => some '\x0c'
  | 'r' => some '\r'
  | 'e' => some '\x1b'
  | ' ' => some ' '
  | '"' => some '"'
  | '/' => some '/'
  | '\\' => some '\\'
  | 'N' => some '\u0085'
  | '_' => some '\u00a0'
  | 'L' => some '\u2028'
  | 'P' => some '\u2029'
  | _ => none

/-- The number of hexadecimal digits that follow a letter after a backslash. -/
def hexLength? : Char → Option Nat
  | 'x' => some 2
  | 'u' => some 4
  | 'U' => some 8
  | _ => none

/-- The character whose code the first `n` characters give in base 16. -/
def hexChar? (n : Nat) (cs : List Char) : Option Char := do
  let ds := cs.take n
  if ds.length < n then none
  let code ← ds.foldlM (fun v c => do return v * 16 + (← hexDigit? c)) 0
  if code < 0xD800 ∨ (0xDFFF < code ∧ code < 0x110000) then some (Char.ofNat code) else none

/-- Reads on in a scalar in double quotes, after its opening quote. -/
def doubleQuotedFrom (out : List Char) (gap : Gap) (place : Place) :
    List Char → Option Scanned
  | [] => none
  | '"' :: cs => some { text := (gap.folded ++ out).reverse, rest := cs, place := place.along 1 }
  | '\\' :: c :: cs =>
    if isBreak c then
      doubleQuotedFrom (gap.folded ++ out) (.lines none []) ((place.along 1).after c) cs
    else
      match escapedChar? c with
      | some e => doubleQuotedFrom (e :: gap.folded ++ out) .none (place.along 2) cs
      | none => do
        let n ← hexLength? c
        let e ← hexChar? n cs
        doubleQuotedFrom (e :: gap.folded ++ out) .none (place.along (n + 2)) (cs.drop n)
  | c :: cs =>
    if isBlank c then doubleQuotedFrom out (gap.blank c) (place.after c) cs
    else if isBreak c then doubleQuotedFrom out (gap.line c) (place.after c) cs
    else if isStrayMark gap place (c :: cs) then none
    else doubleQuotedFrom (c :: gap.folded ++ out) .none (place.after c) cs
termination_by cs => cs.length
decreasing_by all_goals simp only [List.length_cons, List.length_drop]; omega

/-! ### Blocks -/

/-- What becomes of the line ends at the end of a block. -/
inductive Chomping where
  | strip
  | clip
  | keep
deriving DecidableEq

/-- What follows the bar or the angle of a block. -/
structure BlockHeader where
  chomping : Chomping := .clip
  /-- How far in the lines start, where the header gives it. -/
  increment : Option Nat := none

/-- The chomping that a sign stands for. -/
def chomping? : Char → Option Chomping
  | '+' => some .keep
  | '-' => some .strip
  | _ => none

/-- The increment that a digit stands for; there is none of zero. -/
def increment? (c : Char) : Option Nat :=
  if '1' ≤ c ∧ c ≤ '9' then some (c.toNat - '0'.toNat) else none

/-- Reads the header of a block: a sign and a digit, in any order, or one of them, or none. -/
def blockHeader : List Char → BlockHeader × List Char
  | a :: b :: cs =>
    match chomping? a, increment? a, chomping? b, increment? b with
    | some chomping, _, _, some n => ({ chomping, increment := n }, cs)
    | _, some n, some chomping, _ => ({ chomping, increment := n }, cs)
    | some chomping, _, _, _ => ({ chomping }, b :: cs)
    | _, some n, _, _ => ({ increment := some n }, b :: cs)
    | _, _, _, _ => ({}, a :: b :: cs)
  | [a] =>
    match chomping? a, increment? a with
    | some chomping, _ => ({ chomping }, [])
    | _, some n => ({ increment := some n }, [])
    | _, _ => ({}, [a])
  | [] => ({}, [])

/-- Empty lines in a block, and the indentation of the line after them. -/
structure EmptyLines where
  /-- The line ends, the latest first. -/
  breaks : List Char
  /-- The column that was reached in the line after them. -/
  column : Nat
  /-- The furthest column that was reached. -/
  furthest : Nat
  rest : List Char

/-- Reads empty lines, and the spaces of the line after them up to column `indent` or, where that
is not known, all of them. -/
def emptyLines (indent : Option Nat) (breaks : List Char) (column furthest : Nat) :
    List Char → Option EmptyLines
  | [] => some { breaks, column, furthest := max furthest column, rest := [] }
  | c :: cs =>
    let inside := indent.all (column < ·)
    if c == ' ' && inside then emptyLines indent breaks (column + 1) furthest cs
    else if c == '\t' && inside then none
    else if isBreak c then emptyLines indent (c :: breaks) 0 (max furthest column) cs
    else some { breaks, column, furthest := max furthest column, rest := c :: cs }

/-- What has been read of a block: its text, the line end after the last line, and the empty lines
after that, each with the latest character first. -/
structure BlockState where
  out : List Char := []
  lastBreak : List Char := []
  /-- Whether the last line started with a blank. -/
  lastBlank : Bool := false

/-- The text with a line end and empty lines brought in before the next line. A folded block turns
a single line end between two words into a space. -/
def BlockState.joined (s : BlockState) (folds : Bool) (breaks : List Char) (blank : Bool) :
    List Char :=
  if folds && s.lastBreak == ['\n'] && !s.lastBlank && !blank then
    if breaks.isEmpty then ' ' :: s.out else breaks ++ s.out
  else breaks ++ s.lastBreak ++ s.out

/-- Reads the lines of a block that start at column `indent`. -/
def blockLines (folds : Bool) (chomping : Chomping) (indent : Nat) :
    Nat → BlockState → EmptyLines → Option (List Char × List Char)
  | 0, _, _ => none
  | fuel + 1, s, e =>
    if e.column = indent ∧ !e.rest.isEmpty then
      let blank := e.rest.head?.any isBlank
      let word := e.rest.takeWhile (!isBreak ·)
      let rest := e.rest.dropWhile (!isBreak ·)
      let out := word.reverse ++ s.joined folds e.breaks blank
      match emptyLines (some indent) [] (if rest.isEmpty then indent + word.length else 0) 0
          rest.tail with
      | none => none
      | some e' =>
        blockLines folds chomping indent fuel
          { out, lastBreak := rest.head?.toList, lastBlank := blank } e'
    else
      let tail := match chomping with
        | .strip => []
        | .clip => s.lastBreak
        | .keep => e.breaks ++ s.lastBreak
      some ((tail ++ s.out).reverse, e.rest)

/-- Reads a block after its bar or angle, inside a collection at column `parent` or, if it is
negative, inside none. -/
def blockFrom (folds : Bool) (parent : Int) (place : Place) (cs : List Char) : Option Scanned := do
  let (header, afterHeader) := blockHeader cs
  let body ← nextLine? afterHeader
  let given := header.increment.map fun n => (max parent 0).toNat + n
  let first ← emptyLines given [] 0 0 body
  let indent := given.getD (max first.furthest (max (parent + 1) 1).toNat)
  let (text, rest) ← blockLines folds header.chomping indent (cs.length + 1) {} first
  return { text, rest, place := place.past (cs.take (cs.length - rest.length)) }

end DeferredJobs.Yaml
