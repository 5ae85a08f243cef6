/-!
# Characters of a YAML text

The classes of characters that readers and writers of YAML tell apart. A missing character, at the
end of a text, counts as blank where a blank must follow.
-/

namespace DeferredJobs.Yaml

/-- A space or a tab. -/
def isBlank (c : Char) : Bool := c == ' ' || c == '\t'

/-- A character that ends a line. -/
def isBreak (c : Char) : Bool :=
  c == '\n' || c == '\r' || c == '\u0085' || c == '\u2028' || c == '\u2029'

/-- Whether a text starts with a blank or a break, or is at its end. -/
def blankFollows : List Char → Bool
  | [] => true
  | c :: _ => isBlank c || isBreak c

/-- Whether a text may hold the character at all. -/
def isAllowed (c : Char) : Bool :=
  let n := c.toNat
  n == 0x09 || n == 0x0A || n == 0x0D || (0x20 ≤ n && n ≤ 0x7E) || n == 0x85
    || (0xA0 ≤ n && n ≤ 0xFFFD) || 0x10000 ≤ n

/-- A character of the names that a text gives to handles and anchors. -/
def isWordChar (c : Char) : Bool := c.isAlphanum || c == '-' || c == '_'

/-- The value of a hexadecimal digit. -/
def hexDigit? (c : Char) : Option Nat :=
  if '0' ≤ c ∧ c ≤ '9' then some (c.toNat - '0'.toNat)
  else if 'a' ≤ c ∧ c ≤ 'f' then some (c.toNat - 'a'.toNat + 10)
  else if 'A' ≤ c ∧ c ≤ 'F' then some (c.toNat - 'A'.toNat + 10)
  else none

/-- Whether the character is written as it is. Tabs and the byte order mark are not. -/
def isPrintable (c : Char) : Bool :=
  let n := c.toNat
  n == 0x0A || (0x20 ≤ n && n ≤ 0x7E) || (0xA0 ≤ n && n ≤ 0xFFFD && n != 0xFEFF) || 0x10000 ≤ n

/-- Writes every line end that is not a separator of its own kind as a newline. -/
def unifyBreaks : List Char → List Char
  | [] => []
  | '\r' :: '\n' :: cs => '\n' :: unifyBreaks cs
  | '\r' :: cs => '\n' :: unifyBreaks cs
  | '\u0085' :: cs => '\n' :: unifyBreaks cs
  | c :: cs => c :: unifyBreaks cs

/-- Whether a text starts with a line that separates documents: three dashes or three dots, and
nothing but blanks next to them. -/
def isDocumentMark : List Char → Bool
  | '-' :: '-' :: '-' :: cs => blankFollows cs
  | '.' :: '.' :: '.' :: cs => blankFollows cs
  | _ => false

/-- Goes to the next line from the end of what stands in a line: blanks and a comment may follow. -/
def nextLine? (cs : List Char) : Option (List Char) :=
  let cs := cs.dropWhile isBlank
  let cs := if cs.head? == some '#' then cs.dropWhile (!isBreak ·) else cs
  match cs with
  | [] => some []
  | c :: cs => if isBreak c then some cs else none

/-- A place in a text. Its index counts bytes of UTF-8, its column counts characters. -/
structure Place where
  index : Nat := 0
  line : Nat := 0
  column : Nat := 0

/-- The place after a character. -/
def Place.after (p : Place) (c : Char) : Place :=
  let index := p.index + c.utf8Size
  if isBreak c then ⟨index, p.line + 1, 0⟩ else ⟨index, p.line, p.column + 1⟩

/-- The place after a piece of text. -/
def Place.past (p : Place) (cs : List Char) : Place := cs.foldl Place.after p

/-- The place after several ASCII characters of one line. -/
def Place.along (p : Place) (n : Nat) : Place := ⟨p.index + n, p.line, p.column + n⟩

end DeferredJobs.Yaml
