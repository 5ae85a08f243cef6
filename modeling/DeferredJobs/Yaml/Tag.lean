import DeferredJobs.Yaml.Chars

/-!
# Tags in a YAML text

A tag tells the type of the value behind it. It is written as a handle, which stands for some text,
and a suffix, which is put behind that text. `Tag.read?` reads the two, and `Tag.ofParts?` puts
them together.

* **Octets.** A suffix consists of ASCII characters and of octets, two hexadecimal digits after a
  percent sign. The octets of a character stand together, though they need not make up one, so a
  tag is a sequence of octets and not always a text. It ends before a zero octet.
* **Handles.** `!` stands for itself and `!!` for the standard tags, unless a directive says
  otherwise; what other handles stand for is known from directives only. The whole tag may also be
  given between angles, without a handle.
-/

namespace DeferredJobs.Yaml

/-- A tag, or a part of one, as octets. -/
structure Tag where
  octets : List UInt8
deriving DecidableEq, Repr

namespace Tag

/-- The tag with the octets of a text. -/
def ofString (s : String) : Tag := ⟨s.toUTF8.toList⟩

/-- The text of a tag, if its octets are one. -/
def text? (t : Tag) : Option String := String.fromUTF8? ⟨t.octets.toArray⟩

/-- The name of a variant that a tag stands for. A tag that starts with an exclamation mark names the
variant by what follows; a mere exclamation mark names it by itself. -/
def variantName? (t : Tag) : Option String :=
  match t.octets with
  | b :: octets =>
    if b ≠ '!'.toUInt8 then none else if octets.isEmpty then text? t else text? ⟨octets⟩
  | [] => none

/-! ### Standard tags -/

/-- The text that the handle of the standard tags stands for. -/
def standardStart : String := "tag:yaml.org,2002:"

def null : Tag := ofString (standardStart ++ "null")
def bool : Tag := ofString (standardStart ++ "bool")
def int : Tag := ofString (standardStart ++ "int")

/-! ### Reading -/

/-- The octet that two hexadecimal digits stand for. -/
def octet? (high low : Char) : Option UInt8 := do
  return ((← hexDigit? high) * 16 + (← hexDigit? low)).toUInt8

/-- Whether an octet continues a character. -/
def isContinuation (b : UInt8) : Bool := b &&& 0xC0 == 0x80

/-- The number of octets that follow the first one of a character. -/
def continuations? (b : UInt8) : Option Nat :=
  if b &&& 0x80 == 0 then some 0
  else if b &&& 0xE0 == 0xC0 then some 1
  else if b &&& 0xF0 == 0xE0 then some 2
  else if b &&& 0xF8 == 0xF0 then some 3
  else none

/-- The characters that a suffix is written in. Flow indicators count only between angles. -/
def isSuffixChar (angled : Bool) (c : Char) : Bool :=
  isWordChar c || ";/?:@&=+$.!~*'()".toList.contains c || (angled && [',', '[', ']'].contains c)

/-- Reads the octets of a suffix as far as they go. Of the character that has been started,
`pending` octets are still to come. -/
def octetsFrom? (angled : Bool) (pending : Nat) : List Char → Option (List UInt8 × List Char)
  | '%' :: high :: low :: cs => do
    let b ← octet? high low
    let pending ←
      if pending = 0 then continuations? b else if isContinuation b then some (pending - 1) else none
    let (octets, rest) ← octetsFrom? angled pending cs
    return (b :: octets, rest)
  | c :: cs =>
    if c == '%' || pending ≠ 0 then none
    else if isSuffixChar angled c then do
      let (octets, rest) ← octetsFrom? angled 0 cs
      return (c.toUInt8 :: octets, rest)
    else some ([], c :: cs)
  | [] => if pending = 0 then some ([], []) else none

/-- Reads a suffix, which may be empty in form only: what counts ends before a zero octet. -/
def suffix? (angled : Bool) (cs : List Char) : Option (Tag × List Char) := do
  let (octets, rest) ← octetsFrom? angled 0 cs
  return (⟨octets.takeWhile (· ≠ 0)⟩, rest)

/-- Reads a suffix of a character at least. -/
def someSuffix? (angled : Bool) (cs : List Char) : Option (Tag × List Char) := do
  let (suffix, rest) ← suffix? angled cs
  if rest.length < cs.length then some (suffix, rest) else none

/-- Reads a tag after its exclamation mark: its handle, if it has one, its suffix, and the text that
follows. A mere exclamation mark has no handle. -/
def read? (cs : List Char) : Option (Option String × Tag × List Char) :=
  let word := cs.takeWhile isWordChar
  match cs, cs.drop word.length with
  | '<' :: cs, _ => do
    let (suffix, rest) ← someSuffix? true cs
    if rest.head? == some '>' then some (none, suffix, rest.tail) else none
  | _, '!' :: cs => do
    let (suffix, rest) ← someSuffix? false cs
    return (some ("!" ++ String.ofList word ++ "!"), suffix, rest)
  | cs, _ => do
    let (suffix, rest) ← suffix? false cs
    if suffix.octets.isEmpty then return (none, ofString "!", rest)
    return (some "!", suffix, rest)

/-! ### Handles -/

/-- What handles stand for, as directives tell. -/
abbrev Handles := List (String × Tag)

/-- What handles stand for where no directive tells. -/
def standardHandles : Handles := [("!", ofString "!"), ("!!", ofString standardStart)]

/-- The tag of a handle, if there is one, and a suffix. -/
def ofParts? (handles : Handles) (handle : Option String) (suffix : Tag) : Option Tag :=
  match handle with
  | none => some suffix
  | some h => ((handles ++ standardHandles).lookup h).map fun start => ⟨start.octets ++ suffix.octets⟩

end Tag

end DeferredJobs.Yaml
