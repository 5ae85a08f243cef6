/-!
# Encoded values

A `Tree` is the form that values take on their way to a text: scalars, lists, records of named
fields, and named variants. What a reader may find instead is up to the format of the text, so
decoders look at a `Document` through a few questions, each answered with `none` where the
document has another shape. A tree is itself a document.
-/

namespace DeferredJobs.Encoding

/-- An encoded value. A variant without a payload is encoded as its name. -/
inductive Tree where
  | null
  | bool (b : Bool)
  | int (n : Int)
  | text (s : String)
  | list (items : List Tree)
  | fields (entries : List (String × Tree))
  | variant (name : String) (payload : Tree)
deriving Inhabited, Repr

/-- The questions that a decoder asks of a document. -/
class Document (δ : Type) where
  /-- Whether the document stands for a missing value; `none` if it claims to and does not. -/
  isNull? : δ → Option Bool
  bool? : δ → Option Bool
  /-- The document as an integer that may be negative. -/
  int? : δ → Option Int
  /-- The document as a natural number. -/
  natural? : δ → Option Nat
  text? : δ → Option String
  items? : δ → Option (List δ)
  /-- The fields of a record. -/
  entries? : δ → Option (List (String × δ))
  /-- The values of a record's fields, in order, if the document leaves their names out. -/
  values? : δ → Option (List δ) := fun _ => none
  /-- The document as a variant: its name and, where it has one, its payload. -/
  choice? : δ → Option (String × Option δ)

namespace Tree

instance : Document Tree where
  isNull?
    | null => some true
    | _ => some false
  bool?
    | bool b => some b
    | _ => none
  int?
    | int n => some n
    | _ => none
  natural?
    | int n => n.toNat?
    | _ => none
  text?
    | text s => some s
    | _ => none
  items?
    | list items => some items
    | _ => none
  entries?
    | fields entries => some entries
    | _ => none
  choice?
    | text s => some (s, none)
    | variant name payload => some (name, some payload)
    | _ => none

end Tree

end DeferredJobs.Encoding
