import DeferredJobs.Encoding.Shape
import DeferredJobs.Encoding.Tree
import DeferredJobs.Tags
import DeferredJobs.Time.Duration

/-!
# Codecs

A `Codec` writes values of a type as trees and reads them from documents. This module has the
codecs of scalars, optional values, lists and tag sets, and the rules by which records and
variants are read:

* **Fields.** A field that occurs twice is refused; fields that nobody asks for are ignored.
* **Optional fields.** A missing field reads as `none`, as an explicit null does.
* **Fields without names.** Where a document gives the values of a record in order, without names,
  those at the end that have a default may be left out, and there are none to ignore.
* **Variants.** A variant without a payload may carry a null.
-/

namespace DeferredJobs.Encoding

open Document

/-- How values of a type are encoded and decoded. -/
class Codec (α : Type) where
  /-- What decoding looks at. -/
  shape : Shape
  encode : α → Tree
  decode {δ : Type} [Document δ] : δ → Option α

export Codec (shape encode decode)

variable {α δ : Type} [Document δ]

/-! ### Scalars -/

instance : Codec Bool where
  shape := .scalar
  encode b := .bool b
  decode d := bool? d

instance : Codec String where
  shape := .scalar
  encode s := .text s
  decode d := text? d

/-- What a number stands for, if it is in the range from `least` to `greatest`. -/
def inRange? {ν : Type} [LE ν] [DecidableLE ν] (least greatest : ν) (ofNumber : ν → α)
    (number : Option ν) : Option α := do
  let n ← number
  if least ≤ n ∧ n ≤ greatest then some (ofNumber n) else none

instance : Codec Int64 where
  shape := .scalar
  encode n := .int n.toInt
  decode d := inRange? Int64.minValue.toInt Int64.maxValue.toInt Int64.ofInt (int? d)

instance : Codec Int32 where
  shape := .scalar
  encode n := .int n.toInt
  decode d := inRange? Int32.minValue.toInt Int32.maxValue.toInt Int32.ofInt (int? d)

instance : Codec UInt32 where
  shape := .scalar
  encode n := .int n.toNat
  decode d := inRange? 0 (UInt32.size - 1) UInt32.ofNat (natural? d)

instance : Codec UInt64 where
  shape := .scalar
  encode n := .int n.toNat
  decode d := inRange? 0 (UInt64.size - 1) UInt64.ofNat (natural? d)

/-- Durations are stored in whole milliseconds. -/
instance : Codec Duration where
  shape := shape UInt64
  encode d := encode d.wholeMillis
  decode d := (decode d).map Duration.ofMillis

/-! ### Optional values and collections -/

instance [Codec α] : Codec (Option α) where
  shape := shape α
  encode
    | none => .null
    | some a => encode a
  decode d := do
    if ← isNull? d then return none
    return some (← decode d)

instance [Codec α] : Codec (List α) where
  shape := .list (shape α)
  encode as := .list (as.map encode)
  decode d := do (← items? d).mapM decode

instance : Codec TagSet where
  shape := shape (List String)
  encode s := encode s.toList
  decode d := (decode d).map TagSet.ofList

/-! ### Fields of records -/

/-- The fields of a record as a document shows them. -/
structure Fields (δ : Type) where
  entries : List (String × δ)
  /-- Whether the document names the fields. -/
  named : Bool

/-- The fields of a document that is a record with fields of some names, in order. -/
def fields? (layout : List (String × Shape)) (d : δ) : Option (Fields δ) :=
  match entries? d with
  | some entries => some { entries, named := true }
  | none => do
    let values ← values? d
    if layout.length < values.length then none
    return { entries := (layout.map (·.1)).zip values, named := false }

namespace Fields

/-- What a look-up finds. -/
inductive Found (δ : Type) where
  | absent
  | once (d : δ)
  | repeated

/-- Looks a field up by name. -/
def find (fs : Fields δ) (name : String) : Found δ :=
  match fs.entries.filter (·.1 == name) with
  | [] => .absent
  | [(_, d)] => .once d
  | _ => .repeated

/-- A field that must be there. -/
def required [Codec α] (fs : Fields δ) (name : String) : Option α :=
  match fs.find name with
  | .once d => decode d
  | _ => none

/-- A field with a value to take where it is missing. -/
def defaulted [Codec α] (fs : Fields δ) (name : String) (default : α) : Option α :=
  match fs.find name with
  | .absent => some default
  | .once d => decode d
  | .repeated => none

/-- A field that may be missing or null; without names it must not be missing. -/
def optional [Codec α] (fs : Fields δ) (name : String) : Option (Option α) :=
  if fs.named then fs.defaulted name none else fs.required name

end Fields

/-! ### Variants -/

/-- The payload of a variant that has none. -/
def unitPayload (payload : Option δ) : Option Unit :=
  if payload.all (isNull? · == some true) then some () else none

/-- Reads a variant without a payload by its name. -/
def decodeNamed (values : List (String × α)) (d : δ) : Option α := do
  let (name, payload) ← choice? d
  unitPayload payload
  values.lookup name

end DeferredJobs.Encoding
