/-!
# Shapes of documents

A `Shape` tells which parts of a document a decoder looks at. It says nothing about what the parts
may hold; it is there to find out, before a value is decoded, how often a format would have to go
back to a part that stands in several places.
-/

namespace DeferredJobs.Encoding

/-- What a decoder looks at. -/
inductive Shape where
  /-- The document itself. -/
  | scalar
  /-- The items of a list. -/
  | list (item : Shape)
  /-- The fields of a record that have these names, in their order. Others are ignored. -/
  | fields (entries : List (String × Shape))
  /-- The payload of a variant with one of these names. -/
  | variant (payloads : List (String × Shape))
deriving Repr

end DeferredJobs.Encoding
