import DeferredJobs.Job

/-!
# Dispatch order

Jobs are dispatched by falling priority, then by age, then by their place in the queue, and last
by id. A job without a place counts as if it had the last one.
-/

namespace DeferredJobs

/-- What the dispatch order looks at. -/
structure OrderingKey where
  priority : Int32
  createdAt : Nanos
  insertionOrder : Option Int64
  id : String
deriving DecidableEq

namespace OrderingKey

/-- The place in the queue that a key is compared by. -/
def place (k : OrderingKey) : Int64 := k.insertionOrder.getD Int64.maxValue

/-- Compares two keys: `lt` where the first job is dispatched before the second. -/
protected def compare (a b : OrderingKey) : Ordering :=
  (compare b.priority a.priority).then <|
  (compare a.createdAt b.createdAt).then <|
  (compare a.place b.place).then <|
  compare a.id b.id

instance : Ord OrderingKey := ⟨OrderingKey.compare⟩

/-- The comparison for uses that allow for keys which cannot be compared. There are none. -/
def partialCompare (a b : OrderingKey) : Option Ordering := some (compare a b)

end OrderingKey

/-- The key by which a job is dispatched. -/
def Profile.orderingKey (p : Profile) : OrderingKey :=
  ⟨p.priority, p.createdAt, p.insertionOrder, p.id⟩

/-- Puts a list into dispatch order, keeping the order of items with equal keys. -/
def sortByKey {α : Type} (key : α → OrderingKey) (xs : List α) : List α :=
  xs.mergeSort fun a b => (compare (key a) (key b)).isLE

end DeferredJobs
