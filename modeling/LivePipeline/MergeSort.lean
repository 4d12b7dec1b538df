/-! Stable merge sort under a comparison that may have effects. Comparisons are made one at a time,
an element of the left part first and one of the right part second. -/

namespace LivePipeline

variable {α : Type} {m : Type → Type v} [Monad m]

/-- Merges two sorted lists. The element of the left list goes first unless it compares greater. -/
def mergeM (compare : α → α → m Ordering) : List α → List α → m (List α)
  | [], right => pure right
  | x :: xs, [] => pure (x :: xs)
  | x :: xs, y :: ys => do
    match ← compare x y with
    | .gt => return y :: (← mergeM compare (x :: xs) ys)
    | _ => return x :: (← mergeM compare xs (y :: ys))
termination_by left right => left.length + right.length

/-- Sorts both halves and merges them; the first half is the shorter one. -/
def mergeSortM (compare : α → α → m Ordering) (items : List α) : m (List α) := do
  if items.length ≤ 1 then return items
  else
    let left ← mergeSortM compare (items.take (items.length / 2))
    let right ← mergeSortM compare (items.drop (items.length / 2))
    mergeM compare left right
termination_by items.length
decreasing_by
  · simp only [List.length_take]; omega
  · simp only [List.length_drop]; omega

end LivePipeline
