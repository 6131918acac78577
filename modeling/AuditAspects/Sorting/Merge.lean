import AuditAspects.Sorting.Place

/-!
# Merging ordered lists

Two ordered lists become one.  A comparison may fail, and the first one that does decides
the fault, so the order of the comparisons is part of the rule.  What stands in front of
both lists or behind both is left where it is.  The rest is merged from the side of the
shorter list.  Items are compared one by one until one list has won several times in a
row; then the merge goes on in leaps, each of which looks for the place of the other
list's next item, as long as a leap is a long one.  How many wins in a row it takes is the
*patience* of the merge, which leaps lower and the return from them raises; it is handed
on from one merge to the next.
-/

namespace AuditAspects.Sorting

variable {ε α : Type}

/-- A comparison that may fail: whether the first item is below the second. -/
abbrev Comparison (ε α : Type) := α → α → Except ε Bool

/-- The length from which a leap is a long one, and the patience to start with. -/
def longLeap : Nat := 7

/-- Patience after a leap. -/
def lowered (patience : Nat) : Nat :=
  if patience > 1 then patience - 1 else patience

/-- An item does not go behind another: it is not above it. -/
def notAbove (below : Comparison ε α) (key : α) (x : α) : Except ε Bool :=
  (below key x).map not

/-! ## From the front -/

/-- What is merged, the last item first, with the rest of both lists behind it. -/
def behind (merged first second : List α) : List α :=
  merged.reverse ++ first ++ second

mutual

/-- Merges item by item from the front, with the wins in a row of each list.  The first
list keeps at least two items until the last of them goes to the end. -/
def mergeItems (below : Comparison ε α) :
    (fuel patience winsA winsB : Nat) → (merged as bs : List α) → Except ε (List α × Nat)
  | fuel + 1, patience, winsA, winsB, merged, a :: as, b :: bs => do
      if ← below b a then
        if bs.isEmpty then
          return (behind (b :: merged) (a :: as) [], patience)
        else if patience ≤ winsB + 1 then
          mergeLeaps below fuel (patience + 1) (b :: merged) (a :: as) bs
        else
          mergeItems below fuel patience 0 (winsB + 1) (b :: merged) (a :: as) bs
      else
        if as.length = 1 then
          return (behind (a :: merged) (b :: bs) as, patience)
        else if patience ≤ winsA + 1 then
          mergeLeaps below fuel (patience + 1) (a :: merged) as (b :: bs)
        else
          mergeItems below fuel patience (winsA + 1) 0 (a :: merged) as (b :: bs)
  | _, patience, _, _, merged, as, bs => .ok (behind merged as bs, patience)

/-- Merges in leaps from the front. -/
def mergeLeaps (below : Comparison ε α) :
    (fuel patience : Nat) → (merged as bs : List α) → Except ε (List α × Nat)
  | fuel + 1, patience, merged, as, b :: bs => do
      let (leapA, restA) ← splitFront (notAbove below b) as
      match restA with
      | a :: a' :: as =>
          if bs.isEmpty then
            return (behind (b :: (leapA.reverse ++ merged)) (a :: a' :: as) [],
              lowered patience)
          else
            let (leapB, restB) ← splitFront (below · a) bs
            if restB.isEmpty then
              return (behind (leapB.reverse ++ b :: (leapA.reverse ++ merged)) (a :: a' :: as) [],
                lowered patience)
            else if as.isEmpty then
              return (behind (a :: (leapB.reverse ++ b :: (leapA.reverse ++ merged))) restB [a'],
                lowered patience)
            else if longLeap ≤ leapA.length || longLeap ≤ leapB.length then
              mergeLeaps below fuel (lowered patience)
                (a :: (leapB.reverse ++ b :: (leapA.reverse ++ merged))) (a' :: as) restB
            else
              mergeItems below fuel (lowered patience + 1) 0 0
                (a :: (leapB.reverse ++ b :: (leapA.reverse ++ merged))) (a' :: as) restB
      | as => return (behind (leapA.reverse ++ merged) (b :: bs) as, lowered patience)
  | _, patience, merged, as, bs => .ok (behind merged as bs, patience)

end

/-- Merges two lists from the front.  The first item of the second list goes first, and
the last item of the first list last. -/
def mergeFromFront (below : Comparison ε α) (patience : Nat) (as : List α) :
    List α → Except ε (List α × Nat)
  | [] => .ok (as, patience)
  | b :: bs =>
      if bs.isEmpty then .ok (b :: as, patience)
      else if as.length = 1 then .ok (b :: bs ++ as, patience)
      else mergeItems below (2 * (as.length + bs.length) + 2) patience 0 0 [b] as bs

/-! ## From the back -/

/-- What is merged, with the rest of both lists in front of it, each with its last item
first. -/
def before (first second merged : List α) : List α :=
  first.reverse ++ (second.reverse ++ merged)

mutual

/-- Merges item by item from the back, with the wins in a row of each list.  Both lists
come with their last items first, and the second keeps at least two items until the first
of them goes to the front. -/
def mergeItemsBack (below : Comparison ε α) :
    (fuel patience winsA winsB : Nat) → (as bs merged : List α) → Except ε (List α × Nat)
  | fuel + 1, patience, winsA, winsB, a :: as, b :: bs, merged => do
      if ← below b a then
        if as.isEmpty then
          return (before [] (b :: bs) (a :: merged), patience)
        else if patience ≤ winsA + 1 then
          mergeLeapsBack below fuel (patience + 1) as (b :: bs) (a :: merged)
        else
          mergeItemsBack below fuel patience (winsA + 1) 0 as (b :: bs) (a :: merged)
      else
        if bs.length = 1 then
          return (before bs (a :: as) (b :: merged), patience)
        else if patience ≤ winsB + 1 then
          mergeLeapsBack below fuel (patience + 1) (a :: as) bs (b :: merged)
        else
          mergeItemsBack below fuel patience 0 (winsB + 1) (a :: as) bs (b :: merged)
  | _, patience, _, _, as, bs, merged => .ok (before as bs merged, patience)

/-- Merges in leaps from the back. -/
def mergeLeapsBack (below : Comparison ε α) :
    (fuel patience : Nat) → (as bs merged : List α) → Except ε (List α × Nat)
  | fuel + 1, patience, as, b :: bs, merged => do
      let (leapA, restA) ← splitBack (notAbove below b) as
      match restA with
      | [] => return (before [] (b :: bs) (leapA.reverse ++ merged), lowered patience)
      | a :: as =>
          if bs.length = 1 then
            return (before bs (a :: as) (b :: (leapA.reverse ++ merged)), lowered patience)
          else
            let (leapB, restB) ← splitBack (below · a) bs
            if restB.length ≤ 1 then
              return (before restB (a :: as) (leapB.reverse ++ b :: (leapA.reverse ++ merged)),
                lowered patience)
            else if as.isEmpty then
              return (before [] restB (a :: (leapB.reverse ++ b :: (leapA.reverse ++ merged))),
                lowered patience)
            else if longLeap ≤ leapA.length || longLeap ≤ leapB.length then
              mergeLeapsBack below fuel (lowered patience) as restB
                (a :: (leapB.reverse ++ b :: (leapA.reverse ++ merged)))
            else
              mergeItemsBack below fuel (lowered patience + 1) 0 0 as restB
                (a :: (leapB.reverse ++ b :: (leapA.reverse ++ merged)))
  | _, patience, as, bs, merged => .ok (before as bs merged, patience)

end

/-- Merges two lists from the back.  The last item of the first list goes last, and the
first item of the second list first. -/
def mergeFromBack (below : Comparison ε α) (patience : Nat) (as bs : List α) :
    Except ε (List α × Nat) :=
  match as.reverse with
  | [] => .ok (bs, patience)
  | a :: rest =>
      if rest.isEmpty then .ok (bs ++ [a], patience)
      else if bs.length = 1 then .ok (bs ++ as, patience)
      else
        mergeItemsBack below (2 * (as.length + bs.length) + 2) patience 0 0 rest bs.reverse [a]

/-! ## Both lists -/

/-- Merges two lists from the side of the shorter one. -/
def mergeMiddle (below : Comparison ε α) (patience : Nat) (as bs : List α) :
    Except ε (List α × Nat) :=
  if as.length ≤ bs.length then mergeFromFront below patience as bs
  else mergeFromBack below patience as bs

/-- Merges two ordered lists, and gives the patience that is left.  Of two items that are
not below each other, the one from the first list goes first. -/
def merge (below : Comparison ε α) (patience : Nat) (as : List α) :
    List α → Except ε (List α × Nat)
  | [] => .ok (as, patience)
  | b :: bs => do
      let (front, middleA) ← splitFront (notAbove below b) as
      match middleA.getLast? with
      | none => return (as ++ b :: bs, patience)
      | some last =>
          let stop ← countFromBack (below · last) (b :: bs)
          let middleB := (b :: bs).take stop
          let (middle, patience) ← mergeMiddle below patience middleA middleB
          return (front ++ middle ++ (b :: bs).drop stop, patience)

/-! ## Tests -/

/-- Numbers, no comparison of which fails. -/
example : (merge (fun m n => .ok (m < n)) 7 [1, 4, 6] [2, 3, 5, 9]
      : Except Unit (List Nat × Nat)).toOption
    = some ([1, 2, 3, 4, 5, 6, 9], 7) := by decide +kernel
example : (merge (fun m n => .ok (m < n)) 7 [1, 4, 5, 6] [2, 3]
      : Except Unit (List Nat × Nat)).toOption
    = some ([1, 2, 3, 4, 5, 6], 7) := by decide +kernel
/-- Equal items stay in the order of the lists. -/
example : (merge (fun m n => .ok (m.1 < n.1)) 7 [(1, 0), (2, 0)] [(1, 1), (2, 1)]
      : Except Unit (List (Nat × Nat) × Nat)).toOption.map Prod.fst
    = some [(1, 0), (1, 1), (2, 0), (2, 1)] := by decide +kernel

end AuditAspects.Sorting
