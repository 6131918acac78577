import AuditAspects.Sorting.Merge

/-!
# Sorting by runs

A list is sorted by a comparison that may fail.  The list is cut into *runs*, ordered
pieces from the front: as many items as do not descend, or as many as strictly descend,
which are then reversed.  A run that is too short takes in the next items, each put at its
place by halving.  Runs wait on a pile until they are merged with their neighbours; the
*power* of the border between two runs, how often the list has to be halved until the
middles of the two runs are apart, says which borders go first.

Sorting keeps the items, and leaves equal items in the order they came.  It fails with the
fault of the first comparison that fails.
-/

namespace AuditAspects.Sorting

variable {ε α : Type}

/-! ## Runs -/

/-- The items in front that go on in one direction after a given one, where `descends`
says which, and the rest. -/
def splitRun (below : Comparison ε α) (descends : Bool) :
    (last : α) → List α → Except ε (List α × List α)
  | _, [] => .ok ([], [])
  | last, x :: xs => do
      if (← below x last) = descends then
        let (run, rest) ← splitRun below descends x xs
        return (x :: run, rest)
      else
        return ([], x :: xs)

/-- The first run of a list in ascending order, and the rest. -/
def firstRun (below : Comparison ε α) : List α → Except ε (List α × List α)
  | [] => .ok ([], [])
  | [x] => .ok ([x], [])
  | x :: y :: rest => do
      let descends ← below y x
      let (run, rest) ← splitRun below descends y rest
      let run := x :: y :: run
      return (if descends then run.reverse else run, rest)

/-- An ordered list with an item put behind all that it is not below. -/
def insert (below : Comparison ε α) (x : α) (ordered : List α) : Except ε (List α) := do
  let place ← bisect (notAbove below x) ordered ordered.length 0 ordered.length
  return ordered.take place ++ x :: ordered.drop place

/-- An ordered list with several items put into it, one after the other. -/
def insertAll (below : Comparison ε α) : (xs ordered : List α) → Except ε (List α)
  | [], ordered => .ok ordered
  | x :: xs, ordered => do insertAll below xs (← insert below x ordered)

/-- The length that a run of a list of `n` items should have: all of a short list, and
else a number from 32 to 64 of which `n` is about a power of two.  A one that is cut off
from `n` on the way, which `odd` keeps, counts once. -/
def runLength : (fuel n odd : Nat) → Nat
  | 0, n, odd => n + odd
  | fuel + 1, n, odd =>
      if n < 64 then n + odd else runLength fuel (n / 2) (if n % 2 = 1 then 1 else odd)

/-- The first run of a list, brought to a given length if the list has as many items, and
the rest. -/
def nextRun (below : Comparison ε α) (length : Nat) (xs : List α) :
    Except ε (List α × List α) := do
  let (run, rest) ← firstRun below xs
  let missing := length - run.length
  return (← insertAll below (rest.take missing) run, rest.drop missing)

/-! ## The pile -/

/-- The power of a border: how many binary digits of `a / n` and `b / n` it takes until
they differ, where `a` and `b` are twice the middles of the runs on both sides. -/
def borderPower : (fuel a b n : Nat) → Nat
  | 0, _, _, _ => 1
  | fuel + 1, a, b, n =>
      if n ≤ a then borderPower fuel (2 * (a - n)) (2 * (b - n)) n + 1
      else if n ≤ b then 1
      else borderPower fuel (2 * a) (2 * b) n + 1

/-- Runs that wait, the latest first, each with the power of the border behind it. -/
abbrev Pile (α : Type) := List (Nat × List α)

/-- The number of items on a pile. -/
def Pile.size : Pile α → Nat
  | [] => 0
  | (_, run) :: pile => Pile.size pile + run.length

/-- The latest run merged with those before it whose borders have more than a given
power. -/
def collapse (below : Comparison ε α) (power : Nat) :
    (patience : Nat) → Pile α → (top : List α) → Except ε (Pile α × List α × Nat)
  | patience, [], top => .ok ([], top, patience)
  | patience, (p, run) :: pile, top => do
      if power < p then
        let (top, patience) ← merge below patience run top
        collapse below power patience pile top
      else
        return ((p, run) :: pile, top, patience)

/-- All runs merged, from the latest on; a run between two others goes with the shorter
one. -/
def collapseAll (below : Comparison ε α) :
    (fuel patience : Nat) → Pile α → (top : List α) → Except ε (List α)
  | fuel + 1, patience, (p, second) :: (q, third) :: pile, top => do
      if third.length < top.length then
        let (merged, patience) ← merge below patience third second
        collapseAll below fuel patience ((p, merged) :: pile) top
      else
        let (top, patience) ← merge below patience second top
        collapseAll below fuel patience ((q, third) :: pile) top
  | _, patience, [(_, second)], top => do
      return (← merge below patience second top).1
  | _, _, pile, top => .ok ((pile.reverse.map Prod.snd).flatten ++ top)

/-! ## Sorting -/

/-- Cuts the rest of a list of `n` items into runs and merges them on the way. -/
def sortRest (below : Comparison ε α) (n : Nat) :
    (fuel patience : Nat) → Pile α → (top rest : List α) → Except ε (List α)
  | fuel + 1, patience, pile, top, x :: rest => do
      let (run, rest) ← nextRun below (runLength n n 0) (x :: rest)
      let a := 2 * Pile.size pile + top.length
      let power := borderPower n a (a + top.length + run.length) n
      let (pile, top, patience) ← collapse below power patience pile top
      sortRest below n fuel patience ((power, top) :: pile) run rest
  | _, patience, pile, top, rest =>
      collapseAll below pile.length patience pile (top ++ rest)

/-- A list in ascending order. -/
def sort (below : Comparison ε α) (xs : List α) : Except ε (List α) := do
  let n := xs.length
  let (run, rest) ← nextRun below (runLength n n 0) xs
  sortRest below n n longLeap [] run rest

/-! ## Tests -/

/-- Numbers, no comparison of which fails. -/
example : (sort (fun m n => .ok (m < n)) [3, 1, 2, 3, 0] : Except Unit (List Nat)).toOption
    = some [0, 1, 2, 3, 3] := by decide +kernel
/-- A long list has several runs. -/
example : (sort (fun m n => .ok (m < n)) ((List.range 100).map fun n => n * 37 % 100)
      : Except Unit (List Nat)).toOption
    = some (List.range 100) := by decide +kernel
/-- After the run `3, 1` comes `5`, and after `1, 3, 5` an item that is first compared with
the middle one. -/
example : (match sort (fun m n => if m = 9 then .error n else .ok (m < n)) [3, 1, 5, 0, 9] with
    | .error n => n
    | .ok _ => 0) = 3 := by decide +kernel

end AuditAspects.Sorting
