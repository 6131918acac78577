/-!
# Places in ordered lists

A test that may fail is asked of items of a list, the first of which pass it and the rest
of which do not.  The number of items that pass is found by halving a range of places
(`bisect`), or by first going on in strides that double, from the front
(`countFromFront`, `splitFront`) or from the back (`countFromBack`, `splitBack`).  Which
items are tested, and in which order, is part of what these functions say, since the first
test that fails decides the fault.
-/

namespace AuditAspects.Sorting

variable {ε α : Type}

/-- The test of the item at a place; a place beyond the list does not pass. -/
def testAt (test : α → Except ε Bool) (xs : List α) (place : Nat) : Except ε Bool :=
  match xs[place]? with
  | some x => test x
  | none => .ok false

/-- The first place from `low` to `high` that does not pass, which takes at most `fuel`
tests. -/
def bisect (test : α → Except ε Bool) (xs : List α) :
    (fuel low high : Nat) → Except ε Nat
  | 0, low, _ => .ok low
  | fuel + 1, low, high => do
      if low < high then
        let middle := low + (high - low) / 2
        if ← testAt test xs middle then
          bisect test xs fuel (middle + 1) high
        else
          bisect test xs fuel low middle
      else
        return low

/-- Strides that double while a test of the distance passes, none as far as `limit`.
Gives the last distance that passed and the first one that may not. -/
def stride (test : Nat → Except ε Bool) (limit : Nat) :
    (fuel last next : Nat) → Except ε (Nat × Nat)
  | 0, last, next => .ok (last, next)
  | fuel + 1, last, next => do
      if next < limit then
        if ← test next then
          stride test limit fuel next (2 * next + 1)
        else
          return (last, next)
      else
        return (last, limit)

/-- The number of items that pass, looked for from the front. -/
def countFromFront (test : α → Except ε Bool) (xs : List α) : Except ε Nat := do
  if ← testAt test xs 0 then
    let (last, next) ← stride (testAt test xs) xs.length xs.length 0 1
    bisect test xs xs.length (last + 1) next
  else
    return 0

/-- The number of items that pass, looked for from the back. -/
def countFromBack (test : α → Except ε Bool) (xs : List α) : Except ε Nat := do
  let top := xs.length - 1
  if ← testAt test xs top then
    return xs.length
  else
    let fails (distance : Nat) : Except ε Bool :=
      (testAt test xs (top - distance)).map not
    let (last, next) ← stride fails xs.length xs.length 0 1
    bisect test xs xs.length (xs.length - next) (top - last)

/-- The items that pass, looked for from the front, and the rest. -/
def splitFront (test : α → Except ε Bool) (xs : List α) : Except ε (List α × List α) := do
  let passing ← countFromFront test xs
  return xs.splitAt passing

/-- The items that do not pass, looked for from the back, and the rest, of a list that
comes with its last item first. -/
def splitBack (test : α → Except ε Bool) (xs : List α) : Except ε (List α × List α) := do
  let passing ← countFromBack test xs.reverse
  return xs.splitAt (xs.length - passing)

/-! ## Tests -/

/-- A test that always answers. -/
example : (countFromFront (fun n => .ok (n < 5)) [1, 2, 3, 4, 5, 6] : Except Unit Nat).toOption
    = some 4 := by decide +kernel
example : (countFromBack (fun n => .ok (n < 5)) [1, 2, 3, 4, 5, 6] : Except Unit Nat).toOption
    = some 4 := by decide +kernel
/-- The fault is that of the first item tested, here in the middle. -/
example : (match bisect (fun n => .error n) [1, 2, 3] 3 0 3 with
    | .error n => n
    | .ok _ => 0) = 2 := by decide +kernel

end AuditAspects.Sorting
