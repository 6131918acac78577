import AuditAspects.Fault
import AuditAspects.Sorting.Runs

/-!
# Values as collections

A value may be asked for its items, whether it holds a text, and its items in
ascending order.  A list has its items and a dictionary its keys.  A text has its
characters, but holds every text that is a part of it.  Other values have no items and
hold nothing, and saying so is a fault.
-/

namespace AuditAspects.Value

/-! ## Items -/

/-- The items of a value. -/
def items : Value → Except Fault (List Value)
  | text s => .ok (s.toList.map fun c => text (String.singleton c))
  | list xs => .ok xs
  | object es => .ok (es.map fun e => text e.1)
  | v => .error (.notListable v.kindName)

/-- A run of characters is a part of another. -/
def isPartOf (part : List Char) : List Char → Bool
  | [] => part.isEmpty
  | c :: cs => part.isPrefixOf (c :: cs) || isPartOf part cs

/-- A value holds a text: as a part, as an item or as a key. -/
def holds (s : String) : Value → Except Fault Bool
  | text t => .ok (isPartOf s.toList t.toList)
  | list xs => .ok (xs.any (same (text s)))
  | object es => .ok (es.any fun e => e.1 == s)
  | v => .error (.notSearchable v.kindName)

/-! ## Order -/

mutual

/-- A value is below another.  Texts compare by code point, numbers by size, and lists
and paths by the first items that differ; other values have no order. -/
def isBelow : Value → Value → Except Fault Bool
  | text s, w =>
      match w with
      | text t => .ok (compare s t == .lt)
      | w => .error (.notComparable "str" w.kindName)
  | list xs, w =>
      match w with
      | list ys => isBelowItems xs ys
      | w => .error (.notComparable "list" w.kindName)
  | path s, w =>
      match w with
      | path t => .ok (decide ((Location.ofText s).names < (Location.ofText t).names))
      | w => .error (.notComparable "PosixPath" w.kindName)
  | v, w =>
      if v.isNumber && w.isNumber then
        match v.size?, w.size? with
        | some a, some b => .ok (a.below b)
        | _, _ => .ok false
      else .error (.notComparable v.kindName w.kindName)

/-- A list is below another: by the first items that differ, or else by having
fewer. -/
def isBelowItems : List Value → List Value → Except Fault Bool
  | [], ys => .ok !ys.isEmpty
  | x :: xs, ys =>
      match ys with
      | [] => .ok false
      | y :: ys =>
          if sameItem x y then isBelowItems xs ys
          else isBelow x y

end

/-- Values in ascending order. -/
def sorted (vs : List Value) : Except Fault (List Value) :=
  Sorting.sort isBelow vs

/-! ## Tests -/

example : ((text "a getB").holds "getB").toOption = some true := by decide +kernel
example : ((list [text "a getB"]).holds "getB").toOption = some false := by decide +kernel
example : ((int 3).holds "3").toOption = none := by decide +kernel
example : ((sorted [int 3, real (.finite ⟨false, 5, -1⟩), bool true]).map
    quotedItems).toOption = some ["0.5", "True", "3"] := by decide +kernel
example : ((sorted [list [int 1, int 2], list [int 1]]).map quotedItems).toOption
    = some ["[1]", "[1, 2]"] := by decide +kernel
/-- Behind the run `3, 1` the `5` and `true` find their places by halving, and then the text
meets the middle of four. -/
example : (match sorted [int 3, int 1, int 5, bool true, text "a"] with
    | .error f => f.message
    | .ok _ => "") = "'<' not supported between instances of 'str' and 'int'" := by
  decide +kernel

end AuditAspects.Value
