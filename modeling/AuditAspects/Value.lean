import AuditAspects.Location
import AuditAspects.RealNumber
import AuditAspects.Text.Quoted

/-!
# Dynamic values

Markers, entity options and project settings may hold values of any kind, and
part of auditing is to refuse the wrong ones by name.  A `Value` is such a
value.  It has a kind name, a quoted and a plain text for messages, and a notion of
being empty.  `Value.same` is the equality that the rest of the library uses on
dynamic values: numbers compare by size across kinds, and the entries of a dictionary
in any order.
-/

namespace AuditAspects

/-- A value of any kind. -/
inductive Value
  /-- The absent value. -/
  | null
  /-- A truth value. -/
  | bool (b : Bool)
  /-- A whole number. -/
  | int (i : Int)
  /-- A real number. -/
  | real (r : RealNumber)
  /-- A text. -/
  | text (s : String)
  /-- A list of values. -/
  | list (xs : List Value)
  /-- A dictionary from texts, in the order of its entries. -/
  | object (entries : List (String × Value))
  /-- The path of a text. -/
  | path (s : String)
  /-- Something that is no data, such as a function, of which only the name of its
  kind is known and, if it stands for a path, the text of that. -/
  | other (kindName : String) (path? : Option String := none)

namespace Value

/-- The name of the kind of a value. -/
def kindName : Value → String
  | null => "NoneType"
  | bool _ => "bool"
  | int _ => "int"
  | real _ => "float"
  | text _ => "str"
  | list _ => "list"
  | object _ => "dict"
  | path _ => "PosixPath"
  | other kindName _ => kindName

mutual

/-- The text of a value inside a message, texts between quotes. -/
def quoted : Value → String
  | null => "None"
  | bool true => "True"
  | bool false => "False"
  | int i => toString i
  | real r => r.text
  | text s => Text.quoted s
  | list xs => "[" ++ ", ".intercalate (quotedItems xs) ++ "]"
  | object es => "\x7b" ++ ", ".intercalate (quotedEntries es) ++ "\x7d"
  | path s => "PosixPath(" ++ Text.quoted (Location.ofText s).text ++ ")"
  | other kindName _ => "<" ++ kindName ++ ">"

/-- The quoted texts of the items of a list. -/
def quotedItems : List Value → List String
  | [] => []
  | x :: xs => quoted x :: quotedItems xs

/-- The quoted texts of the entries of a dictionary. -/
def quotedEntries : List (String × Value) → List String
  | [] => []
  | (k, v) :: es => (Text.quoted k ++ ": " ++ quoted v) :: quotedEntries es

end

/-- The text of a value by itself: a text stands for itself, without quotes, and so does a
path. -/
def plain : Value → String
  | text s => s
  | path s => (Location.ofText s).text
  | v => v.quoted

/-- A list of texts inside a message. -/
def quotedTexts (ss : List String) : String :=
  quoted (list (ss.map text))

/-- The values that count as nothing given. -/
def isEmpty : Value → Bool
  | null => true
  | bool b => !b
  | int i => i == 0
  | real r => r.isZero
  | text s => s == ""
  | list xs => xs.isEmpty
  | object es => es.isEmpty
  | path _ => false
  | other _ _ => false

/-- A value is a number.  Truth values count as zero and one. -/
def isNumber : Value → Bool
  | bool _ => true
  | int _ => true
  | real _ => true
  | _ => false

/-- The size of a number, if it has one. -/
def size? : Value → Option Size
  | bool b => some (Size.ofInt (if b then 1 else 0))
  | int i => some (Size.ofInt i)
  | real r => r.size?
  | _ => none

/-- A value is the number that is none. -/
def isUndefined : Value → Bool
  | real .undefined => true
  | _ => false

mutual

/-- Equality of values. -/
def same : Value → Value → Bool
  | null, w => match w with | null => true | _ => false
  | text s, w => match w with | text t => s == t | _ => false
  | list xs, w => match w with | list ys => sameItems xs ys | _ => false
  | object es, w =>
      match w with
      | object fs => es.length == fs.length && sameEntries es fs
      | _ => false
  | bool b, w => sameNumber (bool b) w
  | int i, w => sameNumber (int i) w
  | real r, w => sameNumber (real r) w
  | path s, w => match w with | path t => Location.ofText s == Location.ofText t | _ => false
  | other _ _, _ => false

/-- Equality of two lists, item by item.  Inside of a list, the number that is none
equals itself. -/
def sameItems : List Value → List Value → Bool
  | [], ys => ys.isEmpty
  | x :: xs, ys =>
      match ys with
      | [] => false
      | y :: ys => (same x y || x.isUndefined && y.isUndefined) && sameItems xs ys

/-- Each entry of the first dictionary is in the second. -/
def sameEntries : List (String × Value) → List (String × Value) → Bool
  | [], _ => true
  | (k, v) :: es, fs =>
      (match fs.lookup k with
      | some w => same v w || v.isUndefined && w.isUndefined
      | none => false) && sameEntries es fs

/-- Equality of two numbers by size. -/
def sameNumber (v w : Value) : Bool :=
  match v.size?, w.size? with
  | some a, some b => a == b
  | _, _ => false

end

/-- Equality of items of a collection, where the number that is none equals itself. -/
def sameItem (v w : Value) : Bool :=
  same v w || v.isUndefined && w.isUndefined

/-- A value that may be collected in a set, which lists and dictionaries may
not. -/
def isCollectable : Value → Bool
  | list _ => false
  | object _ => false
  | _ => true

/-! ## Tests -/

example : (real (.finite ⟨false, 15, -1⟩)).quoted = "1.5" := by decide +kernel
example : (list [text "a", int 1, null]).quoted = "['a', 1, None]" := by decide +kernel
example : (object [("k", text "v")]).quoted = "\x7b'k': 'v'\x7d" := by decide +kernel
example : (path "a//b").quoted = "PosixPath('a/b')" := by decide +kernel
example : same (int 1) (bool true) = true := by decide +kernel
example : same (int 10) (real (.finite ⟨false, 1, 1⟩)) = true := by decide +kernel
example : same (real .undefined) (real .undefined) = false := by decide +kernel

end Value

end AuditAspects
