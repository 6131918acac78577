import AuditAspects.Text.Split

/-!
# Locations

A location is a path with its empty and dot segments taken out.  It may start at
a root, and it keeps the segments that lead upwards: which file it means is found
by `resolve`.
-/

namespace AuditAspects

/-- A path in normal form. -/
structure Location where
  /-- One or two slashes for a path from a root, nothing for a relative one. -/
  root : String := ""
  /-- The segments, none of them empty or a dot. -/
  parts : List String := []
deriving DecidableEq

namespace Location

/-- What stands between the segments. -/
def separator : Char := '/'

/-- The current directory. -/
def here : Location := {}

/-- The root that a path starts with.  Two slashes are kept, three or more are
one. -/
def rootOf (cs : List Char) : String :=
  match (cs.takeWhile (· = separator)).length with
  | 0 => ""
  | 2 => "//"
  | _ => "/"

/-- The location of a path. -/
def ofText (s : String) : Location where
  root := rootOf s.toList
  parts := ((Text.segments separator s.toList).map String.ofList).filter fun p =>
    p ≠ "" && p ≠ "."

/-- The path of a location. -/
def text (l : Location) : String :=
  if l.root = "" && l.parts = [] then "."
  else l.root ++ (String.singleton separator).intercalate l.parts

/-- The names that a location is compared by: its root, if it starts at one, and its
segments. -/
def names (l : Location) : List String :=
  if l.root = "" then l.parts else l.root :: l.parts

/-- A location that starts at a root. -/
def isAbsolute (l : Location) : Bool := l.root ≠ ""

/-- A location as seen from another; one that starts at a root stays what it
is. -/
def join (base l : Location) : Location :=
  if l.isAbsolute then l else { base with parts := base.parts ++ l.parts }

/-- The location of a path as seen from another location. -/
def child (base : Location) (path : String) : Location :=
  base.join (ofText path)

/-- The directory of a location. -/
def parent (l : Location) : Location :=
  { l with parts := l.parts.dropLast }

/-- The last segment. -/
def fileName (l : Location) : String :=
  l.parts.getLast?.getD ""

/-- One more segment of a resolved location whose segments come last first. -/
def resolvePart (absolute : Bool) (reversed : List String) (part : String) : List String :=
  if part = ".." then
    match reversed with
    | [] => if absolute then [] else [part]
    | last :: rest => if last = ".." then part :: reversed else rest
  else part :: reversed

/-- The location with each upward segment carried out. -/
def resolve (l : Location) : Location where
  root := if l.isAbsolute then "/" else ""
  parts := (l.parts.foldl (resolvePart l.isAbsolute) []).reverse

/-- The directories on the way to a location, from the outside in, with the
location last. -/
def stations (l : Location) : List Location :=
  (List.range l.parts.length).map fun n => { l with parts := l.parts.take (n + 1) }

/-- A resolved location inside a resolved directory, or the directory itself. -/
def isWithin (l dir : Location) : Bool :=
  l.root = dir.root && dir.parts.isPrefixOf l.parts &&
    (l.parts.drop dir.parts.length).head? ≠ some ".."

/-- The location as seen from a directory that it is inside of. -/
def relativeTo (l dir : Location) : Location where
  parts := l.parts.drop dir.parts.length

theorem part_ofText_ne {s part : String} (h : part ∈ (ofText s).parts) : part ≠ "" := by
  have hpart := (List.mem_filter.mp h).2
  simp only [Bool.and_eq_true, decide_eq_true_eq] at hpart
  exact hpart.1

/-- The location of a path has a text. -/
theorem text_ofText_ne (s : String) : (ofText s).text ≠ "" := by
  rw [text]
  split
  · decide
  next hsome =>
    cases hparts : (ofText s).parts with
    | nil =>
        rw [hparts] at hsome
        simpa using hsome
    | cons part parts =>
        have hne : part ≠ "" := part_ofText_ne (hparts ▸ List.mem_cons_self)
        cases parts with
        | nil => simp [String.intercalate_singleton, hne]
        | cons next parts => simp [String.intercalate_cons_cons]

/-- A location that no file can have. -/
def holdsNull (l : Location) : Bool :=
  l.parts.any fun p => p.toList.contains '\x00'

/-! ## Tests -/

example : (ofText "./a//b/").text = "a/b" := by decide +kernel
example : (ofText "").text = "." := by decide +kernel
example : (ofText "///a").text = "/a" := by decide +kernel
example : ((ofText "p").child "../s").text = "p/../s" := by decide +kernel
example : ((ofText "p").child "../s").resolve.text = "s" := by decide +kernel
example : ((ofText "p").child "/s").text = "/s" := by decide +kernel

end Location

end AuditAspects
