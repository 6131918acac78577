import AuditAspects.Entries
import AuditAspects.Location
import AuditAspects.Project.Module

/-!
# File trees

The directories and files that commands read and write, by their resolved
locations.  Writing a file changes that file alone (`read?_write`).  A file cannot be at
a location that cannot be encoded or that holds the null character (`Location.fault?`).
-/

namespace AuditAspects

/-- What keeps files and directories from being at a location. -/
def Location.fault? (l : Location) : Option Fault :=
  (Fault.ofEncoding? .escaping l.text).or (if l.holdsNull then some .pathHoldsNull else none)

/-- Directories and files. -/
structure FileTree where
  /-- The current directory, which relative locations are seen from. -/
  home : Location := { root := "/" }
  /-- The directories that were made, by their resolved locations. -/
  dirs : List Location := []
  /-- The files, by their resolved locations. -/
  files : List (Location × SourceFile) := []

namespace FileTree

/-- The file at a location. -/
def read? (t : FileTree) (l : Location) : Option SourceFile :=
  t.files.lookup l.resolve

/-- There is a directory at a location: it was made, something is inside of it,
or it is the start of all paths. -/
def isDir (t : FileTree) (l : Location) : Bool :=
  let r := l.resolve
  r.parts.all (· = "..") || t.dirs.any (·.isWithin r) ||
    t.files.any fun e => e.1.isWithin r && e.1 ≠ r

/-- All directories on the way to a location are there.  An upward segment does not
make up for a directory that is missing. -/
def isReachable (t : FileTree) (l : Location) : Bool :=
  l.stations.dropLast.all t.isDir

/-- There is something at a location. -/
def hasEntry (t : FileTree) (l : Location) : Bool :=
  t.isReachable l && ((t.read? l).isSome || t.isDir l)

/-- The names of the directories in a directory. -/
def dirsOf (t : FileTree) (dir : Location) : List String :=
  (((t.dirs ++ t.files.map (·.1.parent)).filter fun l =>
    l.isWithin dir.resolve && l ≠ dir.resolve).map fun l =>
      (l.relativeTo dir.resolve).parts.headD "").eraseDups

/-- What there is in a directory, in ascending order of the names: files, and directories,
which cannot be read. -/
def entriesOf (t : FileTree) (dir : Location) : List (String × Option SourceFile) :=
  sortBy (fun a b => textLe a.1 b.1) <|
    ((t.files.filter fun e => e.1.parent = dir.resolve && e.1.parts ≠ []).map fun e =>
      (e.1.fileName, some e.2)) ++ (t.dirsOf dir).map (·, none)

/-- What is said of a directory where a file should be. -/
def directoryText (t : FileTree) (l : Location) : String :=
  "[Errno 21] Is a directory: " ++ Text.quoted (t.home.join l).text

/-- Makes a directory and all directories on the way to it. -/
def makeDirs (t : FileTree) (l : Location) : FileTree :=
  { t with
    dirs := t.dirs ++ (l.stations.map Location.resolve).filter fun d => !t.dirs.contains d }

/-- Writes a file into a directory that is there. -/
def write (t : FileTree) (l : Location) (f : SourceFile) : FileTree :=
  { t with files := Entries.put l.resolve f t.files }

/-- The files inside a directory but outside some of its parts. -/
def inside (t : FileTree) (dir : Location) (without : List Location) :
    List (Location × SourceFile) :=
  (t.files.filter fun e => e.1.isWithin dir.resolve && !without.any (e.1.isWithin ·.resolve)).map
    fun e => (e.1.relativeTo dir.resolve, e.2)

/-- Writing changes the file that is written and no other. -/
theorem read?_write (t : FileTree) (l l' : Location) (f : SourceFile) :
    (t.write l f).read? l' = if l'.resolve = l.resolve then some f else t.read? l' :=
  Entries.lookup_put ..

/-- A file that is written twice holds what was written last. -/
theorem write_write (t : FileTree) (l : Location) (f g : SourceFile) :
    (t.write l f).write l g = t.write l g := by
  rw [write, write, write, Entries.put_put]

@[simp] theorem read?_makeDirs (t : FileTree) (l l' : Location) :
    (t.makeDirs l).read? l' = t.read? l' := rfl

end FileTree

end AuditAspects
