import AuditAspects.TypeName

/-!
# Simple names in a unit

A unit writes types by their simple names where it can.  A `NameTable` says which
type owns each simple name: the first type that claims it (`owner?_claimAll`).
Reserving a name and adding an import are both claims.  An owner is written by its
simple name, and every other type that shares it is written in full.  Owners that
are not visible by themselves, from the unit's own package or from everywhere, are
imported.
-/

namespace AuditAspects

/-- The owners of simple names in a unit. -/
structure NameTable where
  /-- The package of the unit. -/
  package : String
  /-- The types that own their simple names, in the order of their claims. -/
  owners : List TypeName := []
deriving DecidableEq

namespace NameTable

/-! ## Claims -/

/-- The type that owns a simple name. -/
def owner? (n : NameTable) (simple : String) : Option TypeName :=
  n.owners.find? (·.simpleName = simple)

/-- Gives a type its simple name, unless the name has an owner. -/
def claim (n : NameTable) (t : TypeName) : NameTable :=
  match n.owner? t.simpleName with
  | some _ => n
  | none => { n with owners := n.owners ++ [t] }

/-- The claims of several types, one after the other. -/
def claimAll (n : NameTable) (ts : List TypeName) : NameTable :=
  ts.foldl claim n

/-- Claims for types that the unit writes by their simple names in any case, so that
no other type takes them. -/
def reserve (n : NameTable) (ts : List TypeName) : NameTable :=
  n.claimAll ts

/-- Claims for types that the members of the unit mention. -/
def addImports (n : NameTable) (ts : List TypeName) : NameTable :=
  n.claimAll ts

/-- A type owns its simple name. -/
def owns (n : NameTable) (t : TypeName) : Bool :=
  n.owner? t.simpleName = some t

/-! ## What is written -/

/-- A type that the unit sees without an import. -/
def isVisible (n : NameTable) (t : TypeName) : Bool :=
  t.isLang || t.package = n.package

/-- A type that the unit imports. -/
def isImported (n : NameTable) (t : TypeName) : Bool :=
  n.owns t && !n.isVisible t

/-- The name that stands for a type in the unit. -/
def written (n : NameTable) (t : TypeName) : String :=
  if n.owns t then t.simpleName
  else if n.isVisible t && (n.owner? t.simpleName).isNone then t.simpleName
  else t.name

/-- The types that the unit imports, in ascending order. -/
def imports (n : NameTable) : List TypeName :=
  TypeName.sort (n.owners.filter fun t => !n.isVisible t)

/-! ## Equations -/

@[simp] theorem claim_package (n : NameTable) (t : TypeName) : (n.claim t).package = n.package := by
  rw [claim]
  split <;> rfl

@[simp] theorem claimAll_nil (n : NameTable) : n.claimAll [] = n := rfl

@[simp] theorem claimAll_cons (n : NameTable) (t : TypeName) (ts : List TypeName) :
    n.claimAll (t :: ts) = (n.claim t).claimAll ts := rfl

theorem claimAll_append (n : NameTable) (ts us : List TypeName) :
    n.claimAll (ts ++ us) = (n.claimAll ts).claimAll us :=
  List.foldl_append

@[simp] theorem claimAll_package (n : NameTable) (ts : List TypeName) :
    (n.claimAll ts).package = n.package := by
  induction ts generalizing n with
  | nil => rfl
  | cons t ts ih => rw [claimAll_cons, ih, claim_package]

/-- A claim succeeds only where there is no owner yet. -/
theorem owner?_claim (n : NameTable) (t : TypeName) (simple : String) :
    (n.claim t).owner? simple =
      (n.owner? simple).or (if t.simpleName = simple then some t else none) := by
  rw [claim]
  cases h : n.owner? t.simpleName with
  | some u =>
      by_cases hs : t.simpleName = simple
      · subst hs
        simp [h]
      · simp [hs]
  | none =>
      simp only [owner?, List.find?_append, List.find?_singleton, decide_eq_true_eq]

/-- The owner of a simple name is the earlier owner, or else the first type that
claims it. -/
theorem owner?_claimAll (n : NameTable) (ts : List TypeName) (simple : String) :
    (n.claimAll ts).owner? simple =
      (n.owner? simple).or (ts.find? (·.simpleName = simple)) := by
  induction ts generalizing n with
  | nil => simp
  | cons t ts ih =>
      rw [claimAll_cons, ih, owner?_claim]
      by_cases h : t.simpleName = simple
      · simp [h]
      · simp [h]

end NameTable

end AuditAspects
