import AuditAspects.Project.Session

/-!
# Scanning entity modules

A scan runs the entity modules of a project in the order of their names and
collects the audited entities in the registry, which it clears first.  Besides the
classes that a module marks while it runs, the marked classes that it binds when it
is done are registered too, in the order of the names they are bound to.  The first
module that fails ends the scan; what was registered up to there stays.
-/

namespace AuditAspects

/-- A module while it runs. -/
structure ModuleScope where
  /-- The registry. -/
  store : Store
  /-- The classes by the names they are bound to. -/
  bindings : List (String × Contract) := []

namespace ModuleScope

/-- A step on the registry. -/
def onStore {α : Type} (x : Step Store α) : Step ModuleScope α := fun m =>
  match x.run m.store with
  | .ok a store => .ok a { m with store := store }
  | .error f store => .error f { m with store := store }

/-- Binds a name to a class, in place of what it was bound to. -/
def bindName (name : String) (c : Contract) : Step ModuleScope Unit :=
  modify fun m => { m with bindings := Entries.put name c m.bindings }

/-- The class that a class of the module derives from. -/
def baseOf (name : Option String) : Step ModuleScope Contract := do
  match name with
  | none => return Contract.entity
  | some name =>
      match (← get).bindings.lookup name with
      | some c => return c
      | none => if name = Contract.entity.name then return Contract.entity
                else throw (.nameUnbound name)

/-- Defines a class and marks it.  The marker is read before the class is
defined. -/
def defineClass (spec : ClassSpec) : Step ModuleScope Unit := do
  let config ← Step.ofExcept (spec.marker.mapM Store.readMarker)
  let base ← baseOf spec.base
  let c ← onStore (Store.define ⟨spec.name, base, spec.body, spec.clause⟩)
  match config with
  | some config => onStore (Store.mark config c)
  | none => pure ()
  bindName spec.name c

/-- Runs an item. -/
def runItem (shared : List (String × Contract)) : ModuleItem → Step ModuleScope Unit
  | .define spec => defineClass spec
  | .fail kind text => throw (.raised kind text)
  | .bring name newName =>
      match shared.lookup name with
      | some c => bindName (newName.getD name) c
      | none => throw (.nameUnbound name)

/-- Runs items from top to bottom. -/
def runItems (shared : List (String × Contract)) : List ModuleItem → Step ModuleScope Unit
  | [] => pure ()
  | item :: items => do
      runItem shared item
      runItems shared items

end ModuleScope

/-! ## Modules -/

/-- The classes that a module brings in from outside are defined and marked before
any project is looked at. -/
def defineShared (specs : List ClassSpec) : Step Store (List (String × Contract)) := fun store =>
  match (ModuleScope.runItems [] (specs.map .define)).run ⟨store, []⟩ with
  | .ok _ m => .ok m.bindings m.store
  | .error f m => .error f m.store

/-- The fault of a module that failed: faults of auditing are handed on, others
name the module. -/
def moduleFault (file : String) (f : Fault) : Fault :=
  if f.isAuditing then f else .entityModuleFailed file f.message

/-- Runs a module, which gives the classes by the names they are bound to, in
ascending order. -/
def runModule (shared : List (String × Contract)) (file : String) (items : List ModuleItem) :
    Step Store (List (String × Contract)) := fun store =>
  match (ModuleScope.runItems shared items).run ⟨store, []⟩ with
  | .ok _ m => .ok (sortBy (fun a b => textLe a.1 b.1) m.bindings) m.store
  | .error f m => .error (moduleFault file f) m.store

/-- Registers the marked classes among those a module binds. -/
def collect : List (String × Contract) → Step Store Unit
  | [] => pure ()
  | (_, c) :: rest => do
      if c.id ≠ Contract.entity.id && (← get).isMarked c then
        Store.register c
      collect rest

/-- Runs a module and collects its classes. -/
def scanModule (shared : List (String × Contract)) (file : String) (items : List ModuleItem) :
    Step Store Unit :=
  runModule shared file items >>= collect

/-- Runs modules one after the other and collects their classes. -/
def scanModules (shared : List (String × Contract)) :
    List (String × List ModuleItem) → Step Store Unit
  | [] => pure ()
  | (file, items) :: rest => do
      scanModule shared file items
      scanModules shared rest

/-- A file name that a scan takes for an entity module. -/
def isEntityFile (name : String) : Bool :=
  ".py".toList.isSuffixOf name.toList && name.toList.head? ≠ some '_'

namespace Session

/-- The entity modules of the project, in the order of their names.  A directory by the
name of one fails as soon as it is read. -/
def entityModules (s : Session) : List (String × List ModuleItem) :=
  ((s.tree.entriesOf s.entitiesDir).filter fun e => isEntityFile e.1).map fun e =>
    (e.1, match e.2 with
      | some file => file.items
      | none => [.fail .runtime (s.tree.directoryText (s.entitiesDir.child e.1))])

/-- Loads entity modules one after the other and collects their classes. -/
def loadModules (dir : Location) : List (String × List ModuleItem) → Step Session Unit
  | [] => pure ()
  | (file, items) :: rest => do
      keepCode (dir.child file)
      onStore (scanModule (← get).shared file items)
      loadModules dir rest

/-- The ending of a count of entities. -/
def entityEnding (n : Nat) : String :=
  if n = 1 then "y" else "ies"

/-- Scans the project, which gives the registry. -/
def scan : Step Session (List (String × Contract)) := do
  onStore Store.clear
  let s ← get
  if s.tree.hasEntry s.entitiesDir then
    loadModules s.entitiesDir s.entityModules
    let entities := (← get).store.registry
    note .info ("Found " ++ toString entities.length ++ " audited entit" ++
      entityEnding entities.length)
    return entities
  else
    note .warning ("No entities directory at " ++ s.entitiesDir.text)
    return []

end Session

end AuditAspects
