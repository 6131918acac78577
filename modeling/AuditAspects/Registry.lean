import AuditAspects.Contract
import AuditAspects.Step

/-!
# The registry of audited entities

Marking a contract attaches a configuration to it and registers it under the name
of its type.  The first contract of a name keeps it until the registry is
cleared; a second one is refused, after its configuration has been attached.
Configurations belong to contracts and not to names, so clearing the registry
leaves them in place, and they are never inherited.  The body of a contract may itself
bind the name that a configuration is kept under; then something else is attached to the
contract in its place, until the contract is marked.
-/

namespace AuditAspects

/-- The name in a body that a configuration is kept under. -/
def markName : String := "_auditgen_audit"

/-- The registered contracts, what is attached to contracts as their configurations, and
the next free identity. -/
structure Store where
  /-- The contracts by the names of their types, in the order of
  registration. -/
  registry : List (String × Contract) := []
  /-- What is attached to contracts, by their identities, the latest first. -/
  marks : List (Nat × Offered Config) := []
  /-- The identity of the next contract. -/
  nextId : Nat := 1

/-- What a marker is put on, or a target made of. -/
inductive Subject
  /-- An entity contract. -/
  | contract (c : Contract)
  /-- A class that is no entity. -/
  | plainClass (name : String)
  /-- Some other value. -/
  | value (v : Value)

/-- The text of a subject inside a message. -/
def Subject.quoted : Subject → String
  | .contract c => "<class '" ++ c.name ++ "'>"
  | .plainClass name => "<class 'user." ++ name ++ "'>"
  | .value v => v.quoted

/-- The contract of a subject that is asked for an operation of contracts. -/
def Subject.contractFor (operation : String) : Subject → Except Fault Contract
  | .contract c => .ok c
  | .plainClass name => .error (.classOperationMissing name operation)
  | .value v => .error (.operationMissing v.kindName operation)

/-- The target that a subject makes. -/
def Subject.target : Subject → Except Fault Target
  | .contract c => .ok c.target
  | s => .error (.notContract s.quoted)

/-- A short text for the target of a contract. -/
def Contract.targetSummary (c : Contract) : String :=
  "EntityTarget(" ++ c.name ++ ")"

namespace Store

/-! ## Questions -/

/-- What is attached to a contract itself as its configuration. -/
def attached (s : Store) (c : Contract) : Offered Config :=
  (s.marks.lookup c.id).getD (.foreign .null)

/-- Something is attached to a contract, be it a configuration or not. -/
def isMarked (s : Store) (c : Contract) : Bool :=
  match s.attached c with
  | .foreign .null => false
  | _ => true

/-- The contract registered under a name. -/
def get? (s : Store) (name : String) : Option Contract :=
  s.registry.lookup name

/-! ## Steps -/

/-- Attaches something to a contract as its configuration. -/
def attach (c : Contract) (offered : Offered Config) : Step Store Unit :=
  modify fun s => { s with marks := (c.id, offered) :: s.marks }

/-- Defines a contract, which gets an identity of its own, and attaches what its body
binds in the place of a configuration. -/
def define (spec : ContractSpec) : Step Store Contract := do
  let s ← get
  let c ← Step.ofExcept (Contract.ofSpec s.nextId spec)
  set { s with nextId := s.nextId + 1 }
  match spec.body.binding? markName with
  | some b => attach c (.foreign b.asValue)
  | none => pure ()
  return c

/-- Registers a contract under the name of its type.  A contract that holds the
name already keeps its place; another holder refuses it. -/
def register (c : Contract) : Step Store Unit := do
  let type ← Step.ofExcept c.type
  let s ← get
  match s.get? type.name with
  | some holder =>
      if holder.id ≠ c.id then
        throw (.entityRegistered type.name)
  | none => set { s with registry := s.registry ++ [(type.name, c)] }

/-- Forgets all registrations. -/
def clear : Step Store Unit :=
  modify fun s => { s with registry := [] }

/-- The configuration of an audit marker, which takes the four settings and
nothing else. -/
def readMarker (m : Marker) : Except Fault Config :=
  match m.find? fun e => (ConfigKey.ofName? e.1).isNone with
  | some e => .error (.unexpectedArgument e.1)
  | none => Config.ofMarker m

/-- Marks a contract: the configuration is attached, then the entity is
registered. -/
def mark (config : Config) (c : Contract) : Step Store Unit := do
  attach c (.proper config)
  register c

/-- Marks a subject as audited: the marker is read first, then the subject has to
be an entity. -/
def audit (m : Marker) (subject : Subject) : Step Store Unit := do
  let config ← Step.ofExcept (readMarker m)
  match subject with
  | .contract c => mark config c
  | s => throw (.notAuditable s.quoted)

end Store

end AuditAspects
