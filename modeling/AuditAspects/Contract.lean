import AuditAspects.Contract.Options
import AuditAspects.Target
import AuditAspects.Value.Collection

/-!
# Entity contracts

A contract describes an entity that the user writes.  It answers four questions about
the entity: its package, its project module, its type, and the methods it already
declares.  The type is the name of the contract in the package.  Package and module come
from the options, and the methods come from the body and from the options.

A contract that gives no options of its own has the default ones, even if a contract it
derives from gives some: only options that name others as their base inherit.  But a body
may bind the operation that answers a question.  Then that binding answers it, for the
contract and for all that derive from it, whatever their options are.

A contract has an identity, so that two contracts of one name can be told apart.
-/

namespace AuditAspects

/-! ## Questions -/

/-- A question about an entity that its contract answers. -/
inductive Question
  /-- The package of the entity. -/
  | package
  /-- The project module of the entity. -/
  | moduleName
  /-- The type of the entity. -/
  | type
  /-- The methods that the entity declares. -/
  | methods
deriving DecidableEq

namespace Question

/-- All questions. -/
def all : List Question := [package, moduleName, type, methods]

/-- The operation that answers a question. -/
def operation : Question → String
  | package => "get_package"
  | moduleName => "get_module"
  | type => "get_java_type"
  | methods => "get_declared_methods"

theorem mem_all (q : Question) : q ∈ all := by
  cases q <;> decide

end Question

/-- The bindings that answer questions in place of the contract itself. -/
abbrev Answers := List (Question × Binding)

/-- The questions that a body answers. -/
def Body.answers (body : Body) : Answers :=
  Question.all.filterMap fun q => (body.binding? q.operation).map (q, ·)

/-! ## Contracts -/

/-- An entity contract. -/
structure Contract where
  /-- The identity of the contract. -/
  id : Nat
  /-- Its name. -/
  name : String
  /-- The package that the options give. -/
  givenPackage : Value
  /-- The project module that the options give. -/
  givenModule : Value
  /-- The methods that the options declare. -/
  givenMethods : List Value
  /-- The methods that the body declares. -/
  bodyMethods : List String
  /-- The options seen on the contract, its own or those of its base. -/
  options : Option EntityOptions
  /-- The answers that bodies bind, its own before those of its base. -/
  answers : Answers

/-- The definition of a contract. -/
structure ContractSpec where
  /-- Its name. -/
  name : String
  /-- The contract it derives from. -/
  base : Contract
  /-- The bindings of its body, in order. -/
  body : Body
  /-- What its body says about options. -/
  clause : OptionsClause

namespace Contract

/-- The base of all entity contracts. -/
def entity : Contract where
  id := 0
  name := "Entity"
  givenPackage := .text EntityOptions.defaultPackage
  givenModule := .text ""
  givenMethods := []
  bodyMethods := []
  options := some .base
  answers := []

/-- The declared methods of an option: a text is one method, and any other value has its
items. -/
def listMethods : Value → Except Fault (List Value)
  | .text s => .ok [.text s]
  | v => v.items

/-- What keeps a text from being the name of a class. -/
def nameFault? (name : String) : Option Fault :=
  (Fault.ofEncoding? .strict name).or
    (if name.toList.contains '\x00' then some .classNameHoldsNull else none)

/-- The contract of a definition, with a given identity.  Names that a class reads from its
body while it is made, such as those of its slots, are bindings like all others here: a
definition that such a binding would spoil is none. -/
def ofSpec (id : Nat) (spec : ContractSpec) : Except Fault Contract := do
  let own ← spec.clause.resolve spec.body
  let effective := (own.getD none).getD {}
  let methods ← listMethods (effective.declaredMethods.getD (.list []))
  match nameFault? spec.name with
  | some f => throw f
  | none =>
      return {
        id := id
        name := spec.name
        givenPackage := effective.package.getD (.text EntityOptions.defaultPackage)
        givenModule := effective.moduleName.getD (.text "")
        givenMethods := methods
        bodyMethods := (spec.clause.restrict spec.body).writtenMethods
        options := own.getD spec.base.options
        answers := spec.body.answers ++ spec.base.answers }

/-! ## Answers -/

/-- The answer that a body gives to a question, if one does. -/
def answer? (c : Contract) (q : Question) : Option (Except Fault Value) :=
  (c.answers.lookup q).map (Binding.call q.operation)

/-- The package of the entity. -/
def package (c : Contract) : Except Fault Value :=
  (c.answer? .package).getD (.ok c.givenPackage)

/-- The project module of the entity. -/
def moduleName (c : Contract) : Except Fault Value :=
  (c.answer? .moduleName).getD (.ok c.givenModule)

/-- The type of the name of the contract in a package, which may be none. -/
def typeIn (c : Contract) (package : Value) : Except Fault TypeName :=
  TypeName.ofValue <| .text <|
    if package.isEmpty then c.name else package.plain ++ "." ++ c.name

/-- The type of the entity, or what a body answers in its place.  A body that answers with a
type of its own is not expressed. -/
def offeredType (c : Contract) : Except Fault (Offered TypeName) :=
  match c.answer? .type with
  | some answer => answer.map .foreign
  | none => do
      let package ← c.package
      return .proper (← c.typeIn package)

/-- The type of the entity.  What a body answers is no type and has no name. -/
def type (c : Contract) : Except Fault TypeName := do
  match ← c.offeredType with
  | .proper t => return t
  | .foreign v => throw (.operationMissing v.kindName TypeName.nameOperation)

/-- All methods that the body and the options declare, each once. -/
def collectedMethods (c : Contract) : Except Fault (List Value) :=
  match c.givenMethods.find? fun v => !v.isCollectable with
  | some v => .error (.notCollectable v.kindName)
  | none => .ok ((c.bodyMethods.map Value.text ++ c.givenMethods).eraseDupsBy Value.sameItem)

/-- The methods of the entity, a list unless a body answers otherwise. -/
def methods (c : Contract) : Except Fault Value :=
  (c.answer? .methods).getD (c.collectedMethods.map .list)

/-- The contract as a target. -/
def target (c : Contract) : Target :=
  ⟨fun name => do (← c.methods).holds name⟩

/-- The methods of the entity in ascending order. -/
def sortedMethods (c : Contract) : Except Fault (List Value) := do
  let methods ← c.methods
  Value.sorted (← methods.items)

/-! ## Tests -/

example : (entity.type.map TypeName.name).toOption = some "com.example.domain.Entity" := by
  decide +kernel
/-- A body that binds the name of the options gives the default ones. -/
example : (ofSpec 1 ⟨"A", entity, [(optionsName, .function .null)], .absent⟩).toOption.map
    (fun c => (c.bodyMethods, c.options.isSome)) = some ([optionsName], false) := by
  decide +kernel
/-- A bound answer is inherited, and comes before the options. -/
example : (do
      let a ← ofSpec 1 ⟨"A", entity, [("get_package", .staticFunction (.text "x"))], .absent⟩
      let b ← ofSpec 2 ⟨"B", a, [], .given { package := some (.text "y") }⟩
      b.type : Except Fault TypeName).toOption.map TypeName.name = some "x.B" := by
  decide +kernel

end Contract

end AuditAspects
