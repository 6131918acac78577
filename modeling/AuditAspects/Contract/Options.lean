import AuditAspects.Contract.Binding

/-!
# Options of contracts

The options of an entity give its package, its project module, and methods that it
declares elsewhere.  The body of a contract may give options, clear them, or bind their
name to something else.  Options that derive from those seen on another contract inherit
what they do not give themselves, and it is a fault to derive from something that holds
no options.
-/

namespace AuditAspects

/-- The options of an entity, each as given, if it is given. -/
structure EntityOptions where
  /-- The package of the entity. -/
  package : Option Value := none
  /-- The methods that the entity declares elsewhere. -/
  declaredMethods : Option Value := none
  /-- The project module of the entity. -/
  moduleName : Option Value := none

namespace EntityOptions

/-- The package of an entity that names none. -/
def defaultPackage : String := "com.example.domain"

/-- The options of the base of all entities. -/
def base : EntityOptions :=
  ⟨some (.text defaultPackage), some (.list []), some (.text "")⟩

/-- Options with those of another set where they give none themselves. -/
def derive (own other : EntityOptions) : EntityOptions where
  package := own.package.or other.package
  declaredMethods := own.declaredMethods.or other.declaredMethods
  moduleName := own.moduleName.or other.moduleName

end EntityOptions

/-- What a contract's body says about options. -/
inductive OptionsClause
  /-- Nothing. -/
  | absent
  /-- That there are none. -/
  | cleared
  /-- Some options. -/
  | given (own : EntityOptions)
  /-- Some options, which derive from those seen on another contract. -/
  | derived (own : EntityOptions) (other : Option EntityOptions)

/-- The name in a body that stands for the options. -/
def optionsName : String := "Meta"

/-- The options that a binding of their name holds.  A nested class holds some, though
it gives none of them, and nothing else holds any. -/
def Binding.options? : Binding → Option EntityOptions
  | nestedClass => some {}
  | _ => none

namespace OptionsClause

/-- The bindings of a body that a clause leaves: a clause takes the place of what the
body binds the name of the options to. -/
def restrict (body : Body) : OptionsClause → Body
  | absent => body
  | _ => body.without optionsName

/-- What a clause and the body around it make the options of a contract: nothing where
neither says anything, and no options where there is nothing that holds them. -/
def resolve (body : Body) : OptionsClause → Except Fault (Option (Option EntityOptions))
  | absent => .ok ((body.binding? optionsName).map Binding.options?)
  | cleared => .ok (some none)
  | given own => .ok (some (some own))
  | derived own (some other) => .ok (some (some (own.derive other)))
  | derived _ none => .error .optionsNotDerivable

end OptionsClause

end AuditAspects
