import AuditAspects.Fault

/-!
# Bodies of contracts

The body of a contract binds names.  A name may be bound several times, and the last
binding counts (`Body.binding?`).  Functions that the user wrote count as methods of the
entity (`Body.writtenMethods`), unless their names start with an underscore.
-/

namespace AuditAspects

/-! ## Bindings -/

/-- What a name in a contract's body is bound to.  A function takes whatever it is
called with and gives one value.  Values are data: a type or a configuration is none of
them. -/
inductive Binding
  /-- A function. -/
  | function (result : Value)
  /-- A function called without an instance. -/
  | staticFunction (result : Value)
  /-- A function called on the class. -/
  | classFunction (result : Value)
  /-- A computed property. -/
  | property
  /-- A plain value. -/
  | value (v : Value)
  /-- A nested class. -/
  | nestedClass
  /-- A built-in operation, which takes one argument. -/
  | builtin
  /-- A built-in operation called without an instance. -/
  | staticBuiltin

namespace Binding

/-- The binding wraps a function that the user wrote. -/
def isWritten : Binding → Bool
  | function _ | staticFunction _ | classFunction _ => true
  | _ => false

/-- What is bound, as a value: only plain values are data. -/
def asValue : Binding → Value
  | function _ => .other "function"
  | staticFunction _ | staticBuiltin => .other "staticmethod"
  | classFunction _ => .other "classmethod"
  | property => .other "property"
  | value v => v
  | nestedClass => .other "type"
  | builtin => .other "builtin_function_or_method"

/-- What calling a binding of a given name on the class gives.  That is a value, so no
binding gives a type. -/
def call (name : String) : Binding → Except Fault Value
  | function result | staticFunction result | classFunction result => .ok result
  | nestedClass => .ok (.other name)
  | builtin | staticBuiltin => .error .builtinArgumentMissing
  | b => .error (.notCallable b.asValue.kindName)

end Binding

/-! ## Bodies -/

/-- The bindings of a contract's body, in order. -/
abbrev Body := List (String × Binding)

namespace Body

/-- What a name is bound to in the end. -/
def binding? (body : Body) (name : String) : Option Binding :=
  body.reverse.lookup name

/-- The body without the bindings of a name. -/
def without (name : String) (body : Body) : Body :=
  body.filter fun e => e.1 ≠ name

/-- A name that the user means to be seen. -/
def isPublicName (name : String) : Bool :=
  name.toList.head? ≠ some '_'

/-- The names that are bound to functions the user wrote. -/
def writtenMethods (body : Body) : List String :=
  (body.map Prod.fst).eraseDups.filter fun name =>
    isPublicName name && (body.binding? name).any Binding.isWritten

/-! ## Tests -/

example : writtenMethods [("getA", .function .null), ("getB", .builtin),
      ("_c", .function .null), ("getA", .value .null), ("getD", .value .null),
      ("getD", .classFunction .null)] = ["getD"] := by
  decide +kernel

end Body

end AuditAspects
