import AuditAspects.Project.Template
import AuditAspects.Value.Reader

/-!
# Reading project modules

The modules of a project on disk.  The modules of the template are known by their
texts.  Any other module is written as data: a settings module is a dictionary of
settings, and an entity module is a list of items, each a dictionary with one of

* `define`, a class with its `name` and perhaps `base`, `audit`, `options` and
  `body`, where `body` gives for each name a dictionary from the kind of its binding to
  the value that goes with it;
* `bring`, the name of a class from outside, perhaps with `as`;
* `fail`, the text of a fault.
-/

namespace AuditAspects

/-- A text member of a dictionary. -/
def Value.textField? (name : String) (v : Value) : Option String :=
  match v.field? name with
  | some (.text s) => some s
  | _ => none

/-- The entries of a dictionary; another value has none. -/
def Value.entries : Value → List (String × Value)
  | .object es => es
  | _ => []

/-- The binding of a kind, with the value that goes with it.  An unknown kind binds the
value itself. -/
def Binding.ofKind (kind : String) (v : Value) : Binding :=
  match kind with
  | "function" => .function v
  | "static function" => .staticFunction v
  | "class function" => .classFunction v
  | "property" => .property
  | "class" => .nestedClass
  | "builtin" => .builtin
  | "static builtin" => .staticBuiltin
  | _ => .value v

/-- The binding of a dictionary with one entry, from its kind to its value; any other
value is bound itself. -/
def Binding.ofValue : Value → Binding
  | .object [(kind, v)] => .ofKind kind v
  | v => .value v

/-- The options of an entity. -/
def EntityOptions.ofValue (v : Value) : EntityOptions :=
  ⟨v.field? "package", v.field? "declared_methods", v.field? "module"⟩

/-- What a class says about options: nothing, none, or some. -/
def OptionsClause.ofValue? : Option Value → OptionsClause
  | none => .absent
  | some .null => .cleared
  | some v => .given (.ofValue v)

/-- The definition of a class. -/
def ClassSpec.ofValue (v : Value) : ClassSpec where
  name := (v.textField? "name").getD ""
  base := v.textField? "base"
  marker := (v.field? "audit").map Value.entries
  clause := .ofValue? (v.field? "options")
  body := ((v.field? "body").elim [] Value.entries).map fun e => (e.1, .ofValue e.2)

/-- The item of a dictionary, if it is one. -/
def ModuleItem.ofValue? (v : Value) : Option ModuleItem :=
  match v.field? "define", v.textField? "bring", v.textField? "fail" with
  | some spec, _, _ => some (.define (.ofValue spec))
  | _, some name, _ => some (.bring name (v.textField? "as"))
  | _, _, some text => some (.fail .runtime text)
  | _, _, _ => none

/-- What is said of a module that cannot be read. -/
def unreadableModule : String := "the module is not written as data"

/-- The settings module of a text. -/
def SettingsModule.ofText (s : String) : SettingsModule :=
  if s = Template.settingsText then Template.settings
  else
    match Value.read? s with
    | some (.object es) => .bindings (es.map fun e => (e.1, .literal e.2))
    | _ => .fails .runtime unreadableModule

/-- The items of the entity module of a text. -/
def moduleItemsOfText (s : String) : List ModuleItem :=
  if s = Template.customerText then [.define Template.customer]
  else
    match Value.read? s with
    | some (.list xs) => (xs.mapM ModuleItem.ofValue?).getD [.fail .runtime unreadableModule]
    | _ => [.fail .runtime unreadableModule]

end AuditAspects
