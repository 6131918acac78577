import AuditAspects.Config.Key
import AuditAspects.TypeName
import AuditAspects.Value

/-!
# Faults

What can go wrong, by cause.  Each fault has one message and one kind.  The
kind decides how a project run reports it: faults of auditing itself are handed
on as they are, all others are wrapped with the name of the module that raised
them.
-/

namespace AuditAspects

/-- The kinds of fault. -/
inductive FaultKind
  /-- Auditing failed for a reason of its own. -/
  | auditing
  /-- A configuration or a target is missing or malformed. -/
  | configuration
  /-- A generated field broke a rule of audit fields. -/
  | fieldState
  /-- A text does not identify an audit contribution. -/
  | identifier
  /-- A value of the right kind is out of place. -/
  | value
  /-- A value is of the wrong kind. -/
  | type
  /-- A step of a project run failed. -/
  | runtime
  /-- A value lacks an operation asked of it. -/
  | missingOperation
  /-- A name stands for nothing. -/
  | unboundName
deriving DecidableEq

/-- The kinds that auditing raises itself. -/
def FaultKind.isAuditing : FaultKind → Bool
  | auditing | configuration | fieldState | identifier => true
  | _ => false

/-- The kinds that a command reports.  A fault of any other kind ends the command. -/
def FaultKind.isReported : FaultKind → Bool
  | missingOperation | unboundName => false
  | _ => true

/-- The characters that an encoding refuses, and their places. -/
def Text.Encoding.Refusal.text (r : Refusal) : String :=
  if r.first = r.last then
    "character '" ++ String.ofList (codePointEscape (codePoint r.char)) ++ "' in position " ++
      toString r.first
  else "characters in position " ++ toString r.first ++ "-" ++ toString r.last

/-- A fault by its cause. -/
inductive Fault
  /-- A type without a name. -/
  | typeNameMissing
  /-- A member without a name. -/
  | nameMissing
  /-- A class whose name holds the null character. -/
  | classNameHoldsNull
  /-- Options that derive from something that holds none. -/
  | optionsNotDerivable
  /-- A marker that gives the value of the receiver. -/
  | receiverGiven
  /-- A marker with an argument it does not take. -/
  | unexpectedArgument (name : String)
  /-- A marker with unknown keys. -/
  | unknownKeys (names : List String)
  /-- A setting that is neither text nor absent. -/
  | settingNotText (key : ConfigKey) (kindName : String)
  /-- A configuration asked for a key it does not have. -/
  | unknownKey (text : String)
  /-- No configuration. -/
  | configMissing
  /-- Something else in the place of a configuration. -/
  | configForeign (kindName : String)
  /-- No target. -/
  | targetMissing
  /-- Something in the place of a target that cannot be asked for methods. -/
  | targetForeign (text : String)
  /-- A value asked for an operation it does not have. -/
  | operationMissing (kindName operation : String)
  /-- A class asked for an operation it does not have. -/
  | classOperationMissing (name operation : String)
  /-- An operation that is bound to something that cannot be called. -/
  | notCallable (kindName : String)
  /-- A built-in operation called without its argument. -/
  | builtinArgumentMissing
  /-- No field. -/
  | fieldMissing
  /-- An audit field that is not stored with each instance. -/
  | fieldNotStored (name : String)
  /-- A text that identifies no audit contribution. -/
  | identifierInvalid (text : String)
  /-- A second field of one name in a unit. -/
  | fieldDeclared (name : String) (aspect : TypeName)
  /-- A second method of one name in a unit. -/
  | methodDeclared (name : String) (aspect : TypeName)
  /-- A second entity of one name. -/
  | entityRegistered (name : String)
  /-- A marker on something that is no entity. -/
  | notAuditable (text : String)
  /-- A target made of something that is no entity. -/
  | notContract (text : String)
  /-- Something in the place of several values that cannot be listed. -/
  | notListable (kindName : String)
  /-- Something in the place of several values that cannot be searched. -/
  | notSearchable (kindName : String)
  /-- A declared method that cannot be collected in a set. -/
  | notCollectable (kindName : String)
  /-- Two values without an order. -/
  | notComparable (lesser greater : String)
  /-- A part of a joined text that is no text. -/
  | partNotText (place : Nat) (kindName : String)
  /-- A path that is no text. -/
  | pathNotText (kindName : String)
  /-- A path that is given by octets. -/
  | pathOfOctets
  /-- A path that holds the null character. -/
  | pathHoldsNull
  /-- A text with lone surrogates that cannot be encoded, at some places. -/
  | notEncodable (refusal : Text.Encoding.Refusal)
  /-- A name that stands for nothing. -/
  | nameUnbound (name : String)
  /-- A fault that a module of the project raises itself. -/
  | raised (kind : FaultKind) (text : String)
  /-- An entity module that failed. -/
  | entityModuleFailed (file text : String)
  /-- A settings module that failed. -/
  | settingsFailed (text : String)
deriving DecidableEq

namespace Fault

/-- The kind of a fault. -/
def kind : Fault → FaultKind
  | typeNameMissing | nameMissing | classNameHoldsNull => .value
  | optionsNotDerivable | receiverGiven | unexpectedArgument _ => .type
  | unknownKeys _ | settingNotText _ _ | unknownKey _ => .configuration
  | configMissing | configForeign _ | targetMissing | targetForeign _ => .configuration
  | operationMissing _ _ | classOperationMissing _ _ => .missingOperation
  | notCallable _ | builtinArgumentMissing => .type
  | fieldMissing | fieldNotStored _ => .fieldState
  | identifierInvalid _ => .identifier
  | fieldDeclared _ _ | methodDeclared _ _ | entityRegistered _ => .value
  | notAuditable _ | notContract _ | notListable _ | notSearchable _ | notCollectable _ => .type
  | notComparable _ _ | partNotText _ _ | pathNotText _ | pathOfOctets => .type
  | pathHoldsNull | notEncodable _ => .value
  | nameUnbound _ => .unboundName
  | raised kind _ => kind
  | entityModuleFailed _ _ | settingsFailed _ => .runtime

/-- The message of a fault. -/
def message : Fault → String
  | typeNameMissing => "Type reference requires a fully qualified name"
  | nameMissing => "Name must be a non-empty string"
  | classNameHoldsNull => "type name must not contain null characters"
  | optionsNotDerivable =>
      "metaclass conflict: the metaclass of a derived class must be a (non-strict) subclass of " ++
        "the metaclasses of all its bases"
  | receiverGiven => "AuditConfig.from_marker() got multiple values for argument 'cls'"
  | unexpectedArgument name => "audit() got an unexpected keyword argument '" ++ name ++ "'"
  | unknownKeys names =>
      "Unknown audit configuration keys: " ++ Value.quotedTexts names ++ ". Expected any of " ++
        Value.quotedTexts (ConfigKey.all.map ConfigKey.name)
  | settingNotText key kindName =>
      "'" ++ key.name ++ "' must be a string or None, got " ++ kindName
  | unknownKey text => "Unknown audit configuration key '" ++ text ++ "'"
  | configMissing => "Audit configuration is required"
  | configForeign kindName => "Expected AuditConfig, got " ++ kindName
  | targetMissing => "Target type is required"
  | targetForeign text => "Target " ++ text ++ " does not provide has_declared_method()"
  | operationMissing kindName operation =>
      "'" ++ kindName ++ "' object has no attribute '" ++ operation ++ "'"
  | classOperationMissing name operation =>
      "type object '" ++ name ++ "' has no attribute '" ++ operation ++ "'"
  | notCallable kindName => "'" ++ kindName ++ "' object is not callable"
  | builtinArgumentMissing => "len() takes exactly one argument (0 given)"
  | fieldMissing => "Field required"
  | fieldNotStored name => "Audit field '" ++ name ++ "' must not be transient or static"
  | identifierInvalid text =>
      "Metadata identification string '" ++ text ++
        "' does not appear to be a valid physical type identifier"
  | fieldDeclared name aspect =>
      "Field '" ++ name ++ "' is already declared in " ++ aspect.name
  | methodDeclared name aspect =>
      "Method '" ++ name ++ "' is already declared in " ++ aspect.name
  | entityRegistered name => "Audited entity '" ++ name ++ "' is already registered"
  | notAuditable text => "@audit can only be applied to Entity subclasses, got " ++ text
  | notContract text => text ++ " is not an Entity contract"
  | notListable kindName => "'" ++ kindName ++ "' object is not iterable"
  | notSearchable kindName => "argument of type '" ++ kindName ++ "' is not iterable"
  | notCollectable kindName => "unhashable type: '" ++ kindName ++ "'"
  | notComparable lesser greater =>
      "'<' not supported between instances of '" ++ lesser ++ "' and '" ++ greater ++ "'"
  | partNotText place kindName =>
      "sequence item " ++ toString place ++ ": expected str instance, " ++ kindName ++ " found"
  | pathNotText kindName => "expected str, bytes or os.PathLike object, not " ++ kindName
  | pathOfOctets =>
      "argument should be a str object or an os.PathLike object returning str, not " ++
        "<class 'bytes'>"
  | pathHoldsNull => "embedded null byte"
  | notEncodable refusal =>
      "'utf-8' codec can't encode " ++ refusal.text ++ ": surrogates not allowed"
  | nameUnbound name => "name '" ++ name ++ "' is not defined"
  | raised _ text => text
  | entityModuleFailed file text => "Failed to import entity module " ++ file ++ ": " ++ text
  | settingsFailed text => "Failed to load config: " ++ text

/-- What keeps a text from being encoded. -/
def ofEncoding? (e : Text.Encoding) (s : String) : Option Fault :=
  (e.refused? s).map notEncodable

/-- A fault of auditing itself. -/
def isAuditing (f : Fault) : Bool := f.kind.isAuditing

/-- A fault that a command reports. -/
def isReported (f : Fault) : Bool := f.kind.isReported

end Fault

/-- The type whose name is a given value: a text that is not empty. -/
def TypeName.ofValue : Value → Except Fault TypeName
  | .text s =>
      match TypeName.ofString? s with
      | some t => .ok t
      | none => .error .typeNameMissing
  | _ => .error .typeNameMissing

/-- What a type is asked for where its name is needed. -/
def TypeName.nameOperation : String := "fully_qualified_name"

end AuditAspects
