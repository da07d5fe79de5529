import ServiceAccess.ConnectorType

/-! # Plugin modules

What a plugin's entry module exports, and what its register function does. The default export counts when
there is one; it is the register function itself or an object with a `register` or an `activate` function.
Otherwise the module's own `register` or `activate` counts.

The code of a plugin can raise anything, also what cannot be described. -/

namespace ServiceAccess

/-- What code raises. -/
inductive Raised where
  /-- A failure. -/
  | failure (f : Failure)
  /-- A value or a message of an error object for which there is no text. -/
  | wordless

namespace Raised

/-- What was raised, as one line of a message, if there is a text for it. -/
def text? : Raised → Option String
  | .failure f => if f.hasText then some f.describe else none
  | .wordless => none

/-- The failure to describe what has no text. -/
def undescribed : Failure := .wrongType "Cannot convert object to primitive value"

/-- What was raised, as one line of a message, or the failure to describe it. -/
def describe (raised : Raised) : Except Failure String :=
  match raised.text? with
  | some text => .ok text
  | none => .error undescribed

end Raised

/-- What a register function does: it contributes connector types, then it may fail, and otherwise it
contributes more types later on. -/
structure RegisterFunction where
  /-- The types contributed at once. -/
  types : List ConnectorType
  /-- What it raises, if it fails. -/
  failure : Option Raised
  /-- The types contributed later. -/
  lateTypes : List ConnectorType

/-- The types that a register function contributes, or what it raises. -/
def RegisterFunction.run (f : RegisterFunction) : Except Raised (List ConnectorType) :=
  match f.failure with
  | some raised => .error raised
  | none => .ok (f.types ++ f.lateTypes)

/-- An object's two functions that may register. -/
structure Registrants where
  /-- Its `register`, if that is a function. -/
  register : Option RegisterFunction
  /-- Its `activate`, if that is a function. -/
  activate : Option RegisterFunction

/-- The function of an object that registers. -/
def Registrants.function? (r : Registrants) : Option RegisterFunction := r.register <|> r.activate

/-- A default export. -/
inductive DefaultExport where
  /-- A function. -/
  | function (f : RegisterFunction)
  /-- An object. -/
  | object (members : Registrants)
  /-- Anything else. -/
  | plain

/-- What a module exports. -/
structure PluginModule where
  /-- The default export. -/
  default? : Option DefaultExport
  /-- The named exports. -/
  named : Registrants

/-- The register function of a module. -/
def PluginModule.registerFunction? (m : PluginModule) : Option RegisterFunction :=
  match m.default? with
  | none => m.named.function?
  | some (.function f) => some f
  | some (.object members) => members.function?
  | some .plain => none

end ServiceAccess
