import ServiceAccess.Number.Decimal

/-! # Problems of a bundle

What a schema finds wrong with a value, and where. -/

namespace ServiceAccess

/-- The two kinds of numeric field. -/
inductive NumberKind where
  /-- Finite whole numbers. -/
  | integer
  /-- Finite numbers. -/
  | number
deriving DecidableEq

/-- The word for a kind of numeric field. -/
def NumberKind.word : NumberKind → String
  | .integer => "integer"
  | .number => "number"

/-- One bound on a number. -/
inductive Bound where
  /-- Less than a limit. -/
  | below (limit : Number)
  /-- Greater than a limit. -/
  | above (limit : Number)
  /-- At most a limit. -/
  | atMost (limit : Number)
  /-- At least a limit. -/
  | atLeast (limit : Number)
  /-- A multiple of a step. -/
  | multipleOf (step : Number)
deriving DecidableEq

namespace Bound

/-- Whether a number keeps a bound. -/
def holds : Bound → Number → Bool
  | .below limit, n => n.lt limit
  | .above limit, n => limit.lt n
  | .atMost limit, n => n.le limit
  | .atLeast limit, n => limit.le n
  | .multipleOf step, n => n.isMultipleOf step

/-- The demand of a bound in words. -/
def demand : Bound → String
  | .below limit => "less than " ++ limit.text
  | .above limit => "greater than " ++ limit.text
  | .atMost limit => "less or equal to " ++ limit.text
  | .atLeast limit => "greater or equal to " ++ limit.text
  | .multipleOf step => "a multiple of " ++ step.text

end Bound

/-- What is wrong with a value. -/
inductive Fault where
  /-- A required field is absent. -/
  | missing
  /-- A field is not declared. -/
  | unexpected
  /-- The value is not a text. -/
  | notText
  /-- The text is too short. -/
  | tooShort (least : Nat)
  /-- The text is too long. -/
  | tooLong (most : Nat)
  /-- The text does not have the form of a pattern, given as it is written. -/
  | mismatch (source : String)
  /-- The value is not a number of its kind. -/
  | notNumeric (kind : NumberKind)
  /-- The number breaks a bound. -/
  | outOfBound (kind : NumberKind) (bound : Bound)
  /-- The value is not a truth value. -/
  | notFlag
  /-- The value is not an array. -/
  | notArray
  /-- The value is not an object. -/
  | notObject
deriving DecidableEq

/-- A fault in words. -/
def Fault.message : Fault → String
  | .missing => "Expected required property"
  | .unexpected => "Unexpected property"
  | .notText => "Expected string"
  | .tooShort least => "Expected string length greater or equal to " ++ toString least
  | .tooLong most => "Expected string length less or equal to " ++ toString most
  | .mismatch source => "Expected string to match '" ++ source ++ "'"
  | .notNumeric kind => "Expected " ++ kind.word
  | .outOfBound kind bound => "Expected " ++ kind.word ++ " to be " ++ bound.demand
  | .notFlag => "Expected boolean"
  | .notArray => "Expected array"
  | .notObject => "Expected object"

/-- A fault and the keys that lead to it. -/
structure Problem where
  /-- The keys from the outside in. -/
  path : List String
  /-- What is wrong there. -/
  fault : Fault
deriving DecidableEq

namespace Problem

/-- The spelling of a key inside a path. -/
def escapeKey (k : String) : String :=
  String.ofList (k.toList.flatMap fun c =>
    if c = '~' then ['~', '0'] else if c = '/' then ['~', '1'] else [c])

/-- A problem of a part, found in the whole under a key. -/
def under (key : String) (p : Problem) : Problem := ⟨key :: p.path, p.fault⟩

/-- The path in words: a slash before every key, one slash alone for the whole value. -/
def pathText (p : Problem) : String :=
  if p.path.isEmpty then "/" else String.join (p.path.map fun k => "/" ++ escapeKey k)

/-- The problem in words. -/
def message (p : Problem) : String := p.pathText ++ ": " ++ p.fault.message

end Problem

end ServiceAccess
