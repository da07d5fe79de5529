import ServiceAccess.Number.Decimal
import ServiceAccess.Text.Quoted

/-! # JSON values

JSON values with their members in order, and the two ways of writing one: `Json.render` is the compact
JSON text, `Json.display` the plain text of a value in a message. -/

namespace ServiceAccess

/-- A JSON value. -/
inductive Json where
  /-- The null value. -/
  | null
  /-- A truth value. -/
  | bool (value : Bool)
  /-- A number. -/
  | num (value : Number)
  /-- A text. -/
  | str (value : String)
  /-- An array. -/
  | arr (items : List Json)
  /-- An object, its members in order. -/
  | obj (members : List (String × Json))
deriving BEq

instance : Inhabited Json := ⟨.null⟩

namespace Json

/-- The member of an object under a name; `none` also for values that are not objects. -/
def member? : Json → String → Option Json
  | .obj members, name => (members.find? fun m => m.1 = name).map Prod.snd
  | _, _ => none

/-- The text that a value is. -/
def text? : Json → Option String
  | .str s => some s
  | _ => none

/-- The compact spelling of a number: an infinity has none and is written as null. -/
def renderNumber (n : Number) : String := if n.isFinite then n.text else "null"

mutual
/-- The compact JSON text of a value. -/
def render : Json → String
  | .null => "null"
  | .bool b => if b then "true" else "false"
  | .num n => renderNumber n
  | .str s => Text.quote s
  | .arr items => "[" ++ renderItems items ++ "]"
  | .obj members => "\x7b" ++ renderMembers members ++ "\x7d"

/-- The items of an array, separated by commas. -/
def renderItems : List Json → String
  | [] => ""
  | [v] => render v
  | v :: rest => render v ++ "," ++ renderItems rest

/-- The members of an object, separated by commas. -/
def renderMembers : List (String × Json) → String
  | [] => ""
  | [(k, v)] => Text.quote k ++ ":" ++ render v
  | (k, v) :: rest => Text.quote k ++ ":" ++ render v ++ "," ++ renderMembers rest
end

mutual
/-- A value as plain text: arrays list their items between commas, with nothing for null, and an object
shows nothing of its members. -/
def display : Json → String
  | .null => "null"
  | .bool b => if b then "true" else "false"
  | .num n => n.text
  | .str s => s
  | .arr items => displayItems items
  | .obj _ => "[object Object]"

/-- One item of an array as plain text. -/
def displayItem : Json → String
  | .null => ""
  | v => display v

/-- The items of an array as plain text, separated by commas. -/
def displayItems : List Json → String
  | [] => ""
  | [v] => displayItem v
  | v :: rest => displayItem v ++ "," ++ displayItems rest
end

mutual
/-- Whether a value has a plain text. An object has none when a member of its own stands where the function is
read that makes it, and neither has an array that holds such an object. -/
def hasText : Json → Bool
  | .arr items => haveText items
  | .obj members => !(members.map Prod.fst).contains "toString"
  | _ => true

/-- Whether all values of a list have a plain text. -/
def haveText : List Json → Bool
  | [] => true
  | v :: rest => hasText v && haveText rest
end

end Json

end ServiceAccess
