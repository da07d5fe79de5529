import ServiceAccess.Table

/-! # Plain objects

What is kept under arbitrary keys (the readers of a connector type, the values of a bundle) is kept in plain
objects. A plain object has members of its own, and behind them stands one object that all of them share:
where an object has no member of its own, reading its key falls through to that.

* `Member` is what a key gives: a member of the object's own, or one that is inherited.
* `Table.read` reads a key of the object whose own members are listed in a table; `read_eq_own_iff`,
  `read_eq_inherited_iff` and `read_eq_none_iff` say when it gives which.
* `Object.sharedKey` is the key of the shared object itself. Writing it replaces what stands behind the
  object and gives it no member of its own. -/

namespace ServiceAccess

/-- What a key of a plain object gives. -/
inductive Member (ν : Type) where
  /-- A member of the object's own. -/
  | own (value : ν)
  /-- A member that all objects inherit. It is neither a text, nor a number, nor a truth value, nor an
  array, and it does nothing of what is asked of the object's own members. -/
  | inherited
deriving DecidableEq

namespace Object

/-- The key of the object that all others inherit from. -/
def sharedKey : String := "__proto__"

/-- The keys under which something is inherited. -/
def inheritedKeys : List String :=
  ["constructor", "__defineGetter__", "__defineSetter__", "hasOwnProperty", "__lookupGetter__",
    "__lookupSetter__", "isPrototypeOf", "propertyIsEnumerable", "toString", "valueOf", sharedKey,
    "toLocaleString"]

/-- Something is inherited under a key. -/
def Inherits (key : String) : Prop := key ∈ inheritedKeys

instance (key : String) : Decidable (Inherits key) := inferInstanceAs (Decidable (_ ∈ _))

theorem inherits_sharedKey : Inherits sharedKey := by decide

end Object

namespace Table

variable {ν : Type} {t : Table String ν} {key : String}

/-- Read a key of the object with given members of its own. -/
def read (t : Table String ν) (key : String) : Option (Member ν) :=
  match t.get? key with
  | some value => some (.own value)
  | none => if Object.Inherits key then some .inherited else none

theorem read_of_get? {value : ν} (own : t.get? key = some value) : t.read key = some (.own value) := by
  rw [read, own]

theorem read_eq_own_iff {value : ν} : t.read key = some (.own value) ↔ t.get? key = some value := by
  rw [read]
  cases t.get? key with
  | some v => simp
  | none => by_cases h : Object.Inherits key <;> simp [h]

theorem read_eq_inherited_iff :
    t.read key = some .inherited ↔ t.get? key = none ∧ Object.Inherits key := by
  rw [read]
  cases t.get? key with
  | some v => simp
  | none => by_cases h : Object.Inherits key <;> simp [h]

theorem read_eq_none_iff : t.read key = none ↔ t.get? key = none ∧ ¬ Object.Inherits key := by
  rw [read]
  cases t.get? key with
  | some v => simp
  | none => by_cases h : Object.Inherits key <;> simp [h]

/-- What is read depends on the object's own member. -/
theorem read_congr {t' : Table String ν} (same : t'.get? key = t.get? key) : t'.read key = t.read key := by
  rw [read, read, same]

end Table

end ServiceAccess
