/-! # Regular expressions

Expressions are matched by backtracking. An expression has several ways to match the beginning of a text, in an order of
preference: an option prefers to take part, and a repetition prefers to go on. What follows in the pattern decides which
of them is taken, the first one that leads to a match of the whole text.

* **`Regex.splits`**: the ways to match the beginning of a text.
* **`Regex.divisions`**: the ways to match a whole text part by part, and **`Regex.exec?`**: the preferred one. -/

namespace ServiceAccess

/-- A regular expression. -/
inductive Regex where
  /-- The empty text. -/
  | empty
  /-- One character of a class. -/
  | one (p : Char → Bool)
  /-- One after the other. -/
  | seq (r s : Regex)
  /-- Once if possible, or not at all. -/
  | opt (r : Regex)
  /-- As often as possible, or less often. -/
  | star (r : Regex)

namespace Regex

/-- A fixed text, whose characters are compared in a given way. -/
def spelled (same : Char → Char → Bool) (s : String) : Regex :=
  s.toList.foldr (fun c r => .seq (.one (same c)) r) .empty

/-- A fixed text. -/
def word (s : String) : Regex := spelled (fun c d => d == c) s

/-- Once at least. -/
def plus (r : Regex) : Regex := .seq r (.star r)

/-- A number of times. -/
def times (r : Regex) : Nat → Regex
  | 0 => .empty
  | n + 1 => .seq r (r.times n)

/-- Up to a number of times. -/
def upTo (r : Regex) : Nat → Regex
  | 0 => .empty
  | n + 1 => .opt (.seq r (r.upTo n))

/-- Between two numbers of times. -/
def between (r : Regex) (least most : Nat) : Regex := .seq (r.times least) (r.upTo (most - least))

/-- A text in two parts: what has been matched, and what is left. -/
abbrev Split := List Char × List Char

/-- Match on after a split. -/
def Split.andThen (s : Split) (splits : List Char → List Split) : List Split :=
  (splits s.2).map fun next => (s.1 ++ next.1, next.2)

/-- The ways to match a repetition, with a bound on how often. A round that matches nothing is none. -/
def repeated (splits : List Char → List Split) : Nat → List Char → List Split
  | 0, cs => [([], cs)]
  | n + 1, cs =>
    ((splits cs).filter fun s => !s.1.isEmpty).flatMap (fun s => s.andThen (repeated splits n)) ++ [([], cs)]

/-- **The ways to match the beginning of a text**, preferred ones first. A repetition has no more rounds than the text has
characters. -/
def splits : Regex → List Char → List Split
  | empty, cs => [([], cs)]
  | one _, [] => []
  | one p, c :: cs => if p c then [([c], cs)] else []
  | seq r s, cs => (r.splits cs).flatMap fun first => first.andThen s.splits
  | opt r, cs => r.splits cs ++ [([], cs)]
  | star r, cs => repeated r.splits cs.length cs

/-- A part of a pattern. -/
inductive Part where
  /-- What it matches is not wanted. -/
  | skip (r : Regex)
  /-- What it matches is a group of the match. -/
  | group (r : Regex)

/-- **The ways to match a whole text**, preferred ones first, each with the groups of the match. -/
def divisions : List Part → List Char → List (List (List Char))
  | [], cs => if cs.isEmpty then [[]] else []
  | .skip r :: parts, cs => (r.splits cs).flatMap fun s => divisions parts s.2
  | .group r :: parts, cs => (r.splits cs).flatMap fun s => (divisions parts s.2).map (s.1 :: ·)

/-- A match of a whole text. -/
structure Match where
  /-- The text. -/
  whole : String
  /-- The groups, in order. -/
  groups : List String

/-- A group of a match. -/
def Match.group (m : Match) (n : Nat) : String := (m.groups[n]?).getD ""

/-- **The preferred match** of a whole text, if there is one. -/
def exec? (pattern : List Part) (cs : List Char) : Option Match :=
  (divisions pattern cs).head?.map fun groups => ⟨String.ofList cs, groups.map String.ofList⟩

/-- Whether a whole text matches. -/
def acceptsWhole (r : Regex) (s : String) : Bool := (exec? [.skip r] s.toList).isSome

/-- Whether the beginning of a text matches. -/
def acceptsStart (r : Regex) (s : String) : Bool := !(r.splits s.toList).isEmpty

end Regex

end ServiceAccess
