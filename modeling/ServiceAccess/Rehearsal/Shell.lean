import ServiceAccess.Credentials.Pattern
import ServiceAccess.Text.Search

/-! # Shell scripts

The scripts that tool runs may hand to a shell: simple commands in pipelines, joined by `;`, `&&` and `||`, with
quoting, variables and redirections. `Shell.parse?` reads a script; nothing else of the shell language is
understood. -/

namespace ServiceAccess.Rehearsal.Shell

/-- A part of a word. -/
inductive Piece where
  /-- A text that stands for itself. -/
  | text (s : List Char)
  /-- A variable; outside quotes its value is split at blanks. -/
  | parameter (name : String) (quoted : Bool)

/-- Where output goes. -/
inductive Target where
  /-- To where another stream goes. -/
  | stream (number : Nat)
  /-- Nowhere. -/
  | nowhere

/-- A simple command. -/
structure Command where
  /-- Its words. -/
  words : List (List Piece)
  /-- Its redirections of output streams, in order. -/
  redirects : List (Nat × Target)
  /-- Whether it has no input. -/
  mute : Bool

/-- When a pipeline runs. -/
inductive Link where
  /-- Whatever came before. -/
  | always
  /-- After success. -/
  | ifOk
  /-- After a failure. -/
  | ifFailed

/-- A script: pipelines of commands. -/
abbrev Program := List (Link × List Command)

/-- A token of a script. -/
inductive Token where
  /-- A word. -/
  | word (pieces : List Piece)
  /-- A redirection of an output stream. -/
  | redirect (stream : Nat) (target : Target)
  /-- The input is empty. -/
  | mute
  /-- A pipe. -/
  | pipe
  /-- The end of a pipeline, and when the next one runs. -/
  | next (link : Link)

/-- Whether a character may stand in the name of a variable. -/
def isNameChar (c : Char) : Bool := c.isAlphanum || c == '_'

/-- The variable after a dollar sign, and what follows it. -/
def parameter? : List Char → Option (String × List Char)
  | '\x7b' :: cs =>
    let name := cs.takeWhile isNameChar
    match cs.drop name.length with
    | '\x7d' :: rest => some (String.ofList name, rest)
    | _ => none
  | c :: cs =>
    if "$?#@*".toList.contains c then some (String.singleton c, cs)
    else if Text.isDigit c then some (String.singleton c, cs)
    else if isNameChar c then
      let name := c :: cs.takeWhile isNameChar
      some (String.ofList name, cs.drop (name.length - 1))
    else none
  | [] => none

/-- The characters that a backslash takes their meaning from between double quotes. -/
def isEscapable (c : Char) : Bool := c == '"' || c == '\\' || c == '$' || c.toNat == 0x60

/-- The pieces up to the closing double quote, and what follows it. -/
def quotedPieces : Nat → List Char → Option (List Piece × List Char)
  | 0, _ => none
  | _, [] => none
  | _ + 1, '"' :: rest => some ([], rest)
  | fuel + 1, '\\' :: c :: rest => do
    let (pieces, after) ← quotedPieces fuel rest
    return (.text (if isEscapable c then [c] else ['\\', c]) :: pieces, after)
  | fuel + 1, c :: rest =>
    match (if c == '$' then parameter? rest else none) with
    | some (name, rest) => do
      let (pieces, after) ← quotedPieces fuel rest
      return (.parameter name true :: pieces, after)
    | none => do
      let (pieces, after) ← quotedPieces fuel rest
      return (.text [c] :: pieces, after)

/-- The target of a redirection, and what follows it. -/
def target? : List Char → Option (Target × List Char)
  | '&' :: c :: rest =>
    if Text.isDigit c then some (.stream (c.toNat - 48), rest) else none
  | cs => (Text.after? "/dev/null".toList (cs.dropWhile (· == ' '))).map fun rest => (.nowhere, rest)

/-- End the word that is being read. -/
def endWord (word : Option (List Piece)) (tokens : List Token) : List Token :=
  match word with
  | some pieces => .word pieces :: tokens
  | none => tokens

/-- The number of the stream that a redirection is about, when a word of one digit stands before it. -/
def streamOf : Option (List Piece) → Option (Option Nat)
  | none => some none
  | some [.text [c]] => if Text.isDigit c then some (some (c.toNat - 48)) else none
  | _ => none

/-- The tokens of a script, behind the word that is being read. -/
def tokens? : Nat → List Char → Option (List Piece) → Option (List Token)
  | 0, _, _ => none
  | _ + 1, [], word => some (endWord word [])
  | fuel + 1, c :: rest, word =>
    let add := fun (p : Piece) => some (word.getD [] ++ [p])
    let close := fun (t : Token) (rest : List Char) =>
      (tokens? fuel rest none).map fun ts => endWord word (t :: ts)
    match c, rest with
    | '&', '&' :: rest => close (.next .ifOk) rest
    | '|', '|' :: rest => close (.next .ifFailed) rest
    | '|', rest => close .pipe rest
    | ';', rest => close (.next .always) rest
    | '\n', rest => close (.next .always) rest
    | ' ', rest => (tokens? fuel rest none).map (endWord word)
    | '\t', rest => (tokens? fuel rest none).map (endWord word)
    | '>', rest => do
      let (target, after) ← target? rest
      match streamOf word with
      | some stream =>
        return .redirect (stream.getD 1) target :: (← tokens? fuel after none)
      | none => (tokens? fuel after none).map fun ts => endWord word (.redirect 1 target :: ts)
    | '<', rest => do
      let (_, after) ← target? rest
      close .mute after
    | '\'', rest =>
      let inner := rest.takeWhile (· != '\'')
      match rest.drop inner.length with
      | _ :: rest => tokens? fuel rest (add (.text inner))
      | [] => none
    | '"', rest => do
      let (pieces, after) ← quotedPieces rest.length.succ rest
      tokens? fuel after (some (word.getD [] ++ .text [] :: pieces))
    | '\\', d :: rest => tokens? fuel rest (add (.text [d]))
    | '$', rest =>
      match parameter? rest with
      | some (name, rest) => tokens? fuel rest (add (.parameter name false))
      | none => tokens? fuel rest (add (.text ['$']))
    | c, rest => tokens? fuel rest (add (.text [c]))

/-- Put a token in front of a command. -/
def Command.withToken (c : Command) : Token → Command
  | .word pieces => { c with words := pieces :: c.words }
  | .redirect stream target => { c with redirects := (stream, target) :: c.redirects }
  | .mute => { c with mute := true }
  | _ => c

/-- The command without words. -/
def Command.empty : Command := ⟨[], [], false⟩

/-- The pipelines of tokens: that of the tokens up to the first end of a pipeline, and the later ones. -/
def pipelines : List Token → List Command × Program
  | [] => ([.empty], [])
  | .next link :: rest =>
    let (commands, later) := pipelines rest
    ([.empty], (link, commands) :: later)
  | .pipe :: rest =>
    let (commands, later) := pipelines rest
    (.empty :: commands, later)
  | token :: rest =>
    match pipelines rest with
    | (command :: commands, later) => (command.withToken token :: commands, later)
    | ([], later) => ([], later)

/-- The script that a text is. -/
def parse? (text : String) : Option Program :=
  (tokens? (text.toList.length + 1) text.toList none).map fun ts =>
    let (commands, later) := pipelines ts
    (.always, commands) :: later

end ServiceAccess.Rehearsal.Shell
