import ServiceAccess.Rehearsal.Shell
import ServiceAccess.Service
import ServiceAccess.Text.Blank
import ServiceAccess.Text.Utf8

/-! # Tool runs

What a tool does with its arguments, its input and its environment: a handful of plain tools, and a shell that
runs scripts of them. Output is bytes and is read as UTF-8. A tool that dies by a signal has the exit
code 128, and a tool that is not there cannot be started. -/

namespace ServiceAccess.Rehearsal.Tool

open Shell

/-- The bytes of characters. -/
def bytesOf (cs : List Char) : List UInt8 := (String.ofList cs).toUTF8.toList

/-- How a command ends. -/
inductive Ending where
  /-- With an exit code, and the next command runs. -/
  | code (n : Nat)
  /-- The shell ends with an exit code. -/
  | exits (n : Nat)
  /-- The shell dies by a signal. -/
  | killed

/-- What a command does. -/
structure Deed where
  /-- How it ends. -/
  ending : Ending
  /-- What it writes. -/
  out : List UInt8
  /-- What it writes as diagnostics. -/
  err : List UInt8
  /-- What it leaves of the input. -/
  input : List UInt8

/-- A command that writes text and succeeds. -/
def writes (input : List UInt8) (out : List UInt8) : Deed := ⟨.code 0, out, [], input⟩

/-- Decimal digits as a number. -/
def number? (s : String) : Option Nat := s.toNat?

/-- The byte of up to three octal digits, and what follows them. -/
def octal (cs : List Char) : UInt8 × List Char :=
  let digits := (cs.take 3).takeWhile fun c => '0' ≤ c && c ≤ '7'
  (UInt8.ofNat (digits.foldl (fun n c => n * 8 + (c.toNat - 48)) 0), cs.drop digits.length)

/-- The byte that a letter after a backslash stands for. -/
def escape? : Char → Option UInt8
  | 'n' => some 10
  | 't' => some 9
  | 'r' => some 13
  | 'a' => some 7
  | 'b' => some 8
  | 'f' => some 12
  | 'v' => some 11
  | '\\' => some 92
  | _ => none

/-- A format with its arguments filled in, once, and the arguments left. -/
def format : Nat → List Char → List String → List UInt8 × List String
  | 0, _, args => ([], args)
  | _, [], args => ([], args)
  | fuel + 1, '\\' :: c :: rest, args =>
    if '0' ≤ c && c ≤ '7' then
      let (b, rest) := octal (c :: rest)
      let (bs, args) := format fuel rest args
      (b :: bs, args)
    else match escape? c with
      | some b =>
        let (bs, args) := format fuel rest args
        (b :: bs, args)
      | none =>
        let (bs, args) := format fuel rest args
        (bytesOf ['\\', c] ++ bs, args)
  | fuel + 1, '%' :: c :: rest, args =>
    if c = '%' then
      let (bs, args) := format fuel rest args
      (37 :: bs, args)
    else
      let value := args.head?.getD (if c = 'd' then "0" else "")
      let (bs, args) := format fuel rest args.tail
      (bytesOf value.toList ++ bs, args)
  | fuel + 1, c :: rest, args =>
    let (bs, args) := format fuel rest args
    (bytesOf [c] ++ bs, args)

/-- A format that is used again as long as arguments are left. -/
def formatAll : Nat → List Char → List String → List UInt8
  | 0, _, _ => []
  | fuel + 1, cs, args =>
    let (bs, rest) := format (cs.length + 1) cs args
    if rest.isEmpty || rest.length = args.length then bs else bs ++ formatAll fuel cs rest

/-- What an echoed text becomes: backslash escapes count. -/
def echoed : Nat → List Char → List UInt8
  | 0, _ => []
  | _, [] => []
  | fuel + 1, '\\' :: c :: rest =>
    if c = '0' then
      let (b, rest) := octal rest
      b :: echoed fuel rest
    else match escape? c with
      | some b => b :: echoed fuel rest
      | none => bytesOf ['\\', c] ++ echoed fuel rest
  | fuel + 1, c :: rest => bytesOf [c] ++ echoed fuel rest

/-- Refuse an option that a tool does not have. -/
def refuseOption (tool option : String) (input : List UInt8) : Deed :=
  let complaint := tool ++ ": unrecognized option '" ++ option ++ "'\nTry '" ++ tool
    ++ " --help' for more information.\n"
  ⟨.code 1, [], bytesOf complaint.toList, input⟩

/-- Write out files; only a dash, the input, is there. -/
def concatenate (input : List UInt8) : List String → Deed
  | [] => writes input []
  | name :: rest =>
    if name = "-" then
      let deed := concatenate [] rest
      { deed with out := input ++ deed.out }
    else
      let deed := concatenate input rest
      let complaint := bytesOf ("cat: " ++ name ++ ": No such file or directory\n").toList
      { deed with ending := .code 1, err := complaint ++ deed.err }

/-- The signals that do nothing to a shell. -/
def harmless : List String := ["-0", "-CONT", "-18", "-CHLD", "-17", "-WINCH", "-28", "-URG", "-23"]

/-- The words of an echo, and whether a line end follows them. -/
def echoWords : List String → List String × Bool
  | "-n" :: words => (words, false)
  | words => (words, true)

/-- Echo words, with or without regard to backslash escapes. -/
def echo (escapes : Bool) (input : List UInt8) (args : List String) : Deed :=
  let (words, ends) := echoWords args
  let cs := (String.intercalate " " words).toList
  let text := if escapes then echoed (cs.length + 1) cs else bytesOf cs
  writes input (text ++ if ends then [10] else [])

/-- Fill arguments into a format, or complain that there is none. -/
def print (complaint : String) (code : Nat) (input : List UInt8) : List String → Deed
  | cs :: values => writes input (formatAll (values.length + 1) cs.toList values)
  | [] => ⟨.code code, [], bytesOf complaint.toList, input⟩

/-- Answer a question by success or failure. -/
def answers (input : List UInt8) (b : Bool) : Deed := ⟨.code (if b then 0 else 1), [], [], input⟩

/-- Whether a condition on texts holds. -/
def holds : List String → Bool
  | ["!", x] => x.isEmpty
  | ["-n", x] => !x.isEmpty
  | ["-z", x] => x.isEmpty
  | [x, "=", y] => x = y
  | [x, "!=", y] => x != y
  | [x, "-eq", y] => x.toInt? = y.toInt?
  | [x, "-ne", y] => x.toInt? != y.toInt?
  | ["!", "-n", x] => x.isEmpty
  | ["!", "-z", x] => !x.isEmpty
  | [x] => !x.isEmpty
  | _ => false

/-- The lines of an environment. -/
def environmentText (env : Table String String) : String :=
  String.join (env.entries.map fun e => e.1 ++ "=" ++ e.2 ++ "\n")

/-- Run a plain tool. There is none of another name. -/
def plain? (env : Table String String) (input : List UInt8) (args : List String) :
    String → Option Deed
  | "true" => some (writes input [])
  | "sleep" => some (writes input [])
  | "false" => some (answers input false)
  | "test" => some (answers input (holds args))
  | "cat" =>
    some (match args.find? fun a => a.startsWith "--" with
      | some option => refuseOption "cat" option input
      | none => concatenate input (if args.isEmpty then ["-"] else args))
  | "echo" =>
    some (match args with
      | "-e" :: words => echo true input words
      | words => echo false input words)
  | "printf" =>
    let complaint := "printf: missing operand\nTry 'printf --help' for more information.\n"
    some (print complaint 1 input args)
  | "head" =>
    match args with
    | ["-c", n] => some (writes [] (input.take ((number? n).getD 0)))
    | _ => some (writes [] input)
  | "wc" => some (writes [] (bytesOf (toString input.length ++ "\n").toList))
  | "env" => some (writes input (bytesOf (environmentText env).toList))
  | "printenv" =>
    match args with
    | [] => some (writes input (bytesOf (environmentText env).toList))
    | name :: _ =>
      some (match env.get? name with
        | some value => writes input (bytesOf (value ++ "\n").toList)
        | none => answers input false)
  | _ => none

/-- Run a command of a script that is no part of the shell itself. -/
def external (env : Table String String) (input : List UInt8) (args : List String) (name : String) :
    Deed :=
  (plain? env input args name).getD
    ⟨.code 127, [], bytesOf ("sh: 1: " ++ name ++ ": not found\n").toList, input⟩

/-- End the shell, with the exit code of the last command unless another is given. -/
def exit (status : Nat) (input : List UInt8) : List String → Deed
  | [] => ⟨.exits status, [], [], input⟩
  | code :: _ =>
    match number? code with
    | some n => ⟨.exits (n % 256), [], [], input⟩
    | none => ⟨.exits 2, [], bytesOf ("sh: 1: exit: Illegal number: " ++ code ++ "\n").toList, input⟩

/-- Run a command of a script. -/
def command (env : Table String String) (status : Nat) (input : List UInt8) : List String → Deed
  | [] => writes input []
  | ":" :: _ => writes input []
  | "exit" :: args => exit status input args
  | "kill" :: args =>
    let signal := args.head?.getD ""
    ⟨if harmless.contains signal then .code 0 else .killed, [], [], input⟩
  | "exec" :: [] => writes input []
  | "exec" :: name :: args =>
    let deed := external env input args name
    match deed.ending with
    | .code n => { deed with ending := .exits n }
    | _ => deed
  | "echo" :: args => echo true input args
  | "printf" :: args => print "sh: 1: printf: usage: printf format [arg ...]\n" 2 input args
  | "[" :: args => answers input (holds args.dropLast)
  | name :: args => external env input args name

/-- What a script has done so far. -/
structure Progress where
  /-- The variables. -/
  env : Table String String
  /-- The arguments, the name of the script first. -/
  args : List String
  /-- The exit code of the last command. -/
  status : Nat
  /-- What is left of the input. -/
  input : List UInt8
  /-- What was written. -/
  out : List UInt8
  /-- What was written as diagnostics. -/
  err : List UInt8
  /-- The exit code of the script, once it has ended. -/
  result : Option Nat

namespace Progress

/-- The value of a variable. -/
def value (s : Progress) (name : String) : String :=
  match name, number? name with
  | "$", _ => "1"
  | "?", _ => toString s.status
  | "#", _ => toString (s.args.length - 1)
  | "@", _ => String.intercalate " " s.args.tail
  | "*", _ => String.intercalate " " s.args.tail
  | _, some n => (s.args[n]?).getD ""
  | name, none => (s.env.get? name).getD ""

/-- The fields that a variable makes: between quotes its value alone, except that all arguments stay
apart, and else the parts of its value between blanks. -/
def parts (s : Progress) (name : String) (quoted : Bool) : List String :=
  if !quoted then ((s.value name).splitOn " ").filter fun part => !part.isEmpty
  else if name = "@" then s.args.tail
  else [s.value name]

/-- The fields that pieces make, behind those finished and the one begun. -/
def fields (s : Progress) : List Piece → List String → Option String → List String
  | [], ended, current => ended ++ current.toList
  | .text cs :: rest, ended, current =>
    s.fields rest ended (some (current.getD "" ++ String.ofList cs))
  | .parameter name quoted :: rest, ended, current =>
    match s.parts name quoted with
    | [] => s.fields rest ended current
    | first :: others =>
      let all := (current.getD "" ++ first) :: others
      s.fields rest (ended ++ all.dropLast) all.getLast?

/-- The assignment that a word is, if it is one. -/
def assignment? (word : String) : Option (String × String) :=
  let name := word.toList.takeWhile isNameChar
  match word.toList.drop name.length with
  | '=' :: value => if name.isEmpty then none else some (String.ofList name, String.ofList value)
  | _ => none

/-- Where the two output streams of a command go: each to one of them or nowhere. -/
def streams (redirects : List (Nat × Target)) : Option Nat × Option Nat :=
  redirects.foldl (fun ways r =>
    let target := match r.2 with
      | .nowhere => none
      | .stream 1 => ways.1
      | .stream _ => ways.2
    if r.1 = 1 then (target, ways.2) else (ways.1, target)) (some 1, some 2)

/-- Read a line of the input into a variable, without the blanks around it; succeed when the line ends. -/
def readLine (s : Progress) (name : String) : Progress :=
  let line := s.input.takeWhile (· != 10)
  let isBlank := fun c : Char => c == ' ' || c == '\t'
  let cs := (Text.Utf8.decode line).toList.dropWhile isBlank
  let value := (cs.reverse.dropWhile isBlank).reverse
  { s with
    env := s.env.insert name (String.ofList value)
    input := s.input.drop (line.length + 1)
    status := if line.length < s.input.length then 0 else 1 }

/-- Run a command, with its output collected. -/
def runCommand (s : Progress) (c : Command) : Progress :=
  let words := c.words.flatMap fun w => s.fields w [] none
  match words.mapM assignment?, words with
  | some assignments, _ =>
    { s with
      env := assignments.foldl (fun env a => env.insert a.1 a.2) s.env
      status := 0 }
  | none, ["read", name] => s.readLine name
  | none, ["read", "-r", name] => s.readLine name
  | none, words =>
    let deed := command s.env s.status (if c.mute then [] else s.input) words
    let (first, second) := streams c.redirects
    let part := fun (way : Option Nat) (n : Nat) (bytes : List UInt8) =>
      if way = some n then bytes else []
    let s := { s with
      input := if c.mute then s.input else deed.input
      out := s.out ++ part first 1 deed.out ++ part second 1 deed.err
      err := s.err ++ part first 2 deed.out ++ part second 2 deed.err }
    match deed.ending with
    | .code n => { s with status := n }
    | .exits n => { s with status := n, result := some n }
    | .killed => { s with status := 128, result := some 128 }

/-- Run a pipeline: every command reads what the one before it writes. -/
def runPipeline (s : Progress) : List Command → Progress
  | [] => s
  | [c] => s.runCommand c
  | c :: rest =>
    let before := s.out
    let first := { s with out := [] }.runCommand c
    { first with input := first.out, out := before, result := none }.runPipeline rest

/-- Run a script. -/
def runScript (s : Progress) : Program → Progress
  | [] => s
  | (link, commands) :: rest =>
    let due := match link with
      | .always => true
      | .ifOk => s.status = 0
      | .ifFailed => s.status ≠ 0
    if s.result.isSome then s
    else (if due then s.runPipeline commands else s).runScript rest

end Progress

/-- Run a script with arguments. -/
def runShell (script : String) (args : List String) (input : List UInt8) (env : Table String String) :
    Progress :=
  let s : Progress := ⟨env, args, 0, input, [], [], none⟩
  match Shell.parse? script with
  | some parsed => s.runScript parsed
  | none => { s with status := 2, err := bytesOf "sh: 1: Syntax error\n".toList }

/-- The name of a tool, when it can be found: by its name on the search path, or by its full path. -/
def findTool? (command : String) (env : Table String String) : Option String :=
  let homes := ["/bin", "/usr/bin", "/usr/local/bin"]
  let known := ["sh", "true", "false", "cat", "echo", "printf", "head", "wc", "sleep", "test", "env",
    "printenv"]
  let name := if command.toList.contains '/' then
      (homes.map fun h => h ++ "/").findSome? fun h =>
        (Text.after? h.toList command.toList).map String.ofList
    else
      let reachable := match env.get? "PATH" with
        | none => true
        | some path => (path.splitOn ":").any homes.contains
      if reachable then some command else none
  name.filter known.contains

/-- Run a tool. -/
def run (r : ToolRun) (env : Table String String) : Except Failure ToolResult :=
  let input := bytesOf r.input.toList
  match findTool? r.command env, r.args with
  | none, _ => .error (.service (.plain ("spawn " ++ r.command ++ " ENOENT")))
  | some "sh", "-c" :: script :: args =>
    let s := runShell script (if args.isEmpty then ["sh"] else args) input env
    .ok ⟨s.result.getD s.status, Text.Utf8.decode s.out, Text.Utf8.decode s.err⟩
  | some "sh", _ =>
    let s := runShell r.input ["sh"] [] env
    .ok ⟨s.result.getD s.status, Text.Utf8.decode s.out, Text.Utf8.decode s.err⟩
  | some name, args =>
    let deed := (plain? env input args name).getD (writes input [])
    let code := match deed.ending with
      | .code n => n
      | .exits n => n
      | .killed => 128
    .ok ⟨code, Text.Utf8.decode deed.out, Text.Utf8.decode deed.err⟩

end ServiceAccess.Rehearsal.Tool
