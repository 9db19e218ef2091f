import AnchoredMetadata.Disk.Path
import AnchoredMetadata.Text.Similarity

/-!
# Command line

The arguments of the service: a path to its settings, and flags. An option that
takes a value takes it from behind an equals sign, in its short form also from
behind its letter, or else from the next argument, unless that one is a flag.
A value given apart counts only when the next flag or the end comes, so its
faults are reported then.
-/

namespace AnchoredMetadata.Service

/-- An option or flag. -/
inductive Flag where
  /-- The path to the settings. -/
  | settings
  /-- Describe the settings. -/
  | describe
  /-- Explain the arguments. -/
  | help
  /-- Tell the version. -/
  | version
  deriving DecidableEq, Repr

namespace Flag

/-- All flags in the order of their explanation. -/
def all : List Flag := [.settings, .describe, .help, .version]

/-- The long name. -/
def name : Flag → String
  | .settings => "config"
  | .describe => "print-config"
  | .help => "help"
  | .version => "version"

/-- The short name. -/
def letter? : Flag → Option Char
  | .settings => some 'c'
  | .describe => none
  | .help => some 'h'
  | .version => some 'V'

/-- A flag as reports show it. -/
def shown (f : Flag) : String :=
  "--" ++ f.name ++ (if f = .settings then " <CONFIG>" else "")

/-- The flag with a long name. -/
def named? (name : List Char) : Option Flag := all.find? fun f => f.name.toList = name

/-- The flag with a short name. -/
def lettered? (c : Char) : Option Flag := all.find? fun f => f.letter? = some c

/-- The flag whose long name is like a word. -/
def similar? (word : List Char) : Option Flag :=
  (Text.mostSimilar? word (all.map fun f => f.name.toList)).bind named?

end Flag

/-- What a service is asked to do. -/
structure Request where
  /-- The path to the settings, if one is given. -/
  path : Option Disk.Path
  /-- Whether the settings are only described. -/
  describes : Bool
  deriving DecidableEq, Repr

/-- What is wrong with arguments. -/
inductive ArgumentError where
  /-- An argument means nothing. A flag may be like it; `seen` are those taken so far. -/
  | unexpected (argument : String) (similar : Option Flag) (seen : List Flag)
  /-- The path is missing or empty. -/
  | noValue
  /-- A flag is given again. -/
  | repeated (flag : Flag)
  /-- A flag that takes no value has one. -/
  | unexpectedValue (value : String) (flag : Flag) (seen : List Flag)
  deriving DecidableEq, Repr

/-- What arguments ask for. -/
inductive Invocation where
  /-- Run, or describe the settings. -/
  | run (request : Request)
  /-- Explain the arguments. -/
  | help
  /-- Tell the version. -/
  | version
  deriving DecidableEq, Repr

/-! ## Wording -/

/-- The name of the program. -/
def programName : String := "federation-trust-service"

/-- The text that tells the version. -/
def versionText : String := programName ++ " 0.1.0\n"

/-- How the program is called. -/
def usage (seen : List Flag) : String :=
  "Usage: " ++ programName ++
    (if seen.isEmpty then " [OPTIONS]" else String.join (seen.map fun f => " " ++ f.shown))

/-- The text that explains the arguments. -/
def helpText : String := String.join [
  usage [], "\n\n",
  "Options:\n",
  "  -c, --config <CONFIG>  Path to the TOML configuration file\n",
  "      --print-config     Print the effective configuration and exit\n",
  "  -h, --help             Print help\n",
  "  -V, --version          Print version\n"]

/-- Add a flag to those seen, unless it is among them. -/
def seeing (flag : Flag) (seen : List Flag) : List Flag :=
  if seen.contains flag then seen else seen ++ [flag]

namespace ArgumentError

/-- What is wrong, and how the program is called where that helps. -/
def parts : ArgumentError → String × Option String
  | .unexpected argument similar seen =>
    let tip := match similar with
      | some f => "\n\n  tip: a similar argument exists: '--" ++ f.name ++ "'"
      | none => ""
    ("unexpected argument '" ++ argument ++ "' found" ++ tip, some (usage seen))
  | .noValue => ("a value is required for '" ++ Flag.settings.shown ++ "' but none was supplied", none)
  | .repeated f => ("the argument '" ++ f.shown ++ "' cannot be used multiple times", some (usage []))
  | .unexpectedValue value f seen =>
    ("unexpected value '" ++ value ++ "' for '" ++ f.shown ++ "' found; no more were expected",
      some (usage seen))

/-- The text of a report. -/
def report (e : ArgumentError) : String :=
  let (what, usage) := e.parts
  "error: " ++ what ++ "\n\n" ++
    (match usage with
      | some u => u ++ "\n\n"
      | none => "") ++ "For more information, try '--help'.\n"

end ArgumentError

/-! ## Reading -/

/-- A value given apart from its option. -/
inductive Pending where
  /-- None is due. -/
  | none
  /-- The option has come. -/
  | awaited
  /-- The value has come. -/
  | given (value : String)
  deriving DecidableEq, Repr

/-- What arguments so far say. -/
structure ArgumentState where
  /-- The flags taken so far. -/
  seen : List Flag
  /-- The path to the settings. -/
  path : Option Disk.Path
  /-- The value that is due or has not been taken yet. -/
  pending : Pending
  deriving DecidableEq, Repr

/-- Why reading arguments ends before the last of them. -/
inductive Stop where
  /-- Something is wrong. -/
  | error (e : ArgumentError)
  /-- A flag asks for a text. -/
  | invocation (i : Invocation)
  deriving DecidableEq, Repr

namespace ArgumentState

/-- Before the first argument. -/
def start : ArgumentState := ⟨[], none, .none⟩

/-- Take a path. -/
def takePath (s : ArgumentState) (value : String) : ArgumentState × Option ArgumentError :=
  if s.seen.contains .settings then
    ({ s with seen := s.seen.erase .settings }, some (.repeated .settings))
  else
    let s := { s with seen := seeing .settings s.seen }
    if value.isEmpty then (s, some .noValue) else ({ s with path := some (.ofText value) }, none)

/-- Take the value that was given apart. -/
def settle (s : ArgumentState) : ArgumentState × Option ArgumentError :=
  let settled := { s with pending := .none }
  match s.pending with
  | .none => (settled, none)
  | .awaited => (settled, some .noValue)
  | .given value => settled.takePath value

/-- Go on unless something is wrong. -/
def orStop (outcome : ArgumentState × Option ArgumentError) : Except Stop ArgumentState :=
  match outcome with
  | (s, none) => .ok s
  | (_, some e) => .error (.error e)

/-- Refuse an argument. -/
def refuse (s : ArgumentState) (argument : String) (similar : Option Flag) (smart : Bool) : Stop :=
  let seen := match similar with
    | some f => seeing f s.settle.1.seen
    | none => s.settle.1.seen
  .error (.unexpected argument similar (if smart then seen else []))

/-- Take a flag without a value. -/
def takeFlag (s : ArgumentState) (flag : Flag) : Except Stop ArgumentState := do
  let s ← orStop s.settle
  match flag with
  | .help => throw (.invocation .help)
  | .version => throw (.invocation .version)
  | flag =>
    if s.seen.contains flag then throw (.error (.repeated flag))
    else return { s with seen := seeing flag s.seen }

/-- Take the option for the path, with its value if it is attached. -/
def takeOption (s : ArgumentState) (attached : Option String) : Except Stop ArgumentState := do
  let s ← orStop s.settle
  match attached with
  | some value => orStop (s.takePath value)
  | none => return { s with pending := .awaited }

/-- Take an argument in long form, without its dashes. -/
def takeLong (s : ArgumentState) (cs : List Char) : Except Stop ArgumentState :=
  let name := cs.takeWhile (· ≠ '=')
  let attached := match cs.dropWhile (· ≠ '=') with
    | [] => none
    | _ :: value => some (String.ofList value)
  match Flag.named? name with
  | none => .error (s.refuse ("--" ++ String.ofList name) (Flag.similar? name) true)
  | some .settings => s.takeOption attached
  | some flag =>
    match attached with
    | some value => .error (.error (.unexpectedValue value flag (seeing flag s.seen)))
    | none => s.takeFlag flag

/-- Take an argument in short form, without its dash. -/
def takeShort (s : ArgumentState) : List Char → Except Stop ArgumentState
  | [] => .ok s
  | c :: rest =>
    match Flag.lettered? c with
    | none => .error (s.refuse ("-" ++ c.toString) none false)
    | some .settings =>
      match rest with
      | [] => s.takeOption none
      | '=' :: value => s.takeOption (some (String.ofList value))
      | value => s.takeOption (some (String.ofList value))
    | some flag => do (← s.takeFlag flag).takeShort rest

/-- Take an argument that is no flag. -/
def takeValue (s : ArgumentState) (argument : String) : Except Stop ArgumentState :=
  match s.pending with
  | .awaited => .ok { s with pending := .given argument }
  | _ => .error (s.refuse argument none false)

/-- Take arguments one after another. After two dashes alone none may follow. -/
def takeAll (s : ArgumentState) : List String → Except Stop ArgumentState
  | [] => orStop s.settle
  | argument :: rest => do
    match argument.toList with
    | ['-', '-'] =>
      match rest with
      | [] => orStop s.settle
      | next :: _ => throw (s.refuse next none false)
    | '-' :: '-' :: cs => (← s.takeLong cs).takeAll rest
    | '-' :: c :: cs => (← s.takeShort (c :: cs)).takeAll rest
    | _ => (← s.takeValue argument).takeAll rest

end ArgumentState

/-- Read arguments. -/
def Invocation.ofArguments (arguments : List String) : Except ArgumentError Invocation :=
  match ArgumentState.start.takeAll arguments with
  | .ok s => .ok (.run ⟨s.path, s.seen.contains .describe⟩)
  | .error (.error e) => .error e
  | .error (.invocation i) => .ok i

end AnchoredMetadata.Service
