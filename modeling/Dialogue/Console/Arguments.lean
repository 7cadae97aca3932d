import Dialogue.Settings

/-!
# Command line arguments

What the arguments of the command line ask for: options with values, given as
`--name value` or `--name=value`, and the path of the flow.
-/

namespace Dialogue

/-- What the command line asks for. -/
structure Arguments where
  /-- Answers to the first questions, in order. -/
  answers : List String
  /-- Where the trace goes. -/
  traceOut : Option String
  maxSteps : Option Nat
  deadEnd : Option DeadEndPolicy
  flowPath : Option String
  deriving DecidableEq, Repr

/-- Why the arguments make no sense. -/
inductive UsageError
  | unknownOption (name : String)
  | missingValue (name : String)
  | repeatedOption (name : String)
  | invalidValue (name value : String)
  | unexpectedArgument (argument : String)
  | missingPath
  deriving DecidableEq, Repr

/-- The text of a usage error. -/
def UsageError.message : UsageError → String
  | unknownOption name => "unknown option '" ++ name ++ "'"
  | missingValue name => "option '" ++ name ++ "' needs a value"
  | repeatedOption name => "option '" ++ name ++ "' is given more than once"
  | invalidValue name value => "invalid value '" ++ value ++ "' for '" ++ name ++ "'"
  | unexpectedArgument argument => "unexpected argument '" ++ argument ++ "'"
  | missingPath => "the path of a flow document is missing"

/-- What the arguments amount to. -/
inductive Invocation
  /-- To run the flow at a path. -/
  | run (arguments : Arguments) (flowPath : String)
  /-- To show the help. -/
  | help
  /-- To complain. -/
  | misuse (error : UsageError)
  deriving DecidableEq, Repr

namespace Arguments

/-- Nothing asked for yet. -/
def none : Arguments :=
  ⟨[], .none, .none, .none, .none⟩

/-- Takes the path of the flow, of which there is one. -/
def addPath (a : Arguments) (path : String) : Except UsageError Arguments :=
  if a.flowPath.isSome then .error (.unexpectedArgument path)
  else if path.isEmpty then .error (.invalidValue "path" path)
  else .ok { a with flowPath := some path }

/-- Takes an option and its value. Only answers may be given repeatedly. -/
def addOption (a : Arguments) (name value : String) : Except UsageError Arguments :=
  match name with
  | "--answer" => .ok { a with answers := a.answers ++ [value] }
  | "--trace-out" =>
    if a.traceOut.isSome then .error (.repeatedOption name)
    else if value.isEmpty then .error (.invalidValue name value)
    else .ok { a with traceOut := some value }
  | "--max-steps" =>
    if a.maxSteps.isSome then .error (.repeatedOption name)
    else match Number.count? value.toList with
      | .none => .error (.invalidValue name value)
      | some n => .ok { a with maxSteps := some n }
  | "--dead-end" =>
    if a.deadEnd.isSome then .error (.repeatedOption name)
    else match DeadEndPolicy.ofName? value with
      | .none => .error (.invalidValue name value)
      | some policy => .ok { a with deadEnd := some policy }
  | _ => .error (.unknownOption name)

/-- The options that take a value. -/
def optionNames : List String :=
  ["--answer", "--trace-out", "--max-steps", "--dead-end"]

/-- Whether an argument looks like an option. A lone hyphen does not. -/
def looksLikeOption (argument : String) : Bool :=
  match argument.toList with
  | '-' :: _ :: _ => true
  | _ => false

/-- The part of an argument before its first equals sign, and the part after it if there
is one. -/
def splitEquals (argument : String) : String × Option String :=
  let cs := argument.toList
  let name := String.ofList (cs.takeWhile (· != '='))
  match cs.dropWhile (· != '=') with
  | [] => (name, .none)
  | _ :: value => (name, some (String.ofList value))

/-- Takes the arguments after a lone `--`, none of which is an option. -/
def addPaths (a : Arguments) : List String → Except UsageError Arguments
  | [] => .ok a
  | path :: rest => do addPaths (← a.addPath path) rest

/-- Takes all arguments from left to right. The outcome is empty if the help is asked
for. -/
def addAll (a : Arguments) : List String → Except UsageError (Option Arguments)
  | [] => .ok (some a)
  | "--" :: rest => (a.addPaths rest).map some
  | argument :: rest =>
    if argument = "--help" ∨ "-h".isPrefixOf argument then
      .ok .none
    else if !looksLikeOption argument then do
      addAll (← a.addPath argument) rest
    else
      let (name, attached) := splitEquals argument
      if name ∉ optionNames then
        .error (.unknownOption name)
      else
        match attached, rest with
        | some value, rest => do addAll (← a.addOption name value) rest
        | .none, value :: rest =>
          if looksLikeOption value then .error (.missingValue name)
          else do addAll (← a.addOption name value) rest
        | .none, [] => .error (.missingValue name)

/-- Settings overridden by the options. -/
def override (a : Arguments) (s : Settings) : Settings :=
  { s with
    maxAutoSteps := a.maxSteps.getD s.maxAutoSteps
    deadEnd := a.deadEnd.getD s.deadEnd }

end Arguments

/-- What the given arguments amount to. -/
def Invocation.ofArguments (arguments : List String) : Invocation :=
  match Arguments.none.addAll arguments with
  | .error error => .misuse error
  | .ok none => .help
  | .ok (some a) =>
    match a.flowPath with
    | none => .misuse .missingPath
    | some path => .run a path

end Dialogue
