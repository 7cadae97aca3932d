import Dialogue.Console.Arguments
import Dialogue.Flow.Document
import Dialogue.Session.Call
import Dialogue.Trace.File

/-!
# Playing a session at the console

The console shows the events of a session as lines of text, asks for an answer
whenever a question is pending, and passes the answer on
(`Dialogue.Console.answer`). Answers come from the command line first and then from
what is typed. `Dialogue.Console.play` plays a session with all its inputs given
in advance.
-/

namespace Dialogue

namespace Console

/-- A piece of text, for one of the two outputs. -/
inductive Chunk
  | out (text : String)
  | err (text : String)
  deriving DecidableEq, Repr

/-- A line for the standard output. -/
def Chunk.outLine (text : String) : Chunk :=
  .out (text ++ "\n")

/-- A line for the error output. -/
def Chunk.errLine (text : String) : Chunk :=
  .err (text ++ "\n")

/-- What is written to the standard output. -/
def outText (chunks : List Chunk) : String :=
  String.join (chunks.map fun
    | .out text => text
    | .err _ => "")

/-- What is written to the error output. -/
def errText (chunks : List Chunk) : String :=
  String.join (chunks.map fun
    | .out _ => ""
    | .err text => text)

/-! ### Showing events -/

/-- The lines that offer the options of a question, numbered from 1. -/
def optionLines (options : List QuestionOption) : List Chunk :=
  options.zipIdx.map fun (o, i) =>
    .outLine ("  " ++ toString (i + 1) ++ ". " ++ o.label)

/-- How an event is shown. -/
def display : Event → List Chunk
  | .message _ text => [.outLine text]
  | .question _ text options _ => .outLine text :: optionLines options
  | .completed values early _ =>
    [.outLine (if early then "Flow ended early (no further step)." else "Flow completed."),
      .outLine (StringMap.toJson values).pretty]
  | .aborted reason => [.errLine ("Flow aborted: " ++ reason.message)]

/-- The options of the last question among some events. -/
def lastOptions? (events : List Event) : Option (List QuestionOption) :=
  events.foldl (fun last e => match e with
    | .question _ _ options _ => some options
    | _ => last) none

/-! ### Turns -/

/-- Where a play stands: it needs an answer to a question with the given options, or it
is over and has an exit code. -/
inductive Turn
  | asking (session : Session) (options : List QuestionOption)
  | ended (session : Session) (code : Nat)

/-- The session that is played. -/
def Turn.session : Turn → Session
  | asking session _ => session
  | ended session _ => session

/-- Shows the events of a call, and finds out whether the play is over. -/
def takeEvents (session : Session) (events : List Event) : Turn × List Chunk :=
  let shown := events.flatMap display
  if events.any Event.isTerminal then
    (.ended session (if session.state = .completed then 0 else 1), shown)
  else
    match lastOptions? events with
    | some options => (.asking session options, shown)
    | none =>
      (.ended session 1, shown ++ [.errLine "Flow stopped without a question or completion"])

/-- The pending question once more, as an event. -/
def askAgain (session : Session) : List Event :=
  match session.pendingQuestion? with
  | some q =>
    [.question ((session.currentNode?.map (·.id)).getD "") q.text q.options q.variableName]
  | none => []

/-- The option that an answer picks by its number, counted from 1. -/
def numbered? (options : List QuestionOption) (answer : String) : Option QuestionOption :=
  match Number.count? (Text.trimmed answer.toList) with
  | some (n + 1) => options[n]?
  | _ => none

/-- Passes an answer on to the session: as it is if the question has no options, and
otherwise as the option that it picks by number, value or id. -/
def pass (session : Session) (options : List QuestionOption) (now answer : String) :
    Session.Outcome :=
  if options.isEmpty then
    session.submit now answer
  else
    match numbered? options answer with
    | some o => session.select now o.value
    | none => session.select now (Text.trim answer)

/-- Answers the pending question. An answer that is none of the options has the question
asked again. -/
def answer (session : Session) (options : List QuestionOption) (now input : String) :
    Turn × List Chunk :=
  match pass session options now input with
  | .ok (next, events) => takeEvents next events
  | .error (.unknownOption _ value) =>
    let (turn, shown) := takeEvents session (askAgain session)
    (turn, .errLine ("'" ++ value ++ "' is not one of the options, try again.") :: shown)
  | .error refusal => (.ended session 1, [.errLine ("Error: " ++ refusal.message)])

/-- Starts a session on a flow, whose warnings are shown first. -/
def begin (session : Session) (now : String) (flow : Flow) : Turn × List Chunk :=
  let warned := flow.warnings.map fun w => Chunk.errLine ("Warning: " ++ w.message)
  match session.start now flow with
  | .ok (next, events) =>
    let (turn, shown) := takeEvents next events
    (turn, warned ++ shown)
  | .error refusal =>
    (.ended session 1, warned ++ [.errLine ("Error starting flow: " ++ refusal.message)])

/-! ### Inputs -/

/-- An answer, from the command line or typed. -/
inductive Input
  | scripted (text : String)
  | typed (text : String)
  deriving DecidableEq, Repr

/-- The text of an answer. -/
def Input.text : Input → String
  | scripted text | typed text => text

/-- The mark that an answer is due. -/
def prompt : String :=
  "> "

/-- What is written when an answer is taken: a scripted one is shown behind the mark. -/
def Input.shown : Input → Chunk
  | scripted text => .outLine (prompt ++ text)
  | typed _ => .out prompt

/-- What is written when an answer is due but there is no more input. -/
def noInput : List Chunk :=
  [.out prompt, .errLine "No more input; session left waiting at a question."]

/-- A typed line without the carriage returns and line feeds at its end. -/
def stripLine (line : List Char) : List Char :=
  (line.reverse.dropWhile fun c => c = '\r' || c = '\n').reverse

/-- The lines of a text, each without its end; characters after the last line feed make
a line too. -/
def rawLines : List Char → List (List Char)
  | [] => []
  | c :: rest =>
    if c = '\n' then [] :: rawLines rest
    else match rawLines rest with
      | [] => [[c]]
      | line :: others => (c :: line) :: others

/-- The answers in what is typed. -/
def typedInputs (text : String) : List Input :=
  (rawLines text.toList).map fun line => .typed (String.ofList (stripLine line))

/-- Plays on until the play is over or the inputs run out: the session at the end, the
exit code, and what is written. -/
def play (now : String) : Turn → List Input → Session × Nat × List Chunk
  | .ended session code, _ => (session, code, [])
  | .asking session _, [] => (session, 1, noInput)
  | .asking session options, input :: rest =>
    let (turn, shown) := answer session options now input.text
    let (last, code, later) := play now turn rest
    (last, code, input.shown :: (shown ++ later))

/-- Plays a flow from its start with the given inputs. -/
def run (settings : Settings) (id : SessionId) (now : String) (flow : Flow)
    (inputs : List Input) : Session × Nat × List Chunk :=
  let (turn, shown) := begin (Session.new settings id) now flow
  let (last, code, later) := play now turn inputs
  (last, code, shown ++ later)

/-- What is written when the flow at a path cannot be loaded. -/
def loadFailure (path : String) (e : LoadError) : Chunk :=
  .errLine ("Error loading " ++ path ++ ": " ++ e.message)

/-- What is written when the trace cannot be written to a path. -/
def traceFailure (path reason : String) : Chunk :=
  .errLine ("Error writing trace " ++ path ++ ": " ++ reason)

/-- The path that a trace goes to: into a directory under its own name, or else to the
path as given. -/
def tracePath (path : String) (isDirectory : Bool) (t : Trace) : String :=
  if isDirectory then t.pathIn path else path

/-- The lines of the help text. -/
def helpLines : List String :=
  ["Run a conversation flow from a JSON flow document",
    "",
    "Usage: run_flow [OPTIONS] <path-to-flow-json>",
    "",
    "Arguments:",
    "  <path-to-flow-json>  Path to the flow JSON document",
    "",
    "Options:",
    "      --answer <VALUE>     Answer for the next question; repeat for each question in order",
    "      --trace-out <PATH>   Write the execution trace as JSON to this path when the session "
      ++ "ends. An existing directory gets a \x60trace-<session id>.json\x60 file",
    "      --max-steps <N>      Most nodes entered without waiting for input",
    "      --dead-end <POLICY>  What to do when no edge can be followed: complete | abort",
    "  -h, --help               Print help",
    "",
    "Environment variables (overridden by the matching flags):",
    "  " ++ Settings.maxStepsKey
      ++ "       Most nodes entered without waiting for input (default 1000).",
    "  " ++ Settings.recordHistoryKey ++ "  Keep the variable write history (true/false).",
    "  " ++ Settings.recordTraceKey ++ "    Keep the execution trace (true/false, default true).",
    "  " ++ Settings.deadEndKey ++ "        complete | abort (default complete).",
    "",
    "Examples:",
    "  run_flow flows/cv_wizard.json",
    "  run_flow --answer 25 --answer yes --trace-out run/trace.json flows/cv_wizard.json"]

/-- The help text. -/
def help : String :=
  String.join (helpLines.map (· ++ "\n"))

end Console

end Dialogue
