import Dialogue.Console.Play
import Std.Time.Format

/-!
# The command line

Plays the flow at the given path with answers from the command line and from the
standard input, and writes the trace if asked to. Everything that is decided is
decided in `Dialogue.Console`; here it meets files, clock and terminal.
-/

namespace Dialogue

namespace CommandLine

/-- Writes chunks to the two outputs. -/
def write (chunks : List Console.Chunk) : IO Unit := do
  for chunk in chunks do
    match chunk with
    | .out text =>
      IO.print text
      (← IO.getStdout).flush
    | .err text => IO.eprint text

/-- The time now, as a text. -/
def now : IO String := do
  let time ← Std.Time.Timestamp.now
  return (Std.Time.DateTime.ofTimestampWithZone time .UTC).toISO8601String

/-- A new session id. -/
def newId : IO SessionId := do
  return (SessionId.ofRandom? (← IO.getRandomBytes 16).toList).getD default

/-- The variables of the environment that matter. -/
def environment : IO (String → Option String) := do
  let keys := [Settings.maxStepsKey, Settings.recordHistoryKey, Settings.recordTraceKey,
    Settings.deadEndKey]
  let bound ← keys.filterMapM fun key => do
    return (← IO.getEnv key).map fun value => (key, value)
  return fun key => List.lookup key bound

/-- Whether there is a directory at a path: reading it as a file fails in its own way. -/
def isDirectory (path : String) : IO Bool := do
  try
    discard (IO.FS.readBinFile path)
    return false
  catch
    | .inappropriateType .. => return true
    | _ => return false

/-- The content of a file. -/
def readFile (path : String) : IO FileContent := do
  try
    let bytes ← IO.FS.readBinFile path
    return .ok bytes.toList
  catch
    | .noFileOrDirectory .. => return .error .notFound
    | e => return .error (.other (toString e))

/-- Writes a trace, into a directory that is made if it does not exist. -/
def writeTrace (path : String) (t : Trace) : IO Unit := do
  let folder := String.ofList ((path.toList.reverse.dropWhile (· != '/')).drop 1).reverse
  unless folder.isEmpty do
    IO.FS.createDirAll folder
  IO.FS.writeFile path t.fileText

/-- The next typed answer; none at the end of the input. -/
def readAnswer : IO (Option Console.Input) := do
  try
    return (Console.typedInputs (← (← IO.getStdin).getLine)).head?
  catch _ => return none

/-- Plays on with the scripted answers, and then with those typed. -/
partial def play (turn : Console.Turn) (scripted : List String) : IO (Session × Nat) := do
  match turn with
  | .ended session code => return (session, code)
  | .asking session options =>
    match scripted with
    | answer :: rest => step session options (.scripted answer) rest
    | [] =>
      write [.out Console.prompt]
      match ← readAnswer with
      | some input => step session options input []
      | none =>
        write (Console.noInput.drop 1)
        return (session, 1)
where
  step (session : Session) (options : List QuestionOption) (input : Console.Input)
      (rest : List String) : IO (Session × Nat) := do
    if let .scripted _ := input then
      write [input.shown]
    let (turn, shown) := Console.answer session options (← now) input.text
    write shown
    play turn rest

/-- Runs the flow at a path; returns the exit code. -/
def run (arguments : Arguments) (flowPath : String) : IO Nat := do
  let settings := arguments.override (Settings.default.override (← environment))
  match Flow.load (← readFile flowPath) with
  | .error e =>
    write [Console.loadFailure flowPath e]
    return 1
  | .ok flow =>
    let session := Session.new settings (← newId)
    let (turn, shown) := Console.begin session (← now) flow
    write shown
    let (last, code) ← play turn arguments.answers
    if let some out := arguments.traceOut then
      let path := Console.tracePath out (← isDirectory out) last.trace
      try writeTrace path last.trace
      catch e => write [Console.traceFailure path (toString e)]
    return code

end CommandLine

end Dialogue

/-- The command line: code 0 if the session completes, 1 if it does not, 2 for a misuse. -/
def main (arguments : List String) : IO UInt32 := do
  match Dialogue.Invocation.ofArguments arguments with
  | .help =>
    IO.print Dialogue.Console.help
    return 0
  | .misuse error =>
    IO.eprintln ("error: " ++ error.message)
    return 2
  | .run a path => return (← Dialogue.CommandLine.run a path).toUInt32
