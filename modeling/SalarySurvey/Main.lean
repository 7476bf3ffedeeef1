import SalarySurvey.Command

/-!
# The program

Runs the command in the surroundings of the process. Requests come line by line from the standard
input, each with a method and a target; the end of the input is the signal to stop.
-/
namespace SalarySurvey

/-- What a path leads to, by the error that reading it gives. -/
def entryOfError : IO.Error → Except FileError FileEntry
  | .noFileOrDirectory .. => .error .notFound
  | .inappropriateType _ 21 _ => .ok .folder
  | .inappropriateType .. => .error .notFolder
  | error => .error (.other (toString error))

/-- What a path of the file system leads to. -/
def openFile (path : String) : IO (Except FileError FileEntry) := do
  if path.toList.contains '\x00' then return .error .nulInPath
  try
    return .ok (.file (← IO.FS.readBinFile path).toList)
  catch error => return entryOfError error

/-- The surroundings of the process. -/
def processSurroundings : IO (Command.Surroundings IO) := do
  let home ← IO.getEnv "HOME"
  let userFolder ← IO.getEnv "XDG_CONFIG_HOME"
  return {
    userFolder := userFolder.or (home.map (· ++ "/.config"))
    datasetPath := ← IO.getEnv "COMPENSATION_DATASET_PATH"
    filter := ← IO.getEnv "RUST_LOG"
    openFile
    listen := fun _ => return .ok () }

/-- The time on the clock of the process, in milliseconds. -/
def clock : IO String := do
  return toString (← IO.monoMsNow)

/-- Prints the remarks about the filter. -/
def printRemarks (display : Command.Display) : IO Unit := do
  for remark in display.remarks do
    IO.eprintln remark

/-- Prints the events of a journal that are shown. -/
def printEvents (display : Command.Display) (journal : Journal) : IO Unit := do
  let time ← clock
  for line in display.lines time journal do
    IO.println line

/-- Prints a response. -/
def printResponse (response : Web.Response) : IO Unit := do
  IO.println (toString response.status)
  for (name, value) in response.headers do
    IO.println (name ++ ": " ++ value)
  IO.println ""
  IO.println response.body

/-- Answers the requests of the standard input. -/
partial def serve (service : Web.Service) (display : Command.Display) (input : IO.FS.Stream)
    (began : Nat) : IO Unit := do
  let line ← input.getLine
  if line.isEmpty then return
  match Text.pieces ' ' (Text.trim line) with
  | [method, target] =>
    match Web.Request.ofParts? method target [] with
    | some request =>
      let uptime := ((← IO.monoMsNow) - began) / 1000
      let (response, events) := service.respond uptime request
      printEvents display events
      printResponse response
    | none => IO.println "400"
  | _ => IO.println "400"
  serve service display input began

/-- Runs the program to its end and returns the exit code. -/
def runProgram (arguments : List String) : IO UInt32 := do
  match ← Command.run (← processSurroundings) arguments with
  | .printed text =>
    IO.print text
    return 0
  | .misused =>
    IO.eprintln "error: the arguments are at fault, try --help"
    return 2
  | .failed error display journal =>
    printRemarks display
    printEvents display journal
    IO.eprint error.report
    return 1
  | .brokeOff display journal =>
    printRemarks display
    printEvents display journal
    IO.eprintln "the star cannot be an allowed origin, and no directive may be cut in a character"
    return 101
  | .serving service display journal =>
    printRemarks display
    printEvents display journal
    serve service display (← IO.getStdin) (← IO.monoMsNow)
    printEvents display Command.stopEvents
    return 0

end SalarySurvey

def main (arguments : List String) : IO UInt32 :=
  SalarySurvey.runProgram arguments
