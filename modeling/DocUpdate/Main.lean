import DocUpdate.Request

/-!
# Command line

The request is read from the file that the first argument names, or else from the file that
`DOC_UPDATE_INPUT` names, or else from standard input. The time of the update is the number
of milliseconds in `DOC_UPDATE_NOW`.
-/

namespace DocUpdate.CommandLine

/-- The file of the request, if it does not come from standard input. -/
def requestFile (args : List String) : IO (Option String) :=
  match args with
  | path :: _ => return some path
  | [] => IO.getEnv "DOC_UPDATE_INPUT"

def readAll (input : IO.FS.Stream) : IO String := do
  let mut text := ""
  let mut line ← input.getLine
  while !line.isEmpty do
    text := text ++ line
    line ← input.getLine
  return text

def readRequest (file : Option String) : IO String :=
  match file with
  | some path =>
    try IO.FS.readFile path
    catch e => throw (.userError ("failed to read request from " ++ path ++ ": " ++ toString e))
  | none => do
    try readAll (← IO.getStdin)
    catch e => throw (.userError ("failed to read request from stdin: " ++ toString e))

/-- The time of the update, the epoch if none is given. -/
def now : IO Int64 := do
  let text ← IO.getEnv "DOC_UPDATE_NOW"
  return ((text.bind fun t => signedInteger? t.toList).map Int64.ofInt).getD 0

/-- Answers one request. Faults go to standard error. -/
def run (args : List String) : IO UInt32 := do
  try
    let request ← readRequest (← requestFile args)
    match Request.answer (← now) request with
    | .ok text =>
      IO.println text
      return 0
    | .error fault =>
      IO.eprintln fault.message
      return 1
  catch e =>
    IO.eprintln (toString e)
    return 1

end DocUpdate.CommandLine

def main (args : List String) : IO UInt32 := DocUpdate.CommandLine.run args
