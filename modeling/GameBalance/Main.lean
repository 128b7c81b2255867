import GameBalance.Console.Run

open GameBalance

def fileError : IO.Error → Console.FileError
  | .inappropriateType _ 20 _ => .notDirectory
  | .inappropriateType _ 21 _ => .isDirectory
  | .invalidArgument _ 36 _ => .nameTooLong
  | _ => .missing

def readText (path : String) : IO (String × Except Console.FileError String) := do
  try
    return (path, .ok (← IO.FS.readFile path))
  catch e => return (path, .error (fileError e))

def main (args : List String) : IO UInt32 := do
  let environment ← IO.getEnv "STATFORGE_PREVIEW_LEVEL"
  let paths := match Console.Command.ofArguments environment args with
    | .ok command => command.files
    | .error _ => []
  let texts ← paths.mapM readText
  let result :=
    Console.run (fun path => (texts.lookup path).getD (.error .missing)) environment args
  (← IO.getStdout).putStr result.output
  (← IO.getStderr).putStr result.errors
  return result.exitCode
