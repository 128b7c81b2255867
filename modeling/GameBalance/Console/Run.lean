import GameBalance.Console.Audit
import GameBalance.Console.CurveTable
import GameBalance.Console.Formulas

namespace GameBalance.Console

def watch (files : Files) (path : String) (level : Option UInt32) : Outcome :=
  let heading :=
    ["👁️  Statforge - Watch Mode", "   Watching: " ++ path, "   Press Ctrl+C to stop", ""]
  if !files.hasPlace path then .fail heading (.invalid ("File not found: " ++ path))
  else
    let failed (f : Failure) := "❌ Validation failed: " ++ f.message
    let line := match readRules files path level with
      | .error f => failed f
      | .ok rules => match rules.report.errors with
        | [] => "✅ Validation passed"
        | errors => failed (.invalid
            (nat errors.length ++ " formula errors:\n  " ++ "\n  ".intercalate errors))
    .success (heading ++ ["🔄 Initial run...", line, ""])

def Command.run (files : Files) : Command → Outcome
  | .check formula known values => Console.check formula known values
  | .eval formula values => Console.eval formula values
  | .functions => Console.functions
  | .validate paths level => Console.validate files paths level
  | .curve file change maxLevel => Console.curve files file change maxLevel
  | .audit path stat level => Console.audit files path stat level
  | .watch path level => Console.watch files path level

structure Result where
  exitCode : UInt32
  output : String
  errors : String
  deriving DecidableEq, Repr

def usage : String :=
  "Usage: statforge <check|eval|functions|validate|curve|audit|watch> [ARGUMENTS]\n"

def Stop.result : Stop → Result
  | .help => ⟨0, usage, ""⟩
  | .version => ⟨0, "statforge 1.0.0\n", ""⟩
  | .misuse => ⟨2, "", "error: the arguments were not understood\n\n" ++ usage⟩

def Outcome.result (o : Outcome) : Result :=
  ⟨if o.failure.isSome then 1 else 0, o.output, o.failure.elim "" Failure.report⟩

/-- What the program does. `environment` is the sample level set outside the arguments. -/
def run (files : Files) (environment : Option String) (args : List String) : Result :=
  match Command.ofArguments environment args with
  | .ok command => (command.run files).result
  | .error stop => stop.result

end GameBalance.Console
