import GameBalance.Text.Case
import GameBalance.Text.Path

namespace GameBalance.Rules

inductive Format
  | yaml
  | json
  deriving DecidableEq, Repr

inductive FormatError
  | unsupported (extension path : String)
  | noExtension (path : String)
  deriving DecidableEq, Repr

def FormatError.message : FormatError → String
  | .unsupported extension path =>
    "Parse error: Unsupported rules file extension '." ++ extension ++ "' for " ++ path ++
      " (expected .yaml, .yml or .json)"
  | .noExtension path =>
    "Parse error: Rules file " ++ path ++ " has no extension (expected .yaml, .yml or .json)"

def Format.ofPath (path : String) : Except FormatError Format :=
  match Text.extension? path.toList with
  | none => .error (.noExtension path)
  | some extension => match Text.lowerAscii (.ofList extension) with
    | "yaml" | "yml" => .ok .yaml
    | "json" => .ok .json
    | other => .error (.unsupported other path)

end GameBalance.Rules
