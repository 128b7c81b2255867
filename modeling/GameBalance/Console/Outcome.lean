import GameBalance.Console.Files
import GameBalance.Formula.Verdict
import GameBalance.Rules.Document

namespace GameBalance.Console

inductive Failure
  | file (error : FileError)
  | format (error : Rules.FormatError)
  | read (error : ReadError)
  | evaluation (error : Formula.EvalError)
  | invalid (message : String)

namespace Failure

def message : Failure → String
  | .file e => "IO error: " ++ e.message
  | .format e => e.message
  | .read e => e.message
  | .evaluation e => "Formula evaluation error: " ++ e.message
  | .invalid message => "Validation error: " ++ message

def cause? : Failure → Option String
  | .file e => some e.message
  | .read .yaml => some notRules
  | .read .json => some notRules
  | .evaluation e => some e.message
  | _ => none

def indented (text : String) : String :=
  .ofList (("\n".toList ++ text.toList).flatMap fun c => if c = '\n' then "\n    ".toList else [c])

def report (f : Failure) : String :=
  "Error: " ++ f.message ++
    (f.cause?.elim "" fun cause => "\n\nCaused by:" ++ indented cause) ++ "\n"

end Failure

structure Outcome where
  lines : List String
  failure : Option Failure

namespace Outcome

def success (lines : List String) : Outcome :=
  ⟨lines, none⟩

def fail (lines : List String) (f : Failure) : Outcome :=
  ⟨lines, some f⟩

def output (o : Outcome) : String :=
  String.join (o.lines.map (· ++ "\n"))

end Outcome

def shown (x : Float) : String :=
  .ofList (Decimal.brief x)

def padded (width : Nat) (text : String) : String :=
  .ofList (List.replicate (width - text.length) ' ') ++ text

def verdictLine : Formula.Verdict → String
  | .valid (some sample) => "   ✅ Valid (sample: " ++ shown sample ++ ")"
  | .valid none => "   ✅ Valid"
  | .invalid issue => "   ❌ " ++ issue.message

def readRules (files : Files) (path : String) (level : Option UInt32) : Except Failure Rules := do
  let format ← (Rules.Format.ofPath path).mapError .format
  let text ← (files path).mapError .file
  let rules ← (Rules.read format text).mapError .read
  return { rules with previewLevel := level.getD rules.previewLevel }

end GameBalance.Console
