import GameBalance.Console.Arguments
import GameBalance.Curve.Basic
import GameBalance.Formula.Assignment

namespace GameBalance.Console

structure CurveChange where
  kind : Option CurveKind
  baseXp : Option Float
  multiplier : Option Float
  expBase : Option Float
  formula : Option String

inductive Command
  | check (formula : String) (known : List String) (values : List (String × Float))
  | eval (formula : String) (values : List (String × Float))
  | functions
  | validate (files : List String) (level : Option UInt32)
  | curve (file : Option String) (change : CurveChange) (maxLevel : UInt32)
  | audit (file stat : String) (level : Option UInt32)
  | watch (file : String) (level : Option UInt32)

namespace Command

def knownSetting : Setting := ⟨"known", some 'k', false⟩
def valueSetting : Setting := ⟨"set", some 's', false⟩
def levelSetting : Setting := ⟨"level", some 'l', false⟩
def kindSetting : Setting := ⟨"kind", none, false⟩
def baseXpSetting : Setting := ⟨"base-xp", none, false⟩
def multiplierSetting : Setting := ⟨"multiplier", none, false⟩
def expBaseSetting : Setting := ⟨"exp-base", none, false⟩
def formulaSetting : Setting := ⟨"formula", none, false⟩
def maxLevelSetting : Setting := ⟨"max-level", some 'm', false⟩
def verboseSetting : Setting := ⟨"verbose", some 'v', true⟩

def defaultMaxLevel : UInt32 := 20

def misuse {α : Type} : Except Stop α :=
  .error .misuse

def need {α : Type} : Option α → Except Stop α
  | some x => .ok x
  | none => misuse

def once? (s : Setting) (args : List Argument) : Except Stop (Option String) :=
  match values s.name args with
  | [] => .ok none
  | [value] => .ok (some value)
  | _ => misuse

def level? (text : String) : Option UInt32 :=
  (Decimal.integer? text.toList).bind fun i =>
    if 0 ≤ i ∧ i < UInt32.size then some (.ofNat i.toNat) else none

def number? (text : String) : Option Float :=
  Decimal.number? text.toList

def read? {α : Type} (s : Setting) (read : String → Option α) (args : List Argument) :
    Except Stop (Option α) := do
  match ← once? s args with
  | none => return none
  | some value => return some (← need (read value))

def readLevel (args : List Argument) : Except Stop (Option UInt32) :=
  read? levelSetting level? args

def orEnvironment (environment : Option String) : Option UInt32 → Except Stop (Option UInt32)
  | some level => .ok (some level)
  | none => environment.mapM fun text => need (level? text)

def readValues (args : List Argument) : Except Stop (List (String × Float)) :=
  (values valueSetting.name args).mapM fun text => need (Formula.readAssignment text).toOption

def readNames (args : List Argument) : List String :=
  (values knownSetting.name args).flatMap fun text =>
    (Text.pieces ',' text.toList).map String.ofList

def readOperands (most : Nat) (args : List Argument) : Except Stop (List String) :=
  if most < (operands args).length then misuse else .ok (operands args)

def checkFiles (paths : List String) : Except Stop Unit :=
  if paths.any String.isEmpty then misuse else .ok ()

def ofCheck (args : List String) : Except Stop Command := do
  let reading := Reading.ofList [knownSetting, valueSetting] args
  let values ← readValues reading.arguments
  let formulas ← readOperands 1 reading.arguments
  reading.finish
  match formulas with
  | [formula] => return .check formula (readNames reading.arguments) values
  | _ => misuse

def ofEval (args : List String) : Except Stop Command := do
  let reading := Reading.ofList [valueSetting] args
  let values ← readValues reading.arguments
  let formulas ← readOperands 1 reading.arguments
  reading.finish
  match formulas with
  | [formula] => return .eval formula values
  | _ => misuse

def ofFunctions (args : List String) : Except Stop Command := do
  let reading := Reading.ofList [] args
  let _ ← readOperands 0 reading.arguments
  reading.finish
  return .functions

def ofValidate (environment : Option String) (args : List String) : Except Stop Command := do
  let reading := Reading.ofList [levelSetting] args
  let level ← readLevel reading.arguments
  let files := operands reading.arguments
  checkFiles files
  reading.finish
  if files.isEmpty then misuse
  return .validate files (← orEnvironment environment level)

def readChange (args : List Argument) : Except Stop CurveChange := do
  return {
    kind := ← read? kindSetting CurveKind.ofName? args
    baseXp := ← read? baseXpSetting number? args
    multiplier := ← read? multiplierSetting number? args
    expBase := ← read? expBaseSetting number? args
    formula := ← once? formulaSetting args }

def ofCurve (args : List String) : Except Stop Command := do
  let reading := Reading.ofList
    [kindSetting, baseXpSetting, multiplierSetting, expBaseSetting, formulaSetting, maxLevelSetting]
    args
  let change ← readChange reading.arguments
  let maxLevel ← read? maxLevelSetting level? reading.arguments
  let files ← readOperands 1 reading.arguments
  checkFiles files
  reading.finish
  return .curve files.head? change (maxLevel.getD defaultMaxLevel)

def ofAudit (environment : Option String) (args : List String) : Except Stop Command := do
  let reading := Reading.ofList [levelSetting] args
  let level ← readLevel reading.arguments
  let texts ← readOperands 2 reading.arguments
  checkFiles (texts.take 1)
  reading.finish
  match texts with
  | [file, stat] => return .audit file stat (← orEnvironment environment level)
  | _ => misuse

def ofWatch (environment : Option String) (args : List String) : Except Stop Command := do
  let reading := Reading.ofList [levelSetting, verboseSetting] args
  let level ← readLevel reading.arguments
  let _ ← once? verboseSetting reading.arguments
  let files ← readOperands 1 reading.arguments
  checkFiles files
  reading.finish
  match files with
  | [file] => return .watch file (← orEnvironment environment level)
  | _ => misuse

def named? (environment : Option String) : String → Option (List String → Except Stop Command)
  | "check" => some ofCheck
  | "eval" => some ofEval
  | "functions" => some ofFunctions
  | "validate" => some (ofValidate environment)
  | "curve" => some ofCurve
  | "audit" => some (ofAudit environment)
  | "watch" => some (ofWatch environment)
  | _ => none

def ofHelp (environment : Option String) : List String → Stop
  | [] => .help
  | [name] => if name = "help" ∨ (named? environment name).isSome then .help else .misuse
  | _ => .misuse

def ofArguments (environment : Option String) : List String → Except Stop Command
  | [] => misuse
  | name :: args =>
    match named? environment name with
    | some read => read args
    | none =>
      if name = "help" then .error (ofHelp environment args)
      else if name = "--version" then .error .version
      else if name = "--help" then .error .help
      else match name.toList with
        | '-' :: 'V' :: _ => .error .version
        | '-' :: 'h' :: _ => .error .help
        | _ => misuse

def files : Command → List String
  | .validate files _ => files
  | .curve (some file) _ _ => [file]
  | .audit file _ _ => [file]
  | .watch file _ => [file]
  | _ => []

end Command
end GameBalance.Console
