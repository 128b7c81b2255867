import GameBalance.Text.Split

namespace GameBalance.Console

structure Setting where
  name : String
  letter : Option Char
  isSwitch : Bool
  deriving DecidableEq, Repr

inductive Argument
  | setting (name value : String)
  | operand (text : String)
  deriving DecidableEq, Repr

inductive Stop
  | help
  | version
  | misuse
  deriving DecidableEq, Repr

/--
How the reading of arguments goes on: `free` with settings or operands, `value` with the value of a
setting, `operandsOnly` after `--`, and after `stopped` not at all.
-/
inductive Mode
  | free
  | value (setting : String)
  | operandsOnly
  | stopped (stop : Stop)
  deriving DecidableEq, Repr

structure Reading where
  arguments : List Argument
  mode : Mode
  deriving DecidableEq, Repr

namespace Reading

def start : Reading :=
  ⟨[], .free⟩

def add (r : Reading) (a : Argument) : Reading :=
  { r with arguments := r.arguments ++ [a] }

def long (settings : List Setting) (r : Reading) (cs : List Char) : Reading :=
  let (name, value?) := match Text.cut? '=' cs with
    | some (name, value) => (String.ofList name, some (String.ofList value))
    | none => (String.ofList cs, none)
  match settings.find? (·.name = name), value? with
  | some s, some value =>
    if s.isSwitch then { r with mode := .stopped .misuse } else r.add (.setting s.name value)
  | some s, none =>
    if s.isSwitch then r.add (.setting s.name "") else { r with mode := .value s.name }
  | none, none => { r with mode := .stopped (if name = "help" then .help else .misuse) }
  | none, some _ => { r with mode := .stopped .misuse }

def short (settings : List Setting) (r : Reading) : List Char → Reading
  | [] => r
  | c :: cs =>
    match settings.find? (·.letter = some c) with
    | none => { r with mode := .stopped (if c = 'h' then .help else .misuse) }
    | some s =>
      if s.isSwitch then short settings (r.add (.setting s.name "")) cs
      else match cs with
        | [] => { r with mode := .value s.name }
        | '=' :: value => r.add (.setting s.name (.ofList value))
        | value => r.add (.setting s.name (.ofList value))

/--
Reads one more argument. One that begins with a hyphen is no value, unless it is the hyphen alone.
-/
def next (settings : List Setting) (r : Reading) (arg : String) : Reading :=
  match r.mode, arg.toList with
  | .stopped _, _ => r
  | .operandsOnly, _ => r.add (.operand arg)
  | .value _, '-' :: _ :: _ => { r with mode := .stopped .misuse }
  | .value name, _ => ⟨r.arguments ++ [.setting name arg], .free⟩
  | .free, ['-', '-'] => { r with mode := .operandsOnly }
  | .free, '-' :: '-' :: cs => r.long settings cs
  | .free, '-' :: c :: cs => r.short settings (c :: cs)
  | .free, _ => r.add (.operand arg)

def ofList (settings : List Setting) (args : List String) : Reading :=
  args.foldl (next settings) start

def finish (r : Reading) : Except Stop Unit :=
  match r.mode with
  | .free | .operandsOnly => .ok ()
  | .value _ => .error .misuse
  | .stopped stop => .error stop

end Reading

def operands (args : List Argument) : List String :=
  args.filterMap fun
    | .operand text => some text
    | .setting _ _ => none

def values (name : String) (args : List Argument) : List String :=
  args.filterMap fun
    | .operand _ => none
    | .setting n value => if n = name then some value else none

end GameBalance.Console
