import GameBalance.Text.Bytes
import GameBalance.Text.Split

namespace GameBalance.Console

inductive FileError
  | missing
  | notDirectory
  | isDirectory
  | nameTooLong
  deriving DecidableEq, Repr

def FileError.message : FileError → String
  | .missing => "No such file or directory (os error 2)"
  | .notDirectory => "Not a directory (os error 20)"
  | .isDirectory => "Is a directory (os error 21)"
  | .nameTooLong => "File name too long (os error 36)"

abbrev Files := String → Except FileError String

/--
What a path leads to. A directory is told by the steps to it; nothing is known of what is outside.
-/
inductive Place
  | file (text : String)
  | directory (steps : List (List Char))
  | outside
  deriving DecidableEq, Repr

namespace Files

def stepBound : Nat := 255

def pathBound : Nat := 4095

def placeAt? (fs : List (List (List Char) × String)) (steps : List (List Char)) : Option Place :=
  match fs.lookup steps with
  | some text => some (.file text)
  | none => if fs.any fun f => steps.isPrefixOf f.1 then some (.directory steps) else none

def enter (name : List Char) (found : Option Place) : Except FileError Place :=
  if stepBound < Text.bytes name then .error .nameTooLong else found.elim (.error .missing) .ok

/-- An empty step and `.` stay in a directory, and `..` leaves it. From a file there is no step. -/
def follow (fs : List (List (List Char) × String)) (place : Place) (step : List Char) :
    Except FileError Place :=
  match place with
  | .file _ => .error .notDirectory
  | .outside => if step ∈ [[], ['.'], ['.', '.']] then .ok .outside else enter step none
  | .directory steps =>
    if step ∈ [[], ['.']] then .ok place
    else if step = ['.', '.'] then
      .ok (if steps.isEmpty then .outside else .directory steps.dropLast)
    else enter step (placeAt? fs (steps ++ [step]))

def ofList (fs : List (String × String)) : Files := fun path =>
  let fs := fs.map fun f => (Text.pieces '/' f.1.toList, f.2)
  let start := if path.toList.head? = some '/' then .outside else .directory []
  if pathBound < Text.bytes path.toList then .error .nameTooLong
  else match (Text.pieces '/' path.toList).foldlM (follow fs) start with
    | .ok (.file text) => .ok text
    | .ok _ => .error .isDirectory
    | .error e => .error e

def hasPlace (files : Files) (path : String) : Bool :=
  match files path with
  | .ok _ | .error .isDirectory => true
  | .error _ => false

end Files
end GameBalance.Console
