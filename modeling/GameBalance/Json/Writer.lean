import GameBalance.Json.Basic
import GameBalance.Text.Hex

namespace GameBalance.Json

def escaped (c : Char) : List Char :=
  if c = '"' then ['\\', '"']
  else if c = '\\' then ['\\', '\\']
  else if c = '\x08' then ['\\', 'b']
  else if c = '\x0c' then ['\\', 'f']
  else if c = '\n' then ['\\', 'n']
  else if c = '\r' then ['\\', 'r']
  else if c = '\t' then ['\\', 't']
  else if c.toNat < 0x20 then
    '\\' :: 'u' :: Text.hex 4 c.toNat
  else [c]

def quoted (s : String) : List Char :=
  '"' :: s.toList.flatMap escaped ++ ['"']

def newline (depth : Nat) : List Char :=
  '\n' :: List.replicate (2 * depth) ' '

mutual

def Value.render (depth : Nat) : Value → List Char
  | .null => "null".toList
  | .bool true => "true".toList
  | .bool false => "false".toList
  | .number n => n.text ['+']
  | .string s => quoted (s.getD "")
  | .array [] => ['[', ']']
  | .array (v :: vs) =>
    '[' :: newline (depth + 1) ++ v.render (depth + 1) ++ renderItems (depth + 1) vs ++
      newline depth ++ [']']
  | .object [] => ['\x7b', '\x7d']
  | .object ((key, v) :: members) =>
    '\x7b' :: newline (depth + 1) ++ quoted (key.getD "") ++ ':' :: ' ' :: v.render (depth + 1) ++
      renderMembers (depth + 1) members ++ newline depth ++ ['\x7d']

def renderItems (depth : Nat) : List Value → List Char
  | [] => []
  | v :: vs => ',' :: newline depth ++ v.render depth ++ renderItems depth vs

def renderMembers (depth : Nat) : List (Option String × Value) → List Char
  | [] => []
  | (key, v) :: members =>
    ',' :: newline depth ++ quoted (key.getD "") ++ ':' :: ' ' :: v.render depth ++
      renderMembers depth members

end

def write (v : Value) : String :=
  .ofList (v.render 0)

end GameBalance.Json
