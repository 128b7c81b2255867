import GameBalance.Yaml.Basic
import GameBalance.Text.Hex

namespace GameBalance.Yaml

def spaces (n : Nat) : List Char :=
  List.replicate n ' '

def anyPair (p : Char → Char → Bool) (cs : List Char) : Bool :=
  (cs.zip cs.tail).any fun (c, d) => p c d

def spaceThenBreak (c d : Char) : Bool :=
  c = ' ' && isBreak d

def breakThenSpace (c d : Char) : Bool :=
  isBreak c && d = ' '

def isPlainStart (c : Char) (cs : List Char) : Bool :=
  !"#,[]\x7b\x7d&*!|>'\"%@\x60 ".toList.contains c && !("?:-".toList.contains c && endsWord cs)

def isPlainRest : List Char → Bool
  | [] => true
  | c :: cs => !(c = ':' && endsWord cs) && !(c = ' ' && cs.head? = some '#') && isPlainRest cs

def beginsAsMark : List Char → Bool
  | '-' :: '-' :: '-' :: _ => true
  | '.' :: '.' :: '.' :: _ => true
  | _ => false

def canBePlain : List Char → Bool
  | [] => false
  | c :: cs =>
    (c :: cs).all (fun d => isPrintable d && !isBreak d) && isPlainStart c cs && isPlainRest cs &&
      (c :: cs).getLast? ≠ some ' ' && !beginsAsMark (c :: cs)

def canBeSingleQuoted (cs : List Char) : Bool :=
  cs.all isPrintable && !anyPair spaceThenBreak cs && !anyPair breakThenSpace cs

def canBeLiteral (cs : List Char) : Bool :=
  cs.all isPrintable && !anyPair spaceThenBreak cs && cs.getLast? ≠ some ' '

def singleQuoted (indent : Nat) (afterBreak : Bool) : List Char → List Char
  | [] => (if afterBreak then spaces indent else []) ++ ['\'']
  | c :: cs =>
    if isBreak c then c :: singleQuoted indent true cs
    else (if afterBreak then spaces indent else []) ++ (if c = '\'' then ['\'', '\''] else [c]) ++
      singleQuoted indent false cs

def escaped (c : Char) : List Char :=
  let hex (width : Nat) := (Text.hex width c.toNat).map Char.toUpper
  match c with
  | '\x00' => ['\\', '0']
  | '\x07' => ['\\', 'a']
  | '\x08' => ['\\', 'b']
  | '\t' => ['\\', 't']
  | '\n' => ['\\', 'n']
  | '\x0b' => ['\\', 'v']
  | '\x0c' => ['\\', 'f']
  | '\r' => ['\\', 'r']
  | '\x1b' => ['\\', 'e']
  | '"' => ['\\', '"']
  | '\\' => ['\\', '\\']
  | '\u0085' => ['\\', 'N']
  | '\u2028' => ['\\', 'L']
  | '\u2029' => ['\\', 'P']
  | c =>
    if isPrintable c then [c]
    else if c.toNat ≤ 0xFF then '\\' :: 'x' :: hex 2
    else if c.toNat ≤ 0xFFFF then '\\' :: 'u' :: hex 4
    else '\\' :: 'U' :: hex 8

def doubleQuoted (cs : List Char) : List Char :=
  '"' :: cs.flatMap escaped ++ ['"']

def literalLines (indent : Nat) (afterBreak : Bool) : List Char → List Char
  | [] => if afterBreak then [] else ['\n']
  | c :: cs =>
    if isBreak c then c :: literalLines indent true cs
    else (if afterBreak then spaces indent else []) ++ c :: literalLines indent false cs

def chompMark (cs : List Char) : List Char :=
  match cs.reverse with
  | [] => ['-']
  | [c] => if isBreak c then ['+'] else ['-']
  | c :: d :: _ => if !isBreak c then ['-'] else if isBreak d then ['+'] else []

/-- A text that begins with white space needs its depth in the header. -/
def depthMark : List Char → List Char
  | [] => []
  | c :: _ => if c = ' ' || isBreak c then ['2'] else []

def scalarText (indent : Nat) (plain : Bool) (text : String) : List Char :=
  let cs := text.toList
  if plain then cs ++ ['\n']
  else if '\n' ∈ cs ∧ canBeLiteral cs then
    '|' :: depthMark cs ++ chompMark cs ++ '\n' :: literalLines indent true cs
  else if '\n' ∉ cs ∧ canBeSingleQuoted cs then '\'' :: singleQuoted indent false cs ++ ['\n']
  else doubleQuoted cs ++ ['\n']

mutual

def Node.render (indent : Nat) : Node → List Char
  | .scalar plain text => scalarText indent plain text
  | .sequence [] => ['[', ']', '\n']
  | .sequence (item :: items) => '-' :: ' ' :: item.render (indent + 2) ++ renderItems indent items
  | .mapping [] => ['\x7b', '\x7d', '\n']
  | .mapping ((key, v) :: entries) =>
    renderKey indent key ++ v.renderValue indent ++ renderEntries indent entries

def renderItems (indent : Nat) : List Node → List Char
  | [] => []
  | item :: items =>
    spaces indent ++ '-' :: ' ' :: item.render (indent + 2) ++ renderItems indent items

def renderEntries (indent : Nat) : List (Node × Node) → List Char
  | [] => []
  | (key, v) :: entries =>
    spaces indent ++ renderKey indent key ++ v.renderValue indent ++ renderEntries indent entries

def renderKey (indent : Nat) : Node → List Char
  | .scalar plain text => (scalarText indent plain text).dropLast ++ [':']
  | _ => [':']

def Node.renderValue (indent : Nat) : Node → List Char
  | .scalar plain text => ' ' :: scalarText (indent + 2) plain text
  | .sequence [] => [' ', '[', ']', '\n']
  | .sequence (item :: items) =>
    '\n' :: spaces indent ++ '-' :: ' ' :: item.render (indent + 2) ++ renderItems indent items
  | .mapping [] => [' ', '\x7b', '\x7d', '\n']
  | .mapping ((key, v) :: entries) =>
    '\n' :: spaces (indent + 2) ++ renderKey (indent + 2) key ++ v.renderValue (indent + 2) ++
      renderEntries (indent + 2) entries

end

def write (node : Node) : String :=
  .ofList (node.render 0)

end GameBalance.Yaml
