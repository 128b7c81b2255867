import GameBalance.Text.Bytes
import GameBalance.Yaml.Block

/-!
Tokens of a document. Collections in block style have no brackets: their
tokens are found from the columns in which their entries stand. A key,
with the colon after it, is one token, as it has to stand on one line.
-/

namespace GameBalance.Yaml

inductive Token
  | documentStart
  | documentEnd
  | sequenceStart
  | mappingStart
  | blockEnd
  | entry
  | key (plain : Bool) (text : String)
  | scalar (plain : Bool) (text : String)
  | openBracket
  | closeBracket
  | openBrace
  | closeBrace
  | comma
  deriving DecidableEq, Repr

/--
`indents` are the columns of the open block collections, the innermost first, and `flow` the number
of open brackets. A key, or an entry of a block sequence, may begin only where `keyAllowed` says so:
at the beginning of a line or after what may have a collection within it.
-/
structure Lexer where
  rest : List Char
  column : Nat
  indents : List Nat
  flow : Nat
  keyAllowed : Bool

namespace Lexer

def ofText (cs : List Char) : Lexer :=
  ⟨cs, 0, [], 0, true⟩

def margin (l : Lexer) : Nat :=
  match l.indents with
  | [] => 0
  | i :: _ => i + 1

/--
Skips comments, line breaks and blanks. A tab does not count where it could pass for indentation.
-/
def skip (inFlow inComment keyAllowed : Bool) (column : Nat) : List Char → Bool × Nat × List Char
  | [] => (keyAllowed, column, [])
  | c :: cs =>
    if isBreak c then skip inFlow false (keyAllowed || !inFlow) 0 cs
    else if inComment || c = ' ' || (c = '\t' && (inFlow || !keyAllowed)) then
      skip inFlow inComment keyAllowed (column + 1) cs
    else if c = '#' then skip inFlow true keyAllowed (column + 1) cs
    else (keyAllowed, column, c :: cs)

def skipGap (l : Lexer) : Lexer :=
  let (keyAllowed, column, rest) := skip (0 < l.flow) false l.keyAllowed l.column l.rest
  { l with keyAllowed, column, rest }

def close (l : Lexer) : List Token × Lexer :=
  if l.flow = 0 then
    let deeper := l.indents.takeWhile (l.column < ·)
    (deeper.map fun _ => .blockEnd, { l with indents := l.indents.drop deeper.length })
  else ([], l)

def closeAll (l : Lexer) : List Token :=
  l.indents.map fun _ => .blockEnd

def openAt (l : Lexer) (start : Token) (column : Nat) : List Token × List Nat :=
  if l.flow = 0 ∧ l.margin ≤ column then ([start], column :: l.indents) else ([], l.indents)

def needsKey (l : Lexer) : Bool :=
  l.flow = 0 && l.keyAllowed && l.indents.head? = some l.column

def keyBound : Nat := 1024

def colon? (l : Lexer) (s : Scanned) : Option (Nat × List Char) :=
  let blanks := s.rest.takeWhile isBlank
  match s.rest.dropWhile isBlank with
  | ':' :: cs =>
    let tooLong : Bool := Text.bytes (':' :: cs) + keyBound < Text.bytes l.rest
    if l.keyAllowed && s.oneLine && (0 < l.flow || endsWord cs) && !tooLong then
      some (s.column + blanks.length + 1, cs)
    else none
  | _ => none

def takeScalar (l : Lexer) (plain : Bool) (s : Scanned) : Option (List Token × Lexer) :=
  let text := String.ofList s.text
  match l.colon? s with
  | some (column, rest) =>
    let (start, indents) := l.openAt .mappingStart l.column
    some (start ++ [.key plain text], { l with rest, column, indents, keyAllowed := false })
  | none =>
    if l.needsKey then none
    else
      some ([.scalar plain text],
        { l with rest := s.rest, column := s.column, keyAllowed := s.fresh })

def take (l : Lexer) (token : Token) (rest : List Char) (flow : Nat) (keyAllowed : Bool) :
    Option (List Token × Lexer) :=
  some ([token], { l with rest, column := l.column + 1, flow, keyAllowed })

def isIndicator (c : Char) : Bool :=
  isFlowIndicator c || "#&*!|>'\"%@\x60".toList.contains c

def beginsPlain (inFlow : Bool) (c : Char) (cs : List Char) : Bool :=
  if c = '-' || c = '?' then !endsWord cs
  else if c = ':' then !inFlow && !endsWord cs
  else !isIndicator c && !isBlank c

def next (l : Lexer) : Option (List Token × Lexer) :=
  match l.rest with
  | [] => none
  | c :: cs =>
    if atMark l.column (c :: cs) then
      if l.flow = 0 then
        some (l.closeAll ++ [if c = '-' then .documentStart else .documentEnd],
          { l with rest := cs.drop 2, column := 3, indents := [], keyAllowed := false })
      else none
    else if c = '[' then if l.needsKey then none else l.take .openBracket cs (l.flow + 1) true
    else if c = '\x7b' then if l.needsKey then none else l.take .openBrace cs (l.flow + 1) true
    else if isFlowIndicator c ∧ l.flow = 0 then none
    else if c = ']' then l.take .closeBracket cs (l.flow - 1) false
    else if c = '\x7d' then l.take .closeBrace cs (l.flow - 1) false
    else if c = ',' then l.take .comma cs l.flow true
    else if c = '-' ∧ endsWord cs then
      if l.flow = 0 ∧ l.keyAllowed then
        let (start, indents) := l.openAt .sequenceStart l.column
        some (start ++ [.entry],
          { l with rest := cs, column := l.column + 1, indents, keyAllowed := true })
      else none
    else if (c = '|' ∨ c = '>') ∧ l.flow = 0 then
      (blockScalar? (c = '|') l.margin cs).map fun s =>
        ([.scalar false (.ofList s.text)],
          { l with rest := s.rest, column := s.column, keyAllowed := true })
    else if c = '\'' then (singleText .none (l.column + 1) cs).bind (l.takeScalar false)
    else if c = '"' then (doubleText .none (l.column + 1) cs).bind (l.takeScalar false)
    else if beginsPlain (0 < l.flow) c cs then
      (plainText (0 < l.flow) l.margin .none l.column (c :: cs)).bind (l.takeScalar true)
    else none

/-- All tokens. Each step takes a character, so that their number bounds the steps. -/
def tokens : (fuel : Nat) → Lexer → Option (List Token)
  | 0, _ => none
  | fuel + 1, l =>
    let (ends, l) := l.skipGap.close
    if l.rest.isEmpty then if l.flow = 0 then some (ends ++ l.closeAll) else none
    else do
      let (ts, l) ← l.next
      let more ← tokens fuel l
      return ends ++ ts ++ more

end Lexer

def tokenize? (text : String) : Option (List Token) :=
  let cs := text.toList
  if cs.all isAllowed then (Lexer.ofText (normalized cs)).tokens (cs.length + 1) else none

end GameBalance.Yaml
