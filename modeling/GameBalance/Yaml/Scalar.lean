import GameBalance.Text.Hex
import GameBalance.Yaml.Basic

namespace GameBalance.Yaml

/--
A scalar that has been read and the place after it. `oneLine` says that no line ends within what was
read, `fresh` that white space with a line break comes last in it.
-/
structure Scanned where
  text : List Char
  rest : List Char
  column : Nat
  oneLine : Bool
  fresh : Bool

def Scanned.prepend (s : Scanned) (cs : List Char) (oneLine : Bool) : Scanned :=
  { s with text := cs ++ s.text, oneLine := s.oneLine && oneLine }

/--
White space within a scalar: none, blanks within a line,
line breaks, or line breaks of which one is escaped.
-/
inductive Gap
  | none
  | blanks (cs : List Char)
  | breaks (cs : List Char)
  | joined (cs : List Char)
  deriving DecidableEq

namespace Gap

def folded : List Char → List Char
  | ['\n'] => [' ']
  | '\n' :: more => more
  | cs => cs

def text : Gap → List Char
  | none => []
  | blanks cs => cs
  | breaks cs => folded cs
  | joined cs => cs

def isBroken : Gap → Bool
  | breaks _ => true
  | joined _ => true
  | _ => false

def addBlank (c : Char) : Gap → Gap
  | none => blanks [c]
  | blanks cs => blanks (cs ++ [c])
  | g => g

def addBreak (c : Char) : Gap → Gap
  | breaks cs => breaks (cs ++ [c])
  | joined cs => joined (cs ++ [c])
  | _ => breaks [c]

end Gap

def isFlowIndicator (c : Char) : Bool :=
  c = ',' || c = '[' || c = ']' || c = '\x7b' || c = '\x7d'

def endsPlain (inFlow : Bool) (c : Char) (cs : List Char) : Bool :=
  (c = ':' && endsWord cs) || (inFlow && isFlowIndicator c)

/-- Whether a colon within flow style is neither the end of a key nor part of a text. -/
def strayColon (inFlow : Bool) (c : Char) (cs : List Char) : Bool :=
  inFlow && c = ':' && cs.head?.any fun d => isFlowIndicator d || d = '?'

def endsLine (inFlow : Bool) (margin column : Nat) (c : Char) (cs : List Char) : Bool :=
  c = '#' || (!inFlow && column < margin) || atMark column (c :: cs)

def plainText (inFlow : Bool) (margin : Nat) (gap : Gap) (column : Nat) : List Char → Option Scanned
  | [] => some ⟨[], [], column, !gap.isBroken, gap.isBroken⟩
  | c :: cs =>
    if isBlank c then
      if gap.isBroken && column < margin && c = '\t' then none
      else plainText inFlow margin (gap.addBlank c) (column + 1) cs
    else if isBreak c then plainText inFlow margin (gap.addBreak c) 0 cs
    else if gap ≠ .none && endsLine inFlow margin column c cs || endsPlain inFlow c cs then
      some ⟨[], c :: cs, column, !gap.isBroken, gap.isBroken⟩
    else if strayColon inFlow c cs then none
    else (plainText inFlow margin .none (column + 1) cs).map
      (·.prepend (gap.text ++ [c]) !gap.isBroken)

def singleText (gap : Gap) (column : Nat) : List Char → Option Scanned
  | [] => none
  | '\'' :: '\'' :: cs =>
    (singleText .none (column + 2) cs).map (·.prepend (gap.text ++ ['\'']) !gap.isBroken)
  | '\'' :: cs => some ⟨gap.text, cs, column + 1, !gap.isBroken, false⟩
  | c :: cs =>
    if isBlank c then singleText (gap.addBlank c) (column + 1) cs
    else if isBreak c then singleText (gap.addBreak c) 0 cs
    else if atMark column (c :: cs) then none
    else (singleText .none (column + 1) cs).map (·.prepend (gap.text ++ [c]) !gap.isBroken)

def escape? : Char → Option Char
  | '0' => some '\x00'
  | 'a' => some '\x07'
  | 'b' => some '\x08'
  | 't' => some '\t'
  | '\t' => some '\t'
  | 'n' => some '\n'
  | 'v' => some '\x0b'
  | 'f' => some '\x0c'
  | 'r' => some '\r'
  | 'e' => some '\x1b'
  | ' ' => some ' '
  | '"' => some '"'
  | '/' => some '/'
  | '\\' => some '\\'
  | 'N' => some '\u0085'
  | '_' => some '\u00a0'
  | 'L' => some '\u2028'
  | 'P' => some '\u2029'
  | _ => none

def hexChar? (ds : List Char) : Option Char :=
  (Text.numberIn? 16 ds).bind fun n => if n.isValidChar then some (.ofNat n) else none

def doubleText (gap : Gap) (column : Nat) : List Char → Option Scanned
  | [] => none
  | '"' :: cs => some ⟨gap.text, cs, column + 1, !gap.isBroken, false⟩
  | '\\' :: 'x' :: a :: b :: cs =>
    (hexChar? [a, b]).bind fun c =>
      (doubleText .none (column + 4) cs).map (·.prepend (gap.text ++ [c]) !gap.isBroken)
  | '\\' :: 'u' :: a :: b :: c :: d :: cs =>
    (hexChar? [a, b, c, d]).bind fun c =>
      (doubleText .none (column + 6) cs).map (·.prepend (gap.text ++ [c]) !gap.isBroken)
  | '\\' :: 'U' :: a :: b :: c :: d :: e :: f :: g :: h :: cs =>
    (hexChar? [a, b, c, d, e, f, g, h]).bind fun c =>
      (doubleText .none (column + 10) cs).map (·.prepend (gap.text ++ [c]) !gap.isBroken)
  | '\\' :: c :: cs =>
    if isBreak c then (doubleText (.joined []) 0 cs).map (·.prepend gap.text false)
    else (escape? c).bind fun c =>
      (doubleText .none (column + 2) cs).map (·.prepend (gap.text ++ [c]) !gap.isBroken)
  | c :: cs =>
    if isBlank c then doubleText (gap.addBlank c) (column + 1) cs
    else if isBreak c then doubleText (gap.addBreak c) 0 cs
    else if c = '\\' || atMark column (c :: cs) then none
    else (doubleText .none (column + 1) cs).map (·.prepend (gap.text ++ [c]) !gap.isBroken)

end GameBalance.Yaml
