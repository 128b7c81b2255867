import GameBalance.Decimal.Literal
import GameBalance.Decimal.Text
import GameBalance.Text.Blank

namespace GameBalance.Formula

inductive Operator
  | plus | minus | star | slash | caret
  deriving DecidableEq, Repr

def Operator.symbol : Operator → Char
  | .plus => '+'
  | .minus => '-'
  | .star => '*'
  | .slash => '/'
  | .caret => '^'

def Operator.ofChar? : Char → Option Operator
  | '+' => some .plus
  | '-' => some .minus
  | '*' => some .star
  | '/' => some .slash
  | '^' => some .caret
  | _ => none

inductive Token
  | number (value : Float)
  | identifier (name : String)
  | operator (op : Operator)
  | openParen
  | closeParen
  | comma

def Token.describe : Token → String
  | .number x => "'" ++ String.ofList (Decimal.plain x) ++ "'"
  | .identifier name => "'" ++ name ++ "'"
  | .operator op => "'" ++ op.symbol.toString ++ "'"
  | .openParen => "'('"
  | .closeParen => "')'"
  | .comma => "','"

/-- Positions count characters. -/
inductive TokenError
  | invalidNumber (literal : String) (position : Nat)
  | unexpectedChar (found : Char) (position : Nat)
  deriving DecidableEq, Repr

def TokenError.message : TokenError → String
  | .invalidNumber literal _ => "Invalid number: " ++ literal
  | .unexpectedChar found position =>
    "Unexpected character '" ++ found.toString ++ "' at position " ++ toString position

def isNumeral (c : Char) : Bool :=
  c.isDigit || c = '.'

def isNameStart (c : Char) : Bool :=
  c.isAlpha || c = '_'

def isNamePart (c : Char) : Bool :=
  c.isAlphanum || c = '_'

def symbol? : Char → Option Token
  | '(' => some .openParen
  | ')' => some .closeParen
  | ',' => some .comma
  | c => (Operator.ofChar? c).map .operator

theorem length_dropWhile_le {α : Type _} (p : α → Bool) (xs : List α) :
    (xs.dropWhile p).length ≤ xs.length :=
  (List.dropWhile_sublist p).length_le

def tokensFrom (position : Nat) : List Char → Except TokenError (List Token)
  | [] => .ok []
  | c :: cs =>
    if Text.isBlank c then tokensFrom (position + 1) cs
    else match symbol? c with
    | some token => (tokensFrom (position + 1) cs).map (token :: ·)
    | none =>
      if isNumeral c then
        let run := c :: cs.takeWhile isNumeral
        match Decimal.numeral? run with
        | some x =>
          (tokensFrom (position + run.length) (cs.dropWhile isNumeral)).map (.number x :: ·)
        | none => .error (.invalidNumber (.ofList run) position)
      else if isNameStart c then
        let run := c :: cs.takeWhile isNamePart
        (tokensFrom (position + run.length) (cs.dropWhile isNamePart)).map
          (.identifier (.ofList run) :: ·)
      else .error (.unexpectedChar c position)
termination_by cs => cs.length
decreasing_by
  all_goals
    have := length_dropWhile_le isNumeral cs
    have := length_dropWhile_le isNamePart cs
    simp only [List.length_cons]
    omega

def tokenize (formula : String) : Except TokenError (List Token) :=
  tokensFrom 0 formula.toList

end GameBalance.Formula
