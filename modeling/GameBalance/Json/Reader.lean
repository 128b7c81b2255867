import GameBalance.Json.Basic
import GameBalance.Decimal.Literal
import GameBalance.Text.Hex

namespace GameBalance.Json

def isSpace (c : Char) : Bool :=
  c = ' ' || c = '\t' || c = '\n' || c = '\r'

def skipSpace (cs : List Char) : List Char :=
  cs.dropWhile isSpace

def escape? : Char → Option Nat
  | '"' => some 0x22
  | '\\' => some 0x5C
  | '/' => some 0x2F
  | 'b' => some 0x08
  | 'f' => some 0x0C
  | 'n' => some 0x0A
  | 'r' => some 0x0D
  | 't' => some 0x09
  | _ => none

def stringUnits : List Char → Option (List Nat × List Char)
  | [] => none
  | '"' :: cs => some ([], cs)
  | '\\' :: 'u' :: a :: b :: c :: d :: cs => do
    let unit ← Text.numberIn? 16 [a, b, c, d]
    let (units, rest) ← stringUnits cs
    return (unit :: units, rest)
  | '\\' :: c :: cs => do
    let unit ← escape? c
    let (units, rest) ← stringUnits cs
    return (unit :: units, rest)
  | c :: cs =>
    if c.toNat < 0x20 ∨ c = '\\' then none
    else do
      let (units, rest) ← stringUnits cs
      return (c.toNat :: units, rest)

def isHighSurrogate (n : Nat) : Bool :=
  0xD800 ≤ n && n < 0xDC00

def isLowSurrogate (n : Nat) : Bool :=
  0xDC00 ≤ n && n < 0xE000

def joinPairs : List Nat → Option (List Char)
  | [] => some []
  | [n] => if isHighSurrogate n || isLowSurrogate n then none else some [.ofNat n]
  | m :: n :: ns =>
    if isHighSurrogate m then
      if isLowSurrogate n then
        (joinPairs ns).map (.ofNat (0x10000 + (m - 0xD800) * 0x400 + (n - 0xDC00)) :: ·)
      else none
    else if isLowSurrogate m then none
    else (joinPairs (n :: ns)).map (.ofNat m :: ·)

def string? (cs : List Char) : Option (Option String × List Char) :=
  (stringUnits cs).map fun (units, rest) => ((joinPairs units).map .ofList, rest)

def digits? (cs : List Char) : Option (List Char × List Char) :=
  let ds := cs.takeWhile Char.isDigit
  if ds.isEmpty then none else some (ds, cs.dropWhile Char.isDigit)

def whole? : List Char → Option (List Char × List Char)
  | '0' :: cs => some (['0'], cs)
  | cs => digits? cs

def fraction? : List Char → Option (List Char × List Char)
  | '.' :: cs => digits? cs
  | cs => some ([], cs)

def exponentDigits? : List Char → Option (Int × List Char)
  | '-' :: cs => (digits? cs).map fun (ds, rest) => (-(Decimal.valueOf ds : Int), rest)
  | '+' :: cs => (digits? cs).map fun (ds, rest) => ((Decimal.valueOf ds : Int), rest)
  | cs => (digits? cs).map fun (ds, rest) => ((Decimal.valueOf ds : Int), rest)

def exponent? : List Char → Option (Option Int × List Char)
  | [] => some (none, [])
  | c :: cs =>
    if Decimal.isExponentMark c then (exponentDigits? cs).map fun (e, rest) => (some e, rest)
    else some (none, c :: cs)

def unsigned? (negative : Bool) (cs : List Char) : Option (Value × List Char) := do
  let (whole, cs) ← whole? cs
  let (fraction, cs) ← fraction? cs
  let (exponent, cs) ← exponent? cs
  return (.number ⟨negative, whole, fraction, exponent⟩, cs)

mutual

/-- A value with white space before it. `fuel` bounds the nesting and the number of items. -/
def value? : (fuel : Nat) → List Char → Option (Value × List Char)
  | 0, _ => none
  | fuel + 1, cs =>
    match skipSpace cs with
    | 'n' :: 'u' :: 'l' :: 'l' :: cs => some (.null, cs)
    | 't' :: 'r' :: 'u' :: 'e' :: cs => some (.bool true, cs)
    | 'f' :: 'a' :: 'l' :: 's' :: 'e' :: cs => some (.bool false, cs)
    | '"' :: cs => (string? cs).map fun (s, cs) => (.string s, cs)
    | '[' :: cs =>
      match skipSpace cs with
      | ']' :: cs => some (.array [], cs)
      | cs => do
        let (v, cs) ← value? fuel cs
        let (vs, cs) ← moreItems? fuel cs
        return (.array (v :: vs), cs)
    | '\x7b' :: cs =>
      match skipSpace cs with
      | '\x7d' :: cs => some (.object [], cs)
      | cs => do
        let (m, cs) ← member? fuel cs
        let (ms, cs) ← moreMembers? fuel cs
        return (.object (m :: ms), cs)
    | '-' :: cs => unsigned? true cs
    | cs => unsigned? false cs

def moreItems? : (fuel : Nat) → List Char → Option (List Value × List Char)
  | 0, _ => none
  | fuel + 1, cs =>
    match skipSpace cs with
    | ']' :: cs => some ([], cs)
    | ',' :: cs => do
      let (v, cs) ← value? fuel cs
      let (vs, cs) ← moreItems? fuel cs
      return (v :: vs, cs)
    | _ => none

def member? : (fuel : Nat) → List Char → Option ((Option String × Value) × List Char)
  | 0, _ => none
  | fuel + 1, cs =>
    match skipSpace cs with
    | '"' :: cs => do
      let (key, cs) ← string? cs
      match skipSpace cs with
      | ':' :: cs =>
        let (v, cs) ← value? fuel cs
        return ((key, v), cs)
      | _ => none
    | _ => none

def moreMembers? : (fuel : Nat) → List Char → Option (List (Option String × Value) × List Char)
  | 0, _ => none
  | fuel + 1, cs =>
    match skipSpace cs with
    | '\x7d' :: cs => some ([], cs)
    | ',' :: cs => do
      let (m, cs) ← member? fuel cs
      let (ms, cs) ← moreMembers? fuel cs
      return (m :: ms, cs)
    | _ => none

end

/--
Each step of the reader but the opening of a member
takes a character, so that twice their number is enough.
-/
def read? (text : String) : Option Value :=
  match value? (2 * text.toList.length + 2) text.toList with
  | some (v, rest) => if (skipSpace rest).isEmpty then some v else none
  | none => none

end GameBalance.Json
