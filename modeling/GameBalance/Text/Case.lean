import GameBalance.Text.CaseTable
import GameBalance.Text.Word

namespace GameBalance.Text

def mapByRows (rows : List (Nat × Nat × Nat × Nat)) (n : Nat) : Option Nat :=
  rows.findSome? fun (first, last, step, target) =>
    if first ≤ n ∧ n ≤ last ∧ (n - first) % step = 0 then some (target + (n - first)) else none

def mapChar (rows : List (Nat × Nat × Nat × Nat)) (c : Char) : Char :=
  if c.toNat < 0x80 then c.toLower else (mapByRows rows c.toNat).elim c Char.ofNat

def fold (c : Char) : Char :=
  mapChar foldRows c

def isCased (c : Char) : Bool :=
  if c.toNat < 0x80 then c.isAlpha else inRanges casedRanges c.toNat

def isCaseIgnorable (c : Char) : Bool :=
  if c.toNat < 0x80 then "'.:^\x60".toList.contains c else inRanges caseIgnorableRanges c.toNat

def meetsCased (cs : List Char) : Bool :=
  (cs.dropWhile isCaseIgnorable).head?.any isCased

/--
Lower case of a text that follows `before`, which is
in reverse. A capital sigma that ends a word is final.
-/
def lowerAfter (before : List Char) : List Char → List Char
  | [] => []
  | c :: cs =>
    let lower :=
      if c.toNat = 0x3A3 then [if meetsCased before ∧ ¬meetsCased cs then 'ς' else 'σ']
      else if c.toNat = 0x130 then ['i', '\u0307']
      else [mapChar lowerRows c]
    lower ++ lowerAfter (c :: before) cs

def lowercase (s : String) : String :=
  String.ofList (lowerAfter [] s.toList)

def lowerAscii (s : String) : String :=
  String.ofList (s.toList.map Char.toLower)

def sameIgnoringCase (s t : String) : Bool :=
  lowerAscii s = lowerAscii t

end GameBalance.Text
