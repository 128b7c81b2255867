import GameBalance.Text.WordTable

namespace GameBalance.Text

def inRanges (ranges : List (Nat × Nat)) (n : Nat) : Bool :=
  ranges.any fun (first, last) => first ≤ n && n ≤ last

def isWord (c : Char) : Bool :=
  if c.toNat < 0x80 then c.isAlphanum || c = '_' else inRanges wordRanges c.toNat

def wordAt : Option Char → Bool
  | none => false
  | some c => isWord c

def isBoundary (before after : Option Char) : Bool :=
  wordAt before != wordAt after

end GameBalance.Text
