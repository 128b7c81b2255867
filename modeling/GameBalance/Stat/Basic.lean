import GameBalance.Text.Blank

namespace GameBalance

structure Stat where
  name : String
  description : String
  baseValue : Option Int32
  growthPerLevel : Option Int32
  minValue : Option Int32
  maxValue : Option Int32
  formula : Option String
  deriving DecidableEq, Repr

namespace Stat

def base (name : String) (value growth : Int32) : Stat :=
  ⟨name, "", some value, some growth, none, none, none⟩

def derived (name formula : String) : Stat :=
  ⟨name, "", none, none, none, none, some formula⟩

def describe (s : Stat) (description : String) : Stat :=
  { s with description }

def bound (s : Stat) (minValue maxValue : Option Int32) : Stat :=
  { s with minValue, maxValue }

def formula? (s : Stat) : Option String :=
  s.formula.filter (!Text.isBlankText ·)

def isDerived (s : Stat) : Bool :=
  s.formula?.isSome

def newBase (name : String) : Stat :=
  (base name 10 1).describe "New base stat" |>.bound (some 1) (some 999)

def newDerived (name : String) : Stat :=
  (derived name "STR + INT").describe "New derived stat" |>.bound (some 0) none

def copy (s : Stat) : Stat :=
  { s with name := s.name ++ "_Copy" }

def starters : List Stat :=
  [(base "STR" 10 2).describe "Physical strength, affects melee damage"
     |>.bound (some 1) (some 999),
   (base "VIT" 8 3).describe "Vitality, affects HP and stamina" |>.bound (some 1) (some 999),
   (base "INT" 12 2).describe "Intelligence, affects mana and magic damage"
     |>.bound (some 1) (some 999),
   (base "AGI" 10 2).describe "Agility, affects speed and evasion" |>.bound (some 1) (some 999),
   (derived "HP" "VIT * 12 + Level * 5").describe "Health Points - derived from VIT"
     |>.bound (some 1) none,
   (derived "Mana" "INT * 10 + Level * 3").describe "Magical energy - derived from INT"
     |>.bound (some 0) none,
   (derived "PhysDmg" "STR * 2 + Level").describe "Physical damage - derived from STR"
     |>.bound (some 1) none]

end Stat
end GameBalance
