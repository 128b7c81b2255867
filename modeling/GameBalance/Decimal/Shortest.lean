import GameBalance.Decimal.Basic

/-!
The shortest decimal that reads back as a given double: of the fewest digits, the nearest to the
double, where a rounding `r` of quotients to natural numbers (`Double.halfUp`, `Double.halfEven`)
settles a tie. Every answer is tested by `Decimal.magnitude`, and the exact value stands in where no
test would succeed, so what is chosen always reads back.
-/

namespace GameBalance.Decimal

-- Powers are those of the core library, also where an import has another instance for them.
attribute [local instance (high)] instPowNat

def leadingPlace (num den : Nat) : Int :=
  if den ≤ num then (digitsOf (num / den)).length - 1 else -(digitsOf ((den - 1) / num)).length

/-- The two neighbours of `num / den` with last place `place`, first the one it is rounded to. -/
def neighbours (r : Nat → Nat → Nat) (num den : Nat) (place : Int) : List Decimal :=
  let n := num * 10 ^ (-place).toNat
  let d := den * 10 ^ place.toNat
  let lower : Decimal := ⟨n / d, place⟩
  let upper : Decimal := ⟨n / d + 1, place⟩
  if r n d = n / d then [lower, upper] else [upper, lower]

def trim : Nat → Decimal → Decimal
  | 0, d => d
  | n + 1, d => if d.digits % 10 = 0 then trim n ⟨d.digits / 10, d.exponent + 1⟩ else d

def exact (m : Nat) : Decimal :=
  ⟨Double.unitsOf m * 5 ^ Double.binaryPlaces, -Double.binaryPlaces⟩

/-- The shortest decimal of a positive finite magnitude. -/
def shortest (r : Nat → Nat → Nat) (m : Nat) : Decimal :=
  let n := Double.unitsOf m
  let lead := leadingPlace n Double.one
  let candidates := (List.range 17).flatMap fun (i : Nat) => neighbours r n Double.one (lead - i)
  let readsBack (d : Decimal) : Bool := d.magnitude = m
  ((candidates.map (trim 17)).find? readsBack).getD (exact m)

end GameBalance.Decimal
