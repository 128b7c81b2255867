import GameBalance.Formula.Verdict
import GameBalance.Stat.Dependency

namespace GameBalance

namespace Stat

def ownBase (s : Stat) : Float :=
  Double.ofInt32 (s.baseValue.getD 0)

def baseAt (s : Stat) (level : UInt32) : Float :=
  Double.ofInt32 (s.baseValue.getD 10) +
    Double.ofInt32 (s.growthPerLevel.getD 0) * Double.ofUInt32 level

def resolveNext (stats : List Stat) (level : UInt32) (values : Formula.Bindings) (name : String) :
    Formula.Bindings :=
  match stats.find? (·.name = name) with
  | none => values
  | some s => match s.formula? with
    | none => values
    | some formula =>
      match Formula.evaluate formula
        ((values.set "Level" (Double.ofUInt32 level)).set "BaseValue" s.ownBase) with
      | .ok x => if x.isFinite then values.set s.name x else values
      | .error _ => values

/--
The value of every stat that has one: base stats first, then derived ones
after what they depend on. A stat is left out when its formula fails or
has no finite value, and when it is on a cycle or downstream of one.
-/
def resolveAll (stats : List Stat) (level : UInt32) : Formula.Bindings :=
  let base := (stats.filter (!·.isDerived)).map fun s => (s.name, s.baseAt level)
  let d := DependencyGraph.ofStats stats
  let order := match d.resolutionOrder with
    | .ok order => order
    | .error _ => d.acyclicOrder
  order.foldl (resolveNext stats level) (.ofList base)

def previews (stats : List Stat) (level : UInt32) : Formula.Bindings :=
  (resolveAll stats level).set "Level" (Double.ofUInt32 level)

/--
The verdict on a stat's formula among `stats`. The stat's own value is not among those it may use.
-/
def verdict (s : Stat) (stats : List Stat) (level : UInt32) : Formula.Verdict :=
  match s.formula? with
  | none => .valid none
  | some formula =>
    Formula.validate formula (stats.map name)
      (some (((previews stats level).unset s.name).set "BaseValue" s.ownBase))

def dependents (s : Stat) (stats : List Stat) : List Stat :=
  stats.filter fun t => t.formula?.any fun formula =>
    (Formula.freeNames formula).any (Text.sameIgnoringCase · s.name)

end Stat
end GameBalance
