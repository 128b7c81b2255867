import GameBalance.Json.Encoding
import GameBalance.Proofs.Json.RoundTrip
import GameBalance.Proofs.Rules.Encoding

namespace GameBalance.Json

theorem integer?_ofInt (i : Int) : integer? (.ofInt i) = some i := by
  have value : Decimal.valueOf (Numeral.ofInt i).whole = i.natAbs := Decimal.valueOf_digitsOf _
  have sign : (Numeral.ofInt i).negative = decide (i < 0) := rfl
  have whole : (Numeral.ofInt i).isWhole = true := rfl
  rw [integer?, value, sign, whole]
  by_cases negative : i < 0
  · rw [if_pos ⟨rfl, fun h => by omega⟩, decide_eq_true negative, if_pos rfl,
      Int.ofNat_natAbs_of_nonpos (Int.le_of_lt negative), Int.neg_neg]
  · rw [if_pos ⟨rfl, fun h => negative (of_decide_eq_true h.1)⟩, decide_eq_false negative,
      if_neg Bool.false_ne_true, Int.natAbs_of_nonneg (Int.not_lt.1 negative)]

theorem lawful : encoding.Lawful where
  isNull_null := rfl
  isNull_ofText _ := rfl
  isNull_ofInt _ := rfl
  text?_ofText _ := rfl
  word?_ofText _ := rfl
  nat?_ofInt n := by
    change (integer? (.ofInt n)).bind Int.toNat? = some n
    rw [integer?_ofInt]
    rfl
  int?_ofInt := integer?_ofInt
  items?_ofItems _ := rfl
  members?_ofMembers fields {members} names distinct := by
    change ((members.map fun m => (some m.1, m.2)).mapM fun (m : Option String × Value) =>
      m.1.map (·, m.2)).bind (knownMembers? fields) = some members
    have keys : ((members.map fun m => (some m.1, m.2)).mapM fun (m : Option String × Value) =>
        m.1.map (·, m.2)) = some members := by
      refine mapM_map_some (fun _ => ?_) members
      rfl
    rw [keys, Option.bind_some, knownMembers?_eq names distinct]

theorem closed : encoding.Closed Writable where
  null := .null
  ofText := .string
  ofInt i := .number (Numeral.wellFormed_ofInt i)
  ofItems h := .array h
  ofMembers _ h := .object (List.forall_mem_map.2 fun _ _ => rfl) (List.forall_mem_map.2 h)

theorem writable_ofFloat (x : Float) : Writable (.ofFloat x) := by
  rw [Value.ofFloat]
  split
  · rename_i finite
    exact .number (Numeral.wellFormed_ofFloat finite)
  · exact .null

theorem read?_write_rules (r : Rules) :
    read? (write (encoding.ofRules r)) = some (encoding.ofRules r) :=
  read?_write (closed.ofRules fun x _ => writable_ofFloat x)

theorem float?_ofFloat {x : Float} (h : x.isFinite = true) :
    encoding.float? (encoding.ofFloat x) = double? (.ofFloat x) := by
  change Value.float? (Value.ofFloat x) = _
  rw [Value.ofFloat, if_pos h, Value.float?]

theorem float?_ofFloat_not_finite {x : Float} (h : x.isFinite = false) :
    encoding.float? (encoding.ofFloat x) = none := by
  change Value.float? (Value.ofFloat x) = _
  rw [Value.ofFloat, h, if_neg Bool.false_ne_true]
  rfl

end GameBalance.Json
