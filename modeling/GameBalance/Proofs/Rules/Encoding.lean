import GameBalance.Rules.Encoding
import Mathlib.Data.List.Basic

namespace GameBalance

def Curve.mapFloats? (f : Float → Option Float) (c : Curve) : Option Curve := do
  return { c with
    baseXp := ← f c.baseXp
    linearMultiplier := ← f c.linearMultiplier
    exponentialBase := ← f c.exponentialBase }

def Curve.floats (c : Curve) : List Float :=
  [c.baseXp, c.linearMultiplier, c.exponentialBase]

theorem Curve.mapFloats?_eq_some_self {f : Float → Option Float} {c : Curve} :
    c.mapFloats? f = some c ↔ ∀ x ∈ c.floats, f x = some x := by
  obtain ⟨kind, base, multiplier, exponential, formula⟩ := c
  simp [mapFloats?, floats, Option.bind_eq_some_iff]

theorem Curve.mapFloats?_eq_none {f : Float → Option Float} {c : Curve}
    (h : ∃ x ∈ c.floats, f x = none) :
    c.mapFloats? f = none := by
  obtain ⟨x, hx, none⟩ := h
  simp only [floats, List.mem_cons, List.not_mem_nil, or_false] at hx
  obtain rfl | rfl | rfl := hx
  all_goals simp [mapFloats?, none]

theorem Curve.mapFloats?_eq_some {f : Float → Option Float} {c c' : Curve}
    (h : c.mapFloats? f = some c') :
    c' = { c with
      baseXp := c'.baseXp
      linearMultiplier := c'.linearMultiplier
      exponentialBase := c'.exponentialBase } := by
  simp only [mapFloats?, Option.bind_eq_bind, Option.bind_eq_some_iff, Option.pure_def,
    Option.some.injEq] at h
  obtain ⟨_, -, _, -, _, -, rfl⟩ := h
  rfl

theorem SkillType.ofWord?_word (t : SkillType) : ofWord? t.word = some t := by
  cases t <;> rfl

theorem CurveKind.ofWord?_word (k : CurveKind) : ofWord? k.word = some k := by
  cases k <;> rfl

theorem mapM_map_some {α β : Type} {read : β → Option α} {write : α → β}
    (back : ∀ x, read (write x) = some x) (xs : List α) : (xs.map write).mapM read = some xs := by
  have back' : read ∘ write = some := funext back
  rw [List.mapM_map, back']
  exact List.mapM_pure (m := Option) (f := id) |>.trans (congrArg some xs.map_id)

theorem knownMembers?_eq {V : Type} {fields : List String} {members : List (String × V)}
    (names : members.map Prod.fst = fields) (distinct : fields.Nodup) :
    knownMembers? fields members = some members := by
  have known : members.filter (fun m => fields.contains m.1) = members := by
    refine List.filter_eq_self.2 fun m hm => ?_
    rw [← names, List.contains_iff_mem]
    exact List.mem_map_of_mem hm
  rw [knownMembers?, known, names, if_pos distinct]

namespace Encoding

variable {V : Type} {e : Encoding V}

theorem member?_cons {α : Type} (key : String) (v : V) (members : List (String × V)) (name : String)
    (read : V → Option α) (default : α) : member? ((key, v) :: members) name read default =
      if name = key then read v else member? members name read default := by
  by_cases same : name = key
  · subst same
    rw [member?, List.lookup_cons_self, if_pos rfl]
  · rw [member?, List.lookup_cons, beq_false_of_ne same, if_neg same]
    rfl

theorem needed?_cons {α : Type} (key : String) (v : V) (members : List (String × V)) (name : String)
    (read : V → Option α) : needed? ((key, v) :: members) name read =
      if name = key then read v else needed? members name read := by
  by_cases same : name = key
  · subst same
    rw [needed?, List.lookup_cons_self, if_pos rfl, Option.bind_some]
  · rw [needed?, List.lookup_cons, beq_false_of_ne same, if_neg same]
    rfl

/-- What is written is read, doubles apart. -/
structure Lawful (e : Encoding V) : Prop where
  isNull_null : e.isNull e.null = true
  isNull_ofText (s : String) : e.isNull (e.ofText s) = false
  isNull_ofInt (i : Int) : e.isNull (e.ofInt i) = false
  text?_ofText (s : String) : e.text? (e.ofText s) = some s
  word?_ofText (s : String) : e.word? (e.ofText s) = some s
  nat?_ofInt (n : Nat) : e.nat? (e.ofInt n) = some n
  int?_ofInt (i : Int) : e.int? (e.ofInt i) = some i
  items?_ofItems (items : List V) : e.items? (e.ofItems items) = some items
  members?_ofMembers (fields : List String) {members : List (String × V)}
      (names : members.map Prod.fst = fields)
    (distinct : fields.Nodup) : e.members? fields (e.ofMembers members) = some members

namespace Lawful

variable (h : e.Lawful)
include h

theorem int32?_ofInt32 (i : Int32) : e.int32? (e.ofInt32 i) = some i := by
  have upper := i.toInt_le
  have lower := i.minValue_le_toInt
  rw [int32?, ofInt32, h.int?_ofInt, Option.bind_some, if_pos ⟨lower, upper⟩, Int32.ofInt_toInt]

theorem uint32?_ofUInt32 (n : UInt32) : e.uint32? (e.ofUInt32 n) = some n := by
  rw [uint32?, ofUInt32, h.nat?_ofInt, Option.bind_some, if_pos n.toNat_lt, UInt32.ofNat_toNat]

theorem option?_ofOption {α : Type} {read : V → Option α} {write : α → V}
    (back : ∀ x, read (write x) = some x)
    (notNull : ∀ x, e.isNull (write x) = false) (o : Option α) :
    e.option? read (e.ofOption write o) = some o := by
  cases o with
  | none => rw [option?, ofOption, h.isNull_null, if_pos rfl]
  | some x => rw [option?, ofOption, notNull, if_neg Bool.false_ne_true, back, Option.map_some]

theorem option?_ofOption_text (o : Option String) :
    e.option? e.text? (e.ofOption e.ofText o) = some o :=
  h.option?_ofOption h.text?_ofText h.isNull_ofText o

theorem option?_ofOption_int32 (o : Option Int32) :
    e.option? e.int32? (e.ofOption e.ofInt32 o) = some o :=
  h.option?_ofOption h.int32?_ofInt32 (fun i => h.isNull_ofInt i.toInt) o

theorem list?_ofItems {α : Type} {read : V → Option α} {write : α → V}
    (back : ∀ x, read (write x) = some x)
    (xs : List α) : e.list? read (e.ofItems (xs.map write)) = some xs := by
  rw [list?, h.items?_ofItems, Option.bind_some, mapM_map_some back]

theorem stat?_ofStat (s : Stat) : e.stat? (e.ofStat s) = some s := by
  rw [stat?, ofStat, h.members?_ofMembers statFields rfl (by decide)]
  simp [needed?_cons, member?_cons, h.text?_ofText, h.option?_ofOption_text,
    h.option?_ofOption_int32]

theorem skill?_ofSkill (s : Skill) : e.skill? (e.ofSkill s) = some s := by
  rw [skill?, ofSkill, h.members?_ofMembers skillFields rfl (by decide)]
  simp [needed?_cons, member?_cons, h.text?_ofText, h.option?_ofOption_text, h.word?_ofText,
    h.uint32?_ofUInt32, SkillType.ofWord?_word]

theorem levelUp?_ofLevelUp (l : LevelUp) : e.levelUp? (e.ofLevelUp l) = some l := by
  rw [levelUp?, ofLevelUp, h.members?_ofMembers levelUpFields rfl (by decide)]
  simp [member?_cons, h.text?_ofText, h.uint32?_ofUInt32]

theorem curve?_ofCurve (c : Curve) :
    e.curve? (e.ofCurve c) = c.mapFloats? fun x => e.float? (e.ofFloat x) := by
  rw [curve?, ofCurve, h.members?_ofMembers curveFields rfl (by decide)]
  simp [member?_cons, h.text?_ofText, h.word?_ofText, CurveKind.ofWord?_word, Curve.mapFloats?]

theorem rules?_ofRules (r : Rules) : e.rules? (e.ofRules r) =
    (r.curve.mapFloats? fun x => e.float? (e.ofFloat x)).map fun c => { r with curve := c } := by
  rw [rules?, ofRules, h.members?_ofMembers rulesFields rfl (by decide), Option.map_eq_bind]
  change _ = Option.bind _ fun c => some { r with curve := c }
  simp [member?_cons, h.list?_ofItems h.stat?_ofStat, h.list?_ofItems h.skill?_ofSkill,
    h.curve?_ofCurve, h.levelUp?_ofLevelUp, h.uint32?_ofUInt32]

theorem rules?_ofRules_eq_self (r : Rules) :
    e.rules? (e.ofRules r) = some r ↔ ∀ x ∈ r.curve.floats, e.float? (e.ofFloat x) = some x := by
  rw [h.rules?_ofRules, ← Curve.mapFloats?_eq_some_self]
  cases r
  simp [Option.map_eq_some_iff]

end Lawful

def records : List (List String) :=
  [statFields, skillFields, curveFields, levelUpFields, rulesFields]

/-- A property of all values that are written for something else than a double. -/
structure Closed (e : Encoding V) (P : V → Prop) : Prop where
  null : P e.null
  ofText (s : String) : P (e.ofText s)
  ofInt (i : Int) : P (e.ofInt i)
  ofItems {items : List V} (h : ∀ v ∈ items, P v) : P (e.ofItems items)
  ofMembers {members : List (String × V)} (known : members.map Prod.fst ∈ records)
      (h : ∀ m ∈ members, P m.2) :
    P (e.ofMembers members)

namespace Closed

variable {P : V → Prop} (h : e.Closed P)
include h

theorem ofOption {α : Type} {write : α → V} (hw : ∀ x, P (write x)) (o : Option α) :
    P (e.ofOption write o) := by
  cases o with
  | none => exact h.null
  | some x => exact hw x

theorem ofStat (s : Stat) : P (e.ofStat s) := by
  have int32 : ∀ o, P (e.ofOption e.ofInt32 o) := h.ofOption fun i => h.ofInt i.toInt
  refine h.ofMembers (List.mem_of_getElem? (i := 0) rfl) ?_
  simp only [List.forall_mem_cons]
  exact ⟨h.ofText _, h.ofText _, int32 _, int32 _, int32 _, int32 _, h.ofOption h.ofText _, by simp⟩

theorem ofSkill (s : Skill) : P (e.ofSkill s) := by
  have texts : ∀ o, P (e.ofOption e.ofText o) := h.ofOption h.ofText
  refine h.ofMembers (List.mem_of_getElem? (i := 1) rfl) ?_
  simp only [List.forall_mem_cons]
  exact ⟨h.ofText _, h.ofText _, h.ofText _, h.ofInt _, h.ofInt _, texts _, texts _, texts _,
    texts _, texts _, by simp⟩

theorem ofCurve {c : Curve} (floats : ∀ x ∈ c.floats, P (e.ofFloat x)) : P (e.ofCurve c) := by
  refine h.ofMembers (List.mem_of_getElem? (i := 2) rfl) ?_
  simp only [Curve.floats, List.forall_mem_cons] at floats ⊢
  exact ⟨h.ofText _, floats.1, floats.2.1, floats.2.2.1, h.ofText _, by simp⟩

theorem ofLevelUp (l : LevelUp) : P (e.ofLevelUp l) := by
  refine h.ofMembers (List.mem_of_getElem? (i := 3) rfl) ?_
  simp only [List.forall_mem_cons]
  exact ⟨h.ofInt _, h.ofInt _, h.ofText _, by simp⟩

theorem ofRules {r : Rules} (floats : ∀ x ∈ r.curve.floats, P (e.ofFloat x)) : P (e.ofRules r) := by
  refine h.ofMembers (List.mem_of_getElem? (i := 4) rfl) ?_
  simp only [List.forall_mem_cons]
  refine ⟨h.ofItems ?_, h.ofItems ?_, h.ofCurve floats, h.ofLevelUp _, h.ofInt _,
    h.ofInt _, by simp⟩
  · exact List.forall_mem_map.2 fun s _ => h.ofStat s
  · exact List.forall_mem_map.2 fun s _ => h.ofSkill s

end Closed
end Encoding
end GameBalance
