import GameBalance.Proofs.Formula.Precedence
import GameBalance.Proofs.Stat.Run
import GameBalance.Skill.Verdict

namespace GameBalance

open Formula Text

namespace Stat

def Stage (stats : List Stat) (level : UInt32) (values : Bindings) : Prop :=
  ∃ before after, resolved stats = before ++ after ∧
    values = before.foldl (resolveNext stats level) (.ofList (baseValues stats level))

def sample (s : Stat) (stats : List Stat) (level : UInt32) : Bindings :=
  ((previews stats level).unset s.name).set "BaseValue" s.ownBase

/--
No stat has `name` among the words of its own, unless it
is the same apart from case and does not come before it.
-/
def Unshadowed (stats : List Stat) (name : String) : Prop :=
  ∀ s ∈ stats, (∃ w ∈ words s.name.toList, spells name.toList w = true) →
    spells name.toList s.name.toList = true ∧ name ≤ s.name

instance {stats : List Stat} {n : String} : Decidable (Unshadowed stats n) :=
  inferInstanceAs (Decidable (∀ s ∈ stats, (∃ w ∈ words s.name.toList, spells n.toList w = true) →
    spells n.toList s.name.toList = true ∧ n ≤ s.name))

structure Scope (stats : List Stat) (b : Bindings) : Prop where
  named : ∀ p ∈ b, p.1 ∈ Skill.formulaNames ∨ ∃ s ∈ stats, s.name = p.1
  finite : ∀ p ∈ b, p.2.isFinite = true

variable {stats : List Stat} {level : UInt32} {values b : Bindings} {s : Stat}
    {name n : String} {x : Float}

theorem verdict_eq (formula : s.formula? = some f) (stats : List Stat) (level : UInt32) :
    s.verdict stats level = validate f (stats.map Stat.name) (some (s.sample stats level)) := by
  rw [verdict, formula]
  rfl

theorem Stage.isValues (h : Stage stats level values) : Values stats values := by
  obtain ⟨before, after, -, rfl⟩ := h
  exact (Values.ofList_baseValues stats level).foldl_resolveNext level before

theorem isFinite_ownBase (s : Stat) : s.ownBase.isFinite = true :=
  (Double.within_ofInt32 _).isFinite (by decide)

theorem isFinite_ofUInt32 (n : UInt32) : (Double.ofUInt32 n).isFinite = true :=
  (Double.within_ofUInt32 n).isFinite (by decide)

theorem isLabel_formulaNames : ∀ n ∈ Skill.formulaNames, IsLabel n.toList := by
  have names : ∀ n ∈ Skill.formulaNames, IsName n.toList := by decide
  exact fun n hn => (names n hn).isLabel

theorem eq_of_formulaNames : ∀ m ∈ Skill.formulaNames, ∀ n ∈ Skill.formulaNames,
    spells m.toList n.toList = true → m = n := by
  decide +kernel

theorem Values.scope (h : Values stats values) : Scope stats values :=
  ⟨fun p hp => .inr (h.named p hp), h.finite⟩

namespace Scope

theorem set (h : Scope stats b) (hn : name ∈ Skill.formulaNames) (hx : x.isFinite = true) :
    Scope stats (b.set name x) where
  named p hp := by
    obtain ⟨eq, -⟩ | ⟨-, old⟩ := Bindings.mem_set.1 hp
    · exact .inl (eq ▸ hn)
    · exact h.named p old
  finite p hp := by
    obtain ⟨-, rfl⟩ | ⟨-, old⟩ := Bindings.mem_set.1 hp
    · exact hx
    · exact h.finite p old

theorem unset (h : Scope stats b) (n : String) : Scope stats (b.unset n) where
  named p hp := h.named p (Bindings.mem_unset.1 hp).1
  finite p hp := h.finite p (Bindings.mem_unset.1 hp).1

theorem reads (h : Scope stats b) (phrases : ∀ s ∈ stats, IsPhrase s.name.toList)
    (hn : name ∈ Skill.formulaNames)
    (free : Unshadowed stats name) (mem : (name, x) ∈ b) (single : ∀ y, (name, y) ∈ b → y = x) :
    b.Reads name x := by
  have label := isLabel_formulaNames name hn
  have first : ∀ p ∈ b, spells name.toList p.1.toList = true → name ≤ p.1 := fun p hp fits => by
    obtain own | ⟨s, hs, eq⟩ := h.named p hp
    · have same : name = p.1 := eq_of_formulaNames name hn p.1 own fits
      exact le_of_eq same
    · rw [← eq] at fits ⊢
      have word : s.name.toList ∈ words s.name.toList := by
        rw [words_of_isWord (isWord_of_spells label.word fits)]
        exact List.mem_singleton_self _
      exact (free s hs ⟨_, word, fits⟩).2
  have apart : ∀ p ∈ b, spells p.1.toList name.toList = true ∨ ∀ w ∈ words p.1.toList,
      spells name.toList w = false :=
    fun p hp => by
      rw [or_iff_not_imp_right, spells_comm]
      intro some
      obtain ⟨w, hw, fits⟩ : ∃ w ∈ words p.1.toList, spells name.toList w = true := by
        simpa using some
      obtain own | ⟨s, hs, eq⟩ := h.named p hp
      · rw [words_of_isWord (isLabel_formulaNames _ own).word, List.mem_singleton] at hw
        exact hw ▸ fits
      · rw [← eq] at hw ⊢
        exact (free s hs ⟨w, hw, fits⟩).1
  have names : ∀ p ∈ b, IsPhrase p.1.toList := fun p hp => by
    obtain own | ⟨s, hs, eq⟩ := h.named p hp
    · exact (isLabel_formulaNames _ own).isPhrase
    · exact eq ▸ phrases s hs
  exact Bindings.reads_first label names h.finite apart (Bindings.find?_inOrder mem single first)

end Scope

theorem mem_set_self (b : Bindings) (name : String) (x : Float) :
    (name, x) ∈ b.set name x ∧ ∀ y, (name, y) ∈ b.set name x → y = x := by
  refine ⟨Bindings.mem_set.2 (.inl ⟨rfl, rfl⟩), fun y hy => ?_⟩
  obtain ⟨-, eq⟩ | ⟨ne, -⟩ := Bindings.mem_set.1 hy
  · exact congrArg Prod.snd eq
  · exact absurd rfl ne

theorem mem_set_other (name : String) (ne : n ≠ name) (h : (n, x) ∈ b ∧ ∀ y, (n, y) ∈ b → y = x)
    (y : Float) :
    (n, x) ∈ b.set name y ∧ ∀ z, (n, z) ∈ b.set name y → z = x := by
  refine ⟨Bindings.mem_set.2 (.inr ⟨ne, h.1⟩), fun z hz => ?_⟩
  obtain ⟨eq, -⟩ | ⟨-, old⟩ := Bindings.mem_set.1 hz
  · exact absurd eq ne
  · exact h.2 z old

theorem context_scope (h : Values stats values) (s : Stat) (level : UInt32) :
    Scope stats (s.context level values) :=
  (h.scope.set (by decide) (isFinite_ofUInt32 level)).set (by decide) (isFinite_ownBase s)

theorem previews_scope (stats : List Stat) (level : UInt32) : Scope stats (previews stats level) :=
  (Values.resolveAll stats level).scope.set (by decide) (isFinite_ofUInt32 level)

theorem sample_scope (s : Stat) (stats : List Stat) (level : UInt32) :
    Scope stats (s.sample stats level) :=
  ((previews_scope stats level).unset s.name).set (by decide) (isFinite_ownBase s)

theorem skill_scope (stats : List Stat) (level rank : UInt32) :
    Scope stats (Skill.values stats level rank) :=
  ((previews_scope stats level).set (by decide) (isFinite_ofUInt32 rank)).set (by decide)
    (by decide +kernel)

theorem level_sample (ne : s.name ≠ "Level") (stats : List Stat) (level : UInt32) :
    ("Level", Double.ofUInt32 level) ∈ s.sample stats level ∧
      ∀ y, ("Level", y) ∈ s.sample stats level → y = Double.ofUInt32 level := by
  have bound := mem_set_self (resolveAll stats level) "Level" (Double.ofUInt32 level)
  refine mem_set_other "BaseValue" (by decide)
    ⟨Bindings.mem_unset.2 ⟨bound.1, ne.symm⟩, fun y hy => ?_⟩ _
  exact bound.2 y (Bindings.mem_unset.1 hy).1

/--
In every formula `Level` and `BaseValue` read as the level and the own base value
of the stat, and in those of skills `SkillRank` as the rank, in any case and
whatever other stats there are, if no stat takes the place of the name. The names
of stats have to begin and end with words, and none of these may be a number.
-/
theorem context_reads (stats : List Stat) (level rank : UInt32)
    (phrases : ∀ s ∈ stats, IsPhrase s.name.toList) :
    (Unshadowed stats "Level" →
      (∀ (s : Stat) values, Stage stats level values →
        (s.context level values).Reads "Level" (Double.ofUInt32 level)) ∧
      (∀ s : Stat, s.name ≠ "Level" →
        (s.sample stats level).Reads "Level" (Double.ofUInt32 level)) ∧
      (Skill.values stats level rank).Reads "Level" (Double.ofUInt32 level)) ∧
    (Unshadowed stats "BaseValue" →
      (∀ (s : Stat) values, Stage stats level values →
        (s.context level values).Reads "BaseValue" s.ownBase) ∧
      (∀ s : Stat, (s.sample stats level).Reads "BaseValue" s.ownBase) ∧
      (Skill.values stats level rank).Reads "BaseValue" 0) ∧
    (Unshadowed stats "SkillRank" →
      (Skill.values stats level rank).Reads "SkillRank" (Double.ofUInt32 rank)) := by
  refine ⟨fun free => ⟨fun s values stage => ?_, fun s ne => ?_, ?_⟩,
    fun free => ⟨fun s values stage => ?_, fun s => ?_, ?_⟩,
    fun free => ?_⟩
  · have bound :=
      mem_set_other "BaseValue" (by decide)
        (mem_set_self values "Level" (Double.ofUInt32 level)) s.ownBase
    exact (context_scope stage.isValues s level).reads phrases (by decide) free bound.1 bound.2
  · have bound := level_sample ne stats level
    exact (sample_scope s stats level).reads phrases (by decide) free bound.1 bound.2
  · have bound := mem_set_other "BaseValue" (by decide) (mem_set_other "SkillRank" (by decide)
      (mem_set_self (resolveAll stats level) "Level" (Double.ofUInt32 level))
      (Double.ofUInt32 rank)) 0
    exact (skill_scope stats level rank).reads phrases (by decide) free bound.1 bound.2
  · have bound := mem_set_self (values.set "Level" (Double.ofUInt32 level)) "BaseValue" s.ownBase
    exact (context_scope stage.isValues s level).reads phrases (by decide) free bound.1 bound.2
  · have bound := mem_set_self ((previews stats level).unset s.name) "BaseValue" s.ownBase
    exact (sample_scope s stats level).reads phrases (by decide) free bound.1 bound.2
  · have bound :=
      mem_set_self ((previews stats level).set "SkillRank" (Double.ofUInt32 rank)) "BaseValue" 0
    exact (skill_scope stats level rank).reads phrases (by decide) free bound.1 bound.2
  · have bound :=
      mem_set_other "BaseValue" (by decide)
        (mem_set_self (previews stats level) "SkillRank" (Double.ofUInt32 rank)) 0
    exact (skill_scope stats level rank).reads phrases (by decide) free bound.1 bound.2

def lowered : List Stat :=
  [base "level" 3 0, base "Max HP" 20 1, derived "HP" "max hp + LEVEL * 5"]

theorem context_reads_lowered :
    (Unshadowed lowered "Level" ∧
      ((derived "HP" "max hp + LEVEL * 5").sample lowered 10).Reads "Level" (Double.ofUInt32 10) ∧
      (Skill.values lowered 10 1).Reads "Level" (Double.ofUInt32 10)) ∧
    (Unshadowed lowered "BaseValue" ∧ (Skill.values lowered 10 1).Reads "BaseValue" 0) ∧
    Unshadowed lowered "SkillRank" ∧
    (Skill.values lowered 10 1).Reads "SkillRank" (Double.ofUInt32 1) := by
  have phrases : ∀ s ∈ lowered, IsPhrase s.name.toList := by decide +kernel
  have level : Unshadowed lowered "Level" := by decide +kernel
  have base : Unshadowed lowered "BaseValue" := by decide +kernel
  have rank : Unshadowed lowered "SkillRank" := by decide +kernel
  obtain ⟨readsLevel, readsBase, readsRank⟩ := context_reads lowered 10 1 phrases
  exact ⟨⟨level, (readsLevel level).2.1 _ (by decide), (readsLevel level).2.2⟩,
    ⟨base, (readsBase base).2.2⟩, rank,
    readsRank rank⟩

def shadowed : List Stat :=
  [base "LEVEL" 7 0, derived "HP" "Level * 5"]

theorem evaluate_shadowed :
    evaluate "Level * 5" ((derived "HP" "Level * 5").context 10 [("LEVEL", 7)]) = .ok 35 := by
  have context : (derived "HP" "Level * 5").context 10 [("LEVEL", 7)] =
      [("LEVEL", 7), ("Level", 10), ("BaseValue", 0)] := by
    decide +kernel
  have inOrder : Bindings.inOrder [("LEVEL", 7), ("Level", 10), ("BaseValue", 0)] =
      [("BaseValue", 0), ("LEVEL", 7), ("Level", 10)] := by
    refine Bindings.inOrder_eq (List.perm_append_singleton _ [("LEVEL", 7), ("Level", 10)]).symm
      ?_ (by decide)
    simp only [List.pairwise_cons]
    decide +kernel
  rw [context, evaluate_of_inOrder inOrder]
  exact ok_of_toOption (by decide +kernel)

theorem resolveAll_shadowed : resolveAll shadowed 10 = [("LEVEL", 7), ("HP", 35)] := by
  have order : resolved shadowed = ["LEVEL", "HP"] := by decide +kernel
  have start : Bindings.ofList (baseValues shadowed 10) = [("LEVEL", 7)] := by decide +kernel
  have first : resolveNext shadowed 10 [("LEVEL", 7)] "LEVEL" = [("LEVEL", 7)] :=
    resolveNext_some (s := base "LEVEL" 7 0) (by decide)
  have second : resolveNext shadowed 10 [("LEVEL", 7)] "HP" = [("LEVEL", 7), ("HP", 35)] := by
    rw [resolveNext_some (s := derived "HP" "Level * 5") (by decide), settle,
      show (derived "HP" "Level * 5").formula? = some "Level * 5" by decide]
    dsimp only
    rw [evaluate_shadowed]
    decide +kernel
  rw [resolveAll_eq, order, start, List.foldl_cons, first, List.foldl_cons, second, List.foldl_nil]

/-- The level is ten, but the stat in capitals counts instead. -/
theorem level_shadowed :
    (shadowed.Pairwise fun s t => lowercase s.name ≠ lowercase t.name) ∧
      (resolveAll shadowed 10).lookup "HP" = some 35 ∧
      (evaluate (write "Level" (Double.ofUInt32 10) "Level * 5") []).toOption = some 50 := by
  refine ⟨by decide +kernel, ?_, by decide +kernel⟩
  rw [resolveAll_shadowed]
  rfl

end Stat
end GameBalance
