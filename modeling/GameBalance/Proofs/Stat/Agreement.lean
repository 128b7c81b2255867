import GameBalance.Proofs.Formula.Checks
import GameBalance.Proofs.Stat.Impact

namespace GameBalance

open Formula Text Relation

namespace Stat

variable {stats : List Stat} {level : UInt32} {values : Bindings} {s t : Stat}
    {f n : String} {x : Float}

section Evaluated

variable (catalogue : Catalogue stats) (h : Values stats values) (ht : t ∈ stats)
    (formula : t.formula? = some f)
  (ok : evaluate f (t.context level values) = .ok x)

include catalogue h ht formula ok

theorem exists_value_of_evaluate (hn : n ∈ referencedNames f) :
    ∃ p ∈ t.context level values, sameIgnoringCase p.1 n = true := by
  have proper := h.proper_context catalogue t level
  have bound :=
    isSome_of_evaluate (catalogue.ascii t ht f formula) proper (h.finite_context catalogue t level)
    (isBlankText_of_formula? formula) ok hn
  obtain ⟨x, value⟩ := Option.isSome_iff_exists.1 bound
  obtain ⟨m, mem, same⟩ := proper.value?_eq_some_iff.1 value
  exact ⟨(m, x), mem, same⟩

theorem exists_mem_of_feeds (feeds : Feeds stats s t) : ∃ y, (s.name, y) ∈ values := by
  obtain ⟨hs, -, f', formula', n, hn, same⟩ := feeds_iff.1 feeds
  cases formula.symm.trans formula'
  obtain ⟨⟨m, y⟩, hp, same'⟩ :=
    exists_value_of_evaluate catalogue h ht formula ok (freeNames_subset f hn)
  have own : sameIgnoringCase s.name m = true := by
    refine decide_eq_true ?_
    exact (of_decide_eq_true same).symm.trans (of_decide_eq_true same').symm
  rw [h.context_eq catalogue] at hp
  obtain hp | hp := List.mem_append.1 hp
  · obtain ⟨u, hu, rfl⟩ := h.named _ hp
    rw [catalogue.eq_of_same hs hu own]
    exact ⟨y, hp⟩
  · have reserved : m ∈ reservedNames := List.mem_map_of_mem (f := Prod.fst) hp
    exact Bool.noConfusion (own.symm.trans (catalogue.noReserved s hs m reserved))

theorem mem_knownNames_of_evaluate (hn : n ∈ referencedNames f) :
    lowercase n ∈ knownNames (stats.map name) := by
  obtain ⟨p, hp, same⟩ := exists_value_of_evaluate catalogue h ht formula ok hn
  have ascii := (isName_of_mem_namesIn (List.mem_filter.1 hn).1).ascii
  have ascii' := ((h.proper_context catalogue t level).names p hp).ascii
  refine List.mem_map.2 ⟨p.1, List.mem_append.2 ?_, (sameIgnoringCase_iff ascii' ascii).1 same⟩
  rw [h.context_eq catalogue] at hp
  obtain hp | hp := List.mem_append.1 hp
  · obtain ⟨u, hu, eq⟩ := h.named p hp
    exact .inl (List.mem_map.2 ⟨u, hu, eq⟩)
  · exact .inr (List.mem_map_of_mem (f := Prod.fst) hp)

theorem staticIssue?_of_evaluate : staticIssue? f (knownNames (stats.map name)) =
    if operatorsClash f then some .invalidOperators else none := by
  have known : unknownVariables f (knownNames (stats.map name)) = [] :=
    unknownVariables_eq_nil_iff.2 fun n hn =>
      mem_knownNames_of_evaluate catalogue h ht formula ok hn
  have balanced : imbalance? f = none :=
    imbalance?_of_evaluate (h.proper_context catalogue t level).names
      (h.finite_context catalogue t level)
      (isBlankText_of_formula? formula) ok
  rw [staticIssue?, known, balanced, if_neg (not_not_intro rfl)]

end Evaluated

section Verdict

variable (catalogue : Catalogue stats) (hs : s ∈ stats)

include catalogue hs

theorem ne_level : s.name ≠ "Level" := by
  intro eq
  have same : sameIgnoringCase s.name "Level" = true := decide_eq_true (congrArg lowerAscii eq)
  exact Bool.noConfusion (same.symm.trans (catalogue.noReserved s hs "Level" (by decide)))

theorem lookup_previews :
    (previews stats level).lookup s.name = some x ↔ (s.name, x) ∈ resolveAll stats level := by
  have values := (solution_resolveAll catalogue level).toValues
  have other : [("Level", Double.ofUInt32 level)].lookup s.name = none :=
    List.lookup_eq_none_iff.2 (List.forall_mem_singleton.2 (bne_iff_ne.2 (ne_level catalogue hs)))
  rw [previews, Bindings.set_eq (values.not_mem_reserved catalogue (by decide)), List.lookup_append,
    other, Option.or_none, values.lookup_eq_some_iff]

variable (formula : s.formula? = some f)

include formula

theorem evaluate_unset_self (h : Values stats values) (free : ¬Blocked stats s) :
    evaluate f (s.context level (values.unset s.name)) = evaluate f (s.context level values) := by
  refine (h.unset s.name).evaluate_congr catalogue h hs formula fun u feeds x => ?_
  rw [Bindings.mem_unset, and_iff_left]
  intro eq
  obtain rfl := catalogue.eq_of_name feeds.1 hs eq
  exact free ⟨u, .single feeds, .refl⟩

/--
The trial evaluation of a stat's formula may use the values that the other stats have in the end.
-/
theorem verdict_eq_valid_iff : s.verdict stats level = .valid sample ↔
    ∃ x, evaluate f (s.context level ((resolveAll stats level).unset s.name)) = .ok x ∧
    operatorsClash f = false ∧
      sample = some x := by
  have values := (solution_resolveAll catalogue level).toValues.unset s.name
  have tried : s.verdict stats level = validate f (stats.map name)
      (some (s.context level ((resolveAll stats level).unset s.name))) := by
    rw [verdict, formula, context, previews, Bindings.unset_set _ (ne_level catalogue hs).symm]
  rw [tried, validate_eq_valid_iff (isBlankText_of_formula? formula)]
  refine exists_congr fun x => and_congr_right fun ok => ?_
  rw [staticIssue?_of_evaluate catalogue values hs formula ok]
  cases operatorsClash f <;> simp

theorem isValid_of_blocked (blocked : Blocked stats s) :
    (s.verdict stats level).isValid = false := by
  have solution := solution_resolveAll catalogue level
  cases found : s.verdict stats level with
  | invalid issue => rfl
  | valid sample =>
    -- a stat that feeds this one is blocked as well, so the formula could not have been evaluated
    obtain ⟨u, feeds, stuck⟩ := blocked.exists_feeds
    obtain ⟨x, ok, -⟩ := (verdict_eq_valid_iff catalogue hs formula).1 found
    obtain ⟨y, mem⟩ :=
      exists_mem_of_feeds catalogue (solution.toValues.unset s.name) hs formula ok feeds
    exact absurd (Bindings.mem_unset.1 mem).1 (solution.blocked u feeds.1 stuck.isDerived stuck y)

end Verdict

/--
The sample of a valid formula, where it is finite, is the value of the
stat, and the formula of a stat with a value is valid unless operators
clash in it. No stat that a cycle leads to has a valid formula.
-/
theorem verdict_eq_valid_iff_lookup_previews (stats : List Stat) (s : Stat) (f : String)
    (level : UInt32)
    (catalogue : Catalogue stats) (hs : s ∈ stats) (formula : s.formula? = some f) :
    (∀ x, s.verdict stats level = .valid (some x) ∧ x.isFinite = true ↔
        (previews stats level).lookup s.name = some x ∧ operatorsClash f = false) ∧
      (Blocked stats s → (s.verdict stats level).isValid = false) := by
  have solution := solution_resolveAll catalogue level
  refine ⟨fun x => ?_, isValid_of_blocked catalogue hs formula⟩
  rw [lookup_previews catalogue hs]
  by_cases blocked : Blocked stats s
  · refine iff_of_false (fun found => ?_) fun bound => ?_
    · have invalid : (s.verdict stats level).isValid = false :=
        isValid_of_blocked catalogue hs formula blocked
      rw [found.1] at invalid
      cases invalid
    · have derived : s.isDerived = true := blocked.isDerived
      exact solution.blocked s hs derived blocked x bound.1
  · rw [solution.derived s hs f formula blocked x, verdict_eq_valid_iff catalogue hs formula,
      evaluate_unset_self catalogue hs formula solution.toValues blocked]
    constructor
    · rintro ⟨⟨_, ok, free, ⟨⟩⟩, finite⟩
      exact ⟨⟨ok, finite⟩, free⟩
    · rintro ⟨⟨ok, finite⟩, free⟩
      exact ⟨⟨x, ok, free, rfl⟩, finite⟩

def selfReferring : List Stat :=
  [base "VIT" 8 3, derived "HP" "VIT * 12", derived "A" "A + HP", derived "B" "A"]

theorem verdict_eq_valid_iff_selfReferring :
    (∀ x, (derived "HP" "VIT * 12").verdict selfReferring 5 = .valid (some x) ∧ x.isFinite = true ↔
        (previews selfReferring 5).lookup "HP" = some x ∧ operatorsClash "VIT * 12" = false) ∧
      ((derived "B" "A").verdict selfReferring 5).isValid = false := by
  have catalogue : Catalogue selfReferring :=
    .of_all (by decide) (by decide) (by decide) (by decide) (by decide)
  have cycle : Feeds selfReferring (derived "A" "A + HP") (derived "A" "A + HP") :=
    ⟨by decide, by decide +kernel⟩
  have downstream : Feeds selfReferring (derived "A" "A + HP") (derived "B" "A") :=
    ⟨by decide, by decide +kernel⟩
  have hp := verdict_eq_valid_iff_lookup_previews selfReferring (derived "HP" "VIT * 12") "VIT * 12"
      5 catalogue (by decide) rfl
  have b := verdict_eq_valid_iff_lookup_previews selfReferring (derived "B" "A") "A" 5 catalogue
      (by decide) rfl
  exact ⟨hp.1, b.2 ⟨_, .single cycle, .single downstream⟩⟩

end Stat

end GameBalance
