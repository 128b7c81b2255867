import GameBalance.Console.Audit
import GameBalance.Proofs.Stat.Queries

namespace GameBalance.Console

open Formula Text Relation Stat

variable {r : Rules} {s t : Stat}

def valueText (r : Rules) (name : String) : String :=
  ((previews r.stats r.previewLevel).lookup name).elim "" fun x => " (" ++ shown x ++ ")"

theorem valued_eq (r : Rules) (name : String) :
    valued (previews r.stats r.previewLevel) name = name ++ valueText r name := by
  rw [valued, valueText]
  cases (previews r.stats r.previewLevel).lookup name with
  | none => exact String.append_empty.symm
  | some x =>
    change name ++ " (" ++ shown x ++ ")" = name ++ (" (" ++ shown x ++ ")")
    rw [String.append_assoc, String.append_assoc, String.append_assoc]

def dependentLine (s : Stat) (r : Rules) (name : String) : String :=
  "   └─ " ++ name ++ valueText r name ++
    if name ∈ (s.dependents r.stats).map Stat.name then " [direct]" else " [indirect]"

theorem listed_dependents (s : Stat) (r : Rules) (names : List String) :
    listed names (fun name => valued (previews r.stats r.previewLevel) name ++ " [" ++
        (if ((s.dependents r.stats).map Stat.name).contains name then "direct" else "indirect") ++
        "]") "   No dependent stats" =
    if names = [] then ["   No dependent stats"] else names.map (dependentLine s r) := by
  have line (name : String) : "   └─ " ++ (valued (previews r.stats r.previewLevel) name ++ " [" ++
      (if ((s.dependents r.stats).map Stat.name).contains name then "direct" else "indirect") ++
      "]") = dependentLine s r name := by
    rw [dependentLine, valued_eq]
    simp only [List.contains_iff_mem, ← String.append_assoc]
    split
    · rw [String.append_assoc, String.append_assoc]
      rfl
    · rw [String.append_assoc, String.append_assoc]
      rfl
  simp only [listed, List.isEmpty_iff, line]

theorem auditLines_eq (s : Stat) (r : Rules) :
    ∃ before after, auditLines s r = before ++ "⬆️  Used by:" ::
      (if (DependencyGraph.ofStats r.stats).dependentsOf s.name = [] then ["   No dependent stats"]
        else ((DependencyGraph.ofStats r.stats).dependentsOf s.name).map (dependentLine s r)) ++
      "" :: after := by
  refine ⟨["📋 Stat Information:"] ++ statInformation s r ++ ["", "🌳 References:"] ++
      listed ((DependencyGraph.ofStats r.stats).dependenciesOf s.name)
        (valued (previews r.stats r.previewLevel)) "   No stat references" ++ [""],
    ["🧮 Resolution order:", orderLine (DependencyGraph.ofStats r.stats), "", "✅ Audit complete"],
    ?_⟩
  rw [← listed_dependents]
  simp only [auditLines, List.append_assoc, List.cons_append, List.nil_append]

/-- Whether the formula of `t` has the name of `s`, in any case. -/
def Names (t s : Stat) : Prop :=
  ∃ f, t.formula? = some f ∧ ∃ n ∈ freeNames f, sameIgnoringCase n s.name = true

theorem mem_dependents_iff (ht : t ∈ r.stats) : t ∈ s.dependents r.stats ↔ Names t s := by
  simp only [dependents, List.mem_filter, ht, true_and, Option.any_eq_true, List.any_eq_true, Names]

theorem name_mem_dependents_iff (h : Distinct r.stats) (ht : t ∈ r.stats) :
    t.name ∈ (s.dependents r.stats).map Stat.name ↔ Names t s := by
  rw [← mem_dependents_iff ht]
  refine ⟨fun named => ?_, List.mem_map_of_mem⟩
  obtain ⟨u, hu, eq⟩ := List.mem_map.1 named
  exact h.eq_of_name (List.mem_of_mem_filter hu) ht eq ▸ hu

/--
The direct dependents of a stat are the stats that a search of the catalogue finds, those whose
dependencies it is among; its dependents are the other stats that such steps lead to. All answers
are ascending. The audit lists the dependents and calls those direct whose formulas name the stat.
-/
theorem queries_describe_feeds (r : Rules) (h : Distinct r.stats) (s : Stat) (hs : s ∈ r.stats) :
    (DependencyGraph.ofStats r.stats).directDependentsOf s.name =
        DependencyGraph.sorted ((s.dependents r.stats).map Stat.name) ∧
      (∀ t ∈ r.stats, t.name ∈ (DependencyGraph.ofStats r.stats).directDependentsOf s.name ↔
        s.name ∈ (DependencyGraph.ofStats r.stats).dependenciesOf t.name) ∧
      (∀ name, name ∈ (DependencyGraph.ofStats r.stats).dependentsOf s.name ↔
        ∃ t ∈ r.stats, t.name = name ∧ t ≠ s ∧ TransGen (Feeds r.stats) s t) ∧
      ((DependencyGraph.ofStats r.stats).dependenciesOf s.name).Pairwise (· < ·) ∧
      ((DependencyGraph.ofStats r.stats).directDependentsOf s.name).Pairwise (· < ·) ∧
      ((DependencyGraph.ofStats r.stats).dependentsOf s.name).Pairwise (· < ·) ∧
      ∃ line : String → String,
        (∀ t ∈ r.stats,
          (Names t s → line t.name = "   └─ " ++ t.name ++ valueText r t.name ++ " [direct]") ∧
          (¬Names t s → line t.name = "   └─ " ++ t.name ++ valueText r t.name ++ " [indirect]")) ∧
        ∀ files path name level, readRules files path level = .ok r → r.stat? name = some s →
          ∃ before after, audit files path name level = .success (before ++ "⬆️  Used by:" ::
            (if (DependencyGraph.ofStats r.stats).dependentsOf s.name = [] then
              ["   No dependent stats"]
              else ((DependencyGraph.ofStats r.stats).dependentsOf s.name).map line) ++
            "" :: after) := by
  refine ⟨h.directDependentsOf_eq hs, fun t ht => ?_, fun name => ?_,
    DependencyGraph.ascending_dependenciesOf _ _,
    DependencyGraph.ascending_directDependentsOf _ _, DependencyGraph.ascending_dependentsOf _ _,
    dependentLine s r, fun t ht => ?_, fun files path name level read found => ?_⟩
  · rw [h.mem_directDependentsOf hs ht, h.mem_dependenciesOf ht hs]
  · rw [h.mem_dependentsOf_iff hs]
    refine exists_congr fun t => and_congr_right fun _ => and_congr_right fun _ =>
      and_congr_right fun ne => ?_
    rw [reflTransGen_iff_eq_or_transGen, or_iff_right ne]
  · rw [dependentLine]
    exact ⟨fun names => by rw [if_pos ((name_mem_dependents_iff h ht).2 names)],
      fun other => by rw [if_neg (mt (name_mem_dependents_iff h ht).1 other)]⟩
  · obtain ⟨before, after, lines⟩ := auditLines_eq s r
    refine ⟨["🔍 Statforge - Stat Audit", "   File: " ++ path, "   Stat: " ++ name, ""] ++
      before, after, ?_⟩
    simp only [audit, read, found, lines, List.append_assoc]

def looped : Rules :=
  { Rules.empty with
    stats := [.base "VIT" 8 3, .derived "HP" "vit * 12 + Bonus", .derived "Bonus" "Hp / 2",
      .derived "Max Mana" "BONUS +"] }

theorem queries_describe_feeds_looped : Distinct looped.stats ∧ .base "VIT" 8 3 ∈ looped.stats ∧
    (DependencyGraph.ofStats looped.stats).directDependentsOf "VIT" = ["HP"] ∧
    "Max Mana" ∈ (DependencyGraph.ofStats looped.stats).dependentsOf "VIT" := by
  have letters : ∀ s ∈ looped.stats, s.name.toList.all (·.toNat < 128) = true := by decide
  have distinct : Distinct looped.stats :=
    ⟨fun s hs c hc => of_decide_eq_true (List.all_eq_true.1 (letters s hs) c hc), by decide⟩
  have listed : .base "VIT" 8 3 ∈ looped.stats := by decide
  obtain ⟨direct, -, all, -⟩ := queries_describe_feeds looped distinct _ listed
  refine ⟨distinct, listed, direct.trans (by decide +kernel),
    (all _).2 ⟨.derived "Max Mana" "BONUS +", by decide, rfl, by decide, ?_⟩⟩
  have feeds : ∀ s ∈ looped.stats, ∀ t, t ∈ s.dependents looped.stats → Feeds looped.stats s t :=
    fun s hs t ht => ⟨hs, ht⟩
  have first := feeds (.base "VIT" 8 3) listed (.derived "HP" "vit * 12 + Bonus")
    (by decide +kernel)
  have second := feeds (.derived "HP" "vit * 12 + Bonus") (by decide) (.derived "Bonus" "Hp / 2")
    (by decide +kernel)
  have third := feeds (.derived "Bonus" "Hp / 2") (by decide) (.derived "Max Mana" "BONUS +")
    (by decide +kernel)
  exact .tail (.tail (.single first) second) third

end GameBalance.Console
