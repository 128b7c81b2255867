import GameBalance.Proofs.Formula.Checks
import GameBalance.Proofs.Stat.Context
import GameBalance.Proofs.Stat.Ordering
import GameBalance.Rules.Report

namespace GameBalance

open Formula Text DependencyGraph

theorem Formula.Verdict.isValid_iff {v : Verdict} : v.isValid = true ↔ v.message? = none := by
  cases v with
  | valid => exact iff_of_true rfl rfl
  | invalid => exact iff_of_false Bool.false_ne_true (Option.some_ne_none _)

namespace Report

theorem isValid_iff (r : Report) : r.isValid = true ↔ r.errors = [] := by
  have stats : r.stats.all (·.verdict.isValid) = true ↔ r.stats.filterMap (fun s =>
      s.verdict.message?.map ("stat '" ++ s.stat ++ "': " ++ ·)) = [] := by
    simp [List.filterMap_eq_nil_iff, Verdict.isValid_iff]
  have skills : r.skills.all (·.isValid) = true ↔
      r.skills.flatMap (fun s => s.results.filterMap fun p =>
        p.2.message?.map ("skill '" ++ s.skill ++ "' (" ++ p.1.label ++ "): " ++ ·)) = [] := by
    simp [List.flatMap_eq_nil_iff, List.filterMap_eq_nil_iff, SkillReport.isValid,
      Verdict.isValid_iff]
  have curve : r.curve.isValid = true ↔ (r.curve.message?.map ("xp curve: " ++ ·)).toList = [] := by
    simp [Verdict.isValid_iff]
  rw [errors, isValid, Bool.and_eq_true, Bool.and_eq_true, Bool.and_eq_true, stats, curve,
    List.append_eq_nil_iff, List.append_eq_nil_iff, List.append_eq_nil_iff, List.map_eq_nil_iff,
    List.isEmpty_iff]
  constructor
  · rintro ⟨⟨⟨problems, curve⟩, stats⟩, valid⟩
    exact ⟨⟨⟨problems, stats⟩, skills.1 valid⟩, curve⟩
  · rintro ⟨⟨⟨problems, stats⟩, none⟩, curve⟩
    exact ⟨⟨⟨problems, curve⟩, stats⟩, skills.2 none⟩

end Report

def failure (place : String) : Verdict → List String
  | .valid _ => []
  | .invalid issue => [place ++ issue.message]

theorem toList_message? (place : String) (v : Verdict) :
    (v.message?.map (place ++ ·)).toList = failure place v := by
  cases v with
  | valid => rfl
  | invalid => rfl

theorem failure_elim (place : String) (formula? : Option String) (verdict : String → Verdict) :
    failure place (formula?.elim (.valid none) verdict) = formula?.elim [] fun f =>
      failure place (verdict f) := by
  cases formula? with
  | none => rfl
  | some => rfl

/-- The names before which another stands that is the same apart from case. -/
def repeats (names : List String) : List String :=
  (names.zipIdx.filter fun p => lowercase p.1 ∈ (names.take p.2).map lowercase).map Prod.fst

theorem repeatedNames_eq {seen : List String} (before names : List String)
    (h : ∀ key, key ∈ seen ↔ key ∈ before.map lowercase) :
    repeatedNames seen names = ((names.zipIdx before.length).filter fun p =>
      lowercase p.1 ∈ ((before ++ names).take p.2).map lowercase).map Prod.fst := by
  induction names generalizing seen before with
  | nil => rfl
  | cons name names ih =>
    have shift : before ++ name :: names = before ++ [name] ++ names := by
      rw [List.append_assoc, List.singleton_append]
    have length : before.length + 1 = (before ++ [name]).length := by
      rw [List.length_append, List.length_singleton]
    rw [repeatedNames, List.zipIdx_cons, List.filter_cons, List.take_left' rfl, shift, length]
    by_cases there : lowercase name ∈ seen
    · have again : ∀ key, key ∈ seen ↔ key ∈ (before ++ [name]).map lowercase := by
        intro key
        rw [List.map_append, List.mem_append, ← h, List.map_singleton, List.mem_singleton]
        exact ⟨.inl, fun m => m.elim id fun eq => eq ▸ there⟩
      rw [if_pos there, if_pos (decide_eq_true ((h _).1 there)), List.map_cons, ih _ again]
    · have new : ∀ key, key ∈ lowercase name :: seen ↔ key ∈ (before ++ [name]).map lowercase := by
        intro key
        rw [List.map_append, List.mem_append, ← h, List.map_singleton, List.mem_singleton,
          List.mem_cons, or_comm]
      rw [if_neg there, if_neg (by rw [decide_eq_true_eq, ← h]; exact there), ih _ new]

namespace Rules

variable {r : Rules}

def problemLines (r : Rules) : List String :=
  (repeats (r.stats.map Stat.name)).map ("duplicate stat name '" ++ · ++ "'") ++
    (repeats (r.skills.map Skill.name)).map ("duplicate skill name '" ++ · ++ "'") ++
    match (ofStats r.stats).resolutionOrder with
    | .ok _ => []
    | .error stat => ["Circular dependency detected: stat '" ++ stat ++ "' depends on itself"]

def statLines (r : Rules) : List String :=
  r.stats.flatMap fun s => s.formula?.elim [] fun f =>
    failure ("stat '" ++ s.name ++ "': ")
      (validate f (r.stats.map Stat.name) (some (s.sample r.stats r.previewLevel)))

def skillValues (r : Rules) : Bindings :=
  ((Stat.previews r.stats r.previewLevel).set "SkillRank" (Double.ofUInt32 r.previewRank)).set
    "BaseValue" 0

/-- A line for each formula of a skill that fails, where the skill has one. -/
def skillLines (r : Rules) : List String :=
  r.skills.flatMap fun s =>
    [("damage", s.damageFormula), ("mana cost", s.manaCostFormula), ("cooldown", s.cooldownFormula),
      ("passive effect", s.passiveEffectFormula)].flatMap fun (kind, formula?) =>
        formula?.elim [] fun f => failure ("skill '" ++ s.name ++ "' (" ++ kind ++ "): ")
          (validate f (r.stats.map Stat.name ++ ["Level", "SkillRank", "BaseValue"])
            (some r.skillValues))

def curveLines (r : Rules) : List String :=
  if r.curve.kind = .custom then
    failure "xp curve: " (validate r.curve.formula ["Level", "BaseXP"]
      (some (.ofList [("Level", Double.ofUInt32 r.previewLevel), ("BaseXP", r.curve.baseXp)])))
  else []

theorem map_message_problems (r : Rules) :
    r.report.problems.map Problem.message = r.problemLines := by
  have repeated (names : List String) : repeatedNames [] names = repeats names :=
    repeatedNames_eq [] names fun _ => Iff.rfl
  simp only [report, problemLines, repeated, List.map_append, List.map_map]
  cases (ofStats r.stats).resolutionOrder with
  | ok => rfl
  | error => rfl

theorem filterMap_statReports (r : Rules) :
    r.statReports.filterMap (fun s => s.verdict.message?.map ("stat '" ++ s.stat ++ "': " ++ ·)) =
      r.statLines := by
  rw [statReports, List.filterMap_filterMap, List.filterMap_eq_flatMap_toList, statLines]
  refine List.flatMap_congr fun s _ => ?_
  rw [Stat.verdict]
  cases s.formula? with
  | none => rfl
  | some f => exact toList_message? _ _

theorem flatMap_skillReports (r : Rules) :
    r.report.skills.flatMap (fun s => s.results.filterMap fun (kind, verdict) =>
      verdict.message?.map ("skill '" ++ s.skill ++ "' (" ++ kind.label ++ "): " ++ ·)) =
        r.skillLines := by
  rw [report, List.flatMap_map, skillLines]
  refine List.flatMap_congr fun s _ => ?_
  simp only [Skill.report, List.filterMap_eq_flatMap_toList, toList_message?, failure_elim,
    List.flatMap_map]
  rfl

theorem toList_curve (r : Rules) :
    (r.report.curve.message?.map ("xp curve: " ++ ·)).toList = r.curveLines := by
  rw [report, Curve.verdict, toList_message?, curveLines]
  cases r.curve.kind with
  | custom => rfl
  | linear => rfl
  | exponential => rfl

theorem errors_eq_lines (r : Rules) :
    r.report.errors = r.problemLines ++ r.statLines ++ r.skillLines ++ r.curveLines := by
  rw [← map_message_problems, ← filterMap_statReports, ← flatMap_skillReports, ← toList_curve]
  rfl

theorem isValid_of_not_isDerived {s : Stat} (h : s.isDerived = false) (stats : List Stat)
    (level : UInt32) :
    s.verdict stats level = .valid none := by
  rw [Stat.isDerived, Option.isSome_eq_false_iff, Option.isNone_iff_eq_none] at h
  rw [Stat.verdict, h]

theorem repeatedNames_eq_nil (names seen : List String) : repeatedNames seen names = [] ↔
    (names.map lowercase).Nodup ∧ ∀ n ∈ names, lowercase n ∉ seen := by
  induction names generalizing seen with
  | nil => simp [repeatedNames]
  | cons name names ih =>
    rw [repeatedNames]
    by_cases there : lowercase name ∈ seen
    · simp [there]
    · simp only [there, if_false, ih, List.map_cons, List.nodup_cons, List.mem_map, List.mem_cons,
        forall_eq_or_imp, not_or, not_exists, not_and]
      constructor
      · rintro ⟨nodup, free⟩
        exact ⟨⟨fun n hn => (free n hn).1, nodup⟩, not_false, fun n hn => (free n hn).2⟩
      · rintro ⟨⟨new, nodup⟩, -, free⟩
        exact ⟨nodup, fun n hn => ⟨new n hn, free n hn⟩⟩

theorem resolves_of_resolutionOrder {stats : List Stat} {order : List String}
    (h : (ofStats stats).resolutionOrder = .ok order) : Resolves stats order := by
  have closed := closed stats
  rw [resolutionOrder] at h
  cases sorted : (ofStats stats).graph.topologicalOrder with
  | error =>
    rw [sorted] at h
    cases h
  | ok nodes =>
    rw [sorted] at h
    cases h
    exact resolves_map_spelling (Digraph.nodup_topologicalOrder closed sorted)
      (fun n => Digraph.mem_topologicalOrder closed sorted)
      (Digraph.topologicalOrder_sourcesFirst sorted)

theorem firstSpelling?_name {stats : List Stat} {s : Stat}
    (distinct : (stats.map fun s => lowercase s.name).Nodup)
    (hs : s ∈ stats) : firstSpelling? stats (lowercase s.name) = some s.name := by
  cases found : firstSpelling? stats (lowercase s.name) with
  | none => exact absurd rfl (of_decide_eq_false (Bool.eq_false_iff.2
      (List.find?_eq_none.1 found s.name (List.mem_map_of_mem hs))))
  | some name =>
    obtain ⟨t, ht, rfl⟩ := List.mem_map.1 (List.mem_of_find?_eq_some found)
    rw [List.inj_on_of_nodup_map distinct ht hs (lowercase_firstSpelling found)]

theorem problems_eq_nil : r.report.problems = [] ↔ (r.stats.map fun s => lowercase s.name).Nodup ∧
    (r.skills.map fun s => lowercase s.name).Nodup ∧
    ∃ order, (ofStats r.stats).resolutionOrder = .ok order := by
  have stats := repeatedNames_eq_nil (r.stats.map Stat.name) []
  have skills := repeatedNames_eq_nil (r.skills.map Skill.name) []
  simp only [List.map_map, List.not_mem_nil, not_false_eq_true, implies_true, and_true]
    at stats skills
  rw [report, List.append_eq_nil_iff, List.append_eq_nil_iff, List.map_eq_nil_iff,
    List.map_eq_nil_iff, stats, skills, and_assoc]
  refine and_congr_right fun _ => and_congr_right fun _ => ?_
  cases (ofStats r.stats).resolutionOrder with
  | ok order => exact iff_of_true rfl ⟨order, rfl⟩
  | error => exact iff_of_false (List.cons_ne_nil _ _) nofun

theorem perm_of_resolves {stats : List Stat} {order : List String}
    (distinct : (stats.map fun s => lowercase s.name).Nodup) (h : Resolves stats order) :
    order.Perm (stats.map Stat.name) := by
  have nodup : (stats.map Stat.name).Nodup := by
    rw [← Function.comp_def, ← List.map_map] at distinct
    exact .of_map lowercase distinct
  refine (List.perm_ext_iff_of_nodup h.nodup nodup).2 fun name => (h.mem_iff name).trans ?_
  constructor
  · rintro ⟨key, found⟩
    exact List.mem_of_find?_eq_some found
  · intro listed
    obtain ⟨s, hs, rfl⟩ := List.mem_map.1 listed
    exact ⟨_, firstSpelling?_name distinct hs⟩

theorem exists_value {s : Stat} {f : String}
    (valid : (s.verdict r.stats r.previewLevel).isValid = true) (formula : s.formula? = some f) :
    ∃ x, evaluate f (s.sample r.stats r.previewLevel) = .ok x := by
  have checked : s.verdict r.stats r.previewLevel =
      validate f (r.stats.map Stat.name) (some (s.sample r.stats r.previewLevel)) := by
    rw [Stat.verdict, formula]
    rfl
  rw [checked] at valid
  cases verdict : validate f (r.stats.map Stat.name) (some (s.sample r.stats r.previewLevel)) with
  | invalid =>
    rw [verdict] at valid
    cases valid
  | valid sample =>
    obtain ⟨x, ok, -⟩ := (validate_eq_valid_iff (Stat.isBlankText_of_formula? formula)).1 verdict
    exact ⟨x, ok⟩

theorem isValid_verdict {s : Stat} (valid : r.report.isValid = true) (hs : s ∈ r.stats) :
    (s.verdict r.stats r.previewLevel).isValid = true := by
  cases derived : s.isDerived with
  | false => rw [isValid_of_not_isDerived derived]; rfl
  | true =>
    obtain ⟨f, formula⟩ := Option.isSome_iff_exists.1 derived
    have listed : StatReport.mk s.name f (s.verdict r.stats r.previewLevel) ∈ r.statReports :=
      List.mem_filterMap.2 ⟨s, hs, by rw [formula]; rfl⟩
    rw [Report.isValid, Bool.and_eq_true, Bool.and_eq_true] at valid
    exact List.all_eq_true.1 valid.1.2 _ listed

/--
A report is valid exactly if it has no errors, which are one line for each failure in the order of
the rules. Where it is valid, no two stats and no two skills have names that are the same apart from
case, the resolution order is one of all stats in which each comes after those its formula names,
and every formula of a stat has a value.
-/
theorem report_consistent (r : Rules) :
    (r.report.isValid = true ↔ r.report.errors = []) ∧
      r.report.errors = r.problemLines ++ r.statLines ++ r.skillLines ++ r.curveLines ∧
      (r.report.isValid = true →
        (r.stats.map fun s => lowercase s.name).Nodup ∧
        (r.skills.map fun s => lowercase s.name).Nodup ∧
        (∃ order, r.report.resolutionOrder = some order ∧ order.Perm (r.stats.map Stat.name) ∧
          ∀ s ∈ r.stats, ∀ t ∈ r.stats, ∀ f, t.formula? = some f →
            (∃ n ∈ freeNames f, lowercase n = lowercase s.name) → [s.name, t.name].Sublist order) ∧
        ∀ s ∈ r.stats, ∀ f, s.formula? = some f →
          ∃ x, evaluate f (s.sample r.stats r.previewLevel) = .ok x) := by
  refine ⟨r.report.isValid_iff, r.errors_eq_lines, fun valid => ?_⟩
  have noProblem : r.report.problems = [] := by
    rw [Report.isValid, Bool.and_eq_true, Bool.and_eq_true, Bool.and_eq_true,
      List.isEmpty_iff] at valid
    exact valid.1.1.1
  obtain ⟨stats, skills, order, ordered⟩ := problems_eq_nil.1 noProblem
  have resolves := resolves_of_resolutionOrder ordered
  refine ⟨stats, skills,
    ⟨order, ?_, perm_of_resolves stats resolves, fun s hs t ht f formula names => ?_⟩, ?_⟩
  · rw [report, ordered]
    rfl
  · exact resolves.sourcesFirst _ _ _ _ ⟨⟨s, hs, rfl⟩, t, ht, rfl, f, formula, names⟩
      (firstSpelling?_name stats hs)
      (firstSpelling?_name stats ht)
  · exact fun s hs f formula => exists_value (isValid_verdict valid hs) formula

def doubled : Rules :=
  { empty with stats := [.derived "HP" "str * 2", .base "STR" 10 2] }

theorem evaluate_doubled {b : Bindings} (h : b = [("STR", 30), ("Level", 10), ("BaseValue", 0)]) :
    evaluate "str * 2" b = .ok 60 := by
  have inOrder : Bindings.inOrder [("STR", 30), ("Level", 10), ("BaseValue", 0)] =
      [("BaseValue", 0), ("Level", 10), ("STR", 30)] := by
    refine Bindings.inOrder_eq (List.reverse_perm [(_, 30), (_, 10), (_, 0)]) ?_ (by decide)
    simp only [List.pairwise_cons]
    decide +kernel
  rw [h, evaluate_of_inOrder inOrder]
  exact ok_of_toOption (by decide +kernel)

theorem resolveAll_doubled : Stat.resolveAll doubled.stats 10 = [("STR", 30), ("HP", 60)] := by
  have order : Stat.resolved doubled.stats = ["STR", "HP"] := by decide +kernel
  have start : Bindings.ofList (Stat.baseValues doubled.stats 10) = [("STR", 30)] := by
    decide +kernel
  have first : Stat.resolveNext doubled.stats 10 [("STR", 30)] "STR" = [("STR", 30)] :=
    Stat.resolveNext_some (s := .base "STR" 10 2) (by decide)
  have second : Stat.resolveNext doubled.stats 10 [("STR", 30)] "HP" =
      [("STR", 30), ("HP", 60)] := by
    rw [Stat.resolveNext_some (s := .derived "HP" "str * 2") (by decide), Stat.settle,
      show (Stat.derived "HP" "str * 2").formula? = some "str * 2" by decide]
    dsimp only
    rw [evaluate_doubled (by decide +kernel)]
    decide +kernel
  rw [Stat.resolveAll_eq, order, start, List.foldl_cons, first, List.foldl_cons, second,
    List.foldl_nil]

theorem report_consistent_doubled : doubled.report.isValid = true ∧ doubled.report.errors = [] ∧
    ∃ order, doubled.report.resolutionOrder = some order ∧ order.Perm ["HP", "STR"] ∧
      ["STR", "HP"].Sublist order := by
  have problems : doubled.report.problems = [] := by decide +kernel
  have sample : (Stat.derived "HP" "str * 2").sample doubled.stats 10 =
      [("STR", 30), ("Level", 10), ("BaseValue", 0)] := by
    rw [Stat.sample, Stat.previews, resolveAll_doubled]
    decide +kernel
  have verdict : (Stat.derived "HP" "str * 2").verdict doubled.stats 10 = .valid (some 60) :=
    (validate_eq_valid_iff (by decide)).2 ⟨60, evaluate_doubled sample, by decide +kernel, rfl⟩
  have valid : doubled.report.isValid = true := by
    have stats : doubled.report.stats =
        [⟨"HP", "str * 2", (Stat.derived "HP" "str * 2").verdict doubled.stats 10⟩] := by
      simp only [report, statReports, doubled]
      rfl
    rw [Report.isValid, problems, stats, verdict]
    rfl
  obtain ⟨errors, -, order⟩ := report_consistent doubled
  obtain ⟨-, -, ⟨order, listed, perm, first⟩, -⟩ := order valid
  exact ⟨valid, errors.1 valid, order, listed, perm,
    first (.base "STR" 10 2) (by decide) (.derived "HP" "str * 2") (by decide)
    "str * 2" (by decide) ⟨"str", by decide +kernel, by decide +kernel⟩⟩

end Rules
end GameBalance
