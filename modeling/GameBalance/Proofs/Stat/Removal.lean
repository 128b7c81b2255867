import GameBalance.Proofs.Formula.Absence
import GameBalance.Proofs.Formula.Checks
import GameBalance.Proofs.Stat.Context
import GameBalance.Proofs.Stat.Subgraph

namespace GameBalance

open Formula Text

namespace Formula.Bindings

variable {b b' : Bindings} {n m : String} {x : Float}

def Drops (n : String) (b b' : Bindings) : Prop :=
  b' = b ∨ b' = b.unset n

namespace Drops

theorem set (h : Drops n b b') (m : String) (x : Float) : Drops n (b.set m x) (b'.set m x) := by
  obtain rfl | rfl := h
  · exact .inl rfl
  · by_cases same : m = n
    · subst same
      exact .inl (set_unset_self b m x)
    · exact .inr (unset_set b same x).symm

theorem unset (h : Drops n b b') (m : String) : Drops n (b.unset m) (b'.unset m) := by
  obtain rfl | rfl := h
  · exact .inl rfl
  · exact .inr (unset_unset b n m)

theorem lookup (h : Drops n b b') (ne : m ≠ n) : b'.lookup m = b.lookup m := by
  obtain rfl | rfl := h
  · rfl
  · exact lookup_unset b ne

theorem evaluate (h : Drops n b b') (hn : IsName n.toList) (worded : b.Worded)
    (absent : Absent n.toList f.toList) :
    evaluate f b' = evaluate f b := by
  obtain rfl | rfl := h
  · rfl
  · exact absent.evaluate_unset hn worded

end Drops

namespace Worded

theorem set (h : b.Worded) (begins : wordAt n.toList.head? = true) (x : Float) :
    (b.set n x).Worded where
  begins p hp := by
    obtain ⟨eq, -⟩ | ⟨-, old⟩ := mem_set.1 hp
    · exact eq ▸ begins
    · exact h.begins p old
  distinct := nodup_set h.distinct n x

theorem unset (h : b.Worded) (n : String) : (b.unset n).Worded where
  begins p hp := h.begins p (mem_unset.1 hp).1
  distinct := nodup_unset h.distinct n

end Worded

end Formula.Bindings

namespace Stat

variable {stats : List Stat} {level : UInt32} {values : Bindings} {x s : Stat} {f m : String}

/-- Formulas can mean a stat by no other word than its name, which is that of a variable. -/
structure Recognizable (x : Stat) (stats : List Stat) : Prop where
  name : IsName x.name.toList
  noBuiltin : Builtin.isName x.name = false
  begins : ∀ s ∈ stats, wordAt s.name.toList.head? = true
  plain : ∀ s ∈ stats, ∀ f, s.formula? = some f →
    ∀ w ∈ words f.toList, spells x.name.toList w = true →
    ∀ c ∈ w, isNamePart c = true

def others (x : Stat) (stats : List Stat) : List Stat :=
  stats.filter (·.node ≠ x.node)

theorem worded_of_values (begins : ∀ s ∈ stats, wordAt s.name.toList.head? = true)
    (h : Values stats values) :
    values.Worded where
  begins p hp := by
    obtain ⟨s, hs, eq⟩ := h.named p hp
    exact eq ▸ begins s hs
  distinct := h.distinct

theorem find?_others (ne : lowercase m ≠ x.node) :
    (others x stats).find? (·.name = m) = stats.find? (·.name = m) := by
  rw [others, List.find?_filter]
  refine List.find?_congr fun s _ => ?_
  by_cases eq : s.name = m
  · subst eq
    have other : s.node ≠ x.node := ne
    simp [other]
  · simp [eq]

theorem mem_knownNames_others (ne : lowercase m ≠ x.node) :
    lowercase m ∈ knownNames ((others x stats).map name) ↔
    lowercase m ∈ knownNames (stats.map name) := by
  simp only [knownNames, List.map_append, List.mem_append, List.map_map, List.mem_map]
  refine or_congr_left (exists_congr fun s => ?_)
  rw [others, List.mem_filter, and_right_comm]
  refine and_iff_left_of_imp fun mem => decide_eq_true fun own => ne ?_
  rw [← mem.2]
  exact own

section Unread

variable (unread : x.dependents stats = []) (hs : s ∈ stats) (formula : s.formula? = some f)

include unread hs formula in
theorem not_mem_referencedNames (hm : m ∈ referencedNames f) :
    sameIgnoringCase m x.name = false := by
  rw [Bool.eq_false_iff]
  intro own
  obtain ⟨n, hn, same⟩ := exists_mem_freeNames hm
  have same' : sameIgnoringCase n x.name = true :=
    decide_eq_true ((of_decide_eq_true same).trans (of_decide_eq_true own))
  have mem : s ∈ x.dependents stats := by
    rw [dependents, List.mem_filter, formula]
    exact ⟨hs, List.any_eq_true.2 ⟨n, hn, same'⟩⟩
  rw [unread] at mem
  cases mem

namespace Recognizable

variable (known : Recognizable x stats)

include known unread

include hs formula in
theorem lowercase_ne (hm : m ∈ referencedNames f) : lowercase m ≠ x.node := by
  have other := not_mem_referencedNames unread hs formula hm
  have ascii := (isName_of_mem_namesIn (List.mem_filter.1 hm).1).ascii
  exact fun eq => Bool.eq_false_iff.1 other ((sameIgnoringCase_iff ascii known.name.ascii).2 eq)

include hs formula in
theorem absent : Absent x.name.toList f.toList := by
  intro w hw
  rw [Bool.eq_false_iff]
  intro fits
  have part := known.plain s hs f formula w hw fits
  have name : IsName w := by
    obtain ⟨c, w, rfl⟩ := List.exists_cons_of_ne_nil (isWord_of_mem_words hw).1
    obtain ⟨first, rest⟩ := List.forall_mem_cons.1 part
    refine ⟨c, w, rfl, ?_, rest⟩
    refine isNameStart_of_isNamePart first (Bool.eq_false_iff.2 fun digit => ?_)
    rw [spells_digit known.name digit] at fits
    cases fits
  have own : sameIgnoringCase (.ofList w) x.name = true := by
    rw [spells_eq known.name name, String.ofList_toList] at fits
    exact decide_eq_true (of_decide_eq_true fits).symm
  have free : Builtin.isName (.ofList w) = false := by
    rw [Builtin.isName, lookup?_of_same own]
    exact known.noBuiltin
  have referenced : .ofList w ∈ referencedNames f :=
    List.mem_filter.2 ⟨mem_namesIn name hw, by rw [free]; rfl⟩
  exact Bool.eq_false_iff.1 (not_mem_referencedNames unread hs formula referenced) own

theorem sink (n : String) : ¬(DependencyGraph.ofStats stats).graph.Edge x.node n := by
  intro edge
  obtain ⟨-, t, ht, -, f, formula, m, hm, eq⟩ := DependencyGraph.edge_iff.1 edge
  exact known.lowercase_ne unread ht formula (freeNames_subset f hm) eq

include hs in
theorem settle_unset (ne : s.name ≠ x.name) (h : Values stats values) :
    (settle level values s).unset x.name = settle level (values.unset x.name) s := by
  have same : ∀ f, s.formula? = some f →
      evaluate f (s.context level (values.unset x.name)) = evaluate f (s.context level values) := by
    intro f formula
    have worded : (s.context level values).Worded :=
      ((worded_of_values known.begins h).set (by decide) _).set (by decide) _
    have drops : (s.context level values).Drops x.name (s.context level (values.unset x.name)) :=
      .set (.set (.inr rfl) _ _) _ _
    exact drops.evaluate known.name worded (known.absent unread hs formula)
  rw [settle, settle]
  cases formula : s.formula? with
  | none => rfl
  | some f =>
    dsimp only
    rw [same f formula]
    split
    · split
      · exact Bindings.unset_set values ne _
      · rfl
    · rfl

theorem resolveNext_other (ne : lowercase m ≠ x.node) (h : Values stats values) :
    (resolveNext stats level values m).unset x.name =
      resolveNext (others x stats) level (values.unset x.name) m := by
  have found : (others x stats).find? (·.name = m) = stats.find? (·.name = m) := find?_others ne
  cases found' : stats.find? (·.name = m) with
  | none => rw [resolveNext_none found', resolveNext_none (found.trans found')]
  | some s =>
    rw [resolveNext_some found', resolveNext_some (found.trans found')]
    have eq := List.find?_some found'
    refine known.settle_unset unread (List.mem_of_find?_eq_some found') (fun own => ne ?_) h
    rw [← of_decide_eq_true eq, own]
    rfl

end Recognizable

end Unread

section Single

variable (single : ∀ s ∈ stats, s.node = x.node → s.name = x.name)

include single

theorem resolveNext_own (eq : lowercase m = x.node) (values : Bindings) :
    (resolveNext stats level values m).unset x.name = values.unset x.name := by
  cases found : stats.find? (·.name = m) with
  | none => rw [resolveNext_none found]
  | some s =>
    rw [resolveNext_some found]
    obtain ⟨f, y, -, -, -, settled⟩ | ⟨-, settled⟩ := settle_cases level values s
    · have named := List.find?_some found
      have own : s.name = x.name := by
        refine single s (List.mem_of_find?_eq_some found) ?_
        rw [node, of_decide_eq_true named, eq]
      rw [settled, own, Bindings.unset_set_self]
    · rw [settled]

theorem baseValues_others (level : UInt32) :
    baseValues (others x stats) level = (baseValues stats level).filter (·.1 ≠ x.name) := by
  rw [baseValues, baseValues, others, List.filter_map, List.filter_filter, List.filter_filter]
  refine congrArg (List.map _) (List.filter_congr fun s hs => ?_)
  by_cases own : s.node = x.node
  · simp [own, single s hs own]
  · have other : s.name ≠ x.name := fun eq => own (congrArg lowercase eq)
    simp [own, other]

namespace Recognizable

variable (unread : x.dependents stats = []) (known : Recognizable x stats)

include unread known

theorem foldl_resolveNext_unset (h : Values stats values) (names : List String) :
    (names.foldl (resolveNext stats level) values).unset x.name =
      (names.filter (lowercase · ≠ x.node)).foldl (resolveNext (others x stats) level)
        (values.unset x.name) := by
  induction names generalizing values with
  | nil => rfl
  | cons name names ih =>
    rw [List.foldl_cons, ih (h.resolveNext level name)]
    by_cases own : lowercase name = x.node
    · rw [List.filter_cons_of_neg (by simpa using own), resolveNext_own single own]
    · rw [List.filter_cons_of_pos (by simpa using own), List.foldl_cons,
        known.resolveNext_other unread own h]

theorem resolveAll_others (level : UInt32) :
    resolveAll (others x stats) level = (resolveAll stats level).unset x.name := by
  rw [resolveAll_eq, resolveAll_eq, baseValues_others single, ← Bindings.unset_ofList,
    known.foldl_resolveNext_unset single unread (Values.ofList_baseValues stats level), others,
    DependencyGraph.resolved_filter (known.sink unread)]

theorem drops_previews (level : UInt32) :
    (previews stats level).Drops x.name (previews (others x stats) level) := by
  rw [previews, previews, known.resolveAll_others single unread]
  exact .set (.inr rfl) _ _

theorem verdict_others (hs : s ∈ stats) (level : UInt32) :
    s.verdict (others x stats) level = s.verdict stats level := by
  cases formula : s.formula? with
  | none => rw [verdict, verdict, formula]
  | some f =>
    rw [verdict_eq formula, verdict_eq formula]
    refine validate_congr
      (fun m hm => mem_knownNames_others (known.lowercase_ne unread hs formula hm)) ?_
    · have worded : (s.sample stats level).Worded :=
        (((worded_of_values known.begins (Values.resolveAll stats level)).set (by decide) _).unset
          s.name).set (by decide) _
      have drops : (s.sample stats level).Drops x.name (s.sample (others x stats) level) :=
        .set ((known.drops_previews single unread level).unset s.name) _ _
      exact drops.evaluate known.name worded (known.absent unread hs formula)

end Recognizable

end Single

/--
A stat that no formula reads can be removed: the values of the others, the verdicts on their
formulas and their previews stay what they are.
-/
theorem remove_unread (before after : List Stat) (x : Stat) (level : UInt32)
    (distinct : (before ++ x :: after).Pairwise fun s t => s.node ≠ t.node)
    (known : Recognizable x (before ++ x :: after))
    (unread : x.dependents (before ++ x :: after) = []) :
    resolveAll (before ++ after) level = (resolveAll (before ++ x :: after) level).unset x.name ∧
      ∀ s ∈ before ++ after, s.verdict (before ++ after) level =
        s.verdict (before ++ x :: after) level ∧
        (previews (before ++ after) level).lookup s.name =
          (previews (before ++ x :: after) level).lookup s.name := by
  have apart : ∀ s ∈ before ++ after, s.node ≠ x.node := by
    have split := List.perm_middle.pairwise_iff (fun {s t} ne => Ne.symm ne) |>.1 distinct
    exact fun s hs => ((List.pairwise_cons.1 split).1 s hs).symm
  have single : ∀ s ∈ before ++ x :: after, s.node = x.node → s.name = x.name := by
    intro s hs eq
    obtain rfl | hs := List.mem_cons.1 (List.perm_middle.mem_iff.1 hs)
    · rfl
    · exact absurd eq (apart s hs)
  have rest : before ++ after = others x (before ++ x :: after) := by
    rw [others, List.filter_append, List.filter_cons_of_neg (by simp), ← List.filter_append]
    exact (List.filter_eq_self.2 fun s hs => by simpa using apart s hs).symm
  rw [rest]
  refine ⟨known.resolveAll_others single unread level, fun s hs => ?_⟩
  have listed : s ∈ before ++ x :: after := (List.mem_filter.1 hs).1
  have ne : s.name ≠ x.name := fun eq => apart s (rest ▸ hs) (congrArg lowercase eq)
  exact ⟨known.verdict_others single unread listed level,
    (known.drops_previews single unread level).lookup ne⟩

def withHP : List Stat :=
  [base "STR" 10 2] ++
    derived "HP" "STR * 2" :: [derived "HPs" "str + 1", derived "Größe" "HPs * Level"]

def withoutHP : List Stat :=
  [base "STR" 10 2] ++ [derived "HPs" "str + 1", derived "Größe" "HPs * Level"]

theorem remove_unread_derived :
    (withHP.Pairwise fun s t => s.node ≠ t.node) ∧ Recognizable (derived "HP" "STR * 2") withHP ∧
      (derived "HP" "STR * 2").dependents withHP = [] ∧
      resolveAll withoutHP 3 = (resolveAll withHP 3).unset "HP" ∧
      (derived "Größe" "HPs * Level").verdict withoutHP 3 =
        (derived "Größe" "HPs * Level").verdict withHP 3 ∧
      (previews withoutHP 3).lookup "Größe" = (previews withHP 3).lookup "Größe" := by
  have distinct : withHP.Pairwise fun s t => s.node ≠ t.node := by decide +kernel
  have unread : (derived "HP" "STR * 2").dependents withHP = [] := by decide +kernel
  have plain : ∀ s ∈ withHP, ∀ f ∈ s.formula?, ∀ w ∈ words f.toList, spells "HP".toList w = true →
      ∀ c ∈ w, isNamePart c = true := by
    decide +kernel
  have known : Recognizable (derived "HP" "STR * 2") withHP :=
    ⟨by decide, by decide, by decide +kernel, plain⟩
  obtain ⟨values, others⟩ :=
    remove_unread [base "STR" 10 2] [derived "HPs" "str + 1", derived "Größe" "HPs * Level"]
    (derived "HP" "STR * 2") 3 distinct known unread
  exact ⟨distinct, known, unread, values, others (derived "Größe" "HPs * Level") (by simp)⟩

def kelvin : List Stat :=
  [base "\u212A" 10 1, derived "t" "k * 2"]

theorem evaluate_kelvin :
    evaluate "k * 2" ((derived "t" "k * 2").context 1 [("\u212A", 11)]) = .ok 22 := by
  have context : (derived "t" "k * 2").context 1 [("\u212A", 11)] =
      [("\u212A", 11), ("Level", 1), ("BaseValue", 0)] := by
    decide +kernel
  have inOrder : Bindings.inOrder [("\u212A", 11), ("Level", 1), ("BaseValue", 0)] =
      [("BaseValue", 0), ("Level", 1), ("\u212A", 11)] := by
    refine Bindings.inOrder_eq (List.reverse_perm [(_, 11), (_, 1), (_, 0)]) ?_ (by decide)
    simp only [List.pairwise_cons]
    decide +kernel
  rw [context, evaluate_of_inOrder inOrder]
  exact ok_of_toOption (by decide +kernel)

theorem resolveAll_kelvin : resolveAll kelvin 1 = [("\u212A", 11), ("t", 22)] := by
  have order : resolved kelvin = ["\u212A", "t"] := by decide +kernel
  have start : Bindings.ofList (baseValues kelvin 1) = [("\u212A", 11)] := by decide +kernel
  have first : resolveNext kelvin 1 [("\u212A", 11)] "\u212A" = [("\u212A", 11)] :=
    resolveNext_some (s := base "\u212A" 10 1) (by decide)
  have second : resolveNext kelvin 1 [("\u212A", 11)] "t" = [("\u212A", 11), ("t", 22)] := by
    rw [resolveNext_some (s := derived "t" "k * 2") (by decide), settle,
      show (derived "t" "k * 2").formula? = some "k * 2" by decide]
    dsimp only
    rw [evaluate_kelvin]
    decide +kernel
  rw [resolveAll_eq, order, start, List.foldl_cons, first, List.foldl_cons, second, List.foldl_nil]

theorem resolveAll_kelvin_removed : resolveAll [derived "t" "k * 2"] 1 = [] := by
  have order : resolved [derived "t" "k * 2"] = ["t"] := by decide +kernel
  have context : (derived "t" "k * 2").context 1 [] = [("Level", 1), ("BaseValue", 0)] := by
    decide +kernel
  have inOrder : Bindings.inOrder [("Level", 1), ("BaseValue", 0)] =
      [("BaseValue", 0), ("Level", 1)] := by
    refine Bindings.inOrder_eq (List.reverse_perm [(_, 1), (_, 0)]) ?_ (by decide)
    simp only [List.pairwise_cons]
    decide +kernel
  have failed : (evaluate "k * 2" ((derived "t" "k * 2").context 1 [])).toOption = none := by
    rw [context, evaluate_of_inOrder inOrder]
    decide +kernel
  have step : resolveNext [derived "t" "k * 2"] 1 [] "t" = [] := by
    rw [resolveNext_some (s := derived "t" "k * 2") (by decide)]
    obtain ⟨f, x, formula, value, -⟩ | ⟨-, eq⟩ := settle_cases 1 [] (derived "t" "k * 2")
    · obtain rfl : "k * 2" = f := Option.some.inj formula
      rw [value] at failed
      cases failed
    · exact eq
  rw [resolveAll_eq, order, List.foldl_cons, List.foldl_nil]
  exact step

/-- No stat is said to depend on the first one, though the second loses its value with it. -/
theorem kelvin_removed :
    (kelvin.Pairwise fun s t => s.node ≠ t.node) ∧ (base "\u212A" 10 1).dependents kelvin = [] ∧
      (previews kelvin 1).lookup "t" = some 22 ∧
      (previews [derived "t" "k * 2"] 1).lookup "t" = none := by
  refine ⟨by decide +kernel, by decide +kernel, ?_, ?_⟩
  · rw [previews, resolveAll_kelvin]
    decide +kernel
  · rw [previews, resolveAll_kelvin_removed]
    decide +kernel

end Stat

end GameBalance
