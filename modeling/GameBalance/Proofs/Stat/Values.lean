import GameBalance.Proofs.Double.Range
import GameBalance.Proofs.Stat.Dependency

namespace GameBalance

open Formula Text Relation

namespace Formula.Bindings

variable {b : Bindings} {name : String} {value : Float}

theorem value?_append (b b' : Bindings) (name : String) :
    (b ++ b').value? name = (b.value? name).or (b'.value? name) := by
  simp only [value?, List.find?_append, Option.map_or]

theorem Proper.value?_eq_some_iff (h : b.Proper) :
    b.value? name = some value ↔ ∃ n, (n, value) ∈ b ∧ sameIgnoringCase n name = true := by
  rw [value?, Option.map_eq_some_iff]
  constructor
  · rintro ⟨⟨n, _⟩, found, rfl⟩
    have fits := List.find?_some found
    exact ⟨n, List.mem_of_find?_eq_some found, fits⟩
  · rintro ⟨n, mem, same⟩
    cases found : b.find? (sameIgnoringCase ·.1 name) with
    | none =>
      have other := List.find?_eq_none.1 found _ mem
      exact absurd same other
    | some p =>
      have fits := List.find?_some found
      rw [h.unique (List.mem_of_find?_eq_some found) mem fits same]
      exact ⟨_, rfl, rfl⟩

end Formula.Bindings

namespace Stat

variable {stats : List Stat} {level : UInt32} {values values' : Bindings} {s t : Stat}
    {f n : String} {x y : Float}

theorem isFinite_baseAt (s : Stat) (level : UInt32) : (s.baseAt level).isFinite = true := by
  have grown :=
    (Double.within_ofInt32 (s.growthPerLevel.getD 0)).mul (Double.within_ofUInt32 level) (by decide)
  exact ((Double.within_ofInt32 (s.baseValue.getD 10)).mono (by decide) |>.add grown
    (by decide)).isFinite (by decide)

/-- What a formula of `s` is evaluated under where the stats have `values`. -/
def context (s : Stat) (level : UInt32) (values : Bindings) : Bindings :=
  (values.set "Level" (Double.ofUInt32 level)).set "BaseValue" s.ownBase

structure Values (stats : List Stat) (values : Bindings) : Prop where
  distinct : (values.map Prod.fst).Nodup
  named : ∀ p ∈ values, ∃ s ∈ stats, s.name = p.1
  finite : ∀ p ∈ values, p.2.isFinite = true

theorem isName_reserved : ∀ n ∈ reservedNames, IsName n.toList := by
  decide

theorem noBuiltin_reserved : ∀ n ∈ reservedNames, Builtin.isName n = false := by
  decide

theorem distinct_reserved : reservedNames.Pairwise fun m n => sameIgnoringCase m n = false := by
  decide

namespace Values

theorem mem_names (h : Values stats values) (hn : n ∈ values.map Prod.fst) :
    ∃ s ∈ stats, s.name = n := by
  obtain ⟨p, hp, rfl⟩ := List.mem_map.1 hn
  exact h.named p hp

theorem eq_of_mem (h : Values stats values) (hx : (n, x) ∈ values) (hy : (n, y) ∈ values) :
    x = y := by
  have eq := List.inj_on_of_nodup_map h.distinct hx hy rfl
  exact congrArg Prod.snd eq

theorem nodup (h : Values stats values) : values.Nodup :=
  .of_map Prod.fst h.distinct

theorem set (h : Values stats values) (hs : s ∈ stats) (hx : x.isFinite = true) :
    Values stats (values.set s.name x) where
  distinct := Bindings.nodup_set h.distinct s.name x
  named p hp := by
    obtain ⟨-, rfl⟩ | ⟨-, old⟩ := Bindings.mem_set.1 hp
    · exact ⟨s, hs, rfl⟩
    · exact h.named p old
  finite p hp := by
    obtain ⟨-, rfl⟩ | ⟨-, old⟩ := Bindings.mem_set.1 hp
    · exact hx
    · exact h.finite p old

theorem unset (h : Values stats values) (n : String) : Values stats (values.unset n) where
  distinct := Bindings.nodup_unset h.distinct n
  named p hp := h.named p (Bindings.mem_unset.1 hp).1
  finite p hp := h.finite p (Bindings.mem_unset.1 hp).1

theorem lookup_eq_some_iff (h : Values stats values) :
    values.lookup n = some x ↔ (n, x) ∈ values := by
  rw [List.lookup_eq_some_iff]
  constructor
  · rintro ⟨before, after, rfl, -⟩
    exact List.mem_append_right _ List.mem_cons_self
  · intro mem
    obtain ⟨before, after, rfl⟩ := List.append_of_mem mem
    refine ⟨before, after, rfl, fun p hp => ?_⟩
    have distinct := h.distinct
    rw [List.map_append, List.nodup_append] at distinct
    simpa using (distinct.2.2 _ (List.mem_map_of_mem hp) n (by simp)).symm

variable (catalogue : Catalogue stats)

include catalogue

theorem not_mem_reserved (h : Values stats values) (hn : n ∈ reservedNames) :
    n ∉ values.map Prod.fst := by
  intro mem
  obtain ⟨s, hs, rfl⟩ := h.mem_names mem
  exact Bool.eq_false_iff.1 (catalogue.noReserved s hs _ hn) (decide_eq_true rfl)

theorem context_eq (h : Values stats values) (s : Stat) (level : UInt32) :
    s.context level values = values ++
      [("Level", Double.ofUInt32 level), ("BaseValue", s.ownBase)] := by
  rw [context, Bindings.set_eq (h.not_mem_reserved catalogue (by decide)), Bindings.set_eq,
    List.append_assoc]
  · rfl
  · rw [List.map_append, List.mem_append, not_or]
    exact ⟨h.not_mem_reserved catalogue (by decide), by simp⟩

theorem proper (h : Values stats values) : values.Proper where
  names p hp := by
    obtain ⟨s, hs, eq⟩ := h.named p hp
    exact eq ▸ catalogue.names s hs
  noBuiltin p hp := by
    obtain ⟨s, hs, eq⟩ := h.named p hp
    exact eq ▸ catalogue.noBuiltin s hs
  distinct := by
    refine (List.pairwise_map.1 h.distinct).imp_of_mem fun {p q} hp hq ne =>
      Bool.eq_false_iff.2 fun same => ne ?_
    obtain ⟨s, hs, eq⟩ := h.named p hp
    obtain ⟨t, ht, eq'⟩ := h.named q hq
    rw [← eq, ← eq'] at same ⊢
    rw [catalogue.eq_of_same hs ht same]

theorem proper_context (h : Values stats values) (s : Stat) (level : UInt32) :
    (s.context level values).Proper := by
  have proper := h.proper catalogue
  have reserved : ∀ p ∈ [("Level", Double.ofUInt32 level), ("BaseValue", s.ownBase)],
      p.1 ∈ reservedNames :=
    fun p hp => List.mem_map_of_mem (f := Prod.fst) hp
  rw [h.context_eq catalogue]
  constructor
  · exact List.forall_mem_append.2 ⟨proper.names, fun p hp => isName_reserved _ (reserved p hp)⟩
  · exact List.forall_mem_append.2
      ⟨proper.noBuiltin, fun p hp => noBuiltin_reserved _ (reserved p hp)⟩
  · refine List.pairwise_append.2
      ⟨proper.distinct, distinct_reserved.of_map Prod.fst fun _ _ other => other,
      fun p hp q hq => ?_⟩
    obtain ⟨t, ht, eq⟩ := h.named p hp
    exact eq ▸ catalogue.noReserved t ht _ (reserved q hq)

theorem finite_context (h : Values stats values) (s : Stat) (level : UInt32) :
    ∀ p ∈ s.context level values, p.2.isFinite = true := by
  rw [h.context_eq catalogue]
  intro p hp
  obtain hp | hp := List.mem_append.1 hp
  · exact h.finite p hp
  · simp only [List.mem_cons, List.not_mem_nil, or_false] at hp
    obtain rfl | rfl := hp
    · exact (Double.within_ofUInt32 level).isFinite (by decide)
    · exact (Double.within_ofInt32 _).isFinite (by decide)

theorem evaluate_congr (h : Values stats values) (h' : Values stats values') (ht : t ∈ stats)
    (formula : t.formula? = some f)
    (same : ∀ s, Feeds stats s t → ∀ x, (s.name, x) ∈ values ↔ (s.name, x) ∈ values') :
    evaluate f (t.context level values) = evaluate f (t.context level values') := by
  have read : ∀ {values values'}, Values stats values → Values stats values' →
      (∀ s, Feeds stats s t → ∀ x, (s.name, x) ∈ values → (s.name, x) ∈ values') →
      ∀ n ∈ referencedNames f, ∀ x, values.value? n = some x → values'.value? n = some x := by
    intro values values' h h' le n hn x value
    obtain ⟨_, mem, same⟩ := (h.proper catalogue).value?_eq_some_iff.1 value
    obtain ⟨s, hs, rfl⟩ := h.named _ mem
    obtain ⟨m, hm, same'⟩ := exists_mem_freeNames hn
    have feeds : Feeds stats s t :=
      feeds_iff.2 ⟨hs, ht, f, formula, m, hm, sameIgnoringCase_of_both same' same⟩
    exact (h'.proper catalogue).value?_eq_some_iff.2 ⟨s.name, le s feeds x mem, same⟩
  refine Formula.evaluate_congr (catalogue.ascii t ht f formula)
    (h.proper_context catalogue t level)
    (h'.proper_context catalogue t level) (h.finite_context catalogue t level)
    (h'.finite_context catalogue t level)
    fun n hn => ?_
  rw [h.context_eq catalogue, h'.context_eq catalogue, Bindings.value?_append,
    Bindings.value?_append]
  congr 1
  refine Option.ext fun x => ⟨read h h' (fun s feeds x => (same s feeds x).1) n hn x, ?_⟩
  exact read h' h (fun s feeds x => (same s feeds x).2) n hn x

end Values

end Stat

end GameBalance
