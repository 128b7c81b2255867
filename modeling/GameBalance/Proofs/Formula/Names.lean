import GameBalance.Formula.Name
import GameBalance.Proofs.Formula.Bindings

namespace GameBalance.Formula

open Text

theorem lowerAfter_ascii {before cs : List Char} (h : ∀ c ∈ cs, c.toNat < 128) :
    lowerAfter before cs = cs.map Char.toLower := by
  induction cs generalizing before with
  | nil => rfl
  | cons c cs ih =>
    obtain ⟨small, rest⟩ := List.forall_mem_cons.1 h
    rw [lowerAfter, if_neg (by omega), if_neg (by omega), mapChar, if_pos small, ih rest]
    rfl

theorem sameIgnoringCase_iff {s t : String} (hs : ∀ c ∈ s.toList, c.toNat < 128)
    (ht : ∀ c ∈ t.toList, c.toNat < 128) :
    sameIgnoringCase s t = true ↔ lowercase s = lowercase t := by
  rw [lowercase, lowercase, lowerAfter_ascii hs, lowerAfter_ascii ht]
  exact decide_eq_true_iff

theorem lowerAfter_eq_map_fold {before cs : List Char}
    (h : ∀ c ∈ lowerAfter before cs, isNamePart c = true) :
    lowerAfter before cs = cs.map fold := by
  induction cs generalizing before with
  | nil => rfl
  | cons c cs ih =>
    rw [lowerAfter] at h ⊢
    rw [ih fun d hd => h d (List.mem_append_right _ hd), List.map_cons]
    have first := fun d hd => h d (List.mem_append_left _ hd)
    split at first
    · split at first
      · cases first _ List.mem_cons_self
      · cases first _ List.mem_cons_self
    · split at first
      · cases first _ (List.mem_cons_of_mem _ List.mem_cons_self)
      · rename_i sigma dotted
        rw [if_neg sigma, if_neg dotted, fold_eq_of_isNamePart (first _ List.mem_cons_self)]
        rfl

theorem spells_of_lowercase {s name : String} (hn : IsName name.toList)
    (h : lowercase s = lowercase name) :
    spells name.toList s.toList = true := by
  have lower : lowerAfter [] s.toList = name.toList.map Char.toLower := by
    exact (String.ofList_inj.1 h).trans (lowerAfter_ascii hn.ascii)
  have part : ∀ c ∈ lowerAfter [] s.toList, isNamePart c = true := by
    rw [lower]
    intro c hc
    obtain ⟨d, hd, rfl⟩ := List.mem_map.1 hc
    rw [isNamePart_toLower d (hn.ascii d hd), hn.isNamePart d hd]
  rw [spells, decide_eq_true_eq, hn.map_fold, ← lower, lowerAfter_eq_map_fold part]

theorem namesIn_start (h : isNameStart c = true) :
    namesIn (c :: cs) = .ofList (c :: cs.takeWhile isNamePart) ::
      namesIn (cs.dropWhile isNamePart) := by
  rw [namesIn, if_pos h]

theorem namesIn_other (h : isNameStart c = false) : namesIn (c :: cs) = namesIn cs := by
  rw [namesIn, if_neg (Bool.eq_false_iff.1 h)]

theorem span_wordAt {rest : List Char} (h : wordAt rest.head? = false) :
    rest.takeWhile isNamePart = [] ∧ rest.dropWhile isNamePart = rest := by
  cases rest with
  | nil => exact ⟨rfl, rfl⟩
  | cons c cs =>
    have other : ¬isNamePart c = true :=
      fun part => Bool.eq_false_iff.1 h (isWord_of_isNamePart part)
    exact ⟨List.takeWhile_cons_of_neg other, List.dropWhile_cons_of_neg other⟩

theorem namesIn_append_subset {rest : List Char} (w : List Char) (h : wordAt rest.head? = false) :
    namesIn rest ⊆ namesIn (w ++ rest) := by
  fun_induction namesIn w with
  | case1 => exact List.Subset.refl _
  | case2 c cs start ih =>
    have left : (cs ++ rest).dropWhile isNamePart = cs.dropWhile isNamePart ++ rest := by
      rw [List.dropWhile_append]
      split
      · rename_i empty
        rw [(span_wordAt h).2, List.isEmpty_iff.1 empty, List.nil_append]
      · rfl
    rw [List.cons_append, namesIn_start start, left]
    exact List.subset_cons_of_subset _ ih
  | case3 c cs start ih =>
    rw [List.cons_append, namesIn_other (Bool.eq_false_iff.2 start)]
    exact ih

theorem mem_namesIn (hn : IsName name) (hw : name ∈ words cs) : .ofList name ∈ namesIn cs := by
  induction cs using word_induction with
  | nil => simp at hw
  | other c cs hc ih =>
    have other : isNameStart c = false := by
      rw [Bool.eq_false_iff]
      intro start
      exact Bool.eq_false_iff.1 hc (isWord_of_isNamePart (isNamePart_of_isNameStart start))
    rw [namesIn_other other]
    exact ih (words_other hc ▸ hw)
  | word w rest word hr ih =>
    rw [words_word word hr] at hw
    obtain rfl | hw := List.mem_cons.1 hw
    · obtain ⟨c, cs, rfl, start, part⟩ := hn
      have run : (cs ++ rest).takeWhile isNamePart = cs := by
        rw [List.takeWhile_append_of_pos part, (span_wordAt hr).1, List.append_nil]
      rw [List.cons_append, namesIn_start start, run]
      exact List.mem_cons_self
    · exact namesIn_append_subset w hr (ih hw)

theorem mem_addName_self (seen : List String) (name : String) :
    ∃ n ∈ addName seen name, sameIgnoringCase n name = true := by
  rw [addName]
  split
  · rename_i found
    exact List.any_eq_true.1 found
  · exact ⟨name, List.mem_append_right seen List.mem_cons_self, decide_eq_true rfl⟩

theorem subset_addName (seen : List String) (name : String) : seen ⊆ addName seen name := by
  rw [addName]
  split
  · exact List.Subset.refl seen
  · exact List.subset_append_left seen [name]

theorem addName_subset (seen : List String) (name : String) :
    addName seen name ⊆ seen ++ [name] := by
  rw [addName]
  split
  · exact List.subset_append_left seen [name]
  · exact List.Subset.refl _

theorem subset_foldl_addName (names seen : List String) : seen ⊆ names.foldl addName seen := by
  induction names generalizing seen with
  | nil => exact List.Subset.refl seen
  | cons name names ih => exact List.Subset.trans (subset_addName seen name) (ih _)

theorem foldl_addName_subset (names seen : List String) :
    names.foldl addName seen ⊆ seen ++ names := by
  induction names generalizing seen with
  | nil => exact List.subset_append_left seen []
  | cons name names ih =>
    refine List.Subset.trans (ih _) (List.append_subset.2 ⟨?_, ?_⟩)
    · exact List.Subset.trans (addName_subset seen name) (by simp)
    · exact List.Subset.trans (List.subset_cons_self name names) (List.subset_append_right seen _)

theorem exists_mem_foldl_addName {names : List String} (seen : List String) (h : name ∈ names) :
    ∃ n ∈ names.foldl addName seen, sameIgnoringCase n name = true := by
  induction names generalizing seen with
  | nil => cases h
  | cons first names ih =>
    obtain rfl | h := List.mem_cons.1 h
    · obtain ⟨n, hn, same⟩ := mem_addName_self seen name
      exact ⟨n, subset_foldl_addName names _ hn, same⟩
    · exact ih _ h

theorem exists_mem_freeNames (h : name ∈ referencedNames f) :
    ∃ n ∈ freeNames f, sameIgnoringCase n name = true :=
  exists_mem_foldl_addName [] h

theorem freeNames_subset (f : String) : freeNames f ⊆ referencedNames f :=
  foldl_addName_subset (referencedNames f) []

theorem isName_of_mem_namesIn (h : name ∈ namesIn cs) : IsName name.toList := by
  fun_induction namesIn cs with
  | case1 => cases h
  | case2 c cs start ih =>
    obtain rfl | h := List.mem_cons.1 h
    · rw [String.toList_ofList]
      exact ⟨c, _, rfl, start, List.all_eq_true.1 List.all_takeWhile⟩
    · exact ih h
  | case3 c cs start ih => exact ih h

theorem isName_of_mem_freeNames (h : name ∈ freeNames f) : IsName name.toList :=
  isName_of_mem_namesIn (List.mem_filter.1 (freeNames_subset f h)).1

theorem literalIn_eq {b : Bindings} (names : ∀ p ∈ b, IsName p.1.toList) (hw : IsName w) :
    literalIn b w = (b.value? (.ofList w)).elim w Decimal.plain := by
  rw [Bindings.value?, ← Bindings.find?_spells names hw, literalIn]
  split <;> rename_i found <;> rw [found] <;> rfl

theorem literalIn_other {b : Bindings} (names : ∀ p ∈ b, IsName p.1.toList)
    (part : ∀ c ∈ w, isNamePart c = true) (hw : ¬IsName w) : literalIn b w = w :=
  literalIn_eq_self fun p hp => Bool.eq_false_iff.2 fun same =>
    hw ((names p hp).of_spells same part)

theorem evaluate_congr {f : String} {b b' : Bindings} (ascii : ∀ c ∈ f.toList, c.toNat < 128)
    (proper : b.Proper) (proper' : b'.Proper) (finite : ∀ p ∈ b, p.2.isFinite = true)
    (finite' : ∀ p ∈ b', p.2.isFinite = true)
    (same : ∀ name ∈ referencedNames f, b.value? name = b'.value? name) :
    evaluate f b = evaluate f b' := by
  cases blank : isBlankText f with
  | true => rw [evaluate, evaluate, if_pos blank, if_pos blank]
  | false =>
    have ordered : ∀ {b : Bindings}, b.Proper → ∀ p ∈ b.inOrder, IsName p.1.toList :=
      fun proper p hp =>
      proper.names p ((Bindings.inOrder_perm _).mem_iff.1 hp)
    have needed : ∀ {b : Bindings}, (∀ p ∈ b, p.2.isFinite = true) → ∀ w ∈ words f.toList,
        ∀ p ∈ b.inOrder.find? (spells ·.1.toList w), p.2.isFinite = true := fun finite w _ p hp =>
      finite p ((Bindings.inOrder_perm _).mem_iff.1 (List.mem_of_find?_eq_some hp))
    have replaced : mapWords (literalIn b.inOrder) f.toList =
        mapWords (literalIn b'.inOrder) f.toList := by
      refine mapWords_congr fun w hw => ?_
      by_cases hn : IsName w
      · rw [literalIn_eq (ordered proper) hn, literalIn_eq (ordered proper') hn,
          proper.value?_perm b.inOrder_perm, proper'.value?_perm b'.inOrder_perm]
        have found : .ofList w ∈ scanNames f := mem_namesIn hn hw
        cases builtin : Builtin.isName (.ofList w) with
        | false => rw [same _ (List.mem_filter.2 ⟨found, by rw [builtin]; rfl⟩)]
        | true =>
          obtain ⟨function, hf⟩ := Option.isSome_iff_exists.1 builtin
          rw [Bindings.callsFree proper.noBuiltin _ _ hf,
            Bindings.callsFree proper'.noBuiltin _ _ hf]
      · have part : ∀ c ∈ w, isNamePart c = true := fun c hc => by
          rw [← isWord_eq_isNamePart (ascii c (mem_of_mem_words hw hc))]
          exact (isWord_of_mem_words hw).2 c hc
        rw [literalIn_other (ordered proper) part hn, literalIn_other (ordered proper') part hn]
    rw [evaluate_eq blank (Bindings.prepareText_eq proper.labels (needed finite)),
      evaluate_eq blank (Bindings.prepareText_eq proper'.labels (needed finite')), replaced]

end GameBalance.Formula
