import GameBalance.Text.Case

namespace GameBalance.Text

def words : List Char → List (List Char)
  | [] => []
  | c :: cs =>
    if isWord c then (c :: cs.takeWhile isWord) :: words (cs.dropWhile isWord) else words cs
termination_by cs => cs.length
decreasing_by
  · exact Nat.lt_succ_of_le (List.dropWhile_sublist _).length_le
  · exact Nat.lt_succ_self _

def mapWords (g : List Char → List Char) : List Char → List Char
  | [] => []
  | c :: cs =>
    if isWord c then g (c :: cs.takeWhile isWord) ++ mapWords g (cs.dropWhile isWord)
      else c :: mapWords g cs
termination_by cs => cs.length
decreasing_by
  · exact Nat.lt_succ_of_le (List.dropWhile_sublist _).length_le
  · exact Nat.lt_succ_self _

def IsWord (w : List Char) : Prop :=
  w ≠ [] ∧ ∀ c ∈ w, isWord c = true

theorem wordAt_dropWhile (cs : List Char) : wordAt (cs.dropWhile isWord).head? = false := by
  have h := List.head?_dropWhile_not isWord cs
  cases eq : (cs.dropWhile isWord).head? with
  | none => rfl
  | some c =>
    rw [eq] at h
    exact h

@[elab_as_elim]
theorem word_induction {p : List Char → Prop} (nil : p [])
    (other : ∀ c cs, isWord c = false → p cs → p (c :: cs))
    (word : ∀ w rest, IsWord w → wordAt rest.head? = false → p rest → p (w ++ rest))
    (cs : List Char) : p cs := by
  fun_induction words cs with
  | case1 => exact nil
  | case2 c cs h ih =>
    have word := word (c :: cs.takeWhile isWord) (cs.dropWhile isWord) ⟨List.cons_ne_nil _ _, ?_⟩
      (wordAt_dropWhile cs) ih
    · rwa [List.cons_append, List.takeWhile_append_dropWhile] at word
    · intro d hd
      obtain rfl | hd := List.mem_cons.1 hd
      · exact h
      · exact List.all_eq_true.1 List.all_takeWhile d hd
  | case3 c cs h ih => exact other c cs (Bool.eq_false_iff.2 h) ih

variable {w rest a b : List Char}

theorem IsWord.begins (h : IsWord w) : wordAt w.head? = true := by
  obtain ⟨c, cs, rfl⟩ := List.exists_cons_of_ne_nil h.1
  exact h.2 c List.mem_cons_self

theorem span_word (hw : ∀ c ∈ w, isWord c = true) (hr : wordAt rest.head? = false) :
    (w ++ rest).takeWhile isWord = w ∧ (w ++ rest).dropWhile isWord = rest := by
  rw [List.takeWhile_append_of_pos hw, List.dropWhile_append_of_pos hw]
  cases rest with
  | nil => simp
  | cons c cs =>
    have hc : isWord c = false := hr
    simp [hc]

@[simp] theorem words_nil : words [] = [] := by
  rw [words]

theorem words_other (h : isWord c = false) : words (c :: cs) = words cs := by
  rw [words]
  simp [h]

theorem words_word (hw : IsWord w) (hr : wordAt rest.head? = false) :
    words (w ++ rest) = w :: words rest := by
  obtain ⟨c, cs, rfl⟩ := List.exists_cons_of_ne_nil hw.1
  obtain ⟨run, left⟩ := span_word (fun d hd => hw.2 d (List.mem_cons_of_mem _ hd)) hr
  rw [List.cons_append, words, if_pos (hw.2 c List.mem_cons_self), run, left]

@[simp] theorem mapWords_nil : mapWords g [] = [] := by
  rw [mapWords]

theorem mapWords_other (h : isWord c = false) : mapWords g (c :: cs) = c :: mapWords g cs := by
  rw [mapWords]
  simp [h]

theorem mapWords_word (hw : IsWord w) (hr : wordAt rest.head? = false) :
    mapWords g (w ++ rest) = g w ++ mapWords g rest := by
  obtain ⟨c, cs, rfl⟩ := List.exists_cons_of_ne_nil hw.1
  obtain ⟨run, left⟩ := span_word (fun d hd => hw.2 d (List.mem_cons_of_mem _ hd)) hr
  rw [List.cons_append, mapWords, if_pos (hw.2 c List.mem_cons_self), run, left]

theorem mapWords_congr (h : ∀ w ∈ words cs, g w = g' w) : mapWords g cs = mapWords g' cs := by
  induction cs using word_induction with
  | nil => rw [mapWords_nil, mapWords_nil]
  | other c cs hc ih =>
    rw [words_other hc] at h
    rw [mapWords_other hc, mapWords_other hc, ih h]
  | word w rest hw hr ih =>
    rw [words_word hw hr] at h
    rw [mapWords_word hw hr, mapWords_word hw hr, h w List.mem_cons_self,
      ih fun w' hw' => h w' (List.mem_cons_of_mem _ hw')]

theorem mapWords_id (cs : List Char) : mapWords id cs = cs := by
  induction cs using word_induction with
  | nil => exact mapWords_nil
  | other c cs hc ih => rw [mapWords_other hc, ih]
  | word w rest hw hr ih => rw [mapWords_word hw hr, ih, id]

theorem mapWords_eq_self (h : ∀ w ∈ words cs, g w = w) : mapWords g cs = cs := by
  have eq : mapWords g cs = mapWords id cs := mapWords_congr h
  rw [eq, mapWords_id]

theorem mapWords_append (h : wordAt b.head? = false) :
    mapWords g (a ++ b) = mapWords g a ++ mapWords g b := by
  induction a using word_induction with
  | nil => rw [mapWords_nil, List.nil_append, List.nil_append]
  | other c cs hc ih =>
    rw [List.cons_append, mapWords_other hc, mapWords_other hc, ih, List.cons_append]
  | word w rest hw hr ih =>
    have next : wordAt (rest ++ b).head? = false := by
      cases rest with
      | nil => exact h
      | cons c cs => exact hr
    rw [List.append_assoc, mapWords_word hw next, mapWords_word hw hr, ih, List.append_assoc]

theorem wordAt_mapWords (h : wordAt cs.head? = false) : wordAt (mapWords g cs).head? = false := by
  cases cs with
  | nil =>
    rw [mapWords_nil]
    rfl
  | cons c cs =>
    rw [mapWords_other h]
    exact h

theorem mapWords_mapWords (g g' : List Char → List Char) (cs : List Char) :
    mapWords g' (mapWords g cs) = mapWords (fun w => mapWords g' (g w)) cs := by
  induction cs using word_induction with
  | nil => rw [mapWords_nil, mapWords_nil, mapWords_nil]
  | other c cs hc ih => rw [mapWords_other hc, mapWords_other hc, mapWords_other hc, ih]
  | word w rest hw hr ih =>
    rw [mapWords_word hw hr, mapWords_append (wordAt_mapWords hr), mapWords_word hw hr, ih]

theorem words_append (h : wordAt b.head? = false) : words (a ++ b) = words a ++ words b := by
  induction a using word_induction with
  | nil => rw [words_nil, List.nil_append, List.nil_append]
  | other c cs hc ih => rw [List.cons_append, words_other hc, words_other hc, ih]
  | word w rest hw hr ih =>
    have next : wordAt (rest ++ b).head? = false := by
      cases rest with
      | nil => exact h
      | cons c cs => exact hr
    rw [List.append_assoc, words_word hw next, words_word hw hr, ih, List.cons_append]

theorem words_dropWhile_subset (cs : List Char) : words (cs.dropWhile isWord) ⊆ words cs := by
  cases cs with
  | nil => exact List.Subset.refl _
  | cons c cs =>
    cases hc : isWord c with
    | true =>
      rw [List.dropWhile_cons_of_pos hc, words, if_pos hc]
      exact List.subset_cons_self _ _
    | false =>
      rw [List.dropWhile_cons_of_neg (Bool.eq_false_iff.1 hc)]
      exact List.Subset.refl _

theorem words_append_of_last (h : wordAt a.getLast? = false) :
    words (a ++ b) = words a ++ words b := by
  induction a using word_induction with
  | nil => rw [words_nil, List.nil_append, List.nil_append]
  | other c cs hc ih =>
    rw [List.cons_append, words_other hc, words_other hc, ih]
    cases cs with
    | nil => rfl
    | cons d cs => rwa [List.getLast?_cons_cons] at h
  | word w rest hw hr ih =>
    cases rest with
    | nil =>
      rw [List.append_nil, List.getLast?_eq_some_getLast hw.1] at h
      exact Bool.noConfusion ((hw.2 _ (List.getLast_mem hw.1)).symm.trans h)
    | cons c cs =>
      rw [List.getLast?_append, List.getLast?_eq_some_getLast (List.cons_ne_nil c cs),
        Option.some_or, ←
        List.getLast?_eq_some_getLast] at h
      rw [List.append_assoc, words_word hw (show wordAt ((c :: cs) ++ b).head? = false from hr),
        words_word hw hr, ih h, List.cons_append]

theorem mem_words_append (h : w ∈ words (a ++ b)) : w ∈ words b ∨ ∃ v ∈ words a, v <+: w := by
  induction a using word_induction with
  | nil => exact .inl h
  | other c cs hc ih =>
    rw [List.cons_append, words_other hc] at h
    rw [words_other hc]
    exact ih h
  | word v rest hv hr ih =>
    rw [words_word hv hr]
    cases rest with
    | nil =>
      obtain ⟨c, cs, rfl⟩ := List.exists_cons_of_ne_nil hv.1
      rw [List.append_nil, List.cons_append, words, if_pos (hv.2 c List.mem_cons_self),
        List.takeWhile_append_of_pos fun d hd => hv.2 d (List.mem_cons_of_mem c hd),
        List.dropWhile_append_of_pos fun d hd => hv.2 d (List.mem_cons_of_mem c hd)] at h
      obtain rfl | h := List.mem_cons.1 h
      · exact .inr ⟨c :: cs, List.mem_cons_self, List.prefix_append _ _⟩
      · exact .inl (words_dropWhile_subset b h)
    | cons c cs =>
      rw [List.append_assoc, words_word hv (show wordAt ((c :: cs) ++ b).head? = false from hr)]
        at h
      obtain rfl | h := List.mem_cons.1 h
      · exact .inr ⟨w, List.mem_cons_self, List.prefix_refl w⟩
      · obtain later | ⟨u, hu, starts⟩ := ih h
        · exact .inl later
        · exact .inr ⟨u, List.mem_cons_of_mem v hu, starts⟩

theorem words_mapWords (g : List Char → List Char) (cs : List Char) :
    words (mapWords g cs) = (words cs).flatMap fun w => words (g w) := by
  induction cs using word_induction with
  | nil => rw [mapWords_nil, words_nil, List.flatMap_nil]
  | other c cs hc ih => rw [mapWords_other hc, words_other hc, words_other hc, ih]
  | word w rest hw hr ih =>
    rw [mapWords_word hw hr, words_append (wordAt_mapWords hr), words_word hw hr,
      List.flatMap_cons, ih]

theorem words_of_isWord (hw : IsWord w) : words w = [w] := by
  have eq := words_word (w := w) hw (show wordAt [].head? = false from rfl)
  rwa [List.append_nil, words_nil] at eq

theorem mapWords_of_isWord (hw : IsWord w) : mapWords g w = g w := by
  have eq := mapWords_word (g := g) hw (show wordAt [].head? = false from rfl)
  rwa [List.append_nil, mapWords_nil, List.append_nil] at eq

theorem isWord_of_mem_words (h : w ∈ words cs) : IsWord w := by
  induction cs using word_induction with
  | nil => simp at h
  | other c cs hc ih => exact ih (words_other hc ▸ h)
  | word w' rest hw hr ih =>
    rw [words_word hw hr] at h
    obtain rfl | h := List.mem_cons.1 h
    · exact hw
    · exact ih h

theorem mem_of_mem_words (h : w ∈ words cs) (hc : c ∈ w) : c ∈ cs := by
  induction cs using word_induction with
  | nil => simp at h
  | other d cs hd ih => exact List.mem_cons_of_mem d (ih (words_other hd ▸ h))
  | word w' rest hw hr ih =>
    rw [words_word hw hr] at h
    obtain rfl | h := List.mem_cons.1 h
    · exact List.mem_append_left rest hc
    · exact List.mem_append_right w' (ih h)

end GameBalance.Text
