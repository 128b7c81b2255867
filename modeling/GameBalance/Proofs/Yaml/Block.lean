import GameBalance.Proofs.Yaml.Scalar
import GameBalance.Yaml.Block

namespace GameBalance.Yaml

def chompOf (cs : List Char) : Chomp :=
  match cs.reverse with
  | [] => .strip
  | [c] => if isBreak c then .keep else .strip
  | c :: d :: _ => if !isBreak c then .strip else if isBreak d then .keep else .clip

def Chomp.mark : Chomp → List Char
  | .strip => ['-']
  | .clip => []
  | .keep => ['+']

theorem chompMark_eq (cs : List Char) : chompMark cs = (chompOf cs).mark := by
  rw [chompMark, chompOf]
  cases cs.reverse with
  | nil => rfl
  | cons c ds =>
    cases ds with
    | nil =>
      dsimp only
      split <;> rfl
    | cons d ds =>
      dsimp only
      split
      · rfl
      · split <;> rfl

theorem chompOf_line (cs : List Char) (line : isBreak c = false) :
    chompOf (cs ++ [c]) = .strip := by
  rw [chompOf, List.reverse_append, List.reverse_singleton, List.singleton_append]
  cases cs.reverse with
  | nil => simp [line]
  | cons d ds => simp [line]

theorem chompOf_break (cs : List Char) (line : isBreak d = false) (broken : isBreak c = true) :
    chompOf (cs ++ [d] ++ [c]) = .clip := by
  simp [chompOf, line, broken]

theorem chompOf_breaks (cs : List Char) (before : isBreak d = true) (broken : isBreak c = true) :
    chompOf (cs ++ [d] ++ [c]) = .keep := by
  simp [chompOf, before, broken]

inductive Trailing : (cs first more : List Char) → Prop
  | all {bs : List Char} (h : ∀ c ∈ bs, isBreak c = true) : Trailing bs [] bs
  | after (cs : List Char) {c b : Char} {bs : List Char} (line : isBreak c = false)
      (first : isBreak b = true)
    (h : ∀ c ∈ bs, isBreak c = true) : Trailing (cs ++ [c] ++ b :: bs) [b] bs

theorem Trailing.snoc (h : Trailing cs first more) (broken : isBreak c = true) :
    Trailing (cs ++ [c]) first (more ++ [c]) := by
  have all : ∀ {bs : List Char}, (∀ d ∈ bs, isBreak d = true) → ∀ d ∈ bs ++ [c], isBreak d = true :=
    fun h d hd =>
      (List.mem_append.1 hd).elim (h d) fun hd => List.mem_singleton.1 hd ▸ broken
  cases h with
  | all h => exact .all (all h)
  | @after cs d b bs line first h =>
    rw [List.append_assoc, List.cons_append]
    exact .after cs line first (all h)

theorem Trailing.tail (h : Trailing cs first more) (ne : cs ≠ []) :
    (chompOf cs).tail first more = first ++ more := by
  cases h with
  | all h =>
    obtain ⟨bs, c, rfl⟩ := List.eq_nil_or_concat cs |>.resolve_left ne
    have broken : isBreak c = true := h c (by simp)
    rw [List.concat_eq_append]
    obtain rfl | ⟨ds, d, rfl⟩ := List.eq_nil_or_concat bs
    · simp [chompOf, broken, Chomp.tail]
    · rw [List.concat_eq_append, chompOf_breaks ds (h d (by simp)) broken, Chomp.tail]
  | @after cs c b _ line first h =>
    obtain rfl | ⟨ds, d, rfl⟩ := List.eq_nil_or_concat more
    · rw [chompOf_break cs line first, Chomp.tail, List.append_nil]
    · obtain ⟨es, e, eq, broken⟩ : ∃ es e, b :: ds = es ++ [e] ∧ isBreak e = true := by
        obtain ⟨es, e, eq⟩ :=
          List.eq_nil_or_concat (b :: ds) |>.resolve_left (List.cons_ne_nil b ds)
        rw [List.concat_eq_append] at eq
        refine ⟨es, e, eq, ?_⟩
        obtain rfl | mem :=
          List.mem_cons.1 (eq ▸ List.mem_append_right es List.mem_cons_self : e ∈ b :: ds)
        · exact first
        · exact h e (by simp [mem])
      have split : cs ++ [c] ++ b :: ds.concat d = cs ++ [c] ++ es ++ [e] ++ [d] := by
        rw [List.concat_eq_append, ← List.cons_append, eq]
        simp
      rw [split, chompOf_breaks _ broken (h d (by simp)), Chomp.tail]

section Lines

variable {h : BlockHeader} {indent : Nat}

theorem blockText_spaces (indented : Bool) (first more : List Char) {column j : Nat}
    (le : column + j ≤ indent) (cs : List Char) :
    blockText h indent (.between indented first more column) (spaces j ++ cs) =
      blockText h indent (.between indented first more (column + j)) cs := by
  induction j generalizing column with
  | zero => rfl
  | succ j ih =>
    rw [spaces, List.replicate_succ, List.cons_append, blockText, if_pos ⟨by omega, rfl⟩]
    exact (ih (by omega)).trans (by rw [Nat.add_right_comm, Nat.add_assoc])

theorem blockText_outdents (outdents : Outdents k rest) (hk : k < indent) (indented : Bool)
    (first more : List Char) :
    blockText h indent (.between indented first more 0) rest =
      some ⟨h.chomp.tail first more, afterDepth rest, depthOf rest, false, true⟩ := by
  cases outdents with
  | nil => rw [blockText]; rfl
  | @line j c cs le blank unbroken comment =>
    have less : j < indent := Nat.lt_of_le_of_lt le hk
    have space := ne_space_of_isBlank blank
    have tab : c ≠ '\t' := fun same => by
      subst same
      cases blank
    obtain ⟨depth, after⟩ := depth_spaces j cs space
    rw [blockText_spaces indented first more (by omega), depth, after, Nat.zero_add, blockText,
      if_neg (fun h => space h.2), if_neg (fun h => tab h.2), unbroken, if_neg Bool.false_ne_true,
      if_neg (Nat.ne_of_lt less)]

/-- The place where a block goes on after the text `before`: in a line, or between lines. -/
inductive Reached : (before : List Char) → (afterBreak : Bool) → BlockPlace → Prop
  | line (cs : List Char) {c : Char} (line : isBreak c = false) (indented : Bool) :
    Reached (cs ++ [c]) false (.line indented)
  | between {before first more : List Char} (trailing : Trailing before first more)
      (indented : Bool) :
    Reached before true (.between indented first more 0)

def BlockPlace.pending : BlockPlace → List Char
  | .line _ => []
  | .between _ first more _ => first ++ more

variable {rest : List Char} (outdents : Outdents k rest) (hk : k < indent)
    (literal : h.literal = true)
include outdents hk literal

theorem blockText_literalLines (printable : ∀ c ∈ cs, isPrintable c = true)
    (reached : Reached before afterBreak place)
    (chomp : h.chomp = chompOf (before ++ cs)) (ne : before ++ cs ≠ []) :
    blockText h indent place (literalLines indent afterBreak cs ++ rest) =
      some ⟨place.pending ++ cs, afterDepth rest, depthOf rest, false, true⟩ := by
  induction cs generalizing before afterBreak place with
  | nil =>
    rw [List.append_nil] at chomp ne ⊢
    cases reached with
    | line cs line indented =>
      have broken : isBreak '\n' = true := rfl
      rw [chompOf_line cs line] at chomp
      rw [literalLines, if_neg Bool.false_ne_true, List.singleton_append, blockText, if_pos broken,
        blockText_outdents outdents hk, chomp]
      rfl
    | between trailing indented =>
      rw [literalLines, if_pos rfl, List.nil_append, blockText_outdents outdents hk, chomp,
        trailing.tail ne]
      rfl
  | cons c cs ih =>
    have printable' : ∀ d ∈ cs, isPrintable d = true :=
      fun d hd => printable d (List.mem_cons_of_mem c hd)
    have split : before ++ c :: cs = before ++ [c] ++ cs := by simp
    rw [split] at chomp ne
    rw [literalLines]
    by_cases broken : isBreak c = true
    · rw [if_pos broken]
      cases reached with
      | @line cs' d line indented =>
        have trailing : Trailing (cs' ++ [d] ++ [c]) [c] [] :=
          .after cs' line broken (List.forall_mem_nil _)
        rw [List.cons_append, blockText, if_pos broken,
          ih printable' (.between trailing indented) chomp ne]
        rfl
      | @between _ first more trailing indented =>
        have space : c ≠ ' ' := fun same => by
          subst same
          cases broken
        have tab : c ≠ '\t' := fun same => by
          subst same
          cases broken
        rw [List.cons_append, blockText, if_neg (fun h => space h.2), if_neg (fun h => tab h.2),
          if_pos broken, ih printable' (.between (trailing.snoc broken) indented) chomp ne]
        simp [BlockPlace.pending]
    · rw [if_neg broken]
      have line : isBreak c = false := Bool.eq_false_iff.2 broken
      cases reached with
      | @line cs' d _ indented =>
        rw [if_neg Bool.false_ne_true, List.nil_append, List.cons_append, blockText, if_neg broken,
          ih printable' (.line _ line indented) chomp ne]
        simp [Scanned.prepend, BlockPlace.pending]
      | @between _ first more trailing indented =>
        rw [if_pos rfl, List.append_assoc, List.cons_append, blockText_spaces _ _ _ (by omega),
          Nat.zero_add, blockText, if_neg (fun h => Nat.lt_irrefl _ h.1),
          if_neg (fun h => Nat.lt_irrefl _ h.1), if_neg broken, if_pos rfl,
          ih printable' (.line _ line _) chomp ne]
        simp [Scanned.prepend, BlockPlace.pending, lineGap, literal]

end Lines

theorem depthMark_eq (cs : List Char) : depthMark cs = ['2'] ∨
    depthMark cs = [] ∧ ∀ c ∈ cs.head?, c ≠ ' ' ∧ isBreak c = false := by
  cases cs with
  | nil => exact .inr ⟨rfl, fun c hc => by cases hc⟩
  | cons c cs =>
    rw [depthMark]
    split
    · exact .inl rfl
    · rename_i begins
      rw [Bool.or_eq_true, not_or, decide_eq_true_eq, Bool.not_eq_true] at begins
      exact .inr ⟨rfl, fun d hd => Option.some.inj hd ▸ begins⟩

theorem header?_marks (chomp : Chomp) (lines : List Char) :
    header? true ('2' :: (chomp.mark ++ '\n' :: lines)) = some (⟨true, chomp, some 2⟩, lines) ∧
      header? true (chomp.mark ++ '\n' :: lines) = some (⟨true, chomp, none⟩, lines) := by
  cases chomp with
  | strip => exact ⟨rfl, rfl⟩
  | clip => exact ⟨rfl, rfl⟩
  | keep => exact ⟨rfl, rfl⟩

theorem depth?_spaces {column deepest : Nat} (j : Nat) (cs : List Char) :
    depth? column deepest (spaces j ++ cs) = depth? (column + j) deepest cs := by
  induction j generalizing column with
  | zero => rfl
  | succ j ih =>
    rw [spaces, List.replicate_succ, List.cons_append, depth?, if_pos rfl]
    exact ih.trans (by rw [Nat.add_right_comm, Nat.add_assoc])

theorem isPrintable_of_canBeLiteral (h : canBeLiteral cs = true) :
    ∀ c ∈ cs, isPrintable c = true := by
  rw [canBeLiteral, Bool.and_eq_true, Bool.and_eq_true] at h
  exact List.all_eq_true.1 h.1.1

theorem blockScalar?_literal (margin : Nat) (broken : '\n' ∈ cs)
    (printable : ∀ c ∈ cs, isPrintable c = true) (outdents : Outdents k rest) (hk : k ≤ margin) :
    blockScalar? true (margin + 1)
      (depthMark cs ++ chompMark cs ++ '\n' :: (literalLines (margin + 2) true cs ++ rest)) =
      some ⟨cs, afterDepth rest, depthOf rest, false, true⟩ := by
  have ne : cs ≠ [] := List.ne_nil_of_mem broken
  have lines : ∀ extra, blockText ⟨true, chompOf cs, extra⟩ (margin + 2) (.between false [] [] 0)
      (literalLines (margin + 2) true cs ++ rest) =
      some ⟨cs, afterDepth rest, depthOf rest, false, true⟩ := fun extra =>
    blockText_literalLines outdents (by omega) rfl printable
      (.between (.all (List.forall_mem_nil _)) false) rfl ne
  obtain ⟨marked, unmarked⟩ :=
    header?_marks (chompOf cs) (literalLines (margin + 2) true cs ++ rest)
  rw [chompMark_eq, blockScalar?]
  obtain mark | ⟨mark, begins⟩ := depthMark_eq cs
  · rw [mark, List.singleton_append, List.cons_append, marked]
    exact lines _
  · obtain ⟨c, cs', rfl⟩ := List.exists_cons_of_ne_nil ne
    obtain ⟨space, unbroken⟩ := begins c rfl
    have tab : c ≠ '\t' := fun same => by
      have printed := printable c List.mem_cons_self
      subst same
      cases printed
    have depth : depth? 0 0 (literalLines (margin + 2) true (c :: cs') ++ rest) =
        some (margin + 2) := by
      rw [literalLines, unbroken, if_neg Bool.false_ne_true, if_pos rfl, List.append_assoc,
        depth?_spaces, List.cons_append, depth?, if_neg space, if_neg tab, unbroken,
        if_neg Bool.false_ne_true, Nat.zero_add, Nat.max_zero]
    have deep : max (margin + 2) (max (margin + 1) 1) = margin + 2 := by omega
    rw [mark, List.nil_append, unmarked]
    simp only [Option.bind_eq_bind, Option.bind_some, depth, Option.map_some, deep]
    exact lines _

end GameBalance.Yaml
