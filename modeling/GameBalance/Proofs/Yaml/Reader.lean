import GameBalance.Proofs.Yaml.Written
import GameBalance.Yaml.Reader

namespace GameBalance.Yaml

def blockValue? (fuel : Nat) : List Token → Option (Node × List Token)
  | .entry :: ts => (blockItems? fuel (.entry :: ts)).map fun (items, ts) => (.sequence items, ts)
  | ts => blockNode? fuel ts

/-- The tokens of a tree are read as that tree, where an item and where a value may stand. -/
structure ReadBack (n : Node) : Prop where
  item {fuel : Nat} (enough : (n.tokens false).length ≤ fuel) (rest : List Token) :
    blockNode? fuel (n.tokens false ++ rest) = some (n, rest)
  value {fuel : Nat} (enough : (n.tokens true).length < fuel) {rest : List Token}
      (ends : rest.head? ≠ some .entry) :
    blockValue? fuel (n.tokens true ++ rest) = some (n, rest)

def Token.startsNode : Token → Bool
  | .entry => false
  | .key _ _ => false
  | .blockEnd => false
  | _ => true

theorem starts_tokens (n : Node) : ∃ t ts, n.tokens false = t :: ts ∧ t.startsNode = true := by
  cases n with
  | scalar plain text => exact ⟨_, _, rfl, rfl⟩
  | sequence items => cases items <;> exact ⟨_, _, rfl, rfl⟩
  | mapping entries => cases entries <;> exact ⟨_, _, rfl, rfl⟩

theorem tokens_underKey (n : Node) :
    (∃ item items, n = .sequence (item :: items)) ∨ n.tokens true = n.tokens false := by
  cases n with
  | scalar plain text => exact .inr rfl
  | sequence items =>
    cases items with
    | nil => exact .inr rfl
    | cons item items => exact .inl ⟨item, items, rfl⟩
  | mapping entries => cases entries <;> exact .inr rfl

theorem starts_value (n : Node) :
    ∃ t ts, n.tokens true = t :: ts ∧ (t = .entry ∨ t.startsNode = true) := by
  obtain ⟨item, items, rfl⟩ | same := tokens_underKey n
  · exact ⟨_, _, rfl, .inl rfl⟩
  · obtain ⟨t, ts, begins, starts⟩ := starts_tokens n
    exact ⟨t, ts, same.trans begins, .inr starts⟩

section Steps

variable {t : Token} {ts rest : List Token} {fuel : Nat}

theorem blockItems?_entry (starts : t.startsNode = true)
    (h : blockNode? fuel (t :: ts) = some (item, rest)) :
    blockItems? (fuel + 1) (.entry :: t :: ts) = (blockItems? fuel rest).map fun (items, ts) =>
      (item :: items, ts) := by
  have step : blockItems? (fuel + 1) (.entry :: t :: ts) =
      (blockItems? fuel rest).bind fun (items, ts) => some (item :: items, ts) := by
    cases t <;> first
      | exact absurd starts Bool.false_ne_true
      | simp [blockItems?, h]
  rw [step]
  cases blockItems? fuel rest <;> rfl

theorem blockItems?_nil (ends : ts.head? ≠ some .entry) :
    blockItems? (fuel + 1) ts = some ([], ts) := by
  match ts, ends with
  | [], _ => rfl
  | t :: ts, ends => cases t <;> first | exact absurd rfl ends | rfl

theorem blockPairs?_key (starts : t = .entry ∨ t.startsNode = true)
    (h : blockValue? fuel (t :: ts) = some (v, rest)) :
    blockPairs? (fuel + 1) (.key plain text :: t :: ts) =
      (blockPairs? fuel rest).map fun (pairs, ts) => ((.scalar plain text, v) :: pairs, ts) := by
  have step : blockPairs? (fuel + 1) (.key plain text :: t :: ts) =
      (blockPairs? fuel rest).bind fun (pairs, ts) =>
      some ((.scalar plain text, v) :: pairs, ts) := by
    obtain rfl | starts := starts
    · rw [blockValue?] at h
      simp [blockPairs?, h]
    · cases t <;> first
        | exact absurd starts Bool.false_ne_true
        | (rw [blockValue?] at h
           · simp [blockPairs?, h]
           · simp)
  rw [step]
  cases blockPairs? fuel rest <;> rfl

end Steps

section Lists

theorem readBack_items {items : List Node} (h : ∀ item ∈ items, ReadBack item) {fuel : Nat}
    (enough : (itemTokens items).length < fuel) {rest : List Token}
    (ends : rest.head? ≠ some .entry) :
    blockItems? fuel (itemTokens items ++ rest) = some (items, rest) := by
  induction items generalizing fuel with
  | nil =>
    obtain ⟨fuel, rfl⟩ := Nat.exists_eq_add_one_of_ne_zero (Nat.ne_zero_of_lt enough)
    exact blockItems?_nil ends
  | cons item items ih =>
    obtain ⟨first, more⟩ := List.forall_mem_cons.1 h
    obtain ⟨fuel, rfl⟩ := Nat.exists_eq_add_one_of_ne_zero (Nat.ne_zero_of_lt enough)
    obtain ⟨t, ts, begins, starts⟩ := starts_tokens item
    rw [itemTokens, List.length_append, List.length_cons] at enough
    -- the dash is a token besides those of the item, so that the fuel is enough for both
    have enough' : (item.tokens false).length ≤ fuel := by omega
    have back := first.item enough' (itemTokens items ++ rest)
    rw [itemTokens, List.append_assoc, List.cons_append]
    rw [begins, List.cons_append] at back ⊢
    rw [blockItems?_entry starts back, ih more (by omega)]
    rfl

theorem readBack_entries {entries : List (Node × Node)} (names : ∀ e ∈ entries, KeyName e.1)
    (h : ∀ e ∈ entries, ReadBack e.2) {fuel : Nat} (enough : (entryTokens entries).length < fuel)
    (rest : List Token) :
    blockPairs? fuel (entryTokens entries ++ .blockEnd :: rest) =
      some (entries, .blockEnd :: rest) := by
  induction entries generalizing fuel with
  | nil =>
    obtain ⟨fuel, rfl⟩ := Nat.exists_eq_add_one_of_ne_zero (Nat.ne_zero_of_lt enough)
    rfl
  | cons e entries ih =>
    obtain ⟨key, v⟩ := e
    obtain ⟨first, more⟩ := List.forall_mem_cons.1 h
    obtain ⟨⟨text, name, -, -⟩, others⟩ := List.forall_mem_cons.1 names
    dsimp only at name first
    subst name
    obtain ⟨fuel, rfl⟩ := Nat.exists_eq_add_one_of_ne_zero (Nat.ne_zero_of_lt enough)
    obtain ⟨t, ts, begins, starts⟩ := starts_value v
    simp only [entryTokens, Node.keyTokens, List.length_append, List.length_cons,
      List.length_nil] at enough
    have ends : (entryTokens entries ++ .blockEnd :: rest).head? ≠ some .entry := by
      cases entries with
      | nil => simp [entryTokens]
      | cons e entries =>
        obtain ⟨⟨text, name, -, -⟩, -⟩ := List.forall_mem_cons.1 others
        rw [entryTokens, name]
        exact fun same => Token.noConfusion (Option.some.inj same)
    have enough' : (v.tokens true).length < fuel := by omega
    have back := first.value enough' ends
    simp only [entryTokens, Node.keyTokens, List.append_assoc, List.cons_append, List.nil_append]
    rw [begins, List.cons_append] at back ⊢
    rw [blockPairs?_key starts back, ih others more (by omega)]
    rfl

end Lists

theorem ReadBack.of_item {n : Node} (same : n.tokens true = n.tokens false)
    (h : ∀ fuel, (n.tokens false).length ≤ fuel + 1 → ∀ rest,
      blockNode? (fuel + 1) (n.tokens false ++ rest) = some (n, rest)) : ReadBack n := by
  obtain ⟨t, ts, begins, starts⟩ := starts_tokens n
  have item : ∀ {fuel}, (n.tokens false).length ≤ fuel →
      ∀ rest, blockNode? fuel (n.tokens false ++ rest) = some (n, rest) := by
    intro fuel enough
    have pos : fuel ≠ 0 := by
      rintro rfl
      rw [begins] at enough
      exact Nat.not_succ_le_zero _ enough
    obtain ⟨fuel, rfl⟩ := Nat.exists_eq_add_one_of_ne_zero pos
    exact h fuel enough
  refine ⟨item, fun enough rest _ => ?_⟩
  have back := item (Nat.le_of_lt (same ▸ enough)) rest
  rw [same]
  rw [begins, List.cons_append] at back ⊢
  rw [blockValue?, back]
  intro ts' same
  rw [(List.cons.inj same).1] at starts
  cases starts

theorem ReadBack.sequence {items : List Node} (h : ∀ item ∈ items, ReadBack item) :
    ReadBack (.sequence items) := by
  cases items with
  | nil => exact .of_item rfl fun _ _ _ => rfl
  | cons item items =>
    constructor
    · intro fuel enough rest
      obtain ⟨fuel, rfl⟩ := Nat.exists_eq_add_one_of_ne_zero (Nat.ne_zero_of_lt enough)
      rw [tokens_sequence, List.length_cons, List.length_append, List.length_singleton] at enough
      have enough' : (itemTokens (item :: items)).length < fuel := by omega
      have ends : (Token.blockEnd :: rest).head? ≠ some .entry := by simp
      have back := readBack_items h enough' ends
      simp [tokens_sequence, blockNode?, back]
    · intro fuel enough rest ends
      have back := readBack_items h enough ends
      rw [itemTokens, List.cons_append, List.cons_append] at back
      rw [tokens_sequence_underKey, itemTokens, List.cons_append, List.cons_append,
        blockValue?, back]
      rfl

theorem ReadBack.mapping {entries : List (Node × Node)} (names : ∀ e ∈ entries, KeyName e.1)
    (h : ∀ e ∈ entries, ReadBack e.2) : ReadBack (.mapping entries) := by
  cases entries with
  | nil => exact .of_item rfl fun _ _ _ => rfl
  | cons e entries =>
    refine .of_item rfl fun fuel enough rest => ?_
    rw [tokens_mapping, List.length_cons, List.length_append, List.length_singleton] at enough
    have enough' : (entryTokens (e :: entries)).length < fuel := by omega
    have back := readBack_entries names h enough' rest
    simp [tokens_mapping, blockNode?, back]

theorem Writable.readBack {n : Node} (h : Writable n) : ReadBack n := by
  induction h with
  | scalar => exact .of_item rfl fun _ _ _ => rfl
  | sequence _ ih => exact .sequence ih
  | mapping names _ ih => exact .mapping names ih

theorem read?_write {e : Node × Node} {entries : List (Node × Node)}
    (h : Writable (.mapping (e :: entries))) :
    read? (write (.mapping (e :: entries))) = some (.mapping (e :: entries)) := by
  have back := h.readBack.item (Nat.le_succ _) []
  have document : documentNode? ((Node.mapping (e :: entries)).tokens false) =
      some (.mapping (e :: entries), []) := by
    rw [List.append_nil, tokens_mapping] at back
    rw [tokens_mapping]
    exact back
  rw [read?, tokenize?_write h, Option.bind_eq_bind, Option.bind_some, document]
  rfl

end GameBalance.Yaml
