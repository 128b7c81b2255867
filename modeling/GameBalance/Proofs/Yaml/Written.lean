import GameBalance.Proofs.Yaml.Layout

namespace GameBalance.Yaml

def Printable (cs : List Char) : Prop :=
  ∀ c ∈ cs, isPrintable c = true

section Printable

variable {cs ds : List Char} {c : Char}

@[simp] theorem printable_nil : Printable [] :=
  List.forall_mem_nil _

@[simp] theorem printable_cons : Printable (c :: cs) ↔ isPrintable c = true ∧ Printable cs :=
  List.forall_mem_cons

@[simp] theorem printable_append : Printable (cs ++ ds) ↔ Printable cs ∧ Printable ds :=
  List.forall_mem_append

@[simp] theorem printable_spaces (n : Nat) : Printable (spaces n) := fun c hc => by
  rw [(List.mem_replicate.1 hc).2]
  rfl

theorem printable_margin (afterBreak : Bool) (indent : Nat) :
    Printable (if afterBreak then spaces indent else []) := by
  cases afterBreak with
  | true => exact printable_spaces indent
  | false => exact printable_nil

theorem printable_singleQuoted (h : Printable cs) (indent : Nat) (afterBreak : Bool) :
    Printable (singleQuoted indent afterBreak cs) := by
  have quote : isPrintable '\'' = true := rfl
  induction cs generalizing afterBreak with
  | nil => simp [singleQuoted, printable_margin, quote]
  | cons c cs ih =>
    obtain ⟨first, more⟩ := printable_cons.1 h
    rw [singleQuoted]
    split
    · exact printable_cons.2 ⟨first, ih more true⟩
    · have text : Printable (if c = '\'' then ['\'', '\''] else [c]) := by
        split <;> simp [quote, first]
      simp [printable_margin, text, ih more false]

theorem printable_literalLines (h : Printable cs) (indent : Nat) (afterBreak : Bool) :
    Printable (literalLines indent afterBreak cs) := by
  have feed : isPrintable '\n' = true := rfl
  induction cs generalizing afterBreak with
  | nil => cases afterBreak <;> simp [literalLines, feed]
  | cons c cs ih =>
    obtain ⟨first, more⟩ := printable_cons.1 h
    rw [literalLines]
    split
    · exact printable_cons.2 ⟨first, ih more true⟩
    · simp [printable_margin, first, ih more false]

theorem printable_depthMark (cs : List Char) : Printable (depthMark cs) := by
  obtain mark | ⟨mark, -⟩ := depthMark_eq cs <;> rw [mark]
  · exact printable_cons.2 ⟨rfl, printable_nil⟩
  · exact printable_nil

theorem printable_chompMark (cs : List Char) : Printable (chompMark cs) := by
  rw [chompMark_eq]
  cases chompOf cs with
  | strip => exact printable_cons.2 ⟨rfl, printable_nil⟩
  | clip => exact printable_nil
  | keep => exact printable_cons.2 ⟨rfl, printable_nil⟩

end Printable

theorem printable_scalarText {plain : Bool} {text : String}
    (canBe : plain = true → canBePlain text.toList = true)
    (indent : Nat) : Printable (scalarText indent plain text) := by
  have feed : isPrintable '\n' = true := rfl
  rw [scalarText]
  split
  · rename_i isPlain
    have printable : Printable text.toList := (PlainRest.of_canBePlain (canBe isPlain)).printable
    simp [printable, feed]
  · have bar : isPrintable '|' = true := rfl
    have single : isPrintable '\'' = true := rfl
    have double : isPrintable '"' = true := rfl
    split
    · rename_i literal
      have printable : Printable text.toList := isPrintable_of_canBeLiteral literal.2
      simp [bar, feed, printable_depthMark, printable_chompMark, printable_literalLines printable]
    · split
      · rename_i quoted
        have printable : Printable text.toList :=
          (SingleRest.of_canBeSingleQuoted quoted.2 quoted.1).printable
        simp [single, feed, printable_singleQuoted printable]
      · have printable : Printable (text.toList.flatMap escaped) := fun c hc => by
          obtain ⟨d, -, hd⟩ := List.mem_flatMap.1 hc
          exact printable_escaped d c hd
        simp [doubleQuoted, double, feed, printable]

theorem KeyName.printable {key : Node} (name : KeyName key) (indent : Nat) :
    Printable (renderKey indent key) := by
  obtain ⟨c, cs, plain, -, -, written⟩ := name.written
  have printable : Printable (c :: cs) := (PlainRest.of_canBePlain plain).printable
  have colon : isPrintable ':' = true := rfl
  rw [written]
  simp [printable_cons.1 printable, colon]

def Node.AllPrintable (n : Node) : Prop :=
  ∀ indent, Printable (n.render indent) ∧ Printable (n.renderValue indent)

theorem printable_renderItems {items : List Node} (h : ∀ item ∈ items, item.AllPrintable)
    (indent : Nat) :
    Printable (renderItems indent items) := by
  have dash : isPrintable '-' = true := rfl
  have space : isPrintable ' ' = true := rfl
  induction items with
  | nil => exact printable_nil
  | cons item items ih =>
    obtain ⟨first, more⟩ := List.forall_mem_cons.1 h
    simp [renderItems, dash, space, first (indent + 2), ih more]

theorem printable_renderEntries {entries : List (Node × Node)} (names : ∀ e ∈ entries, KeyName e.1)
    (h : ∀ e ∈ entries, e.2.AllPrintable) (indent : Nat) :
    Printable (renderEntries indent entries) := by
  induction entries with
  | nil => exact printable_nil
  | cons e entries ih =>
    obtain ⟨key, v⟩ := e
    obtain ⟨name, names⟩ := List.forall_mem_cons.1 names
    obtain ⟨value, more⟩ := List.forall_mem_cons.1 h
    simp [renderEntries, name.printable, (value indent).2, ih names more]

theorem Writable.printable {n : Node} (h : Writable n) : n.AllPrintable := by
  have space : isPrintable ' ' = true := rfl
  have feed : isPrintable '\n' = true := rfl
  have dash : isPrintable '-' = true := rfl
  induction h with
  | scalar canBe =>
    exact fun indent => by simp [Node.render, Node.renderValue, space, printable_scalarText canBe]
  | @sequence items _ ih =>
    have brackets : Printable ['[', ']', '\n'] := List.all_eq_true.1 rfl
    intro indent
    cases items with
    | nil => exact ⟨brackets, printable_cons.2 ⟨space, brackets⟩⟩
    | cons item items =>
      obtain ⟨first, more⟩ := List.forall_mem_cons.1 ih
      simp [Node.render, Node.renderValue, space, feed, dash, first (indent + 2),
        printable_renderItems more]
  | @mapping entries names _ ih =>
    have braces : Printable ['\x7b', '\x7d', '\n'] := List.all_eq_true.1 rfl
    intro indent
    cases entries with
    | nil => exact ⟨braces, printable_cons.2 ⟨space, braces⟩⟩
    | cons e entries =>
      obtain ⟨key, v⟩ := e
      obtain ⟨name, names⟩ := List.forall_mem_cons.1 names
      obtain ⟨value, more⟩ := List.forall_mem_cons.1 ih
      simp [Node.render, Node.renderValue, feed, name.printable, (value _).2,
        printable_renderEntries names more]

theorem normalized_eq_self {cs : List Char} (h : Printable cs) : normalized cs = cs := by
  have carriage : isPrintable '\r' = false := rfl
  have nextLine : isPrintable '\u0085' = false := rfl
  induction cs with
  | nil => rfl
  | cons c cs ih =>
    obtain ⟨first, more⟩ := printable_cons.1 h
    have apart : c ≠ '\r' ∧ c ≠ '\u0085' := by
      constructor
      · rintro rfl
        rw [carriage] at first
        cases first
      · rintro rfl
        rw [nextLine] at first
        cases first
    rw [normalized.eq_3 _ _ fun _ same => absurd same apart.1, ih more, if_neg (by simp [apart])]

theorem tokenize?_write {e : Node × Node} {entries : List (Node × Node)}
    (h : Writable (.mapping (e :: entries))) :
    tokenize? (write (.mapping (e :: entries))) =
      some ((Node.mapping (e :: entries)).tokens false) := by
  have printable : Printable ((Node.mapping (e :: entries)).render 0) := (h.printable 0).1
  have allowed : ((Node.mapping (e :: entries)).render 0).all isAllowed = true :=
    List.all_eq_true.2 fun c hc => by simp [isAllowed, printable c hc]
  rw [tokenize?, write, String.toList_ofList, allowed, if_pos rfl, normalized_eq_self printable]
  exact h.yields _ (Nat.lt_succ_of_le (Lexer.length_skip_le _ _ _ _ _))

end GameBalance.Yaml
