import GameBalance.Proofs.Yaml.Token

/-!
Tokens of the trees that are written. A tree stands in the text either
right after the dash of an item, or after a key; a sequence after a key has
its items in the column of the key and so opens no collection of its own.
-/

namespace GameBalance.Yaml

def Node.keyTokens : Node → List Token
  | .scalar plain text => [.key plain text]
  | _ => []

mutual

def Node.tokens (underKey : Bool) : Node → List Token
  | .scalar plain text => [.scalar plain text]
  | .sequence [] => [.openBracket, .closeBracket]
  | .sequence (item :: items) =>
    let inner := .entry :: item.tokens false ++ itemTokens items
    if underKey then inner else .sequenceStart :: inner ++ [.blockEnd]
  | .mapping [] => [.openBrace, .closeBrace]
  | .mapping ((key, v) :: entries) =>
    .mappingStart :: key.keyTokens ++ v.tokens true ++ entryTokens entries ++ [.blockEnd]

def itemTokens : List Node → List Token
  | [] => []
  | item :: items => .entry :: item.tokens false ++ itemTokens items

def entryTokens : List (Node × Node) → List Token
  | [] => []
  | (key, v) :: entries => key.keyTokens ++ v.tokens true ++ entryTokens entries

end

theorem tokens_sequence (item : Node) (items : List Node) :
    (Node.sequence (item :: items)).tokens false =
    .sequenceStart :: (itemTokens (item :: items) ++ [.blockEnd]) :=
  rfl

theorem tokens_sequence_underKey (item : Node) (items : List Node) :
    (Node.sequence (item :: items)).tokens true = itemTokens (item :: items) :=
  rfl

theorem tokens_mapping (underKey : Bool) (e : Node × Node) (entries : List (Node × Node)) :
    (Node.mapping (e :: entries)).tokens underKey =
      .mappingStart :: (entryTokens (e :: entries) ++ [.blockEnd]) := by
  simp [Node.tokens, entryTokens]

def KeyName (key : Node) : Prop :=
  ∃ text : String, key = .scalar true text ∧ canBePlain text.toList = true ∧
    Text.bytes text.toList ≤ Lexer.keyBound

theorem KeyName.written {key : Node} (name : KeyName key) : ∃ c cs, canBePlain (c :: cs) = true ∧
    Text.bytes (c :: cs) ≤ Lexer.keyBound ∧ key.keyTokens = [.key true (.ofList (c :: cs))] ∧
    ∀ indent, renderKey indent key = c :: cs ++ [':'] := by
  obtain ⟨text, rfl, plain, short⟩ := name
  obtain ⟨c, cs, eq⟩ :=
    List.exists_cons_of_ne_nil (l := text.toList) (by rintro nil; rw [nil] at plain; cases plain)
  rw [eq] at plain short
  refine ⟨c, cs, plain, short, ?_, fun indent => ?_⟩
  · rw [← eq, String.ofList_toList]
    rfl
  · rw [renderKey, scalarText, if_pos rfl, eq, List.dropLast_concat]

/--
The trees that a text may be written for: what is said to be plain can be, and keys are short names.
-/
inductive Writable : Node → Prop
  | scalar {plain : Bool} {text : String} (canBe : plain = true → canBePlain text.toList = true) :
    Writable (.scalar plain text)
  | sequence {items : List Node} (items_writable : ∀ item ∈ items, Writable item) :
      Writable (.sequence items)
  | mapping {entries : List (Node × Node)} (names : ∀ e ∈ entries, KeyName e.1)
      (values : ∀ e ∈ entries, Writable e.2) :
    Writable (.mapping entries)

open Lexer

/--
The scanner finds the tokens of a tree in its text, where an item and where a value may stand.
-/
structure Lexed (n : Node) : Prop where
  item {m : Nat} {indents : List Nat} {rest : List Char} {ts : List Token}
      (outdents : Outdents m rest)
    (h : (lineStart rest (m :: indents)).Yields ts) :
    (⟨n.render (m + 2) ++ rest, m + 2, m :: indents, 0, true⟩ : Lexer).Yields (n.tokens false ++ ts)
  value {m column : Nat} {indents : List Nat} {rest : List Char} {ts : List Token}
      (outdents : Outdents m rest)
    (deeper : m < column) (h : (lineStart rest (m :: indents)).Yields ts) :
    (⟨n.renderValue m ++ rest, column, m :: indents, 0, false⟩ : Lexer).Yields (n.tokens true ++ ts)

section Parts

variable {cs rest : List Char} {column i m : Nat} {indents : List Nat} {keyAllowed : Bool}
    {ts : List Token}

theorem begins_scalarText {plain : Bool} {text : String}
    (canBe : plain = true → canBePlain text.toList = true) (indent : Nat) :
    ∃ c cs, scalarText indent plain text = c :: cs ∧ isBlank c = false ∧ isBreak c = false ∧
    c ≠ '#' := by
  rw [scalarText]
  split
  · rename_i isPlain
    have plain := canBe isPlain
    cases text : text.toList with
    | nil =>
      rw [text] at plain
      cases plain
    | cons c cs =>
      rw [text] at plain
      exact ⟨c, cs ++ ['\n'], rfl, plain_text plain⟩
  · split
    · exact ⟨'|', _, rfl, by decide⟩
    · split
      · exact ⟨'\'', _, rfl, by decide⟩
      · exact ⟨'"', _, rfl, by decide⟩

theorem yields_scalar {plain : Bool} {text : String}
    (canBe : plain = true → canBePlain text.toList = true)
    (outdents : Outdents m rest) (deeper : m < column)
    (h : (lineStart rest (m :: indents)).Yields ts) :
    (⟨scalarText (m + 2) plain text ++ rest, column, m :: indents, 0, keyAllowed⟩ : Lexer).Yields
      (.scalar plain text :: ts) := by
  have taken :
      (⟨scalarText (m + 2) plain text ++ rest, column, m :: indents, 0, keyAllowed⟩ :
        Lexer).TakesScalar plain
      text.toList rest := takes_scalarText outdents deeper canBe
  obtain ⟨l, next, shorter, lines⟩ := taken
  rw [String.ofList_toList] at next
  have gap :
      (⟨scalarText (m + 2) plain text ++ rest, column, m :: indents, 0, keyAllowed⟩ :
        Lexer).skipGap =
      ⟨scalarText (m + 2) plain text ++ rest, column, m :: indents, 0, keyAllowed⟩ := by
    obtain ⟨c, cs, text, blank, unbroken, comment⟩ := begins_scalarText canBe (m + 2)
    rw [text]
    exact skipGap_text blank unbroken comment _
  exact Yields.step gap (close_eq (by simpa using Nat.le_of_lt deeper)) next shorter (h.congr lines)

inductive Brackets : Char → Char → Token → Token → Prop
  | square : Brackets '[' ']' .openBracket .closeBracket
  | curly : Brackets '\x7b' '\x7d' .openBrace .closeBrace

theorem yields_brackets {c d : Char} {opening closing : Token}
    (brackets : Brackets c d opening closing)
    (deeper : m < column) (h : (lineStart rest (m :: indents)).Yields ts) :
    (⟨c :: d :: '\n' :: rest, column, m :: indents, 0, keyAllowed⟩ : Lexer).Yields
      (opening :: closing :: ts) := by
  have free :
      (⟨c :: d :: '\n' :: rest, column, m :: indents, 0, keyAllowed⟩ : Lexer).needsKey = false :=
    free_of_deeper deeper _
  have within : ∀ j ∈ (m :: indents).head?, j ≤ column := by simpa using Nat.le_of_lt deeper
  have opens : (⟨c :: d :: '\n' :: rest, column, m :: indents, 0, keyAllowed⟩ : Lexer).next =
      some ([opening], ⟨d :: '\n' :: rest, column + 1, m :: indents, 1, true⟩) := by
    cases brackets <;> simp [next, atMark, take, free]
  have closes : (⟨d :: '\n' :: rest, column + 1, m :: indents, 1, true⟩ : Lexer).next =
      some ([closing], ⟨'\n' :: rest, column + 2, m :: indents, 0, false⟩) := by
    cases brackets <;> simp [next, atMark, take]
  obtain ⟨blank, unbroken, comment⟩ : isBlank c = false ∧ isBreak c = false ∧ c ≠ '#' := by
    cases brackets <;> exact ⟨rfl, rfl, by decide⟩
  obtain ⟨blank', unbroken', comment'⟩ : isBlank d = false ∧ isBreak d = false ∧ d ≠ '#' := by
    cases brackets <;> exact ⟨rfl, rfl, by decide⟩
  have after : (⟨'\n' :: rest, column + 2, m :: indents, 0, false⟩ : Lexer).Yields ts :=
    h.congr (skipGap_newline rest)
  have inner := Yields.step (skipGap_text blank' unbroken' comment' _) rfl closes (by simp) after
  exact Yields.step (skipGap_text blank unbroken comment _) (close_eq within) opens (by simp) inner

theorem Lexed.of_brackets {c d : Char} {opening closing : Token}
    (brackets : Brackets c d opening closing) {n : Node}
    (item : ∀ indent, n.render indent = [c, d, '\n'])
    (value : ∀ indent, n.renderValue indent = [' ', c, d, '\n'])
    (tokens : ∀ underKey, n.tokens underKey = [opening, closing]) : Lexed n where
  item {m} _ _ _ _ h := by
    rw [item, tokens]
    exact yields_brackets brackets (Nat.lt_add_of_pos_right Nat.two_pos) h
  value _ deeper h := by
    rw [value, tokens]
    exact (yields_brackets brackets (Nat.lt_succ_of_lt deeper) h).congr (skipGap_space _)

theorem yields_entry {start : List Token} {indents' : List Nat}
    (within : ∀ j ∈ indents.head?, j ≤ column)
    (opens : (⟨'-' :: ' ' :: cs, column, indents, 0, true⟩ : Lexer).openAt .sequenceStart column =
      (start, indents'))
    (h : (⟨cs, column + 2, indents', 0, true⟩ : Lexer).Yields ts) :
    (⟨'-' :: ' ' :: cs, column, indents, 0, true⟩ : Lexer).Yields (start ++ .entry :: ts) := by
  have next : (⟨'-' :: ' ' :: cs, column, indents, 0, true⟩ : Lexer).next =
      some (start ++ [.entry], ⟨' ' :: cs, column + 1, indents', 0, true⟩) := by
    have mark : atMark column ('-' :: ' ' :: cs) = false := rfl
    have ends : endsWord (' ' :: cs) = true := rfl
    simp [Lexer.next, mark, ends, opens, isFlowIndicator]
  rw [List.append_cons]
  exact Yields.step (skipGap_text rfl rfl (by decide) _) (close_eq within) next (by simp)
    (h.congr (skipGap_space cs))

theorem yields_key {key : Node} (name : KeyName key) {start : List Token} {indents' : List Nat}
    {value : List Char} (within : ∀ j ∈ indents.head?, j ≤ column) (ends : endsWord value = true)
    (opens : ∀ cs, (⟨cs, column, indents, 0, true⟩ : Lexer).openAt .mappingStart column =
      (start, indents'))
    (h : ∀ column', column < column' → (⟨value, column', indents', 0, false⟩ : Lexer).Yields ts)
    (indent : Nat) :
    (⟨renderKey indent key ++ value, column, indents, 0, true⟩ : Lexer).Yields
      (start ++ key.keyTokens ++ ts) := by
  obtain ⟨c, cs, plain, short, token, written⟩ := name.written
  obtain ⟨blank, unbroken, comment⟩ := plain_text plain
  have shorter : value.length < (c :: cs ++ ':' :: value).length := by
    simp only [List.length_append, List.length_cons]
    omega
  rw [token, written, List.append_assoc, List.singleton_append]
  exact Yields.step (skipGap_text blank unbroken comment _) (close_eq within)
    (next_key plain short ends within (opens _))
    shorter (h _ (by omega))

theorem yields_line (h : (⟨cs, m, indents, 0, true⟩ : Lexer).Yields ts) :
    (lineStart (spaces m ++ cs) indents).Yields ts :=
  h.congr (by rw [lineStart, skipGap_spaces, Nat.zero_add])

theorem openAt_same (start : Token) :
    (⟨cs, m, m :: indents, 0, true⟩ : Lexer).openAt start m = ([], m :: indents) := by
  simp [openAt, margin]

theorem openAt_deeper (start : Token) (deeper : i < m) :
    (⟨cs, m, i :: indents, 0, true⟩ : Lexer).openAt start m = ([start], m :: i :: indents) := by
  simp [openAt, margin, Nat.succ_le_of_lt deeper]

end Parts

theorem endsWord_renderValue (v : Node) (m : Nat) (rest : List Char) :
    endsWord (v.renderValue m ++ rest) = true := by
  cases v with
  | scalar plain text => rfl
  | sequence items => cases items <;> rfl
  | mapping entries => cases entries <;> rfl

section Lists

variable {m : Nat} {indents : List Nat} {rest : List Char} {ts : List Token}
    (outdents : Outdents m rest)

include outdents

theorem yields_items {items : List Node} (lexed : ∀ item ∈ items, Lexed item)
    (h : (lineStart rest (m :: indents)).Yields ts) : Outdents m (renderItems m items ++ rest) ∧
      (lineStart (renderItems m items ++ rest) (m :: indents)).Yields (itemTokens items ++ ts) := by
  induction items with
  | nil => exact ⟨outdents, h⟩
  | cons item items ih =>
    obtain ⟨lexed, more⟩ := List.forall_mem_cons.1 lexed
    obtain ⟨outdents', h'⟩ := ih more
    simp only [renderItems, itemTokens, List.append_assoc, List.cons_append]
    exact ⟨.line _ (Nat.le_refl m) rfl rfl (by decide),
      yields_line (yields_entry (by simp) (openAt_same _) (lexed.item outdents' h'))⟩

theorem yields_pair {key v : Node} {indents : List Nat} {start : List Token} {indents' : List Nat}
    (name : KeyName key) (lexed : Lexed v) (within : ∀ j ∈ indents.head?, j ≤ m)
    (opens : ∀ cs, (⟨cs, m, indents, 0, true⟩ : Lexer).openAt .mappingStart m =
      (start, m :: indents'))
    (h : (lineStart rest (m :: indents')).Yields ts) :
    (⟨renderKey m key ++ (v.renderValue m ++ rest), m, indents, 0, true⟩ : Lexer).Yields
      (start ++ key.keyTokens ++ (v.tokens true ++ ts)) :=
  yields_key name within (endsWord_renderValue v m rest) opens
    (fun _ deeper => lexed.value outdents deeper h) m

theorem yields_entries {entries : List (Node × Node)} (names : ∀ e ∈ entries, KeyName e.1)
    (lexed : ∀ e ∈ entries, Lexed e.2) (h : (lineStart rest (m :: indents)).Yields ts) :
    Outdents m (renderEntries m entries ++ rest) ∧
      (lineStart (renderEntries m entries ++ rest) (m :: indents)).Yields
        (entryTokens entries ++ ts) := by
  induction entries with
  | nil => exact ⟨outdents, h⟩
  | cons e entries ih =>
    obtain ⟨key, v⟩ := e
    obtain ⟨lexed, more⟩ := List.forall_mem_cons.1 lexed
    obtain ⟨name, names⟩ := List.forall_mem_cons.1 names
    obtain ⟨outdents', h'⟩ := ih names more
    simp only [renderEntries, entryTokens, List.append_assoc]
    refine ⟨?_, yields_line ?_⟩
    · obtain ⟨c, cs, plain, -, -, written⟩ := name.written
      obtain ⟨blank, unbroken, comment⟩ := plain_text plain
      rw [written]
      exact .line _ (Nat.le_refl m) blank unbroken comment
    · simpa using yields_pair outdents' name lexed (by simp) (fun _ => openAt_same _) h'

end Lists

theorem Lexed.sequence {items : List Node} (h : ∀ item ∈ items, Lexed item) :
    Lexed (.sequence items) := by
  cases items with
  | nil => exact .of_brackets .square (fun _ => rfl) (fun _ => rfl) (fun _ => rfl)
  | cons item items =>
    obtain ⟨lexed, more⟩ := List.forall_mem_cons.1 h
    constructor
    · intro m indents rest ts outdents h
      -- after a dash the items stand in a collection of their own, which the line after them closes
      have closes : (lineStart rest ((m + 2) :: m :: indents)).Yields (.blockEnd :: ts) :=
        Yields.close outdents (by omega) h
      obtain ⟨outdents', h'⟩ := yields_items (outdents.mono (Nat.le_add_right m 2)) more closes
      have items := yields_entry (by simp) (openAt_deeper _ (by omega)) (lexed.item outdents' h')
      simpa [Node.render, Node.tokens] using items
    · intro m column indents rest ts outdents deeper ends
      exact (yields_items outdents h ends).2.congr (skipGap_newline _)

theorem Lexed.mapping {entries : List (Node × Node)} (names : ∀ e ∈ entries, KeyName e.1)
    (h : ∀ e ∈ entries, Lexed e.2) :
    Lexed (.mapping entries) := by
  cases entries with
  | nil => exact .of_brackets .curly (fun _ => rfl) (fun _ => rfl) (fun _ => rfl)
  | cons e entries =>
    obtain ⟨key, v⟩ := e
    obtain ⟨lexed, more⟩ := List.forall_mem_cons.1 h
    obtain ⟨name, names⟩ := List.forall_mem_cons.1 names
    have item : ∀ {m indents rest ts}, Outdents m rest → (lineStart rest (m :: indents)).Yields ts →
        (⟨(Node.mapping ((key, v) :: entries)).render (m + 2) ++ rest, m + 2, m :: indents, 0,
          true⟩ : Lexer).Yields
          ((Node.mapping ((key, v) :: entries)).tokens false ++ ts) := by
      intro m indents rest ts outdents h
      have closes : (lineStart rest ((m + 2) :: m :: indents)).Yields (.blockEnd :: ts) :=
        Yields.close outdents (by omega) h
      obtain ⟨outdents', h'⟩ :=
        yields_entries (outdents.mono (Nat.le_add_right m 2)) names more closes
      have entries :=
        yields_pair outdents' name lexed (by simp) (fun _ => openAt_deeper _ (by omega)) h'
      simpa [Node.render, Node.tokens] using entries
    refine ⟨item, fun {m column indents rest ts} outdents deeper h => ?_⟩
    -- after a key, the same text begins on the next line
    have written : (Node.mapping ((key, v) :: entries)).renderValue m ++ rest =
        '\n' ::
        (spaces (m + 2) ++ ((Node.mapping ((key, v) :: entries)).render (m + 2) ++ rest)) := by
      simp [Node.renderValue, Node.render]
    rw [written]
    exact (yields_line (item outdents h)).congr (skipGap_newline _)

theorem Writable.lexed {n : Node} (h : Writable n) : Lexed n := by
  induction h with
  | scalar canBe =>
    refine ⟨fun outdents h => yields_scalar canBe outdents (by omega) h,
      fun outdents deeper h => ?_⟩
    exact (yields_scalar canBe outdents (Nat.lt_succ_of_lt deeper) h).congr (skipGap_space _)
  | sequence _ ih => exact .sequence ih
  | mapping names _ ih => exact .mapping names ih

theorem Writable.yields {e : Node × Node} {entries : List (Node × Node)}
    (h : Writable (.mapping (e :: entries))) :
    (Lexer.ofText ((Node.mapping (e :: entries)).render 0)).Yields
      ((Node.mapping (e :: entries)).tokens false) := by
  obtain ⟨key, v⟩ := e
  obtain _ | _ | ⟨names, values⟩ := h
  obtain ⟨name, names⟩ := List.forall_mem_cons.1 names
  obtain ⟨writable, values⟩ := List.forall_mem_cons.1 values
  have ends : (lineStart [] [0]).Yields [.blockEnd] := yields_end [0]
  obtain ⟨outdents, h⟩ :=
    yields_entries (.nil (k := 0)) names (fun e he => (values e he).lexed) ends
  have opens : ∀ cs, (⟨cs, 0, [], 0, true⟩ : Lexer).openAt .mappingStart 0 =
      ([.mappingStart], [0]) := fun _ => rfl
  have document := yields_pair outdents name writable.lexed (by simp) opens h
  simpa [Node.render, Node.tokens, Lexer.ofText] using document

end GameBalance.Yaml
