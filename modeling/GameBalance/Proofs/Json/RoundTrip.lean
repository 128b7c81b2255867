import GameBalance.Json.Reader
import GameBalance.Json.Writer
import GameBalance.Proofs.Decimal.Numeral
import Mathlib.Data.List.DropRight

namespace GameBalance.Json

theorem escaped_cases (c : Char) : (c ≠ '"' ∧ c ≠ '\\' ∧ ¬c.toNat < 0x20 ∧ escaped c = [c]) ∨
    (∃ d, d ≠ 'u' ∧ escape? d = some c.toNat ∧ escaped c = ['\\', d]) ∨
      ∃ ds : List Char, ds.length = 4 ∧ Text.numberIn? 16 ds = some c.toNat ∧
      escaped c = '\\' :: 'u' :: ds := by
  rw [escaped]
  split
  · rename_i same
    exact .inr (.inl ⟨'"', by decide, by rw [same]; rfl, rfl⟩)
  · rename_i quote
    split
    · rename_i same
      exact .inr (.inl ⟨'\\', by decide, by rw [same]; rfl, rfl⟩)
    · rename_i backslash
      split
      · rename_i same
        exact .inr (.inl ⟨'b', by decide, by rw [same]; rfl, rfl⟩)
      · split
        · rename_i same
          exact .inr (.inl ⟨'f', by decide, by rw [same]; rfl, rfl⟩)
        · split
          · rename_i same
            exact .inr (.inl ⟨'n', by decide, by rw [same]; rfl, rfl⟩)
          · split
            · rename_i same
              exact .inr (.inl ⟨'r', by decide, by rw [same]; rfl, rfl⟩)
            · split
              · rename_i same
                exact .inr (.inl ⟨'t', by decide, by rw [same]; rfl, rfl⟩)
              · split
                · rename_i control
                  have digits : ∀ n < 0x20, (Text.hex 4 n).length = 4 ∧
                      Text.numberIn? 16 (Text.hex 4 n) = some n := by decide
                  exact .inr (.inr ⟨_, (digits _ control).1, (digits _ control).2, rfl⟩)
                · rename_i control
                  exact .inl ⟨quote, backslash, control, rfl⟩

theorem stringUnits_escaped (c : Char) (rest : List Char) : stringUnits (escaped c ++ rest) =
    (stringUnits rest).map fun (units, rest) => (c.toNat :: units, rest) := by
  obtain ⟨quote, backslash, control, text⟩ | ⟨d, unit, value, text⟩ | ⟨ds, length, value, text⟩ :=
    escaped_cases c
  · rw [text, List.singleton_append,
      stringUnits.eq_5 _ _ quote (fun _ _ _ _ _ same => absurd same backslash)
      (fun _ _ same => absurd same backslash), if_neg (not_or_intro control backslash)]
    cases stringUnits rest <;> rfl
  · rw [text, List.cons_append, List.singleton_append,
      stringUnits.eq_4 _ _ fun _ _ _ _ _ same => absurd same unit, value]
    cases stringUnits rest <;> rfl
  · obtain ⟨d₁, d₂, d₃, d₄, rfl⟩ := List.length_eq_four.1 length
    rw [text]
    simp only [List.cons_append, List.nil_append, stringUnits, value]
    cases stringUnits rest <;> rfl

theorem stringUnits_flatMap (cs rest : List Char) :
    stringUnits (cs.flatMap escaped ++ '"' :: rest) = some (cs.map Char.toNat, rest) := by
  induction cs with
  | nil => rfl
  | cons c cs ih =>
    rw [List.flatMap_cons, List.append_assoc, stringUnits_escaped, ih, Option.map_some,
      List.map_cons]

theorem not_surrogate (c : Char) :
    isHighSurrogate c.toNat = false ∧ isLowSurrogate c.toNat = false := by
  have valid := c.valid
  simp only [isHighSurrogate, isLowSurrogate, Bool.and_eq_false_iff, decide_eq_false_iff_not]
  change c.toNat < 0xD800 ∨ 0xDFFF < c.toNat ∧ _ at valid
  omega

theorem joinPairs_map (cs : List Char) : joinPairs (cs.map Char.toNat) = some cs := by
  induction cs with
  | nil => rfl
  | cons c cs ih =>
    obtain ⟨high, low⟩ := not_surrogate c
    cases cs with
    | nil => simp [joinPairs, high, low]
    | cons d ds =>
      rw [List.map_cons, List.map_cons, joinPairs, high, low, ← List.map_cons, ih]
      simp

theorem string?_quoted (s : String) (rest : List Char) :
    string? (s.toList.flatMap escaped ++ '"' :: rest) = some (some s, rest) := by
  simp only [string?, stringUnits_flatMap, joinPairs_map, Option.map_some, String.ofList_toList]

section Number

variable {n : Numeral} {ds rest : List Char}

def Ends (cs : List Char) : Prop :=
  ∀ c ∈ cs.head?, c.isDigit = false ∧ c ≠ '.' ∧ Decimal.isExponentMark c = false

theorem digits?_append (ne : ds ≠ []) (digits : ∀ c ∈ ds, c.isDigit = true)
    (stop : ∀ c ∈ rest.head?, c.isDigit = false) : digits? (ds ++ rest) = some (ds, rest) := by
  have run : rest.takeWhile Char.isDigit = [] ∧ rest.dropWhile Char.isDigit = rest := by
    cases rest with
    | nil => exact ⟨rfl, rfl⟩
    | cons c cs => simp [stop c rfl]
  rw [digits?, List.takeWhile_append_of_pos digits, List.dropWhile_append_of_pos digits, run.1,
    run.2, List.append_nil]
  simp [ne]

theorem whole?_append (h : n.WellFormed) (stop : ∀ c ∈ rest.head?, c.isDigit = false) :
    whole? (n.whole ++ rest) = some (n.whole, rest) := by
  obtain zero | leading := h.leading
  · rw [zero]
    rfl
  · obtain ⟨c, cs, whole⟩ := List.exists_cons_of_ne_nil h.whole_ne_nil
    rw [whole, List.head?_cons, ne_eq, Option.some.injEq] at leading
    rw [whole?.eq_2, digits?_append h.whole_ne_nil h.isDigit_whole stop]
    intro cs' zero
    rw [whole, List.cons_append, List.cons.injEq] at zero
    exact leading zero.1

theorem fraction?_append (digits : ∀ c ∈ ds, c.isDigit = true)
    (stop : ∀ c ∈ rest.head?, c.isDigit = false ∧ c ≠ '.') :
    fraction? (Numeral.fractionText ds ++ rest) = some (ds, rest) := by
  cases ds with
  | nil =>
    cases rest with
    | nil => rfl
    | cons c cs => simp [fraction?, Numeral.fractionText, (stop c rfl).2]
  | cons d ds => exact digits?_append (List.cons_ne_nil d ds) digits fun c hc => (stop c hc).1

theorem exponent?_append (exponent : Option Int) (stop : Ends rest) :
    exponent? (Numeral.exponentText ['+'] exponent ++ rest) = some (exponent, rest) := by
  have digits : ∀ n, digits? (Decimal.digitsOf n ++ rest) =
      some (Decimal.digitsOf n, rest) := fun n =>
    digits?_append Nat.toDigits_ne_nil (fun c hc => Decimal.isDigit_of_mem_digitsOf hc)
      fun c hc => (stop c hc).1
  cases exponent with
  | none =>
    cases rest with
    | nil => rfl
    | cons c cs =>
      rw [Numeral.exponentText, List.nil_append, exponent?, (stop c rfl).2.2]
      rfl
  | some e =>
    have mark : Decimal.isExponentMark 'e' = true := rfl
    rw [Numeral.exponentText, List.cons_append, exponent?, mark, if_pos rfl]
    split
    · rename_i negative
      simp only [List.cons_append, exponentDigits?, digits, Option.map_some,
        Decimal.valueOf_digitsOf, Int.ofNat_natAbs_of_nonpos (Int.le_of_lt negative), Int.neg_neg]
    · rename_i nonneg
      simp only [List.cons_append, List.nil_append, exponentDigits?, digits, Option.map_some,
        Decimal.valueOf_digitsOf, Int.natAbs_of_nonneg (Int.not_lt.1 nonneg)]

theorem head?_exponentText (exponent : Option Int) (stop : Ends rest) :
    ∀ c ∈ (Numeral.exponentText ['+'] exponent ++ rest).head?, c.isDigit = false ∧ c ≠ '.' := by
  intro c hc
  cases exponent with
  | none => exact ⟨(stop c hc).1, (stop c hc).2.1⟩
  | some e =>
    obtain rfl : 'e' = c := by simpa [Numeral.exponentText] using hc
    decide

theorem unsigned?_append (h : n.WellFormed) (stop : Ends rest) : unsigned? n.negative
    (n.whole ++
      (Numeral.fractionText n.fraction ++ (Numeral.exponentText ['+'] n.exponent ++ rest))) =
      some (.number n, rest) := by
  have exponent := head?_exponentText n.exponent stop
  have point :
      ∀ c ∈ (Numeral.fractionText n.fraction ++
        (Numeral.exponentText ['+'] n.exponent ++ rest)).head?,
      c.isDigit = false := by
    intro c hc
    rw [Numeral.fractionText] at hc
    split at hc
    · exact (exponent c hc).1
    · obtain rfl : '.' = c := by simpa using hc
      rfl
  simp only [unsigned?, whole?_append h point, fraction?_append h.isDigit_fraction exponent,
    exponent?_append _ stop, Option.bind_eq_bind, Option.bind_some, Option.pure_def]

theorem value?_digit (fuel : Nat) (digit : c.isDigit = true) (cs : List Char) :
    value? (fuel + 1) (c :: cs) = unsigned? false (c :: cs) := by
  have apart : ∀ d : Char, d.isDigit = false → c ≠ d := fun _ => Decimal.ne_of_isDigit digit
  have skip : skipSpace (c :: cs) = c :: cs := by
    simp [skipSpace, isSpace, apart]
  rw [value?, skip]
  split
  all_goals
    rename_i same
    try exact absurd (List.cons.inj same).1 (apart _ (by decide))
  rfl

theorem value?_text (fuel : Nat) (h : n.WellFormed) (stop : Ends rest) :
    value? (fuel + 1) (n.text ['+'] ++ rest) = some (.number n, rest) := by
  have unsigned := unsigned?_append h stop
  have text : n.text ['+'] ++ rest = Decimal.signed n.negative
      (n.whole ++
        (Numeral.fractionText n.fraction ++ (Numeral.exponentText ['+'] n.exponent ++ rest))) := by
    rw [Numeral.text_eq]
    cases n.negative <;> simp [Decimal.signed]
  rw [text]
  obtain ⟨c, cs, whole⟩ := List.exists_cons_of_ne_nil h.whole_ne_nil
  have digit : c.isDigit = true := h.isDigit_whole c (whole ▸ List.mem_cons_self)
  cases sign : n.negative with
  | false =>
    rw [sign] at unsigned
    rw [Decimal.signed, if_neg Bool.false_ne_true, ← unsigned, whole, List.cons_append,
      value?_digit fuel digit]
  | true =>
    rw [sign] at unsigned
    rw [Decimal.signed, if_pos rfl, ← unsigned, value?]
    rfl

end Number

/-- A value that has a text of its own: its strings have texts, its numbers digits in all places. -/
inductive Writable : Value → Prop
  | null : Writable .null
  | bool (b : Bool) : Writable (.bool b)
  | number {n : Numeral} (h : n.WellFormed) : Writable (.number n)
  | string (s : String) : Writable (.string (some s))
  | array {items : List Value} (h : ∀ v ∈ items, Writable v) : Writable (.array items)
  | object {members : List (Option String × Value)} (keys : ∀ m ∈ members, m.1.isSome = true)
    (h : ∀ m ∈ members, Writable m.2) : Writable (.object members)

theorem skipSpace_newline (depth : Nat) (cs : List Char) :
    skipSpace (newline depth ++ cs) = skipSpace cs := by
  rw [skipSpace, skipSpace, List.dropWhile_append_of_pos]
  intro c hc
  obtain rfl | hc := List.mem_cons.1 hc
  · rfl
  · obtain rfl := (List.mem_replicate.1 hc).2
    rfl

section Steps

variable {fuel : Nat} {cs more rest : List Char}

theorem value?_skip (depth : Nat) : value? fuel (newline depth ++ cs) = value? fuel cs := by
  cases fuel with
  | zero => rfl
  | succ fuel => rw [value?, value?, skipSpace_newline]

theorem member?_skip (depth : Nat) : member? fuel (newline depth ++ cs) = member? fuel cs := by
  cases fuel with
  | zero => rfl
  | succ fuel => rw [member?, member?, skipSpace_newline]

theorem skipSpace_skipSpace (cs : List Char) : skipSpace (skipSpace cs) = skipSpace cs :=
  List.dropWhile_idempotent isSpace cs

theorem value?_array (first : value? fuel cs = some (v, more))
    (others : moreItems? fuel more = some (vs, rest)) :
    value? (fuel + 1) ('[' :: cs) = some (.array (v :: vs), rest) := by
  have first' : value? fuel (skipSpace cs) = some (v, more) := by
    cases fuel with
    | zero => cases first
    | succ fuel => simpa only [value?, skipSpace_skipSpace] using first
  have skip : skipSpace ('[' :: cs) = '[' :: cs := rfl
  simp only [value?, skip]
  split
  · rename_i ends
    cases fuel with
    | zero => cases first
    | succ fuel =>
      rw [value?, ends] at first
      cases first
  · simp only [first', others, Option.bind_eq_bind, Option.bind_some, Option.pure_def]

theorem value?_object (first : member? fuel cs = some (m, more))
    (others : moreMembers? fuel more = some (ms, rest)) :
    value? (fuel + 1) ('\x7b' :: cs) = some (.object (m :: ms), rest) := by
  have first' : member? fuel (skipSpace cs) = some (m, more) := by
    cases fuel with
    | zero => cases first
    | succ fuel => simpa only [member?, skipSpace_skipSpace] using first
  have skip : skipSpace ('\x7b' :: cs) = '\x7b' :: cs := rfl
  simp only [value?, skip]
  split
  · rename_i ends
    cases fuel with
    | zero => cases first
    | succ fuel =>
      rw [member?, ends] at first
      cases first
  · simp only [first', others, Option.bind_eq_bind, Option.bind_some, Option.pure_def]

theorem moreItems?_comma (first : value? fuel cs = some (v, more))
    (others : moreItems? fuel more = some (vs, rest)) :
    moreItems? (fuel + 1) (',' :: cs) = some (v :: vs, rest) := by
  have skip : skipSpace (',' :: cs) = ',' :: cs := rfl
  simp only [moreItems?, skip, first, others, Option.bind_eq_bind, Option.bind_some,
    Option.pure_def]

theorem moreMembers?_comma (first : member? fuel cs = some (m, more))
    (others : moreMembers? fuel more = some (ms, rest)) :
    moreMembers? (fuel + 1) (',' :: cs) = some (m :: ms, rest) := by
  have skip : skipSpace (',' :: cs) = ',' :: cs := rfl
  simp only [moreMembers?, skip, first, others, Option.bind_eq_bind, Option.bind_some,
    Option.pure_def]

theorem member?_quoted (key : String) (value : value? fuel cs = some (v, rest)) :
    member? (fuel + 1) (quoted key ++ ':' :: ' ' :: cs) = some ((some key, v), rest) := by
  have value' : value? fuel (' ' :: cs) = some (v, rest) := by
    cases fuel with
    | zero => cases value
    | succ fuel => rwa [value?] at value ⊢
  have text : skipSpace (quoted key ++ ':' :: ' ' :: cs) =
      '"' :: (key.toList.flatMap escaped ++ '"' :: ':' :: ' ' :: cs) := by
    rw [quoted, List.cons_append, List.cons_append, List.append_assoc]
    rfl
  have colon : skipSpace (':' :: ' ' :: cs) = ':' :: ' ' :: cs := rfl
  simp only [member?, text, string?_quoted, colon, value', Option.bind_eq_bind, Option.bind_some,
    Option.pure_def]

end Steps

theorem ends_newline (depth : Nat) (cs : List Char) : Ends (newline depth ++ cs) := by
  intro c hc
  obtain rfl : '\n' = c := by simpa [newline] using hc
  decide

theorem ends_renderItems (depth : Nat) (vs : List Value) (stop : Ends rest) :
    Ends (renderItems depth vs ++ rest) := by
  cases vs with
  | nil => exact stop
  | cons v vs =>
    intro c hc
    obtain rfl : ',' = c := by simpa [renderItems] using hc
    decide

theorem ends_renderMembers (depth : Nat) (members : List (Option String × Value))
    (stop : Ends rest) :
    Ends (renderMembers depth members ++ rest) := by
  cases members with
  | nil => exact stop
  | cons m members =>
    intro c hc
    obtain rfl : ',' = c := by simpa [renderMembers] using hc
    decide

def ReadsBack (v : Value) : Prop :=
  ∀ (depth fuel : Nat) (rest : List Char), Ends rest → (v.render depth).length ≤ fuel →
    value? fuel (v.render depth ++ rest) = some (v, rest)

theorem readsBack_of_step
    (h : ∀ (depth fuel : Nat) (rest : List Char), Ends rest → (v.render depth).length ≤ fuel + 1 →
      value? (fuel + 1) (v.render depth ++ rest) = some (v, rest))
    (ne : ∀ depth, v.render depth ≠ []) : ReadsBack v := by
  intro depth fuel rest stop enough
  have pos : 0 < (v.render depth).length := List.length_pos_iff.2 (ne depth)
  obtain ⟨fuel, rfl⟩ :=
    Nat.exists_eq_add_one_of_ne_zero (Nat.ne_of_gt (Nat.lt_of_lt_of_le pos enough))
  exact h depth fuel rest stop enough

section Lists

variable (depth outer fuel : Nat) (rest : List Char)

theorem moreItems?_render (h : ∀ v ∈ vs, ReadsBack v)
    (enough : (renderItems depth vs).length < fuel) :
    moreItems? fuel (renderItems depth vs ++ (newline outer ++ ']' :: rest)) = some (vs, rest) := by
  induction vs generalizing fuel with
  | nil =>
    obtain ⟨fuel, rfl⟩ := Nat.exists_eq_add_one_of_ne_zero (Nat.ne_of_gt enough)
    rw [renderItems, List.nil_append, moreItems?, skipSpace_newline]
    rfl
  | cons v vs ih =>
    obtain ⟨fuel, rfl⟩ := Nat.exists_eq_add_one_of_ne_zero (Nat.ne_zero_of_lt enough)
    simp only [renderItems, newline, List.length_cons, List.length_append,
      List.length_replicate] at enough
    have others := ih fuel (fun w hw => h w (List.mem_cons_of_mem v hw)) (by omega)
    have first :=
      h v List.mem_cons_self depth fuel _
        (ends_renderItems depth vs (ends_newline outer (']' :: rest))) (by omega)
    simp only [renderItems, List.cons_append, List.append_assoc]
    exact moreItems?_comma ((value?_skip depth).trans first) others

theorem member?_render {m : Option String × Value} (key : m.1.isSome = true) (h : ReadsBack m.2)
    (stop : Ends rest) (enough : (m.2.render depth).length < fuel) :
    member? fuel (quoted (m.1.getD "") ++ ':' :: ' ' :: (m.2.render depth ++ rest)) =
      some (m, rest) := by
  obtain ⟨fuel, rfl⟩ := Nat.exists_eq_add_one_of_ne_zero (Nat.ne_zero_of_lt enough)
  obtain ⟨name, v⟩ := m
  obtain ⟨name, rfl⟩ := Option.isSome_iff_exists.1 key
  exact member?_quoted name (h depth fuel rest stop (Nat.le_of_lt_succ enough))

theorem moreMembers?_render (keys : ∀ m ∈ members, m.1.isSome = true)
    (h : ∀ m ∈ members, ReadsBack m.2) (enough : (renderMembers depth members).length < fuel) :
    moreMembers? fuel (renderMembers depth members ++ (newline outer ++ '\x7d' :: rest)) =
      some (members, rest) := by
  induction members generalizing fuel with
  | nil =>
    obtain ⟨fuel, rfl⟩ := Nat.exists_eq_add_one_of_ne_zero (Nat.ne_of_gt enough)
    rw [renderMembers, List.nil_append, moreMembers?, skipSpace_newline]
    rfl
  | cons m members ih =>
    obtain ⟨fuel, rfl⟩ := Nat.exists_eq_add_one_of_ne_zero (Nat.ne_zero_of_lt enough)
    simp only [renderMembers, newline, List.length_cons, List.length_append,
      List.length_replicate] at enough
    have others := ih fuel (fun w hw => keys w (List.mem_cons_of_mem m hw))
      (fun w hw => h w (List.mem_cons_of_mem m hw)) (by omega)
    have first := member?_render depth fuel _ (keys m List.mem_cons_self) (h m List.mem_cons_self)
        (ends_renderMembers depth members (ends_newline outer ('\x7d' :: rest))) (by omega)
    simp only [renderMembers, List.cons_append, List.append_assoc]
    exact moreMembers?_comma ((member?_skip depth).trans first) others

end Lists

theorem Writable.readsBack (h : Writable v) : ReadsBack v := by
  induction h with
  | null => exact readsBack_of_step (fun _ _ _ _ _ => rfl) fun _ => List.cons_ne_nil _ _
  | bool b =>
    cases b with
    | true => exact readsBack_of_step (fun _ _ _ _ _ => rfl) fun _ => List.cons_ne_nil _ _
    | false => exact readsBack_of_step (fun _ _ _ _ _ => rfl) fun _ => List.cons_ne_nil _ _
  | @number n wellFormed =>
    refine readsBack_of_step (fun _ fuel _ stop _ => value?_text fuel wellFormed stop) fun _ => ?_
    rw [Value.render, Numeral.text, Decimal.signed]
    split
    · exact List.cons_ne_nil _ _
    · simp [wellFormed.whole_ne_nil]
  | string s =>
    refine readsBack_of_step (fun depth fuel rest _ _ => ?_) fun _ => List.cons_ne_nil _ _
    have text : (Value.string (some s)).render depth ++ rest =
        '"' :: (s.toList.flatMap escaped ++ '"' :: rest) := by
      simp only [Value.render, Option.getD_some, quoted, List.cons_append, List.append_assoc,
        List.nil_append]
    have skip : ∀ cs, skipSpace ('"' :: cs) = '"' :: cs := fun _ => rfl
    simp only [text, value?, skip, string?_quoted, Option.map_some]
  | @array items _ ih =>
    cases items with
    | nil => exact readsBack_of_step (fun _ _ _ _ _ => rfl) fun _ => List.cons_ne_nil _ _
    | cons v vs =>
      refine readsBack_of_step (fun depth fuel rest _ enough => ?_) fun _ => List.cons_ne_nil _ _
      simp only [Value.render, newline, List.length_cons, List.length_append, List.length_replicate,
        List.length_nil] at enough
      have others :=
        moreItems?_render (depth + 1) depth fuel rest (fun w hw => ih w (List.mem_cons_of_mem v hw))
        (by omega)
      have first := ih v List.mem_cons_self (depth + 1) fuel _
        (ends_renderItems (depth + 1) vs (ends_newline depth (']' :: rest))) (by omega)
      simp only [Value.render, List.cons_append, List.append_assoc, List.nil_append]
      exact value?_array ((value?_skip (depth + 1)).trans first) others
  | @object members keys _ ih =>
    cases members with
    | nil => exact readsBack_of_step (fun _ _ _ _ _ => rfl) fun _ => List.cons_ne_nil _ _
    | cons m members =>
      refine readsBack_of_step (fun depth fuel rest _ enough => ?_) fun _ => List.cons_ne_nil _ _
      simp only [Value.render, newline, List.length_cons, List.length_append, List.length_replicate,
        List.length_nil] at enough
      have others :=
        moreMembers?_render (depth + 1) depth fuel rest
          (fun w hw => keys w (List.mem_cons_of_mem m hw))
        (fun w hw => ih w (List.mem_cons_of_mem m hw)) (by omega)
      have first :=
        member?_render (depth + 1) fuel _ (keys m List.mem_cons_self) (ih m List.mem_cons_self)
        (ends_renderMembers (depth + 1) members (ends_newline depth ('\x7d' :: rest))) (by omega)
      simp only [Value.render, List.cons_append, List.append_assoc, List.nil_append]
      exact value?_object ((member?_skip (depth + 1)).trans first) others

theorem read?_write (h : Writable v) : read? (write v) = some v := by
  have length : (v.render 0).length ≤ 2 * (v.render 0).length + 2 := by omega
  have back := h.readsBack 0 _ [] (fun c hc => by cases hc) length
  rw [List.append_nil] at back
  rw [read?, write, String.toList_ofList, back]
  rfl

end GameBalance.Json
