import GameBalance.Proofs.Decimal.Literal
import GameBalance.Proofs.Rules.Encoding
import GameBalance.Proofs.Yaml.Reader
import GameBalance.Yaml.Encoding

namespace GameBalance.Yaml

def beginsNumeral : List Char → Bool
  | '-' :: c :: _ => c.isDigit
  | c :: _ => c.isDigit
  | [] => false

section Numerals

variable {n : Numeral} {c : Char} {cs : List Char}

theorem beginsNumeral_digit (h : c.isDigit = true) (cs : List Char) :
    beginsNumeral (c :: cs) = true ∧ beginsNumeral ('-' :: c :: cs) = true := by
  refine ⟨?_, h⟩
  rw [beginsNumeral.eq_2, h]
  exact fun _ _ same => absurd same (Decimal.ne_of_isDigit h rfl)

theorem beginsNumeral_text (h : n.WellFormed) (plus : List Char) :
    beginsNumeral (n.text plus) = true := by
  obtain ⟨c, cs, whole⟩ := List.exists_cons_of_ne_nil h.whole_ne_nil
  have digit : c.isDigit = true := h.isDigit_whole c (whole ▸ List.mem_cons_self)
  rw [Numeral.text_eq, whole, Decimal.signed]
  split
  · exact (beginsNumeral_digit digit _).2
  · exact (beginsNumeral_digit digit _).1

theorem isNullWord_numeral (h : beginsNumeral cs = true) : isNullWord (.ofList cs) = false := by
  have words : ∀ w ∈ ["", "null", "Null", "NULL", "~"], beginsNumeral w.toList = false := by decide
  rw [isNullWord, ← Bool.not_eq_true, List.contains_iff_mem]
  intro word
  have none := words _ word
  rw [String.toList_ofList, h] at none
  cases none

theorem double?_numeral (h : beginsNumeral cs = true) : double? cs = finite? cs := by
  have word : ∀ w : String, String.ofList cs = w → beginsNumeral w.toList = true := by
    rintro w rfl
    rwa [String.toList_ofList]
  rw [double?.eq_def]
  split
  all_goals try exact absurd (word _ ‹_›) (by decide)
  split
  · cases h
  · cases h
  · rfl

theorem unsigned?_digitsOf (n : Nat) : unsigned? (Decimal.digitsOf n) = some n := by
  obtain zero | leading := Decimal.digitsOf_eq_singleton_or n
  · have value := Decimal.valueOf_digitsOf n
    rw [zero] at value ⊢
    rw [← value]
    rfl
  · have apart : ∀ ds, Decimal.digitsOf n ≠ '0' :: ds :=
      fun ds same => leading (by rw [same, List.head?_cons])
    have noZero : hasLeadingZero (Decimal.digitsOf n) = false := by
      rw [hasLeadingZero.eq_2]
      exact fun _ _ same => apart _ same
    rw [unsigned?.eq_4 _ (fun _ => apart _) (fun _ => apart _) (fun _ => apart _), noZero,
      if_neg Bool.false_ne_true]
    exact Text.numberIn?_decimal n

theorem natural?_digitsOf (n : Nat) : natural? (Decimal.digitsOf n) = some n := by
  rw [natural?.eq_2, unsigned?_digitsOf]
  intro cs same
  exact Decimal.ne_of_isDigit (Decimal.isDigit_of_mem_digitsOf (same ▸ List.mem_cons_self)) rfl rfl

theorem integer?_text (i : Int) : integer? ((Numeral.ofInt i).text []) = some i := by
  have text : (Numeral.ofInt i).text [] =
      Decimal.signed (decide (i < 0)) (Decimal.digitsOf i.natAbs) := by
    rw [Numeral.text_eq]
    simp [Numeral.ofInt, Numeral.fractionText, Numeral.exponentText]
  rw [text]
  by_cases negative : i < 0
  · rw [decide_eq_true negative, Decimal.signed, if_pos rfl, integer?, unsigned?_digitsOf]
    have value : -(i.natAbs : Int) = i := by
      rw [Int.ofNat_natAbs_of_nonpos (Int.le_of_lt negative), Int.neg_neg]
    exact congrArg some value
  · rw [decide_eq_false negative, Decimal.signed, if_neg Bool.false_ne_true, integer?.eq_2,
      natural?_digitsOf]
    · exact congrArg some (Int.natAbs_of_nonneg (Int.not_lt.1 negative))
    · intro cs same
      exact Decimal.ne_of_isDigit
        (Decimal.isDigit_of_mem_digitsOf (same ▸ List.mem_cons_self)) rfl rfl

end Numerals

section Plain

variable {c : Char} {cs : List Char}

def IsCommon (c : Char) : Prop :=
  isPrintable c = true ∧ isBreak c = false ∧ c ≠ ':' ∧ c ≠ ' '

theorem isCommon_digit (h : c.isDigit = true) : IsCommon c := by
  have digit := Char.isDigit_iff_toNat.1 h
  change 48 ≤ c.toNat ∧ c.toNat ≤ 57 at digit
  have printable : isPrintable c = true := by
    simp only [isPrintable, Bool.or_eq_true, Bool.and_eq_true, decide_eq_true_eq]
    omega
  have unbroken : isBreak c = false := by
    simp [isBreak, Decimal.ne_of_isDigit h]
  exact ⟨printable, unbroken, Decimal.ne_of_isDigit h rfl, Decimal.ne_of_isDigit h rfl⟩

theorem isPlainRest_common (h : ∀ d ∈ cs, IsCommon d) : isPlainRest cs = true := by
  induction cs with
  | nil => rfl
  | cons c cs ih =>
    obtain ⟨⟨-, -, colon, space⟩, more⟩ := List.forall_mem_cons.1 h
    simp [isPlainRest, colon, space, ih more]

theorem isPlainStart_digit (h : c.isDigit = true) (cs : List Char) : isPlainStart c cs = true := by
  have apart : ∀ ds : List Char, ds.any Char.isDigit = false → ds.contains c = false :=
    fun ds none => by
    rw [← Bool.not_eq_true, List.contains_iff_mem]
    exact fun mem => List.any_eq_false.1 none c mem h
  have indicator : "#,[]\x7b\x7d&*!|>'\"%@\x60 ".toList.contains c = false :=
    apart ['#', ',', '[', ']', '\x7b', '\x7d', '&', '*', '!', '|', '>', '\'', '"', '%', '@',
      '\x60', ' '] rfl
  have mark : "?:-".toList.contains c = false := apart ['?', ':', '-'] rfl
  rw [isPlainStart, indicator, mark]
  rfl

theorem canBePlain_common (h : ∀ d ∈ c :: cs, IsCommon d) (start : isPlainStart c cs = true)
    (mark : beginsAsMark (c :: cs) = false) : canBePlain (c :: cs) = true := by
  have chars : (c :: cs).all (fun d => isPrintable d && !isBreak d) = true :=
    List.all_eq_true.2 fun d hd => by rw [(h d hd).1, (h d hd).2.1]; rfl
  have last : (c :: cs).getLast? ≠ some ' ' :=
    fun last => (h ' ' (List.mem_of_getLast? last)).2.2.2 rfl
  rw [canBePlain, chars, start, isPlainRest_common (List.forall_mem_cons.1 h).2, mark,
    decide_eq_true last]
  rfl

theorem canBePlain_numeral (begins : beginsNumeral cs = true) (h : ∀ d ∈ cs, IsCommon d) :
    canBePlain cs = true := by
  rw [beginsNumeral.eq_def] at begins
  split at begins
  · rename_i c cs
    have ends : endsWord (c :: cs) = false := by
      obtain ⟨-, unbroken, -⟩ := isCommon_digit begins
      simp [endsWord, isBlank, unbroken, Decimal.ne_of_isDigit begins]
    have start : isPlainStart '-' (c :: cs) = true := by
      have indicator : "#,[]\x7b\x7d&*!|>'\"%@\x60 ".toList.contains '-' = false := by decide
      rw [isPlainStart, indicator, ends, Bool.and_false]
      rfl
    refine canBePlain_common h start ?_
    rw [beginsAsMark.eq_3]
    · exact fun _ same => Decimal.ne_of_isDigit begins rfl (List.cons.inj (List.cons.inj same).2).1
    · exact fun _ same => absurd (List.cons.inj same).1 (by decide)
  · rename_i c cs _
    refine canBePlain_common h (isPlainStart_digit begins cs) ?_
    rw [beginsAsMark.eq_3]
    · exact fun _ same => Decimal.ne_of_isDigit begins rfl (List.cons.inj same).1
    · exact fun _ same => Decimal.ne_of_isDigit begins rfl (List.cons.inj same).1
  · cases begins

theorem isCommon_text {n : Numeral} (h : n.WellFormed) : ∀ c ∈ n.text [], IsCommon c := by
  have dash : IsCommon '-' := ⟨rfl, rfl, by decide, by decide⟩
  have point : IsCommon '.' := ⟨rfl, rfl, by decide, by decide⟩
  have mark : IsCommon 'e' := ⟨rfl, rfl, by decide, by decide⟩
  have digits : ∀ m, ∀ c ∈ Decimal.digitsOf m, IsCommon c :=
    fun m c hc => isCommon_digit (Decimal.isDigit_of_mem_digitsOf hc)
  have whole : ∀ c ∈ n.whole, IsCommon c := fun c hc => isCommon_digit (h.isDigit_whole c hc)
  have fraction : ∀ c ∈ Numeral.fractionText n.fraction, IsCommon c := by
    rw [Numeral.fractionText]
    split
    · exact List.forall_mem_nil _
    · exact List.forall_mem_cons.2 ⟨point, fun c hc => isCommon_digit (h.isDigit_fraction c hc)⟩
  have exponent : ∀ c ∈ Numeral.exponentText [] n.exponent, IsCommon c := by
    rw [Numeral.exponentText.eq_def]
    split
    · exact List.forall_mem_nil _
    · refine List.forall_mem_cons.2 ⟨mark, ?_⟩
      split
      · exact List.forall_mem_cons.2 ⟨dash, digits _⟩
      · exact digits _
  have unsigned :
      ∀ c ∈ n.whole ++ (Numeral.fractionText n.fraction ++ Numeral.exponentText [] n.exponent),
      IsCommon c :=
    List.forall_mem_append.2 ⟨whole, List.forall_mem_append.2 ⟨fraction, exponent⟩⟩
  rw [Numeral.text_eq, Decimal.signed]
  split
  · exact List.forall_mem_cons.2 ⟨dash, unsigned⟩
  · exact unsigned

theorem canBePlain_text {n : Numeral} (h : n.WellFormed) : canBePlain (n.text []) = true :=
  canBePlain_numeral (beginsNumeral_text h []) (isCommon_text h)

end Plain

section Readers

variable (text : String)

theorem nat?_plain : encoding.nat? (.scalar true text) = natural? text.toList := rfl

theorem int?_plain : encoding.int? (.scalar true text) = integer? text.toList := rfl

theorem float?_plain : encoding.float? (.scalar true text) = double? text.toList := rfl

theorem ofInt_eq (i : Int) :
    encoding.ofInt i = .scalar true (.ofList ((Numeral.ofInt i).text [])) := rfl

end Readers

theorem lawful : encoding.Lawful where
  isNull_null := by decide
  isNull_ofText s := by
    change (Node.scalar (canBePlain s.toList && !isResolved s) s).isNull = false
    cases plain : canBePlain s.toList && !isResolved s with
    | false => rfl
    | true =>
      rw [Bool.and_eq_true, Bool.not_eq_true', isResolved] at plain
      simp only [Bool.or_eq_false_iff] at plain
      exact plain.2.1.1.1.1
  isNull_ofInt i := isNullWord_numeral (beginsNumeral_text (Numeral.wellFormed_ofInt i) [])
  text?_ofText _ := rfl
  word?_ofText _ := rfl
  nat?_ofInt n := by
    have text : (Numeral.ofInt n).text [] = Decimal.digitsOf n := by
      simp [Numeral.text_eq, Numeral.ofInt, Numeral.fractionText, Numeral.exponentText,
        Decimal.signed]
    rw [ofInt_eq, nat?_plain, String.toList_ofList, text, natural?_digitsOf]
  int?_ofInt i := by
    rw [ofInt_eq, int?_plain, String.toList_ofList, integer?_text]
  items?_ofItems _ := rfl
  members?_ofMembers fields {members} names distinct := by
    change ((members.map fun m => (Node.ofText m.1, m.2)).mapM fun (entry : Node × Node) =>
      entry.1.text?.map (·, entry.2)).bind (knownMembers? fields) = some members
    have keys : ((members.map fun m => (Node.ofText m.1, m.2)).mapM fun (entry : Node × Node) =>
        entry.1.text?.map (·, entry.2)) = some members := by
      refine mapM_map_some (fun _ => ?_) members
      rfl
    rw [keys, Option.bind_some, knownMembers?_eq names distinct]

theorem keyName_ofText {name : String} (h : name ∈ Encoding.records.flatten) :
    KeyName (.ofText name) := by
  have names : ∀ name ∈ Encoding.records.flatten,
      (canBePlain name.toList && !isResolved name) = true ∧
      Text.bytes name.toList ≤ Lexer.keyBound := by decide +kernel
  obtain ⟨plain, short⟩ := names name h
  refine ⟨name, ?_, (Bool.and_eq_true _ _).mp plain |>.1, short⟩
  rw [Node.ofText, plain]

theorem closed : encoding.Closed Writable where
  null := .scalar fun _ => by decide
  ofText s := .scalar fun plain => by
    rw [Bool.and_eq_true] at plain
    exact plain.1
  ofInt i := .scalar fun _ => by
    rw [String.toList_ofList]
    exact canBePlain_text (Numeral.wellFormed_ofInt i)
  ofItems h := .sequence h
  ofMembers known h := by
    refine .mapping (List.forall_mem_map.2 fun m hm => ?_) (List.forall_mem_map.2 h)
    exact keyName_ofText (List.mem_flatten.2 ⟨_, known, List.mem_map_of_mem hm⟩)

theorem writable_ofFloat (x : Float) : Writable (.ofFloat x) := by
  refine .scalar fun _ => ?_
  split
  · decide
  · rename_i nan
    split
    · split <;> decide
    · rename_i inf
      have finite :=
        Double.isFinite_of_isInf (Bool.eq_false_of_not_eq_true nan)
          (Bool.eq_false_of_not_eq_true inf)
      rw [String.toList_ofList]
      exact canBePlain_text (Numeral.wellFormed_ofFloat finite)

theorem read?_write_rules (r : Rules) :
    read? (write (encoding.ofRules r)) = some (encoding.ofRules r) :=
  read?_write (closed.ofRules fun x _ => writable_ofFloat x)

theorem float?_ofFloat {x : Float} (h : x.isNaN = false) :
    encoding.float? (encoding.ofFloat x) = some x := by
  cases inf : x.isInf with
  | true =>
    have words : ∀ negative,
        encoding.float? (encoding.ofFloat (Double.ofMagnitude negative Double.infinity)) =
        some (Double.ofMagnitude negative Double.infinity) := by
      decide +kernel
    rw [Double.eq_infinity inf, words]
  | false =>
    have finite := Double.isFinite_of_isInf h inf
    have wellFormed := Numeral.wellFormed_ofFloat finite
    have text : encoding.ofFloat x = .scalar true (.ofList ((Numeral.ofFloat x).text [])) := by
      change Node.ofFloat x = _
      rw [Node.ofFloat, h, inf]
      rfl
    rw [text, float?_plain, String.toList_ofList,
      double?_numeral (beginsNumeral_text wellFormed []), finite?, Decimal.number?_text wellFormed,
      Numeral.toFloat_ofFloat finite, Option.filter_some, if_pos finite]

end GameBalance.Yaml
