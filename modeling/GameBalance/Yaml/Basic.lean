namespace GameBalance.Yaml

/-- A plain scalar is one without quotes, which may stand for more than its text. -/
inductive Node
  | scalar (plain : Bool) (text : String)
  | sequence (items : List Node)
  | mapping (entries : List (Node × Node))

def Node.missing : Node :=
  .scalar true ""

def isBlank (c : Char) : Bool :=
  c = ' ' || c = '\t'

def isBreak (c : Char) : Bool :=
  c = '\n' || c = '\u2028' || c = '\u2029'

def endsWord : List Char → Bool
  | [] => true
  | c :: _ => isBlank c || isBreak c

def atMark (column : Nat) : List Char → Bool
  | '-' :: '-' :: '-' :: cs => column = 0 && endsWord cs
  | '.' :: '.' :: '.' :: cs => column = 0 && endsWord cs
  | _ => false

def normalized : List Char → List Char
  | [] => []
  | '\r' :: '\n' :: cs => '\n' :: normalized cs
  | c :: cs => (if c = '\r' ∨ c = '\u0085' then '\n' else c) :: normalized cs

def isPrintable (c : Char) : Bool :=
  let n := c.toNat
  n = 0x0A || (0x20 ≤ n && n ≤ 0x7E) || (0xA0 ≤ n && n ≤ 0xD7FF) ||
    (0xE000 ≤ n && n ≤ 0xFFFD && n ≠ 0xFEFF) || 0x10000 ≤ n

def isAllowed (c : Char) : Bool :=
  isPrintable c || c = '\t' || c = '\r' || c = '\u0085'

end GameBalance.Yaml
