import GameBalance.Text.Hex
import GameBalance.Yaml.Scalar

namespace GameBalance.Yaml

/--
What becomes of the line breaks at the end of a block
scalar: all dropped, all but one dropped, or all kept.
-/
inductive Chomp
  | strip
  | clip
  | keep
  deriving DecidableEq

/-- `extra` is how much deeper than its parent the scalar says it stands. -/
structure BlockHeader where
  literal : Bool
  chomp : Chomp
  extra : Option Nat

def chomp? : Char → Option Chomp
  | '-' => some .strip
  | '+' => some .keep
  | _ => none

def extra? (c : Char) : Option Nat :=
  (Text.digit? 10 c).filter (0 < ·)

def headerIndicators (literal : Bool) : List Char → BlockHeader × List Char
  | [] => (⟨literal, .clip, none⟩, [])
  | c :: cs =>
    match chomp? c, extra? c with
    | some chomp, _ =>
      match cs with
      | d :: ds => match extra? d with
        | some n => (⟨literal, chomp, some n⟩, ds)
        | none => (⟨literal, chomp, none⟩, cs)
      | [] => (⟨literal, chomp, none⟩, [])
    | none, some n =>
      match cs with
      | d :: ds => match chomp? d with
        | some chomp => (⟨literal, chomp, some n⟩, ds)
        | none => (⟨literal, .clip, some n⟩, cs)
      | [] => (⟨literal, .clip, some n⟩, [])
    | none, none => (⟨literal, .clip, none⟩, c :: cs)

def lineEnd? (cs : List Char) : Option (List Char) :=
  let cs := cs.dropWhile isBlank
  let cs := if cs.head? = some '#' then cs.dropWhile (!isBreak ·) else cs
  match cs with
  | [] => some []
  | c :: cs => if isBreak c then some cs else none

def header? (literal : Bool) (cs : List Char) : Option (BlockHeader × List Char) :=
  let (header, cs) := headerIndicators literal cs
  (lineEnd? cs).map (header, ·)

/--
The greatest column that leading spaces reach up to
the first line with a text. Tabs may not begin a line.
-/
def depth? (column deepest : Nat) : List Char → Option Nat
  | [] => some (max column deepest)
  | c :: cs =>
    if c = ' ' then depth? (column + 1) deepest cs
    else if c = '\t' then none
    else if isBreak c then depth? 0 (max column deepest) cs
    else some (max column deepest)

/--
Where the reader of a block scalar stands: in a line, which may begin with a blank, or between lines
after the break `first` and the empty lines `more`.
-/
inductive BlockPlace
  | line (indented : Bool)
  | between (indented : Bool) (first more : List Char) (column : Nat)

/--
What the breaks between two lines stand for. A folded line break between two lines that do not begin
with a blank becomes a space or gives way to the empty lines after it.
-/
def lineGap (literal indented : Bool) (first more : List Char) (next : Char) : List Char :=
  if !literal && first = ['\n'] && !indented && !isBlank next then
    if more.isEmpty then [' '] else more
  else first ++ more

def Chomp.tail (chomp : Chomp) (first more : List Char) : List Char :=
  match chomp with
  | .strip => []
  | .clip => first
  | .keep => first ++ more

def blockText (h : BlockHeader) (indent : Nat) : BlockPlace → List Char → Option Scanned
  | .line _, [] => some ⟨[], [], indent, false, true⟩
  | .line indented, c :: cs =>
    if isBreak c then blockText h indent (.between indented [c] [] 0) cs
    else (blockText h indent (.line indented) cs).map (·.prepend [c] false)
  | .between _ first more column, [] => some ⟨h.chomp.tail first more, [], column, false, true⟩
  | .between indented first more column, c :: cs =>
    if column < indent ∧ c = ' ' then
      blockText h indent (.between indented first more (column + 1)) cs
    else if column < indent ∧ c = '\t' then none
    else if isBreak c then blockText h indent (.between indented first (more ++ [c]) 0) cs
    else if column = indent then
      (blockText h indent (.line (isBlank c)) cs).map
        (·.prepend (lineGap h.literal indented first more c ++ [c]) false)
    else some ⟨h.chomp.tail first more, c :: cs, column, false, true⟩

def blockScalar? (literal : Bool) (margin : Nat) (cs : List Char) : Option Scanned := do
  let (h, cs) ← header? literal cs
  let indent ← match h.extra with
    | some n => some (margin - 1 + n)
    | none => (depth? 0 0 cs).map (max · (max margin 1))
  blockText h indent (.between false [] [] 0) cs

end GameBalance.Yaml
