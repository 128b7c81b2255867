import GameBalance.Formula.Evaluation

namespace GameBalance.Formula

/-- Values by name. A name stands in one pair at most. -/
abbrev Bindings := List (String × Float)

namespace Bindings

def set (b : Bindings) (name : String) (value : Float) : Bindings :=
  b.filter (·.1 ≠ name) ++ [(name, value)]

def unset (b : Bindings) (name : String) : Bindings :=
  b.filter (·.1 ≠ name)

def ofList (pairs : List (String × Float)) : Bindings :=
  pairs.foldl (fun b (name, value) => b.set name value) []

/-- Whether `p` is replaced before `q`: longer names first, then in the order of code points. -/
def precedes (p q : String × Float) : Bool :=
  q.1.length < p.1.length || (p.1.length = q.1.length && !(q.1 < p.1))

def inOrder (b : Bindings) : Bindings :=
  b.mergeSort precedes

end Bindings

def beginsWith : (name cs : List Char) → Bool
  | [], _ => true
  | _ :: _, [] => false
  | n :: ns, c :: cs => Text.fold n = Text.fold c && beginsWith ns cs

def standsAt (name : List Char) (before : Option Char) (cs : List Char) : Bool :=
  beginsWith name cs && Text.isBoundary before cs.head? &&
    Text.isBoundary ((cs.take name.length).getLast?.or before) (cs.drop name.length).head?

def occursFrom (name : List Char) (before : Option Char) : List Char → Bool
  | [] => standsAt name before []
  | c :: cs => standsAt name before (c :: cs) || occursFrom name (some c) cs

/--
Replaces the occurrences of `name`. The next `skip`
characters belong to the last one and are left out.
-/
def replaceFrom (name literal : List Char) (skip : Nat) (before : Option Char) :
    List Char → List Char
  | [] => if standsAt name before [] then literal else []
  | c :: cs =>
    match skip with
    | skip + 1 => replaceFrom name literal skip (some c) cs
    | 0 =>
      if standsAt name before (c :: cs) then
        match name.length with
        | 0 => literal ++ c :: replaceFrom name literal 0 (some c) cs
        | n + 1 => literal ++ replaceFrom name literal n (some c) cs
      else c :: replaceFrom name literal 0 (some c) cs

/-- Replaces one name. A value without a decimal text is refused only where the name occurs. -/
def replaceName (text : List Char) (binding : String × Float) : Except EvalError (List Char) :=
  let name := binding.1.toList
  if occursFrom name none text then
    if binding.2.isFinite then .ok (replaceFrom name (Decimal.plain binding.2) 0 none text)
    else .error (.nonFiniteBinding binding.1 binding.2)
  else .ok text

def prepareText (formula : List Char) (b : Bindings) : Except EvalError (List Char) :=
  b.inOrder.foldlM replaceName formula

def prepare (formula : String) (b : Bindings) : Except EvalError String :=
  (prepareText formula.toList b).map .ofList

def evaluateText (text : String) : Except EvalError Float := do
  let tokens ← (tokenize text).mapError .token
  let e ← (parse tokens).mapError .parse
  e.eval

def evaluate (formula : String) (b : Bindings) : Except EvalError Float :=
  if Text.isBlankText formula then .ok 0
  else do
    let text ← prepare formula b
    evaluateText text

end GameBalance.Formula
