import GameBalance.Console.Outcome

namespace GameBalance.Console

def check (formula : String) (known : List String) (values : List (String × Float)) : Outcome :=
  let bindings := Formula.Bindings.ofList values
  let verdict := Formula.validate formula (known ++ values.map Prod.fst)
    (if bindings.isEmpty then none else some bindings)
  let names := Formula.freeNames formula
  let lines :=
    ["🔍 Statforge - Formula Check", "   Formula: " ++ formula, ""] ++
      (if names.isEmpty then [] else ["   Variables: " ++ ", ".intercalate names]) ++
        [verdictLine verdict]
  ⟨lines, verdict.message?.map .invalid⟩

def eval (formula : String) (values : List (String × Float)) : Outcome :=
  match Formula.evaluate formula (.ofList values) with
  | .ok x => .success [shown x]
  | .error e => .fail [] (.evaluation e)

def signature (f : Formula.Builtin) : String :=
  f.name ++ if f.arity = 1 then "(x)" else "(a, b)"

def functions : Outcome :=
  .success <|
    ["📚 Statforge - Built-in Functions", ""] ++
      Formula.Builtin.all.map (fun f => "   " ++ signature f) ++
      ["", "   Names are case-insensitive. Reserved variables: " ++
        ", ".intercalate Formula.reservedNames]

end GameBalance.Console
