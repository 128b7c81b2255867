import GameBalance.Yaml.Token

namespace GameBalance.Yaml

mutual

def flowNode? : (fuel : Nat) → List Token → Option (Node × List Token)
  | 0, _ => none
  | fuel + 1, ts =>
    match ts with
    | .scalar plain text :: ts => some (.scalar plain text, ts)
    | .openBracket :: .closeBracket :: ts => some (.sequence [], ts)
    | .openBracket :: ts => do
      let (item, ts) ← flowItem? fuel ts
      let (items, ts) ← flowItems? fuel ts
      return (.sequence (item :: items), ts)
    | .openBrace :: .closeBrace :: ts => some (.mapping [], ts)
    | .openBrace :: ts => do
      let (pair, ts) ← flowPair? fuel ts
      let (pairs, ts) ← flowPairs? fuel ts
      return (.mapping (pair :: pairs), ts)
    | _ => none

def flowValue? : (fuel : Nat) → List Token → Option (Node × List Token)
  | 0, _ => none
  | fuel + 1, ts =>
    match ts with
    | .comma :: _ | .closeBracket :: _ | .closeBrace :: _ => some (.missing, ts)
    | ts => flowNode? fuel ts

def flowItem? : (fuel : Nat) → List Token → Option (Node × List Token)
  | 0, _ => none
  | fuel + 1, ts =>
    match ts with
    | .key plain text :: ts => do
      let (v, ts) ← flowValue? fuel ts
      return (.mapping [(.scalar plain text, v)], ts)
    | ts => flowNode? fuel ts

def flowItems? : (fuel : Nat) → List Token → Option (List Node × List Token)
  | 0, _ => none
  | fuel + 1, ts =>
    match ts with
    | .closeBracket :: ts | .comma :: .closeBracket :: ts => some ([], ts)
    | .comma :: ts => do
      let (item, ts) ← flowItem? fuel ts
      let (items, ts) ← flowItems? fuel ts
      return (item :: items, ts)
    | _ => none

def flowPair? : (fuel : Nat) → List Token → Option ((Node × Node) × List Token)
  | 0, _ => none
  | fuel + 1, ts =>
    match ts with
    | .key plain text :: ts => do
      let (v, ts) ← flowValue? fuel ts
      return ((.scalar plain text, v), ts)
    | ts => do
      let (key, ts) ← flowNode? fuel ts
      return ((key, .missing), ts)

def flowPairs? : (fuel : Nat) → List Token → Option (List (Node × Node) × List Token)
  | 0, _ => none
  | fuel + 1, ts =>
    match ts with
    | .closeBrace :: ts | .comma :: .closeBrace :: ts => some ([], ts)
    | .comma :: ts => do
      let (pair, ts) ← flowPair? fuel ts
      let (pairs, ts) ← flowPairs? fuel ts
      return (pair :: pairs, ts)
    | _ => none

end

mutual

def blockNode? : (fuel : Nat) → List Token → Option (Node × List Token)
  | 0, _ => none
  | fuel + 1, ts =>
    match ts with
    | .sequenceStart :: ts => do
      match ← blockItems? fuel ts with
      | (items, .blockEnd :: ts) => return (.sequence items, ts)
      | _ => none
    | .mappingStart :: ts => do
      match ← blockPairs? fuel ts with
      | (pairs, .blockEnd :: ts) => return (.mapping pairs, ts)
      | _ => none
    | ts => flowNode? (2 * ts.length + 1) ts

def blockItems? : (fuel : Nat) → List Token → Option (List Node × List Token)
  | 0, _ => none
  | fuel + 1, ts =>
    match ts with
    | .entry :: ts => do
      let (item, ts) ← match ts with
        | .entry :: _ | .key _ _ :: _ | .blockEnd :: _ => some (.missing, ts)
        | ts => blockNode? fuel ts
      let (items, ts) ← blockItems? fuel ts
      return (item :: items, ts)
    | ts => some ([], ts)

/--
The entries of a mapping in block style, up to what is no key. The items of a sequence under a key
may stand in the column of the key.
-/
def blockPairs? : (fuel : Nat) → List Token → Option (List (Node × Node) × List Token)
  | 0, _ => none
  | fuel + 1, ts =>
    match ts with
    | .key plain text :: ts => do
      let (v, ts) ← match ts with
        | .key _ _ :: _ | .blockEnd :: _ => some (.missing, ts)
        | .entry :: _ => (blockItems? fuel ts).map fun (items, ts) => (.sequence items, ts)
        | ts => blockNode? fuel ts
      let (pairs, ts) ← blockPairs? fuel ts
      return ((.scalar plain text, v) :: pairs, ts)
    | ts => some ([], ts)

end

def documentNode? : List Token → Option (Node × List Token)
  | [] => some (.missing, [])
  | .documentStart :: ts =>
    match ts with
    | [] | .documentStart :: _ | .documentEnd :: _ => some (.missing, ts)
    | ts => blockNode? (ts.length + 1) ts
  | ts => blockNode? (ts.length + 1) ts

def read? (text : String) : Option Node := do
  let (node, rest) ← documentNode? (← tokenize? text)
  if rest.all (· = .documentEnd) then return node else none

end GameBalance.Yaml
