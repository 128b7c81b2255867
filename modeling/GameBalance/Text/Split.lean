namespace GameBalance.Text

def pieces (separator : Char) : List Char → List (List Char)
  | [] => [[]]
  | c :: cs =>
    if c = separator then [] :: pieces separator cs
    else match pieces separator cs with
      | [] => [[c]]
      | p :: ps => (c :: p) :: ps

def cut? (separator : Char) (cs : List Char) : Option (List Char × List Char) :=
  match cs.dropWhile (· ≠ separator) with
  | [] => none
  | _ :: rest => some (cs.takeWhile (· ≠ separator), rest)

def cutLast? (separator : Char) (cs : List Char) : Option (List Char × List Char) :=
  (cut? separator cs.reverse).map fun (last, first) => (first.reverse, last.reverse)

end GameBalance.Text
