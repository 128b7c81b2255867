import GameBalance.Text.Split

namespace GameBalance.Text

/-- The steps of a path. One that is empty or leads nowhere does not count. -/
def steps (path : List Char) : List (List Char) :=
  (pieces '/' path).filter fun step => step ≠ [] ∧ step ≠ ['.']

def fileName? (path : List Char) : Option (List Char) :=
  (steps path).getLast?.filter (· ≠ ['.', '.'])

def extension? (path : List Char) : Option (List Char) :=
  (fileName? path).bind fun name =>
    (cutLast? '.' name).bind fun (stem, extension) => if stem.isEmpty then none else some extension

end GameBalance.Text
