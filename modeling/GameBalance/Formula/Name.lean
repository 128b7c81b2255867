import GameBalance.Formula.Builtin
import GameBalance.Formula.Token

namespace GameBalance.Formula

def namesIn : List Char → List String
  | [] => []
  | c :: cs =>
    if isNameStart c then
      .ofList (c :: cs.takeWhile isNamePart) :: namesIn (cs.dropWhile isNamePart)
    else namesIn cs
termination_by cs => cs.length
decreasing_by
  · have := length_dropWhile_le isNamePart cs
    simp only [List.length_cons]
    omega
  · simp

def scanNames (formula : String) : List String :=
  namesIn formula.toList

def referencedNames (formula : String) : List String :=
  (scanNames formula).filter (!Builtin.isName ·)

def addName (seen : List String) (name : String) : List String :=
  if seen.any (Text.sameIgnoringCase · name) then seen else seen ++ [name]

/-- The distinct names of variables, each in its first spelling. -/
def freeNames (formula : String) : List String :=
  (referencedNames formula).foldl addName []

end GameBalance.Formula
