import Ensemble.Utility.Input

/-!
# Ensemble.Utility.Question

**Questions** that a utility asks before it does something. It goes on only if the answer, one line of
standard input, begins with `y`.
-/

namespace Ensemble.Utility

/-- The line that answers a question, read up to its end. -/
def answerLine : Nat → List String → Tool String
  | 0, pieces => return String.join pieces.reverse
  | fuel + 1, pieces => do
    match ← ask (.readThrough 0 '\n' blockSize) with
    | .error _ | .ok "" => return String.join pieces.reverse
    | .ok piece =>
      if piece.toList.getLast? == some '\n' then return String.join (piece :: pieces).reverse
      else answerLine fuel (piece :: pieces)

/-- Ask something. Is the answer yes? -/
def isAgreed (question : String) : Tool Bool := do
  flush
  sayError ((← get).name ++ ": " ++ question ++ "? ")
  let answer ← answerLine readLimit []
  return answer.toList.head? == some 'y' || answer.toList.head? == some 'Y'

/-- How a place is called in a question. -/
def kindText (s : Status) : String :=
  match s.kind with
  | .file => if s.size = 0 then "regular empty file" else "regular file"
  | .directory => "directory"
  | .link => "symbolic link"
  | .device => "character special file"
  | .queue => "fifo"

end Ensemble.Utility
