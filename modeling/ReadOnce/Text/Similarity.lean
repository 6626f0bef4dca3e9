/-!
How alike two texts are. The longest run of characters that both hold is matched, then what stands before it in
both and what stands behind it in both; two texts are close if the matched characters are at least three fifths
of all.
-/
namespace ReadOnce.Text

/-- How many characters two texts share at their starts. -/
def sharedStart : List Char → List Char → Nat
  | left :: lefts, right :: rights => if left = right then sharedStart lefts rights + 1 else 0
  | _, _ => 0

/-- A run of characters that stands in two texts, by its place in each. -/
structure SharedRun where
  left : Nat
  right : Nat
  length : Nat
deriving DecidableEq, Repr

/-- The longest run that two texts share, of equally long ones the first. -/
def longestRun (left right : List Char) : SharedRun :=
  let runs := (List.range left.length).flatMap fun start =>
    (List.range right.length).map fun place =>
      SharedRun.mk start place (sharedStart (left.drop start) (right.drop place))
  runs.foldl (fun best run => if best.length < run.length then run else best) ⟨0, 0, 0⟩

/-- How many characters are matched in at most so many rounds, each of which finds a run. -/
private def matchedWithin : (rounds : Nat) → List Char → List Char → Nat
  | 0, _, _ => 0
  | rounds + 1, left, right =>
    let run := longestRun left right
    if run.length = 0 then 0
    else
      matchedWithin rounds (left.take run.left) (right.take run.right) + run.length +
        matchedWithin rounds (left.drop (run.left + run.length)) (right.drop (run.right + run.length))

def matched (left right : List Char) : Nat := matchedWithin left.length left right

/-- The share of matched characters, as a number of them over a number of all. -/
def likeness (left right : List Char) : Nat × Nat := (2 * matched left right, left.length + right.length)

def isClose (left right : List Char) : Bool :=
  let (part, whole) := likeness left right
  3 * whole ≤ 5 * part

end ReadOnce.Text
