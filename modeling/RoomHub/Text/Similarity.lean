/-!
# Similar words

`jaro` measures how similar two words are, from zero to one.  Equal characters match if they are not
too far apart; half of the matches that stand in another order count as transpositions.
-/

namespace RoomHub.Text

/-- How far apart two characters may be to match. -/
def matchRange (a b : List Char) : Nat := max a.length b.length / 2 - 1

/-- The first place in a word, from `low` to `high`, that holds a character and is not taken. -/
def freePlace (word : List Char) (taken : List Nat) (c : Char) (low high : Nat) : Option Nat :=
  ((word.zipIdx.filter fun x =>
    x.1 = c && low ≤ x.2 && x.2 ≤ high && !taken.contains x.2).map (·.2)).head?

/-- The matches of a word with another: each character of the first finds the first free place of the
second.  The characters that match and the places that they take. -/
def matchesFrom (range : Nat) (b : List Char) :
    List (Char × Nat) → List Nat → List Char × List Nat
  | [], taken => ([], taken)
  | (c, i) :: rest, taken =>
    match freePlace b taken c (i - range) (i + range) with
    | some j =>
      let (found, taken) := matchesFrom range b rest (j :: taken)
      (c :: found, taken)
    | none => matchesFrom range b rest taken

/-- The similarity of two words, summed from the left and rounded to binary64 at each step: a score that
is a little over the limit only by rounding counts as over it. -/
def jaro (a b : List Char) : Float :=
  if a = [] ∧ b = [] then 1
  else
    let (found, taken) := matchesFrom (matchRange a b) b a.zipIdx []
    let others := (b.zipIdx.filter fun x => taken.contains x.2).map (·.1)
    let displaced := ((found.zip others).filter fun x => x.1 ≠ x.2).length
    let m := found.length
    if m = 0 then 0
    else
      (m.toFloat / a.length.toFloat + m.toFloat / b.length.toFloat
        + (m - displaced / 2).toFloat / m.toFloat) / 3

/-- The similarity above which a word may be meant by another. -/
def similarEnough : Float := 0.7

/-- The most similar of several words, if one is similar enough; of two equally similar words the
later one. -/
def mostSimilar (word : String) (candidates : List String) : Option String :=
  let scored := (candidates.map fun c => (jaro word.toList c.toList, c)).filter
    (similarEnough < ·.1)
  (scored.foldl
    (fun best x =>
      match best with
      | some y => if x.1 < y.1 then some y else some x
      | none => some x) none).map (·.2)

end RoomHub.Text
