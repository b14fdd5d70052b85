/-!
# Likeness of words

How alike two words are on the scale of Jaro: a ratio from 0 to 1 made of the share of characters
that both words have at about the same place and of how many of these stand in the same order. Every
step of the computation is rounded, which decides between likenesses that are all but equal.
-/

namespace CrossGen.Text

/-- A ratio of two natural numbers. -/
structure Ratio where
  numerator : Nat
  denominator : Nat

namespace Ratio

/-- Whether the first ratio is greater than the second. -/
def exceeds (a b : Ratio) : Bool :=
  b.numerator * a.denominator < a.numerator * b.denominator

/-- The number of significant binary digits that ratios are rounded to. -/
def precision : Nat := 53

/-- The ratio with few significant digits that is nearest to `a`, and of two that are equally near
the one whose last digit is even. -/
def round (a : Ratio) : Ratio :=
  if a.numerator = 0 || a.denominator = 0 then a
  else
    let shift := precision + a.denominator.log2
    let scaled := (a.numerator <<< shift) / a.denominator
    let dropped := scaled.log2 + 1 - precision
    let unit := a.denominator <<< dropped
    let whole := (a.numerator <<< shift) / unit
    let rest := (a.numerator <<< shift) % unit
    let up := unit < 2 * rest || (unit == 2 * rest && whole % 2 == 1)
    ⟨(if up then whole + 1 else whole) <<< dropped, 1 <<< shift⟩

/-- The rounded quotient of two numbers. -/
def quotient (m n : Nat) : Ratio :=
  round ⟨m, n⟩

/-- The rounded sum of two ratios. -/
def add (a b : Ratio) : Ratio :=
  round ⟨a.numerator * b.denominator + b.numerator * a.denominator,
    a.denominator * b.denominator⟩

/-- The rounded quotient of a ratio and a number. -/
def divide (a : Ratio) (n : Nat) : Ratio :=
  round ⟨a.numerator, a.denominator * n⟩

end Ratio

/-- The place of the first character equal to `c` that is not yet taken, among the places from
`low` up to and without `high`. -/
def findPartner (c : Char) (word : Array Char) (taken : List Nat) (low high : Nat) : Option Nat :=
  (List.range high).find? fun j => low ≤ j && word[j]? == some c && !taken.contains j

/-- The pairs of places at which `a` and `b` share a character, where partners may stand at most
`reach` places apart and each place has one partner. -/
def sharedPlaces (a b : List Char) (reach : Nat) : List (Nat × Nat) :=
  let word := b.toArray
  (a.zipIdx.foldl (fun pairs (c, i) =>
    match findPartner c word (pairs.map Prod.snd) (i - reach) (min word.size (i + reach + 1)) with
    | some j => (i, j) :: pairs
    | none => pairs) []).reverse

/-- The likeness of two words. -/
def likeness (left right : String) : Ratio :=
  let a := left.toList
  let b := right.toList
  if a.isEmpty && b.isEmpty then ⟨1, 1⟩
  else if a.isEmpty || b.isEmpty then ⟨0, 1⟩
  else
    let shared := sharedPlaces a b (max a.length b.length / 2 - 1)
    let m := shared.length
    if m = 0 then ⟨0, 1⟩
    else
      let inLeft := a.zipIdx.filterMap fun (c, i) =>
        if shared.any (fun pair => pair.1 == i) then some c else none
      let inRight := b.zipIdx.filterMap fun (c, j) =>
        if shared.any (fun pair => pair.2 == j) then some c else none
      let swapped := ((inLeft.zip inRight).countP fun (x, y) => x != y) / 2
      let shares := (Ratio.quotient m a.length).add (.quotient m b.length)
      (shares.add (.quotient (m - swapped) m)).divide 3

/-- The likeness that words have to exceed to count as alike. -/
def alike : Ratio := .quotient 7 10

/-- The words so much like `word` that they may have been meant, the least alike first. -/
def lookalikes (word : String) (known : List String) : List String :=
  let scored := known.filterMap fun candidate =>
    let score := likeness word candidate
    if score.exceeds alike then some (score, candidate) else none
  (scored.mergeSort fun a b => !a.1.exceeds b.1).map Prod.snd

end CrossGen.Text
