import LayeredLint.Binary64.Basic

/-!
# Widths of columns

The columns of a table share the places of a line. Columns that need more places than there are
shrink, the widest first; places that are left over are shared by width.

- `reduced`: numbers without shares of an amount.
- `collapsed`: widths shrunk to a limit.
- `widened`: widths with shares of the places that are left over.
- `columnWidths`: the widths of columns by what they need.
-/

namespace LayeredLint.Console

/-- The sum of numbers. -/
def total (ns : List Nat) : Nat :=
  ns.foldl (· + ·) 0

/-- Numbers without shares of an amount. The first of each pair says how many shares a number loses,
out of so many in all; none loses more than `most`. -/
def reducedFrom (most amount shares : Nat) : List (Nat × Nat) → List Nat
  | [] => []
  | (own, n) :: rest =>
    let loss := if own = 0 then 0 else min most (Binary64.roundHalfEven (own * amount) shares)
    (n - loss) :: reducedFrom most (amount - loss) (shares - own) rest

/-- Widths without an amount that the widest of them share. None loses more than `most`. -/
def reduced (most amount : Nat) (widths : List Nat) : List Nat :=
  let widest := widths.foldl max 0
  let shares := widths.map fun n => if n = widest then 1 else 0
  reducedFrom most amount (total shares) (shares.zip widths)

/-- Widths shrunk to a limit: the widest shrink to the next width as long as there is an excess. -/
def collapsed (limit : Nat) : (fuel : Nat) → List Nat → List Nat
  | 0, widths => widths
  | fuel + 1, widths =>
    let excess := total widths - limit
    if excess = 0 then widths
    else
      let widest := widths.foldl max 0
      let second := (widths.filter (· ≠ widest)).foldl max 0
      collapsed limit fuel (reduced (min excess (widest - second)) excess widths)

/-- Widths with shares of an amount, by width, each rounded up, out of so many shares in all. -/
def widenedFrom (amount shares : Nat) : List Nat → List Nat
  | [] => []
  | n :: rest =>
    let gain := (n * amount + shares - 1) / shares
    (n + gain) :: widenedFrom (amount - gain) (shares - n) rest

/-- Widths with shares of the places that are left over up to a limit. -/
def widened (limit : Nat) (widths : List Nat) : List Nat :=
  widenedFrom (limit - total widths) (total widths) widths

/-- The widths of columns by what they need. Columns that fill a line use all places up to the
limit. -/
def columnWidths (limit : Nat) (fills : Bool) (needed : List Nat) : List Nat :=
  let widths := needed.map (min limit)
  if limit < total widths then collapsed limit (total widths) widths
  else if fills then widened limit widths
  else widths

end LayeredLint.Console
