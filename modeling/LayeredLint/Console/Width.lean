import LayeredLint.Console.WidthTable

/-!
# Places on the console

A line of the console has places, and a text takes some of them.

- `cellWidth`: how many places a character takes by itself.
- `textWidth`: how many places a text takes.
- `Cluster`, `clusters`: the characters of a text that are drawn together.
- `fitted`: a text cut or filled up to a number of places.
- `chopped`: a text cut into lines of a number of places.
- `missingPlaces`: how far it is to the next stop of a tab.
-/

namespace LayeredLint.Console

/-- How many places a character takes by itself. -/
def cellWidth (c : Char) : Nat :=
  if 0x20 ≤ c.toNat && c.toNat < 0x7F then 1
  else if c.toNat < 0xA0 || Text.inRanges overdrawnRanges c then 0
  else if Text.inRanges wideRanges c then 2
  else 1

/-- The mark that draws the next character together with the one before. -/
def joiner : Char := '\u200D'

/-- The mark that asks for a picture in the place of a sign. -/
def pictureMark : Char := '\uFE0F'

/-- A sign that is wider as a picture. -/
def widens (c : Char) : Bool :=
  Text.inRanges widenedRanges c

/-- The place that a picture mark adds after a sign that has none of its own yet. -/
def pictureWidth (sign : Option Char) : Nat :=
  if sign.any widens then 1 else 0

/-- How many places a text takes after a sign that a mark can still widen. -/
def widthAfter (sign : Option Char) : List Char → Nat
  | [] => 0
  | c :: rest =>
    if c = joiner then
      match rest with
      | [] => 0
      | _ :: others => widthAfter sign others
    else if c = pictureMark then pictureWidth sign + widthAfter none rest
    else cellWidth c + widthAfter (if cellWidth c = 0 then sign else some c) rest

/-- How many places a text takes. What a joiner joins takes none. -/
def textWidth (cs : List Char) : Nat :=
  widthAfter none cs

/-! ## Clusters -/

/-- Characters that are drawn together, and their places. -/
structure Cluster where
  chars : List Char
  width : Nat
  deriving DecidableEq, Repr

/-- A cluster with more characters, which may need more places. -/
def Cluster.extended (k : Cluster) (cs : List Char) (width : Nat) : Cluster :=
  ⟨k.chars ++ cs, k.width + width⟩

/-- The clusters of a text, after clusters read before, the last one first, and the sign that a mark
can still widen. -/
def clustersAfter (done : List Cluster) (sign : Option Char) : List Char → List Cluster
  | [] => done.reverse
  | c :: rest =>
    match done with
    | [] =>
      if c = joiner || c = pictureMark then clustersAfter [⟨[c], 0⟩] sign rest
      else clustersAfter [⟨[c], cellWidth c⟩] (if cellWidth c = 0 then sign else some c) rest
    | last :: earlier =>
      if c = joiner then
        match rest with
        | [] => (last.extended [c] 0 :: earlier).reverse
        | d :: others => clustersAfter (last.extended [c, d] 0 :: earlier) sign others
      else if c = pictureMark then
        clustersAfter (last.extended [c] (pictureWidth sign) :: earlier)
          (if sign.any widens then none else sign) rest
      else if cellWidth c = 0 then clustersAfter (last.extended [c] 0 :: earlier) sign rest
      else clustersAfter (⟨[c], cellWidth c⟩ :: last :: earlier) (some c) rest

/-- The characters of a text that are drawn together. -/
def clusters (cs : List Char) : List Cluster :=
  clustersAfter [] none cs

/-- The clusters that fit into some places. Of one that fits only in part a blank is left. -/
def fittingPart : (places : Nat) → List Cluster → List Char
  | 0, _ => []
  | _, [] => []
  | places + 1, k :: rest =>
    if k.width ≤ places + 1 then k.chars ++ fittingPart (places + 1 - k.width) rest else [' ']

/-- A text filled up with blanks to some places. -/
def filled (places : Nat) (cs : List Char) : List Char :=
  cs ++ List.replicate (places - textWidth cs) ' '

/-- A text cut or filled up to some places. -/
def fitted (places : Nat) (cs : List Char) : List Char :=
  if textWidth cs ≤ places then filled places cs else fittingPart places (clusters cs)

/-- Lines of some places for clusters, after a line begun before and the places that it takes. -/
def choppedFrom (places : Nat) (line : List Char) (taken : Nat) : List Cluster → List (List Char)
  | [] => if taken = 0 then [] else [line]
  | k :: rest =>
    if taken + k.width > places then line :: choppedFrom places k.chars k.width rest
    else choppedFrom places (line ++ k.chars) (taken + k.width) rest

/-- A text cut into lines of some places. -/
def chopped (places : Nat) (cs : List Char) : List (List Char) :=
  choppedFrom places [] 0 (clusters cs)

/-! ## Tabs -/

/-- The distance between two stops of a tab. -/
def tabSize : Nat := 8

/-- How many places are missing from a column to the next stop. -/
def missingPlaces (column : Nat) : Nat :=
  (tabSize - column % tabSize) % tabSize

end LayeredLint.Console
