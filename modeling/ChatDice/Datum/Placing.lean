import ChatDice.Datum

/-!
The order in which a set of numbers gives its members. A number has a residue, so that equal numbers
of different kinds have the same one; the residue names the place that the number takes among a
power of two of places, and where that is taken a place is looked for by a fixed rule. The members
are given in the order of their places.
-/

namespace ChatDice.Datum

/-- Residues are taken modulo this prime. Two to the power of 61 has the residue 1. -/
def residueModulus : Nat := 2 ^ 61 - 1

/-- The residue of a magnitude with its sign; the residue `-1` is not used. -/
private def signedResidue (negative : Bool) (magnitude : Nat) : Int :=
  let residue : Int := (magnitude % residueModulus : Nat)
  let signed := if negative then -residue else residue
  if signed = -1 then -2 else signed

/-- The residue of a number. One unit of a finite number is `2 ^ -1074`, which has the residue of
`2 ^ 24`. -/
def residue? : Datum → Option Int
  | .bool value => some (if value then 1 else 0)
  | .int value => some (signedResidue (value < 0) value.natAbs)
  | .float (.infinite negative) => some (signedResidue negative 314159)
  | .float x => some (signedResidue x.isNegative (x.units * 2 ^ 24))
  | _ => none

/-- How many places a set of so many members has. -/
def placeCount (members : Nat) : Nat := if members < 5 then 8 else 2 ^ ((2 * members).log2 + 1)

/-- The places that are tried together: one, and up to nine that follow it if there are as many. -/
def neighbours (count place : Nat) : List Nat :=
  if place + 9 < count then (List.range 10).map (place + ·) else [place]

/-- The first free place from one on. When all neighbours are taken, the search goes on elsewhere,
as long as it can in a way that depends on what is left of the residue; then it comes by every
place. -/
def freePlace (count : Nat) (taken : List Nat) : (fuel : Nat) → (place left : Nat) → Nat
  | 0, place, _ => place
  | fuel + 1, place, left =>
    match (neighbours count place).find? (!taken.contains ·) with
    | some free => free
    | none => freePlace count taken fuel ((5 * place + 1 + left / 32) % count) (left / 32)

/-- The place of one more member, whose residue is read as 64 bits. -/
def placed (count : Nat) (taken : List Nat) (residue : Int) : Nat :=
  let bits := (residue % 2 ^ 64).toNat
  freePlace count taken (count + 13) (bits % count) bits

/-- The members of a set in order. Where not all of them are numbers, they stay as they are. -/
def inSetOrder (members : List Datum) : List Datum :=
  match members.mapM residue? with
  | none => members
  | some residues =>
    let count := placeCount members.length
    let places := residues.foldl (fun taken residue => taken ++ [placed count taken residue]) []
    ((places.zip members).mergeSort fun a b => a.1 ≤ b.1).map (·.2)

end ChatDice.Datum
