/-!
Equal outcomes gathered by face. The faces stand in the order in which they first came up, and
each has the positions where it did.
-/

namespace ChatDice.Dice

abbrev Grouping := List (Int × List Nat)

namespace Grouping

/-- Adds a position to its face, or a new face at the end. -/
def insert (face : Int) (position : Nat) : Grouping → Grouping
  | [] => [(face, [position])]
  | (other, positions) :: rest =>
    if other = face then (other, positions ++ [position]) :: rest
    else (other, positions) :: insert face position rest

/-- Gathers outcomes from a position on into what is there already. -/
def gather (groups : Grouping) (position : Nat) : List Int → Grouping
  | [] => groups
  | face :: rest => gather (groups.insert face position) (position + 1) rest

def ofOutcomes (outcomes : List Int) : Grouping := gather [] 0 outcomes

/-- The groups of faces that came up more than once. -/
def repeated (groups : Grouping) : Grouping := groups.filter fun group => 1 < group.2.length

end Grouping

end ChatDice.Dice
