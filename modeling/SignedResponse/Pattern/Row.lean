/-!
How deep the parts of a pattern lie in one another.

Parts stand in rows: the items of a sequence, the branches of a choice, the elements of a set. Only
how many there are and how deep the deepest is counts for the depth of a row.
-/

namespace SignedResponse.Pattern

structure Row where
  count : Nat := 0
  deepest : Nat := 0
deriving DecidableEq

namespace Row

def add (row : Row) (depth : Nat) : Row := ⟨row.count + 1, max row.deepest depth⟩

def deepen (row : Row) (depth : Nat) : Row := { row with deepest := max row.deepest (depth + 1) }

/-- A part that stands alone makes no level of its own, several parts do. -/
def depth (row : Row) : Nat := if row.count ≤ 1 then row.deepest else row.deepest + 1

def ofList (depths : List Nat) : Row := depths.foldl add {}

theorem of_list_append_singleton (depths : List Nat) (depth : Nat) :
    ofList (depths ++ [depth]) = (ofList depths).add depth := by
  simp [ofList]

theorem depth_of_list_singleton (depth : Nat) : (ofList [depth]).depth = depth := by
  simp [ofList, add, Row.depth]

theorem deepen_add (row : Row) (depth : Nat) :
    (row.add depth).deepen depth = row.add (depth + 1) := by
  simp only [deepen, add, Row.mk.injEq, true_and]
  omega

end Row

end SignedResponse.Pattern
