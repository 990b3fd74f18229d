/-! # Stretches of characters

Sets of characters, given by the numbers of the first and the last one of every stretch.
-/

namespace Lending.Text

abbrev Ranges := List (Nat × Nat)

namespace Ranges

def has (ranges : Ranges) (c : Char) : Bool :=
  ranges.any fun (first, last) => first ≤ c.toNat && c.toNat ≤ last

/-- Is a character the first, the third and so on of a stretch? -/
def hasInTurn (ranges : Ranges) (c : Char) : Bool :=
  ranges.any fun (first, last) =>
    first ≤ c.toNat && c.toNat ≤ last && (c.toNat - first) % 2 == 0

end Ranges

end Lending.Text
