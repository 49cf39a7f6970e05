/-! Sets of characters given by ascending ranges of code points, ends included. -/
namespace Phrasebook.Text

abbrev Ranges := List (Nat × Nat)

def Ranges.mem (ranges : Ranges) (c : Char) : Bool :=
  ranges.any fun (first, last) => first ≤ c.toNat && c.toNat ≤ last

end Phrasebook.Text
