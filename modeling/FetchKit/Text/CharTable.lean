/-! # Classes of characters, as tables of code points -/

namespace FetchKit

/-- Ranges of code points, both ends included. -/
abbrev CharTable := List (Nat × Nat)

def CharTable.has (t : CharTable) (c : Char) : Bool :=
  t.any fun (lo, hi) => lo ≤ c.toNat && c.toNat ≤ hi

end FetchKit
