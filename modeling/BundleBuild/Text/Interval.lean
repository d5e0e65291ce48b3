/-
Sets of characters given by closed intervals of their numbers.
-/

namespace BundleBuild

/-- Whether a number lies in one of the intervals. -/
def isAmong (intervals : List (Nat × Nat)) (n : Nat) : Bool :=
  intervals.any fun (lo, hi) => lo ≤ n && n ≤ hi

end BundleBuild
