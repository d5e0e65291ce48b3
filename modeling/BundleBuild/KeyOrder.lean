/-
The order of keys of any kind. Numbers compare with numbers, texts with texts and bytes with bytes;
keys of two kinds do not compare, and then which two of them met first is told. So the sort is
spelled out: a beginning that is in order, or in reverse order, stays together, and every key behind
it goes to a place that is found by halving.
-/
import BundleBuild.Sequence
import BundleBuild.Text.Order
import BundleBuild.Trouble

namespace BundleBuild

/-- Whether the one number is less than the other. -/
def DoubleView.isBelow : DoubleView → DoubleView → Bool
  | .nan, _ => false
  | _, .nan => false
  | .infinite negative, .infinite negative' => negative && !negative'
  | .infinite negative, .finite _ _ _ => negative
  | .finite _ _ _, .infinite negative' => !negative'
  | .finite negative m q, .finite negative' m' q' =>
    let low := min q q'
    let scaled (negative : Bool) (m : Nat) (q : Int) : Int :=
      let size := m * Nat.pow 2 (q - low).natAbs
      if negative then -(size : Int) else size
    decide (scaled negative m q < scaled negative' m' q')

namespace Datum

/-- The number that a datum counts as, if it counts as one. -/
def number? : Datum → Option DoubleView
  | .bool b => some (.finite false (if b then 1 else 0) 0)
  | .int n => some (.finite (n < 0) n.natAbs 0)
  | .float x => some (viewDouble x)
  | _ => none

/-- The numbers of the characters or bytes that a datum consists of; texts and bytes are two
kinds. -/
def units? : Datum → Option (Bool × List Nat)
  | .bytes bs => some (true, bs.map UInt8.toNat)
  | .unpaired ps => some (false, ps)
  | d => d.text?.map fun s => (false, points s)

/-- Whether a key comes before another. -/
def isBefore (a b : Datum) : Except Trouble Bool :=
  match a.number?, b.number?, a.units?, b.units? with
  | some x, some y, _, _ => .ok (x.isBelow y)
  | _, _, some (kind, xs), some (kind', ys) =>
    if kind = kind' then .ok (decide (xs < ys)) else refusal
  | _, _, _, _ => refusal
where
  refusal : Except Trouble Bool :=
    .error (.misfit ("'<' not supported between instances of '" ++ a.kind ++ "' and '" ++
      b.kind ++ "'"))

/-- The keys behind `last` that go on in the same direction, and those after them. -/
def takeRun (falling : Bool) (last : Datum) : List Datum → Except Trouble (List Datum × List Datum)
  | [] => .ok ([], [])
  | d :: rest => do
    if (← d.isBefore last) = falling then
      let (run, after) ← takeRun falling d rest
      return (d :: run, after)
    else return ([], d :: rest)

/-- The place of a key among keys in order, between two places. -/
def placeOf (d : Datum) (keys : Array Datum) : Nat → Nat → Nat → Except Trouble Nat
  | 0, low, _ => .ok low
  | fuel + 1, low, high =>
    if high ≤ low then .ok low
    else do
      let middle := low + (high - low) / 2
      if ← d.isBefore (keys.getD middle d) then placeOf d keys fuel low middle
      else placeOf d keys fuel (middle + 1) high

def insertKey (keys : List Datum) (d : Datum) : Except Trouble (List Datum) := do
  let place ← placeOf d keys.toArray (keys.length + 1) 0 keys.length
  return keys.take place ++ d :: keys.drop place

/-- The keys in order. -/
def sortKeys : List Datum → Except Trouble (List Datum)
  | [] => .ok []
  | [d] => .ok [d]
  | first :: second :: rest => do
    let falling ← second.isBefore first
    let (run, after) ← takeRun falling second rest
    let start := first :: second :: run
    after.foldlM insertKey (if falling then start.reverse else start)

theorem foldlM_insertKey_ne_nil : ∀ {xs keys out : List Datum},
    xs.foldlM insertKey keys = .ok out → keys ≠ [] → out ≠ []
  | [], keys, out, h, hkeys => by
    cases h
    exact hkeys
  | x :: xs, keys, out, h, hkeys => by
    simp only [List.foldlM_cons, bind_eq_ok_iff] at h
    obtain ⟨placed, hplaced, h⟩ := h
    simp only [insertKey, bind_eq_ok_iff, pure_eq_ok_iff] at hplaced
    obtain ⟨place, -, rfl⟩ := hplaced
    exact foldlM_insertKey_ne_nil h (by simp)

/-- Sorting leaves no key out, so what is sorted to nothing was nothing. -/
theorem sortKeys_eq_nil_iff {xs : List Datum} : sortKeys xs = .ok [] ↔ xs = [] := by
  constructor
  · intro h
    cases xs with
    | nil => rfl
    | cons x xs =>
      cases xs with
      | nil => cases h
      | cons y xs =>
        simp only [sortKeys, bind_eq_ok_iff] at h
        obtain ⟨falling, -, ⟨run, after⟩, -, h⟩ := h
        exact absurd rfl (foldlM_insertKey_ne_nil h (by split <;> simp))
  · rintro rfl
    rfl

end Datum

end BundleBuild
