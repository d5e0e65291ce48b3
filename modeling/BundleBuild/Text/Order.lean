/-
The order of names and paths: texts compare by code point, paths segment by segment. Everything
the program sorts (artifact names, defines, flags, files) goes through `sortTexts`,
`sortByName` or `sortSegments`, so the order of a listing never depends on where its items
came from.
-/

namespace BundleBuild

/-- Code-point order of two character lists; a proper beginning comes first. -/
def compareChars : List Char → List Char → Ordering
  | [], [] => .eq
  | [], _ :: _ => .lt
  | _ :: _, [] => .gt
  | a :: s, b :: t =>
    if a.toNat < b.toNat then .lt
    else if b.toNat < a.toNat then .gt
    else compareChars s t

/-- Code-point order of two texts. -/
def compareTexts (a b : String) : Ordering :=
  compareChars a.toList b.toList

/-- Order of two paths given by their segments; a proper beginning comes first. -/
def compareSegments : List String → List String → Ordering
  | [], [] => .eq
  | [], _ :: _ => .lt
  | _ :: _, [] => .gt
  | a :: s, b :: t =>
    match compareTexts a b with
    | .lt => .lt
    | .gt => .gt
    | .eq => compareSegments s t

def textsInOrder (a b : String) : Bool :=
  compareTexts a b != .gt

def segmentsInOrder (a b : List String) : Bool :=
  compareSegments a b != .gt

/-- The texts in code-point order, repeats kept. -/
def sortTexts (xs : List String) : List String :=
  xs.mergeSort textsInOrder

/-- Named items in the order of their names. -/
def sortByName {α : Type} (xs : List (String × α)) : List (String × α) :=
  xs.mergeSort fun a b => textsInOrder a.1 b.1

/-- Distinct paths in segment order. -/
def sortSegments (xs : List (List String)) : List (List String) :=
  xs.eraseDups.mergeSort segmentsInOrder

/-! ## The comparisons are lawful -/

theorem compareChars_self (s : List Char) : compareChars s s = .eq := by
  induction s with
  | nil => rfl
  | cons a s ih => simp [compareChars, ih]

theorem eq_of_compareChars_eq : ∀ {s t : List Char}, compareChars s t = .eq → s = t
  | [], [], _ => rfl
  | [], _ :: _, h => by simp [compareChars] at h
  | _ :: _, [], h => by simp [compareChars] at h
  | a :: s, b :: t, h => by
    simp only [compareChars] at h
    split at h
    · cases h
    · split at h
      · cases h
      · rename_i h1 h2
        have hab : a = b := by
          apply Char.ext
          apply UInt32.toNat_inj.mp
          have ha : a.toNat = a.val.toNat := rfl
          have hb : b.toNat = b.val.toNat := rfl
          omega
        rw [hab, eq_of_compareChars_eq h]

theorem compareTexts_eq_iff {a b : String} : compareTexts a b = .eq ↔ a = b := by
  constructor
  · intro h
    have := eq_of_compareChars_eq h
    exact String.toList_inj.mp this
  · rintro rfl
    exact compareChars_self _

end BundleBuild
