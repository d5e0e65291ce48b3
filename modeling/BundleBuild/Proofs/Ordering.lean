/-
What comes of putting things in order. Texts stand in the order of the numbers of their characters
and paths in that of their segments, which are the usual orders of strings and of lists of strings
(`textsInOrder_iff`, `segmentsInOrder_iff`). Where no two items have one key, a list put in the
order of the keys increases strictly (`Sorts.increasing`), and where the items stood before does
not matter (`Sorts.perm`).
-/
import Mathlib.Data.List.Nodup
import Mathlib.Data.String.Basic
import BundleBuild.Command.Arguments

namespace BundleBuild

/-! ## The orders -/

theorem char_lt_iff {a b : Char} : a < b ↔ a.toNat < b.toNat := by
  rw [Char.lt_def, UInt32.lt_iff_toNat_lt]
  rfl

theorem compareChars_eq_gt_iff : ∀ {s t : List Char}, compareChars s t = .gt ↔ t < s
  | [], [] => by simp [compareChars]
  | [], _ :: _ => by simp [compareChars]
  | _ :: _, [] => by simp [compareChars]
  | a :: s, b :: t => by
    rw [List.cons_lt_cons_iff, char_lt_iff, compareChars]
    split
    · next hlt =>
      have hne : b ≠ a := by
        rintro rfl
        exact Nat.lt_irrefl _ hlt
      simp [hne, Nat.not_lt_of_lt hlt]
    · split
      · next hgt => simp [hgt]
      · next hge hle =>
        have heq : b = a := Char.toNat_inj.mp (by omega)
        simp [heq, compareChars_eq_gt_iff]

theorem compareTexts_eq_gt_iff {a b : String} : compareTexts a b = .gt ↔ b < a :=
  compareChars_eq_gt_iff

theorem textsInOrder_iff {a b : String} : textsInOrder a b = true ↔ a ≤ b := by
  rw [← not_lt, ← compareTexts_eq_gt_iff]
  simp [textsInOrder]

theorem compareSegments_eq_gt_iff : ∀ {s t : List String}, compareSegments s t = .gt ↔ t < s
  | [], [] => by simp [compareSegments]
  | [], _ :: _ => by simp [compareSegments]
  | _ :: _, [] => by simp [compareSegments]
  | a :: s, b :: t => by
    rw [List.cons_lt_cons_iff, ← compareTexts_eq_gt_iff, compareSegments]
    have heq : compareTexts a b = .eq ↔ b = a := compareTexts_eq_iff.trans eq_comm
    cases hab : compareTexts a b with
    | lt => simp [← heq, hab]
    | gt => simp
    | eq => simp [← heq, hab, compareSegments_eq_gt_iff]

theorem segmentsInOrder_iff {a b : List String} : segmentsInOrder a b = true ↔ a ≤ b := by
  rw [← not_lt, ← compareSegments_eq_gt_iff]
  simp [segmentsInOrder]

/-! ## Sorting by a key -/

theorem nodup_eraseDups {α : Type} [BEq α] [LawfulBEq α] : ∀ l : List α, l.eraseDups.Nodup
  | [] => by simp
  | a :: l => by
    rw [List.eraseDups_cons, List.nodup_cons]
    exact ⟨by simp [List.mem_eraseDups], nodup_eraseDups _⟩
termination_by l => l.length
decreasing_by exact Nat.lt_succ_of_le (List.length_filter_le _ _)

/-- The comparison is that of the keys. -/
def Sorts {α β : Type} [LinearOrder β] (key : α → β) (before : α → α → Bool) : Prop :=
  ∀ a b, before a b = true ↔ key a ≤ key b

namespace Sorts

variable {α β : Type} [LinearOrder β] {key : α → β} {before : α → α → Bool}

theorem pairwise (h : Sorts key before) (l : List α) :
    (l.mergeSort before).Pairwise fun a b => key a ≤ key b := by
  have hsorted : (l.mergeSort before).Pairwise fun a b => before a b = true := by
    refine List.pairwise_mergeSort (fun a b c hab hbc => ?_) (fun a b => ?_) l
    · exact (h a c).mpr (((h a b).mp hab).trans ((h b c).mp hbc))
    · simpa [h a b, h b a] using le_total (key a) (key b)
  exact hsorted.imp fun {a b} hab => (h a b).mp hab

/-- Where no key comes twice the keys increase. -/
theorem increasing (h : Sorts key before) {l : List α} (hkeys : (l.map key).Nodup) :
    (l.mergeSort before).Pairwise fun a b => key a < key b := by
  have hnodup : ((l.mergeSort before).map key).Nodup :=
    ((List.mergeSort_perm l before).map key).nodup_iff.mpr hkeys
  exact (h.pairwise l).imp₂ (fun _ _ hle hne => lt_of_le_of_ne hle hne)
    (List.pairwise_map.mp hnodup)

/-- Where no key comes twice the same items give the same list. -/
theorem perm (h : Sorts key before) {l l' : List α} (hkeys : (l.map key).Nodup)
    (hperm : l.Perm l') : l.mergeSort before = l'.mergeSort before := by
  have hsame : (l.mergeSort before).Perm (l'.mergeSort before) :=
    (List.mergeSort_perm l before).trans (hperm.trans (List.mergeSort_perm l' before).symm)
  refine hsame.eq_of_pairwise (fun a b ha hb hab hba => ?_) (h.pairwise l) (h.pairwise l')
  have hb' : b ∈ l := by simpa using hsame.mem_iff.mpr hb
  exact List.inj_on_of_nodup_map hkeys (by simpa using ha) hb' (le_antisymm hab hba)

end Sorts

/-! ## What the program sorts -/

theorem sorts_names {α : Type} :
    Sorts (fun x : String × α => x.1) fun a b => textsInOrder a.1 b.1 :=
  fun _ _ => textsInOrder_iff

theorem sorts_segments : Sorts (fun segments : List String => segments) segmentsInOrder :=
  fun _ _ => segmentsInOrder_iff

theorem sorts_parts : Sorts Path.parts fun a b => segmentsInOrder a.parts b.parts :=
  fun _ _ => segmentsInOrder_iff

theorem mem_sortSegments {xs : List (List String)} {segments : List String} :
    segments ∈ sortSegments xs ↔ segments ∈ xs := by
  simp [sortSegments, List.mem_eraseDups]

theorem sortSegments_increasing (xs : List (List String)) :
    (sortSegments xs).Pairwise fun a b => a < b :=
  sorts_segments.increasing (by simpa using nodup_eraseDups xs)

end BundleBuild
