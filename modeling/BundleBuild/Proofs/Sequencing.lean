/-
What it takes for a sequence of computations that may end early to come to its end: each of them
does, and hands its value on.
-/
import Mathlib.Data.List.Forall2
import BundleBuild.Sequence

namespace BundleBuild

variable {ε α β : Type}

theorem mapM_eq_ok_iff {f : α → Except ε β} : ∀ {l : List α} {r : List β},
    l.mapM f = .ok r ↔ List.Forall₂ (fun a b => f a = .ok b) l r
  | [], r => by
    rw [List.mapM_nil, pure_eq_ok_iff, List.forall₂_nil_left_iff]
    exact eq_comm
  | a :: l, r => by
    rw [List.mapM_cons, List.forall₂_cons_left_iff]
    simp only [bind_eq_ok_iff, pure_eq_ok_iff, mapM_eq_ok_iff]
    constructor
    · rintro ⟨b, hb, bs, hbs, rfl⟩
      exact ⟨b, bs, hb, hbs, rfl⟩
    · rintro ⟨b, bs, hb, hbs, rfl⟩
      exact ⟨b, hb, bs, hbs, rfl⟩

theorem ok_of_mapM {f : α → Except ε β} {l : List α} {r : List β} (h : l.mapM f = .ok r) :
    ∀ a ∈ l, ∃ b, f a = .ok b := by
  have hall := mapM_eq_ok_iff.mp h
  clear h
  induction hall with
  | nil => simp
  | cons ha _ ih => exact List.forall_mem_cons.mpr ⟨⟨_, ha⟩, ih⟩

/-- The error of a sequence is that of the first computation that fails. -/
theorem mapM_first_error {f : α → Except ε β} {err : ε} : ∀ {l : List α}, l.mapM f = .error err →
    ∃ before a after, l = before ++ a :: after ∧ (∀ x ∈ before, ∃ b, f x = .ok b) ∧
      f a = .error err
  | [], h => by cases h
  | a :: l, h => by
    rw [List.mapM_cons] at h
    cases ha : f a with
    | error err' =>
      rw [ha] at h
      cases h
      exact ⟨[], a, l, rfl, by simp, ha⟩
    | ok b =>
      cases hl : l.mapM f with
      | error err' =>
        rw [ha, hl] at h
        cases h
        obtain ⟨before, a', after, rfl, hbefore, ha'⟩ := mapM_first_error hl
        exact ⟨a :: before, a', after, rfl, List.forall_mem_cons.mpr ⟨⟨b, ha⟩, hbefore⟩, ha'⟩
      | ok bs =>
        rw [ha, hl] at h
        cases h

theorem mapM_eq_error {f : α → Except ε β} {err : ε} {l : List α} (h : l.mapM f = .error err) :
    ∃ a ∈ l, f a = .error err := by
  obtain ⟨before, a, after, rfl, -, ha⟩ := mapM_first_error h
  exact ⟨a, by simp, ha⟩

theorem foldlM_first_error {f : β → α → Except ε β} {err : ε} : ∀ {l : List α} {b : β},
    l.foldlM f b = .error err → ∃ before a after b', l = before ++ a :: after ∧
      before.foldlM f b = .ok b' ∧ f b' a = .error err
  | [], b, h => by cases h
  | a :: l, b, h => by
    rw [List.foldlM_cons] at h
    cases ha : f b a with
    | error err' =>
      rw [ha] at h
      cases h
      exact ⟨[], a, l, b, rfl, rfl, ha⟩
    | ok b₁ =>
      rw [ha] at h
      obtain ⟨before, a', after, b', rfl, hbefore, ha'⟩ := foldlM_first_error h
      exact ⟨a :: before, a', after, b', rfl, by rw [List.foldlM_cons, ha]; exact hbefore, ha'⟩

/-- Sequences in a row are one sequence. -/
theorem mapM_flatMap {γ : Type} (f : β → Except ε γ) (g : α → List β) : ∀ l : List α,
    (do let rs ← l.mapM fun a => (g a).mapM f; return rs.flatten) = (l.flatMap g).mapM f
  | [] => rfl
  | a :: l => by
    rw [List.mapM_cons, List.flatMap_cons, List.mapM_append, ← mapM_flatMap f g l]
    cases (g a).mapM f with
    | error err => rfl
    | ok r => cases l.mapM fun a => (g a).mapM f <;> rfl

theorem exists_mapM_ok {f : α → Except ε β} : ∀ {l : List α},
    (∀ a ∈ l, ∃ b, f a = .ok b) → ∃ r, l.mapM f = .ok r
  | [], _ => ⟨[], rfl⟩
  | a :: l, h => by
    obtain ⟨⟨b, hb⟩, hl⟩ := List.forall_mem_cons.mp h
    obtain ⟨r, hr⟩ := exists_mapM_ok hl
    exact ⟨b :: r, by rw [List.mapM_cons, hb, hr]; rfl⟩

end BundleBuild
