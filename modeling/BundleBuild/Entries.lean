/-
Named entries in the order they were first made: setting a name that is already there replaces
its value and keeps its place. Option defines and flags, log fields, catalogs and batches are
kept this way.
-/

namespace BundleBuild

abbrev Entries (α : Type) := List (String × α)

namespace Entries

variable {α : Type}

/-- The entries with `k` set to `v`. -/
def put (k : String) (v : α) : Entries α → Entries α
  | [] => [(k, v)]
  | (k', v') :: rest => if k' = k then (k', v) :: rest else (k', v') :: put k v rest

/-- The value of a name. -/
def get? (k : String) : Entries α → Option α
  | [] => none
  | (k', v) :: rest => if k' = k then some v else get? k rest

/-- The entries set one after another. -/
def putAll (es : Entries α) (more : List (String × α)) : Entries α :=
  more.foldl (fun acc (k, v) => put k v acc) es

/-- Entries from a list in which a name may come twice. -/
def ofList (xs : List (String × α)) : Entries α :=
  putAll [] xs

def names (es : Entries α) : List String :=
  es.map (·.1)

theorem get?_put_self (k : String) (v : α) (es : Entries α) : get? k (put k v es) = some v := by
  induction es with
  | nil => simp [put, get?]
  | cons e es ih =>
    obtain ⟨k', v'⟩ := e
    by_cases h : k' = k
    · simp [put, get?, h]
    · simp [put, get?, h, ih]

theorem get?_put_other {k k' : String} (v : α) (es : Entries α) (h : k ≠ k') :
    get? k' (put k v es) = get? k' es := by
  induction es with
  | nil => simp [put, get?, h]
  | cons e es ih =>
    obtain ⟨k'', v''⟩ := e
    by_cases hk : k'' = k
    · subst hk; simp [put, get?, h]
    · by_cases hk' : k'' = k'
      · subst hk'; simp [put, get?, hk]
      · simp [put, get?, hk, hk', ih]

/-- Setting a name leaves the others where they are and appends a new one. -/
theorem names_put (k : String) (v : α) (es : Entries α) :
    names (put k v es) = if k ∈ names es then names es else names es ++ [k] := by
  induction es with
  | nil => simp [put, names]
  | cons e es ih =>
    obtain ⟨k', v'⟩ := e
    by_cases h : k' = k
    · subst h; simp [put, names]
    · have hk : ¬ k = k' := fun he => h he.symm
      simp only [put, h, if_false]
      simp only [names, List.map_cons, List.mem_cons, hk, false_or] at ih ⊢
      rw [ih]
      by_cases hm : k ∈ List.map (fun x => x.fst) es <;>
        simp only [hm, if_true, if_false, List.cons_append]

end Entries

end BundleBuild
