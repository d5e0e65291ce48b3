/-
Which path texts belong to a platform's build, told by rules on the text alone (`Belongs`): a file
inside the tree that has the extension of sources, and that lies below the library root, or below
the source root and in no other platform's folder.

The decision takes the text apart and compares segments. What it cuts at slashes is what `splitOn`
cuts (`segmentsOf_forwardSlashes`), and the text from a file name's last dot on is the extension
of a layout exactly when the name ends with it and has more in front (`suffixChars_eq_iff`), since
such an extension has one dot, at its beginning.
-/
import Mathlib.Data.List.TakeWhile
import Mathlib.Data.List.TakeDrop
import BundleBuild.Proofs.Isolation

namespace BundleBuild

/-! ## The rules -/

/-- The characters of a path text with slashes of one kind. -/
def slashed (path : String) : List Char :=
  path.toList.map fun c => if c = '\\' then '/' else c

/-- The segments of a path text: what stands between slashes, but for nothing and lone dots. -/
def pathSegments (path : String) : List String :=
  (((slashed path).splitOn '/').map String.ofList).filter fun piece => piece ≠ "" ∧ piece ≠ "."

/-- The rules by which a path text belongs to a platform. -/
structure Belongs (l : Layout) (p : Platform) (path : String) : Prop where
  /-- The path starts at the root of the tree. -/
  relative : ¬ ['/'] <+: slashed path
  /-- It never steps upwards. -/
  inside : ".." ∉ pathSegments path
  /-- It leads somewhere. -/
  leads : pathSegments path ≠ []
  /-- The file's name ends with the extension, and is more than the extension. -/
  extension : ∃ file, (pathSegments path).getLast? = some file ∧
    l.extension.toList <:+ file.toList ∧ l.extension.length < file.length
  /-- The file lies below the library root, or below the source root: there directly, outside the
  platform folders, directly among them, or in the platform's own. -/
  place : (∃ rest, rest ≠ [] ∧ pathSegments path = l.libraryRoot ++ rest) ∨
    ∃ rest, rest ≠ [] ∧ pathSegments path = l.sourceRoot ++ rest ∧
      (rest.length = 1 ∨ rest[0]? ≠ some l.platformDir ∨ rest.length = 2 ∨
        rest[1]? = some p.dirName)

/-! ## Names that stand for themselves -/

/-- The text has slashes of neither kind. -/
def Slashless (s : String) : Prop :=
  '/' ∉ s.toList ∧ '\\' ∉ s.toList

/-- A name that is one segment of a path wherever it stands in it, and leads downwards. -/
structure Ordinary (s : String) : Prop where
  nonempty : s ≠ ""
  slashless : Slashless s
  notHere : s ≠ "."
  notUp : s ≠ ".."

instance (s : String) : Decidable (Slashless s) :=
  inferInstanceAs (Decidable (_ ∧ _))

theorem ordinary_iff {s : String} :
    Ordinary s ↔ s ≠ "" ∧ Slashless s ∧ s ≠ "." ∧ s ≠ ".." :=
  ⟨fun ⟨h₁, h₂, h₃, h₄⟩ => ⟨h₁, h₂, h₃, h₄⟩, fun ⟨h₁, h₂, h₃, h₄⟩ => ⟨h₁, h₂, h₃, h₄⟩⟩

instance (s : String) : Decidable (Ordinary s) :=
  decidable_of_iff _ ordinary_iff.symm

theorem isFolderName_iff {s : String} : isFolderName s = true ↔ s ≠ "" ∧ Slashless s := by
  simp only [isFolderName, Bool.and_eq_true, decide_eq_true_eq, List.all_eq_true]
  refine and_congr_right fun _ => ⟨fun h => ?_, fun h c hc => ?_⟩
  · exact ⟨fun hc => (h _ hc).1 rfl, fun hc => (h _ hc).2 rfl⟩
  · exact ⟨fun he => h.1 (he ▸ hc), fun he => h.2 (he ▸ hc)⟩

/-- Inside a tree a path is made of ordinary names. -/
theorem isInner_iff {segs : List String} :
    isInner segs = true ↔ segs ≠ [] ∧ ∀ s ∈ segs, Ordinary s := by
  simp only [isInner, Bool.and_eq_true, Bool.not_eq_true', List.isEmpty_eq_false_iff,
    List.all_eq_true, decide_eq_true_eq, isFolderName_iff, ordinary_iff, and_assoc]

/-! ## Cutting a text -/

theorem splitChars_eq_splitOn (sep : Char) (cs : List Char) :
    splitChars sep cs = cs.splitOn sep := by
  induction cs with
  | nil => rfl
  | cons c cs ih =>
    rw [splitChars, List.splitOn_cons_eq_if_modifyHead, ih]
    by_cases hc : c = sep
    · simp [hc]
    · cases hcs : cs.splitOn sep <;> simp [hc, List.splitOn_ne_nil] at hcs ⊢

theorem toList_forwardSlashes (path : String) : (forwardSlashes path).toList = slashed path := by
  simp [forwardSlashes, slashed]

theorem segmentsOf_forwardSlashes (path : String) :
    Path.segmentsOf (forwardSlashes path) = pathSegments path := by
  simp [Path.segmentsOf, splitText, pathSegments, splitChars_eq_splitOn, toList_forwardSlashes]

theorem slashed_eq_toList {path : String} (h : '\\' ∉ path.toList) :
    slashed path = path.toList := by
  have hsame : ∀ c ∈ path.toList, (if c = '\\' then '/' else c) = c := by
    intro c hc
    exact if_neg fun he : c = '\\' => h (he ▸ hc)
  rw [slashed, List.map_congr_left hsame, List.map_id']

theorem not_backslash_mem_slashed (path : String) : '\\' ∉ slashed path := by
  simp only [slashed, List.mem_map, not_exists, not_and]
  intro c _
  split <;> simp_all

/-- Segments are texts without slashes that say something and are no lone dots. -/
theorem of_mem_pathSegments {s path : String} (h : s ∈ pathSegments path) :
    s ≠ "" ∧ Slashless s ∧ s ≠ "." := by
  obtain ⟨hpiece, hkept⟩ := List.mem_filter.mp h
  obtain ⟨piece, hin, rfl⟩ := List.mem_map.mp hpiece
  simp only [decide_eq_true_eq] at hkept
  rw [← splitChars_eq_splitOn] at hin
  have hslash : '/' ∉ piece := fun hc => (mem_of_mem_splitChars hin hc).2 rfl
  have hback : '\\' ∉ piece := fun hc =>
    not_backslash_mem_slashed path (mem_of_mem_splitChars hin hc).1
  exact ⟨hkept.1, ⟨by simpa using hslash, by simpa using hback⟩, hkept.2⟩

/-- A path text stays inside the tree when it leads somewhere and never upwards. -/
theorem isInner_pathSegments_iff {path : String} :
    isInner (pathSegments path) = true ↔
      pathSegments path ≠ [] ∧ ".." ∉ pathSegments path := by
  rw [isInner_iff]
  refine and_congr_right fun _ => ⟨fun h hup => (h _ hup).notUp rfl, fun hup s hs => ?_⟩
  obtain ⟨hne, hslashless, hdot⟩ := of_mem_pathSegments hs
  exact ⟨hne, hslashless, hdot, fun he => hup (he ▸ hs)⟩

theorem leadOf_eq_relative_iff {cs : List Char} :
    Path.leadOf cs = .relative ↔ ¬ ['/'] <+: cs := by
  unfold Path.leadOf
  split <;> simp_all [List.cons_prefix_iff]

/-! ## Extensions -/

theorem suffixChars_of_not_mem {name : List Char} (h : '.' ∉ name) : suffixChars name = [] := by
  have hspan : name.reverse.dropWhile (· ≠ '.') = [] := by
    rw [List.dropWhile_eq_nil_iff]
    intro c hc
    simpa using fun he : c = '.' => h (he ▸ List.mem_reverse.mp hc)
  simp only [suffixChars, List.span_eq_takeWhile_dropWhile, hspan]

theorem suffixChars_lastDot (before : List Char) {after : List Char} (h : '.' ∉ after) :
    suffixChars (before ++ '.' :: after) =
      if after.isEmpty || before.isEmpty then [] else '.' :: after := by
  have hafter : ∀ c ∈ after.reverse, decide (c ≠ '.') = true := by
    intro c hc
    simpa using fun he : c = '.' => h (he ▸ List.mem_reverse.mp hc)
  have hspan : (before ++ '.' :: after).reverse.span (· ≠ '.') =
      (after.reverse, '.' :: before.reverse) := by
    rw [List.span_eq_takeWhile_dropWhile]
    simp only [List.reverse_append, List.reverse_cons, List.append_assoc, List.singleton_append]
    rw [List.takeWhile_append_of_pos hafter, List.dropWhile_append_of_pos hafter]
    simp
  rw [suffixChars, hspan]
  simp

/-- What follows the last dot of a name is its extension exactly when the name ends with the dot and
this, and has something in front. -/
theorem suffixChars_eq_iff {name after : List Char} (hsome : after ≠ []) (hdot : '.' ∉ after) :
    suffixChars name = '.' :: after ↔
      ('.' :: after) <:+ name ∧ ('.' :: after).length < name.length := by
  constructor
  · intro h
    by_cases hmem : '.' ∈ name
    · obtain ⟨back, front, hname, hback⟩ := List.eq_append_cons_of_mem (List.mem_reverse.mpr hmem)
      have hsplit : name = front.reverse ++ '.' :: back.reverse := by
        simpa using congrArg List.reverse hname
      rw [hsplit, suffixChars_lastDot _ (by simpa using hback)] at h
      split at h
      · cases h
      · next hpieces =>
        simp only [Bool.or_eq_true, List.isEmpty_iff, not_or] at hpieces
        cases h
        have hpos := List.length_pos_iff.mpr hpieces.2
        refine ⟨⟨front.reverse, hsplit.symm⟩, ?_⟩
        rw [hsplit, List.length_append]
        omega
    · rw [suffixChars_of_not_mem hmem] at h
      cases h
  · rintro ⟨⟨before, rfl⟩, hlength⟩
    have hbefore : before ≠ [] := by
      rintro rfl
      simp at hlength
    rw [suffixChars_lastDot before hdot]
    simp [hsome, hbefore]

/-- An extension is a dot, and then letters or digits, none of which is a dot. -/
theorem exists_of_isExtension {s : String} (h : isExtension s = true) :
    ∃ after, s.toList = '.' :: after ∧ after ≠ [] ∧ '.' ∉ after := by
  unfold isExtension at h
  split at h
  · next c rest hs =>
    refine ⟨c :: rest, hs, by simp, fun hdot => ?_⟩
    have halnum := List.all_eq_true.mp h '.' hdot
    exact absurd halnum (by decide)
  · cases h

theorem suffix_eq_iff {name extension : String} (h : isExtension extension = true) :
    suffix name = extension ↔
      extension.toList <:+ name.toList ∧ extension.length < name.length := by
  obtain ⟨after, hafter, hsome, hdot⟩ := exists_of_isExtension h
  rw [suffix, ← String.toList_inj, String.toList_ofList, ← String.length_toList,
    ← String.length_toList, hafter]
  exact suffixChars_eq_iff hsome hdot

/-! ## The decision -/

theorem ownedBy_iff {l : Layout} {p : Platform} {rest : List String} (h : rest ≠ []) :
    ownedBy l p rest = true ↔ rest.length = 1 ∨ rest[0]? ≠ some l.platformDir ∨
      rest.length = 2 ∨ rest[1]? = some p.dirName := by
  match rest, h with
  | [_], _ => simp [ownedBy]
  | [_, _], _ => simp [ownedBy]
  | dir :: owner :: _ :: _, _ => simp [ownedBy]

theorem relevantSegments_iff {l : Layout} {p : Platform} {segs : List String} :
    relevantSegments l p segs = true ↔
      (∃ file, segs.getLast? = some file ∧
        l.extension.toList <:+ file.toList ∧ l.extension.length < file.length) ∧
      ((∃ rest, rest ≠ [] ∧ segs = l.libraryRoot ++ rest) ∨
        ∃ rest, rest ≠ [] ∧ segs = l.sourceRoot ++ rest ∧
          (rest.length = 1 ∨ rest[0]? ≠ some l.platformDir ∨ rest.length = 2 ∨
            rest[1]? = some p.dirName)) := by
  unfold relevantSegments
  cases hlast : segs.getLast? with
  | none => simp
  | some file =>
    have hlibrary : (below? l.libraryRoot segs).isSome = true ↔
        ∃ rest, rest ≠ [] ∧ segs = l.libraryRoot ++ rest := by
      simp only [Option.isSome_iff_exists, below?_eq_some_iff]
    simp only [Bool.and_eq_true, Bool.or_eq_true, beq_iff_eq, suffix_eq_iff l.extension_dotted,
      hlibrary, Option.some.injEq, exists_eq_left']
    refine and_congr_right fun _ => or_congr_right ?_
    cases hbelow : below? l.sourceRoot segs with
    | none =>
      refine ⟨fun hfalse => (Bool.false_ne_true hfalse).elim, ?_⟩
      rintro ⟨rest, hrest, hsegs, -⟩
      rw [below?_eq_some_iff.mpr ⟨hrest, hsegs⟩] at hbelow
      cases hbelow
    | some rest =>
      obtain ⟨hrest, rfl⟩ := below?_eq_some_iff.mp hbelow
      simp only [ownedBy_iff hrest, List.append_cancel_left_eq]
      constructor
      · intro howned
        exact ⟨rest, hrest, rfl, howned⟩
      · rintro ⟨_, -, rfl, howned⟩
        exact howned

/-- A text leads to a file inside the tree when it starts at the root of the tree, leads somewhere
and never upwards. -/
theorem innerSegments?_forwardSlashes {path : String}
    {segs : {segs : List String // isInner segs = true}} :
    innerSegments? (Path.ofText (forwardSlashes path)) = some segs ↔
      ¬ ['/'] <+: slashed path ∧ pathSegments path = segs := by
  rw [innerSegments?_eq_some_iff]
  simp only [Path.ofText, segmentsOf_forwardSlashes, toList_forwardSlashes, leadOf_eq_relative_iff]

theorem relevant_iff_segments {l : Layout} {p : Platform} {path : String} :
    relevant l p path = true ↔ ¬ ['/'] <+: slashed path ∧ isInner (pathSegments path) = true ∧
      relevantSegments l p (pathSegments path) = true := by
  unfold relevant
  constructor
  · intro h
    split at h
    · next segs hsegs =>
      obtain ⟨hrelative, hsegments⟩ := innerSegments?_forwardSlashes.mp hsegs
      rw [hsegments]
      exact ⟨hrelative, segs.2, h⟩
    · cases h
  · rintro ⟨hrelative, hinner, h⟩
    have hin : innerSegments? (Path.ofText (forwardSlashes path)) =
        some ⟨pathSegments path, hinner⟩ := innerSegments?_forwardSlashes.mpr ⟨hrelative, rfl⟩
    rw [hin]
    exact h

/-- **Relevance is decided by the rules.** For every layout, every platform and every text, the
decision says yes exactly where the rules do. -/
theorem relevant_iff_belongs (l : Layout) (p : Platform) (path : String) :
    relevant l p path = true ↔ Belongs l p path := by
  rw [relevant_iff_segments, isInner_pathSegments_iff, relevantSegments_iff]
  constructor
  · rintro ⟨hrelative, ⟨hleads, hup⟩, hfile, hplace⟩
    exact ⟨hrelative, hup, hleads, hfile, hplace⟩
  · rintro ⟨hrelative, hup, hleads, hfile, hplace⟩
    exact ⟨hrelative, ⟨hleads, hup⟩, hfile, hplace⟩

/-- A file of the browser's own, its path with slashes of both kinds, doubled ones and a lone dot,
below a root of several segments. -/
example :
    let l : Layout := { libraryRoot := ["third_party", "closure"], sourceRoot := ["src", "js"] }
    relevant l .browser "src\\js/platform/./browser//view.min.js" = true ∧
      relevant l .server "src\\js/platform/./browser//view.min.js" = false := by
  decide

end BundleBuild
