/-
Configurations seen from one directory after another. What a directory is seen from a base can be
told by texts alone (`joinedText`): one that begins with a slash stays as it is, and any other is
written after the base. Taken apart, the joined text has the segments of both (`segmentsOf_append`)
and begins as the base does (`leadOf_append`), however many slashes either of them has, so it is the
joined path (`ofText_joinedText`). As joining is associative, a configuration that is seen from two
bases in turn is seen from one.
-/
import BundleBuild.Config
import BundleBuild.Proofs.Belonging

namespace BundleBuild

/-! ## Joined texts -/

/-- The text of a path seen from a base. There is a slash between them, unless the base says nothing
or ends with one. -/
def joinedText (base text : String) : String :=
  if ['/'] <+: text.toList then text
  else if base = "" ∨ ['/'] <:+ base.toList then base ++ text
  else base ++ "/" ++ text

namespace Path

theorem isAbsolute_ofText_iff {text : String} :
    (ofText text).isAbsolute = true ↔ ['/'] <+: text.toList := by
  simp only [isAbsolute, ofText, bne_iff_ne, ne_eq, leadOf_eq_relative_iff, not_not]

theorem segmentsOf_append (s t : String) :
    segmentsOf (s ++ "/" ++ t) = segmentsOf s ++ segmentsOf t := by
  simp [segmentsOf, splitText, splitChars_eq_splitOn, List.splitOn_append_cons_self]

theorem segmentsOf_slash (s : String) : segmentsOf (s ++ "/") = segmentsOf s := by
  have hnothing : segmentsOf "" = [] := by decide
  have happend := segmentsOf_append s ""
  rwa [String.append_empty, hnothing, List.append_nil] at happend

/-- What a text begins with is told by how many slashes come first. -/
theorem leadOf_eq : ∀ cs : List Char, leadOf cs = match (cs.takeWhile (· = '/')).length with
    | 0 => .relative
    | 2 => .doubleRoot
    | _ => .root
  | [] => rfl
  | [c] => by by_cases hc : c = '/' <;> simp [leadOf, hc]
  | [c, d] => by
    by_cases hc : c = '/' <;> by_cases hd : d = '/' <;> simp [leadOf, hc, hd]
  | c :: d :: e :: cs => by
    by_cases hc : c = '/' <;> by_cases hd : d = '/' <;> by_cases he : e = '/' <;>
      simp [leadOf, hc, hd, he]

/-- What a text begins with is not changed by what follows it, unless slashes come together. -/
theorem leadOf_append {cs ds : List Char} (hcs : cs ≠ [])
    (h : ¬ ['/'] <:+ cs ∨ ¬ ['/'] <+: ds) : leadOf (cs ++ ds) = leadOf cs := by
  have hfirst : (cs ++ ds).takeWhile (· = '/') = cs.takeWhile (· = '/') := by
    rw [List.takeWhile_append]
    split
    · next hall =>
      -- The text is nothing but slashes, so it ends with one, and none may follow.
      have hself := (List.takeWhile_prefix (· = '/')).eq_of_length hall
      have hslashes : ∀ c ∈ cs, c = '/' := by simpa using List.takeWhile_eq_self_iff.mp hself
      have hlast : ['/'] <:+ cs := by
        have hend := hslashes _ (List.getLast_mem hcs)
        exact ⟨cs.dropLast, hend ▸ List.dropLast_append_getLast hcs⟩
      have hnone := h.resolve_left (not_not.mpr hlast)
      have hafter : ds.takeWhile (· = '/') = [] := by
        cases ds with
        | nil => rfl
        | cons d ds =>
          have hd : d ≠ '/' := by simpa [List.cons_prefix_iff, eq_comm] using hnone
          simp [hd]
      rw [hafter, List.append_nil, hself]
    · rfl
  rw [leadOf_eq, hfirst, ← leadOf_eq]

/-- Texts are joined as the paths they stand for. -/
theorem ofText_joinedText (base text : String) :
    ofText (joinedText base text) = (ofText base).join (ofText text) := by
  by_cases habsolute : ['/'] <+: text.toList
  · rw [joinedText, if_pos habsolute, join_absolute (isAbsolute_ofText_iff.mpr habsolute)]
  · have hrelative : (ofText text).isAbsolute = false := by
      rw [Bool.eq_false_iff]
      exact mt isAbsolute_ofText_iff.mp habsolute
    have hboth : leadOf (joinedText base text).toList = leadOf base.toList ∧
        segmentsOf (joinedText base text) = segmentsOf base ++ segmentsOf text := by
      rw [joinedText, if_neg habsolute]
      by_cases hempty : base = ""
      · subst hempty
        rw [if_pos (.inl rfl), String.empty_append, leadOf_eq_relative_iff.mpr habsolute]
        exact ⟨rfl, rfl⟩
      · have hchars : base.toList ≠ [] := by simpa using hempty
        by_cases hslash : ['/'] <:+ base.toList
        · obtain ⟨front, hfront⟩ := hslash
          have hbase : base = String.ofList front ++ "/" := by
            rw [← String.toList_inj, ← hfront]
            simp
          rw [if_pos (.inr ⟨front, hfront⟩), String.toList_append,
            leadOf_append hchars (.inr habsolute)]
          refine ⟨rfl, ?_⟩
          rw [hbase, segmentsOf_append, segmentsOf_slash]
        · have hlead : leadOf (base.toList ++ '/' :: text.toList) = leadOf base.toList :=
            leadOf_append hchars (.inl hslash)
          rw [if_neg (not_or.mpr ⟨hempty, hslash⟩)]
          exact ⟨by simpa using hlead, segmentsOf_append base text⟩
    refine ext ?_ ?_
    · rw [lead_join hrelative]
      exact hboth.1
    · rw [segments_join hrelative]
      exact hboth.2

example : Path.ofText (joinedText "//srv/./" "..//b") =
    ⟨.doubleRoot, ["srv", "..", "b"], by decide⟩ := by
  decide

end Path

/-! ## Configurations -/

namespace Config

/-- What becomes of a configuration that is seen from a directory. -/
structure Anchored (c : Config) : Prop where
  /-- Seen from two bases in turn, it is seen from the first of them as seen from the second. -/
  twice : ∀ a b : Path, (c.relativeTo a).relativeTo b = c.relativeTo (b.join a)
  /-- Where the bases are given by texts, that is the joined text. -/
  texts : ∀ a b : String, (c.relativeTo (.ofText a)).relativeTo (.ofText b) =
    c.relativeTo (.ofText (joinedText b a))
  /-- After an absolute base nothing depends on another one, be it the same. -/
  settled : ∀ a b : Path, a.isAbsolute = true → (c.relativeTo a).relativeTo b = c.relativeTo a
  /-- Absolute directories are not changed, -/
  absolute : ∀ a : Path,
    (c.sourceRoot.isAbsolute = true → (c.relativeTo a).sourceRoot = c.sourceRoot) ∧
    (c.outputDir.isAbsolute = true → (c.relativeTo a).outputDir = c.outputDir)
  /-- and every directory is the one that the joined text stands for. -/
  directories : ∀ a dir : String,
    (c.sourceRoot = .ofText dir →
      (c.relativeTo (.ofText a)).sourceRoot = .ofText (joinedText a dir)) ∧
    (c.outputDir = .ofText dir →
      (c.relativeTo (.ofText a)).outputDir = .ofText (joinedText a dir))
  /-- Nothing else is changed. -/
  others : ∀ a : Path,
    { c.relativeTo a with sourceRoot := c.sourceRoot, outputDir := c.outputDir } = c

theorem relativeTo_relativeTo (c : Config) (a b : Path) :
    (c.relativeTo a).relativeTo b = c.relativeTo (b.join a) := by
  simp only [relativeTo, Path.join_assoc]

/-- **Anchoring composes.** Every configuration that is seen from one base and then from another is
seen from the two joined, whatever slashes, dots and steps upwards their texts have, and only its
relative directories are changed on the way. -/
theorem relativeTo_anchored (c : Config) : Anchored c where
  twice := relativeTo_relativeTo c
  texts a b := by rw [relativeTo_relativeTo, Path.ofText_joinedText]
  settled a b ha := by rw [relativeTo_relativeTo, Path.join_absolute ha]
  absolute a := ⟨Path.join_absolute, Path.join_absolute⟩
  directories a dir := by
    rw [Path.ofText_joinedText]
    exact ⟨fun h => by rw [relativeTo, h], fun h => by rw [relativeTo, h]⟩
  others _ := rfl

end Config

end BundleBuild
