/-
What writing the outputs of a batch does to a volume, as a whole. Files under plain names that are
no links are replaced one after another, so the last output of a name wins, and whatever else stands
on the volume stays as it was (`Replaced`). The writing ends at the first output that is refused,
and then leaves what the outputs before it do (`Batch.writeAll_error_iff`); no more than directories
can have been made for the one refused.
-/
import BundleBuild.Proofs.Finishing

namespace BundleBuild

/-! ## What stays -/

namespace Volume

/-- All that a volume has besides its items. -/
def settings (v : Volume) : Location × List String × List String :=
  (v.home, v.unlistable, v.unmakeable)

/-- Nothing has changed except at the locations, where anything may, and that directories were made
where nothing stood. -/
structure ChangedAt (changed : List Location) (v v' : Volume) : Prop where
  items : ∀ l, l ∉ changed →
    v'.item? l = v.item? l ∨ v.item? l = none ∧ v'.item? l = some .dir
  settings : v'.settings = v.settings

variable {v v' v'' : Volume} {changed : List Location}

theorem ChangedAt.refl (v : Volume) : ChangedAt changed v v :=
  ⟨fun _ _ => .inl rfl, rfl⟩

theorem ChangedAt.trans (h : ChangedAt changed v v') (h' : ChangedAt changed v' v'') :
    ChangedAt changed v v'' := by
  refine ⟨fun l hl => ?_, h'.settings.trans h.settings⟩
  rcases h'.items l hl with hsame | ⟨hnone, hdir⟩
  · rw [hsame]
    exact h.items l hl
  · rcases h.items l hl with hsame | ⟨-, hdir'⟩
    · exact .inr ⟨hsame ▸ hnone, hdir⟩
    · rw [hnone] at hdir'
      cases hdir'

/-! ### Making directories -/

theorem Leads.item?_vacant {follow : Bool} {links : Nat} {here l : Location} {names : List String}
    (h : Leads v follow links here names (.vacant l)) : v.item? l = none := by
  generalize hspot : Spot.vacant l = spot at h
  induction h with
  | done => cases hspot
  | up _ ih => exact ih hspot
  | enter _ _ _ ih => exact ih hspot
  | vacant _ none => cases hspot; exact none
  | file _ _ => cases hspot
  | link _ _ _ => cases hspot
  | follow _ _ _ _ ih => exact ih hspot

theorem changedAt_makeDir {p : Path} (h : v.makeDir p = .ok v') : ChangedAt changed v v' := by
  unfold makeDir at h
  split at h
  · cases h
  · split at h
    · cases h
    · next at_ hentry =>
      cases h
      have hnone : v.item? at_ = none := (look_eq_ok_iff.mp hentry).2.item?_vacant
      have hne : at_ ≠ [] := by
        rintro rfl
        cases hnone
      refine ⟨fun l _ => ?_, rfl⟩
      by_cases hl : l = at_
      · subst hl
        exact .inr ⟨hnone, item?_place_self _ hne⟩
      · exact .inl (item?_place_other _ hl)
    · cases h

theorem changedAt_makeDirHere (changed : List Location) (v : Volume) (p : Path) :
    ChangedAt changed v (v.makeDirHere p).2 := by
  unfold makeDirHere
  split
  · next hmade => exact changedAt_makeDir hmade
  · split
    · exact .refl v
    · exact .refl v

/-- Making a directory, and those above it, adds directories and changes nothing else. -/
theorem changedAt_makeDirs (changed : List Location) (v : Volume) (p : Path) :
    ChangedAt changed v (v.makeDirs p).2 := by
  fun_induction Volume.makeDirs v p with
  | case1 => exact .refl v
  | case2 p _ _ _ _ v' hparent ih =>
    rw [hparent] at ih
    exact ih.trans (changedAt_makeDirHere changed v' p)
  | case3 _ _ _ _ _ _ _ hparent ih =>
    rw [hparent] at ih
    exact ih
  | case4 p => exact changedAt_makeDirHere changed v p

theorem Unlinked.mono {dir : Path} {names names' : List String} (h : v.Unlinked dir names)
    (hsub : ∀ a ∈ names', a ∈ names) : v.Unlinked dir names' :=
  fun l hl a ha => h l hl a (hsub a ha)

end Volume

/-! ## Outputs that are written -/

variable {dir : Path} {v v' w : Volume} {os : List Output} {t : Trouble}

theorem Written.settings_eq (h : Written dir os v v') : v'.settings = v.settings := by
  induction h with
  | none => rfl
  | @next _ _ v made _ _ dirMade file _ ih =>
    have hmade : made.settings = v.settings := by
      simpa only [dirMade] using (Volume.changedAt_makeDirs [] v dir).settings
    obtain ⟨_, _, _, -, -, rfl⟩ := Volume.write_eq_ok file
    exact ih.trans hmade

/-- What writing outputs does: their files are in the directory, which is at this location, each
with the content of the last output of its name, and all else is as it was. -/
structure Replaced (dir : Path) (l : Location) (os : List Output) (v v' : Volume) : Prop where
  there : os ≠ [] → v'.locate dir = .ok (.there l .dir)
  last : ∀ o ∈ os, ∃ content executable, lastContent o.artifact os = some content ∧
    v'.locate (dir.joinText o.artifact) =
      .ok (.there (l ++ [o.artifact]) (.file content executable))
  frame : v.ChangedAt (os.map fun o => l ++ [o.artifact]) v'

theorem Written.replaced (h : Written dir os v v') (hnames : ∀ o ∈ os, Path.IsName o.artifact)
    (hlinks : (v.makeDirs dir).2.Unlinked dir (os.map (·.artifact))) :
    ∃ l, Replaced dir l os v v' := by
  by_cases hsome : os = []
  · subst hsome
    cases h
    exact ⟨[], fun hne => absurd rfl hne, by simp, .refl v⟩
  obtain ⟨paths, hpaths⟩ := written_iff.mp h
  obtain ⟨l, hthere, hlast, hframe⟩ := Batch.writeAll_placed hpaths hnames hlinks hsome
  refine ⟨l, fun _ => hthere, hlast, fun at_ hat => ?_, h.settings_eq⟩
  have hothers : ∀ o ∈ os, at_ ≠ l ++ [o.artifact] := by
    rintro o ho rfl
    exact hat (List.mem_map_of_mem ho)
  rw [hframe at_ hothers]
  exact (Volume.changedAt_makeDirs [] v dir).items at_ List.not_mem_nil

/-! ## Outputs that are refused -/

/-- The output cannot be written: its directory cannot be made, or its file not be opened there. -/
inductive Output.Refused (o : Output) (dir : Path) (v : Volume) : Trouble → Volume → Prop
  | dir {t : Trouble} {v' : Volume} (dirRefused : v.makeDirs dir = (.error t, v')) :
    Refused o dir v t v'
  | file {cause : SystemCause} {made : Volume} (dirMade : v.makeDirs dir = (.ok (), made))
    (fileRefused : made.write (dir.joinText o.artifact) o.content = .error cause) :
    Refused o dir v (.atPath cause (dir.joinText o.artifact)) made

theorem Output.writeTo_eq_error_iff {o : Output} :
    o.writeTo dir v = (.error t, v') ↔ o.Refused dir v t v' := by
  constructor
  · intro h
    unfold writeTo at h
    split at h
    · next hmade =>
      cases h
      exact .dir hmade
    · next hmade =>
      dsimp only at h
      split at h
      · cases h
      · next hfile =>
        cases h
        exact .file hmade hfile
  · rintro (hmade | ⟨hmade, hfile⟩)
    · simp only [writeTo, hmade]
    · simp only [writeTo, hmade, hfile]

theorem Output.Refused.volume_eq {o : Output} (h : o.Refused dir v t v') :
    v' = (v.makeDirs dir).2 := by
  cases h with
  | dir dirRefused => rw [dirRefused]
  | file dirMade _ => rw [dirMade]

theorem Batch.exists_refused : ∀ {os : List Output} {v v' : Volume} {t : Trouble},
    writeAll dir os v = (.error t, v') → ∃ before o after w, os = before ++ o :: after ∧
      Written dir before v w ∧ o.Refused dir w t v'
  | [], v, v', t, h => by cases h
  | o :: os, v, v', t, h => by
    rcases writeAll_cons_eq_error h with hfirst | ⟨path, middle, hfirst, hrest⟩
    · exact ⟨[], o, os, v, rfl, .none, Output.writeTo_eq_error_iff.mp hfirst⟩
    · obtain ⟨before, o', after, w, hsplit, hbefore, hrefused⟩ := exists_refused hrest
      obtain ⟨made, hmade, hw⟩ := Output.writeTo_eq_ok hfirst
      exact ⟨o :: before, o', after, w, by rw [hsplit]; rfl, .next hmade hw hbefore, hrefused⟩

theorem Written.writeAll_refused {before : List Output} {o : Output}
    (hbefore : Written dir before v w) (hrefused : o.Refused dir w t v') (after : List Output) :
    Batch.writeAll dir (before ++ o :: after) v = (.error t, v') := by
  induction hbefore with
  | none => simp only [List.nil_append, Batch.writeAll, Output.writeTo_eq_error_iff.mpr hrefused]
  | next dirMade file _ ih =>
    simp only [List.cons_append, Batch.writeAll, Output.writeTo, dirMade, file, ih hrefused,
      Except.map]

/-- Writing ends in trouble exactly at an output that is refused after those before it were
written. -/
theorem Batch.writeAll_error_iff :
    writeAll dir os v = (.error t, v') ↔ ∃ before o after w, os = before ++ o :: after ∧
      Written dir before v w ∧ o.Refused dir w t v' := by
  constructor
  · exact exists_refused
  · rintro ⟨before, o, after, w, rfl, hbefore, hrefused⟩
    exact hbefore.writeAll_refused hrefused after

/-- What a refused output leaves is what those before it left, but for directories. -/
theorem Replaced.refused {o : Output} {l : Location} (h : Replaced dir l os v w)
    (hrefused : o.Refused dir w t v') :
    Replaced dir l os v v' ∧ (os ≠ [] → v' = w) := by
  have hleft := hrefused.volume_eq
  by_cases hsome : os = []
  · subst hsome
    refine ⟨⟨fun hne => absurd rfl hne, by simp, h.frame.trans ?_⟩, fun hne => absurd rfl hne⟩
    rw [hleft]
    exact Volume.changedAt_makeDirs [] w dir
  · rw [Volume.makeDirs_of_locate (h.there hsome)] at hleft
    subst hleft
    exact ⟨h, fun _ => rfl⟩

/-! ## Writing a batch -/

namespace Batch

/-- How the outputs of a batch are written into a directory. -/
structure WrittenInOrder (b : Batch) (dir : Path) (v : Volume) : Prop where
  /-- Written are all of them, in their order, and each file holds the last of its name. -/
  written : ∀ paths v', b.writeOutputs dir v = (.ok paths, v') →
    paths = b.outputs.map (fun o => dir.joinText o.artifact) ∧ ∃ l, Replaced dir l b.outputs v v'
  /-- There is trouble exactly where one of them is refused once those before it are written. -/
  refused : ∀ t v', b.writeOutputs dir v = (.error t, v') ↔
    ∃ before o after w, b.outputs = before ++ o :: after ∧ Written dir before v w ∧
      o.Refused dir w t v'
  /-- Then those before it are on the volume just as if they had been written alone, and at most
  directories were made for the first one. -/
  left : ∀ before o after w t v', b.outputs = before ++ o :: after → Written dir before v w →
    o.Refused dir w t v' →
    (∃ l, Replaced dir l before v v') ∧ w.ChangedAt [] v' ∧ (before ≠ [] → v' = w)

/-- **The last output of a name wins, and nothing else changes**, also where the writing ends at an
output that is refused. The names are those of files, and none of them is a link in the directory
once it is made. -/
theorem writeOutputs_in_order {b : Batch} {dir : Path} {v : Volume}
    (hnames : ∀ o ∈ b.outputs, o.artifact ≠ "" ∧ Path.Plain o.artifact)
    (hlinks : (v.makeDirs dir).2.Unlinked dir (b.outputs.map (·.artifact))) :
    WrittenInOrder b dir v where
  written paths v' h := by
    refine ⟨paths_writeAll h, ?_⟩
    have hisName : ∀ o ∈ b.outputs, Path.IsName o.artifact :=
      fun o ho => Path.isName_iff.mpr (hnames o ho)
    exact (written_iff.mpr ⟨paths, h⟩).replaced hisName hlinks
  refused t v' := writeAll_error_iff
  left before o after w t v' hsplit hbefore hrefused := by
    have hmem : ∀ o' ∈ before, o' ∈ b.outputs := fun o' ho' => by simp [hsplit, ho']
    have hisName : ∀ o' ∈ before, Path.IsName o'.artifact :=
      fun o' ho' => Path.isName_iff.mpr (hnames o' (hmem o' ho'))
    have hsub : ∀ a ∈ before.map (·.artifact), a ∈ b.outputs.map (·.artifact) :=
      fun _ ha => List.map_subset _ hmem ha
    obtain ⟨l, hreplaced⟩ := hbefore.replaced hisName (hlinks.mono hsub)
    obtain ⟨hleft, hsame⟩ := hreplaced.refused hrefused
    refine ⟨⟨l, hleft⟩, ?_, hsame⟩
    rw [hrefused.volume_eq]
    exact Volume.changedAt_makeDirs [] w dir

/-- Two outputs of one name, one under the name of a directory, and one more. -/
def crowdedOutputs : List Output := [
  Catalog.looseOutput "A" "a.js" .serverReplMain 1,
  Catalog.looseOutput "B" "a.js" .testMain 2,
  Catalog.looseOutput "B" "sub" .testMain 3,
  Catalog.looseOutput "B" "b.js" .testMain 4]

def crowdedBatch : Batch where
  results := [⟨"A", 1, crowdedOutputs.take 1, [], []⟩, ⟨"B", 3, crowdedOutputs.drop 1, [], []⟩]

/-- The output directory with a directory `sub` in it and a program `a.js` of this content. -/
def crowdedVolume (content : List UInt8) : Volume :=
  Catalog.outVolume [
    (["work", "out", "sub"], .dir),
    (["work", "out", "a.js"], .file content true)]

theorem write_crowdedVolume (content content' : List UInt8) :
    (crowdedVolume content).write (Path.relative ["out", "a.js"]) content' =
      .ok (crowdedVolume content') := by
  have hspot : (crowdedVolume content).locate (Path.relative ["out", "a.js"]) =
      .ok (.there ["work", "out", "a.js"] (.file content true)) :=
    Volume.look_eq_ok_iff.mpr ⟨⟨by decide, by decide⟩,
      .enter ⟨by decide, by decide⟩ rfl (.file ⟨by decide, by decide⟩ rfl)⟩
  rw [Volume.write, hspot]
  rfl

theorem write_crowdedVolume_sub (content content' : List UInt8) :
    (crowdedVolume content).write (Path.relative ["out", "sub"]) content' =
      .error .isDirectory := by
  have hspot : (crowdedVolume content).locate (Path.relative ["out", "sub"]) =
      .ok (.there ["work", "out", "sub"] .dir) :=
    Volume.look_eq_ok_iff.mpr ⟨⟨by decide, by decide⟩,
      .enter ⟨by decide, by decide⟩ rfl (.enter ⟨by decide, by decide⟩ rfl .done)⟩
  rw [Volume.write, hspot]

theorem writeOutputs_in_order_crowded :
    (∀ o ∈ crowdedBatch.outputs, o.artifact ≠ "" ∧ Path.Plain o.artifact) ∧
      ((crowdedVolume [9]).makeDirs (Path.relative ["out"])).2.Unlinked (Path.relative ["out"])
        (crowdedBatch.outputs.map (·.artifact)) ∧
      crowdedBatch.writeOutputs (Path.relative ["out"]) (crowdedVolume [9]) =
        (.error (.atPath .isDirectory (Path.relative ["out", "sub"])), crowdedVolume [2]) ∧
      ∃ l, Replaced (Path.relative ["out"]) l (crowdedOutputs.take 2) (crowdedVolume [9])
        (crowdedVolume [2]) := by
  have hmade (content : List UInt8) :
      (crowdedVolume content).makeDirs (Path.relative ["out"]) = (.ok (), crowdedVolume content) :=
    Volume.makeDirs_of_locate (Catalog.locate_outVolume _)
  have hnames : ∀ o ∈ crowdedBatch.outputs,
      o.artifact ≠ "" ∧ o.artifact ≠ "." ∧ '/' ∉ o.artifact.toList := by decide
  have hlinks : ((crowdedVolume [9]).makeDirs (Path.relative ["out"])).2.Unlinked
      (Path.relative ["out"]) (crowdedBatch.outputs.map (·.artifact)) := by
    rw [hmade]
    intro l hl
    cases (Catalog.locate_outVolume _).symm.trans hl
    have hitems : ∀ a ∈ crowdedBatch.outputs.map (·.artifact),
        ((crowdedVolume [9]).item? (["work", "out"] ++ [a])).all
          (fun item => item matches .dir | .file _ _) := by decide
    intro a ha target hlink
    have hitem := hitems a ha
    rw [hlink] at hitem
    cases hitem
  have hbefore : Written (Path.relative ["out"]) (crowdedOutputs.take 2) (crowdedVolume [9])
      (crowdedVolume [2]) :=
    .next (hmade _) (write_crowdedVolume _ _) (.next (hmade _) (write_crowdedVolume _ _) .none)
  have hrefused : (Catalog.looseOutput "B" "sub" .testMain 3).Refused (Path.relative ["out"])
      (crowdedVolume [2]) (.atPath .isDirectory (Path.relative ["out", "sub"]))
      (crowdedVolume [2]) :=
    .file (hmade _) (write_crowdedVolume_sub _ _)
  have hsplit : crowdedBatch.outputs = crowdedOutputs.take 2 ++
      Catalog.looseOutput "B" "sub" .testMain 3 :: crowdedOutputs.drop 3 := rfl
  have hall := writeOutputs_in_order hnames hlinks
  exact ⟨hnames, hlinks, (hall.refused _ _).mpr ⟨_, _, _, _, hsplit, hbefore, hrefused⟩,
    (hall.left _ _ _ _ _ _ hsplit hbefore hrefused).1⟩

end Batch

end BundleBuild
