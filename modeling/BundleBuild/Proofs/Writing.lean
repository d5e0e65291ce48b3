/-
What writing outputs leaves on the volume. Names that are one segment of a path, none of them a link
in the output directory, are different files there; so each file ends up with the content of the
last output of its name (`Batch.writeAll_last`), whatever was written around it.
-/
import BundleBuild.Result
import BundleBuild.Proofs.Lookup

namespace BundleBuild

namespace Path

/-- A text that is one segment of a path, as it stands. -/
def IsName (name : String) : Prop :=
  (ofText name).lead = .relative ∧ (ofText name).segments = [name]

/-- The path stands directly in a directory, under this very name. -/
def DirectlyIn (p dir : Path) (name : String) : Prop :=
  p.lead = dir.lead ∧ p.segments = dir.segments ++ [name]

theorem directlyIn_joinText {name : String} (h : IsName name) (dir : Path) :
    (dir.joinText name).DirectlyIn dir name := by
  have hrelative : (ofText name).isAbsolute = false := by simp [isAbsolute, h.1]
  exact ⟨lead_join hrelative, (segments_join hrelative).trans (by rw [h.2])⟩

end Path

/-- The content of the last of the outputs with this artifact name. -/
def lastContent (artifact : String) : List Output → Option (List UInt8)
  | [] => none
  | o :: rest =>
    (lastContent artifact rest).or (if o.artifact = artifact then some o.content else none)

theorem mem_of_lastContent {artifact : String} {content : List UInt8} : ∀ {os : List Output},
    lastContent artifact os = some content → ∃ o ∈ os, o.artifact = artifact ∧ o.content = content
  | [], h => by cases h
  | o :: rest, h => by
    simp only [lastContent, Option.or_eq_some_iff] at h
    rcases h with h | ⟨-, h⟩
    · obtain ⟨o', ho', h'⟩ := mem_of_lastContent h
      exact ⟨o', List.mem_cons_of_mem _ ho', h'⟩
    · split at h
      · next ho =>
        cases h
        exact ⟨o, List.mem_cons_self, ho, rfl⟩
      · cases h

theorem exists_lastContent : ∀ {os : List Output} {o : Output}, o ∈ os →
    ∃ content, lastContent o.artifact os = some content
  | o' :: rest, o, h => by
    simp only [lastContent]
    rcases List.mem_cons.mp h with rfl | h
    · cases lastContent o.artifact rest <;> simp
    · obtain ⟨content, hc⟩ := exists_lastContent h
      simp [hc]

theorem lastContent_append (artifact : String) : ∀ os os' : List Output,
    lastContent artifact (os ++ os') = (lastContent artifact os').or (lastContent artifact os)
  | [], os' => by simp [lastContent]
  | o :: os, os' => by
    simp only [List.cons_append, lastContent, lastContent_append artifact os os', Option.or_assoc]

/-- The order of outputs does not matter where those of one name have one content. -/
theorem lastContent_congr {os os' : List Output} (hmem : ∀ o, o ∈ os ↔ o ∈ os')
    (hsame : ∀ o ∈ os, ∀ o' ∈ os, o.artifact = o'.artifact → o.content = o'.content)
    (artifact : String) : lastContent artifact os = lastContent artifact os' := by
  cases h : lastContent artifact os with
  | some content =>
    obtain ⟨o, ho, rfl, rfl⟩ := mem_of_lastContent h
    obtain ⟨content', h'⟩ := exists_lastContent ((hmem o).mp ho)
    obtain ⟨o', ho', hartifact, rfl⟩ := mem_of_lastContent h'
    rw [h', hsame o ho o' ((hmem o').mpr ho') hartifact.symm]
  | none =>
    cases h' : lastContent artifact os' with
    | none => rfl
    | some content' =>
      obtain ⟨o', ho', rfl, -⟩ := mem_of_lastContent h'
      obtain ⟨content, hc⟩ := exists_lastContent ((hmem o').mpr ho')
      rw [h] at hc
      cases hc

namespace Volume

variable {v v' : Volume} {dir : Path} {l : Location} {names : List String} {a : String}
  {content : List UInt8}

/-! ## One file -/

theorem write_eq_ok {p : Path} (h : v.write p content = .ok v') :
    ∃ spot at_ executable, v.locate p = .ok spot ∧ spot.writeAt? = some at_ ∧
      v' = v.place at_ (.file content executable) := by
  unfold write at h
  split at h
  · next hspot =>
    cases h
    exact ⟨_, _, _, hspot, rfl, rfl⟩
  · cases h
  · next hspot =>
    cases h
    exact ⟨_, _, _, hspot, rfl, rfl⟩
  · cases h

theorem read_eq_ok_iff {p : Path} : v.read p = .ok content ↔
    ∃ at_ executable, v.locate p = .ok (.there at_ (.file content executable)) := by
  unfold read
  constructor
  · intro h
    split at h
    · next at_ found executable hspot =>
      cases h
      exact ⟨at_, executable, hspot⟩
    all_goals cases h
  · rintro ⟨at_, executable, h⟩
    rw [h]

theorem look_place_file {at_ : Location} {follow : Bool} {p : Path} {spot : Spot}
    (content : List UInt8) (executable : Bool) (hfree : v.Free at_)
    (h : v.look follow p = .ok spot) :
    (v.place at_ (.file content executable)).look follow p =
      .ok (spot.after at_ (.file content executable)) :=
  look_place hfree (by simp) h

/-- What was written is read back. -/
theorem read_write {p : Path} (h : v.write p content = .ok v') : v'.read p = .ok content := by
  obtain ⟨spot, at_, executable, hspot, hat, rfl⟩ := write_eq_ok h
  refine read_eq_ok_iff.mpr ⟨at_, executable, ?_⟩
  have hplaced := look_place_file content executable (free_of_look hspot hat) hspot
  rwa [Spot.after_self hat] at hplaced

/-! ## Files of one directory -/

/-- A directory that is there, with no link in it under any of the names. -/
structure OpenDir (v : Volume) (dir : Path) (l : Location) (names : List String) : Prop where
  there : v.locate dir = .ok (.there l .dir)
  unlinked : ∀ a ∈ names, ∀ target, v.item? (l ++ [a]) ≠ some (.link target)

/-- In a directory without links a file is written under its own name. -/
theorem Leads.writeAt_name {links : Nat} {spot : Spot} {at_ : Location}
    (h : Leads v true links l [a] spot)
    (hunlinked : ∀ target, v.item? (l ++ [a]) ≠ some (.link target))
    (hat : spot.writeAt? = some at_) : at_ = l ++ [a] := by
  cases h with
  | up next =>
    cases next
    cases hat
  | enter _ _ next =>
    cases next
    cases hat
  | vacant => cases hat; rfl
  | file => cases hat; rfl
  | link _ _ stay => cases stay
  | follow _ link => exact absurd link (hunlinked _)

namespace OpenDir

theorem writeAt (h : OpenDir v dir l names) (ha : a ∈ names) (hname : Path.IsName a) {spot : Spot}
    {at_ : Location} (hspot : v.locate (dir.joinText a) = .ok spot)
    (hat : spot.writeAt? = some at_) : at_ = l ++ [a] := by
  obtain ⟨hlead, hsegments⟩ := Path.directlyIn_joinText hname dir
  obtain ⟨-, hleads⟩ := look_eq_ok_iff.mp hspot
  obtain ⟨links, hlast⟩ := (look_eq_ok_iff.mp h.there).2.append
  have hstart : v.start (dir.joinText a) = v.start dir := by simp [start, Path.isAbsolute, hlead]
  have hwalk := hleads.walk
  rw [hstart, hsegments, hlast] at hwalk
  exact (leads_of_walk hwalk).writeAt_name (h.unlinked a ha) hat

/-- Writing a file puts it at its own place in the directory. -/
theorem write (h : OpenDir v dir l names) (ha : a ∈ names) (hname : Path.IsName a)
    (hw : v.write (dir.joinText a) content = .ok v') :
    v.Free (l ++ [a]) ∧ ∃ executable, v' = v.place (l ++ [a]) (.file content executable) := by
  obtain ⟨spot, at_, executable, hspot, hat, rfl⟩ := write_eq_ok hw
  have hplace := h.writeAt ha hname hspot hat
  subst hplace
  exact ⟨free_of_look hspot hat, executable, rfl⟩

theorem after_write (h : OpenDir v dir l names) (ha : a ∈ names) (hname : Path.IsName a)
    (hw : v.write (dir.joinText a) content = .ok v') : OpenDir v' dir l names := by
  obtain ⟨hfree, executable, rfl⟩ := h.write ha hname hw
  refine ⟨locate_dir_place hfree (by simp) h.there, fun b hb target hlink => ?_⟩
  by_cases hba : l ++ [b] = l ++ [a]
  · rw [hba, item?_place_self _ hfree.ne_nil] at hlink
    cases hlink
  · rw [item?_place_other _ hba] at hlink
    exact h.unlinked b hb target hlink

/-- The other files of the directory are read as before. -/
theorem read_other (h : OpenDir v dir l names) (ha : a ∈ names) (hname : Path.IsName a)
    (hw : v.write (dir.joinText a) content = .ok v') {b : String} (hb : b ∈ names)
    (hbname : Path.IsName b) (hne : b ≠ a) {older : List UInt8}
    (hread : v.read (dir.joinText b) = .ok older) : v'.read (dir.joinText b) = .ok older := by
  obtain ⟨hfree, executable, rfl⟩ := h.write ha hname hw
  obtain ⟨at_, executable', hspot⟩ := read_eq_ok_iff.mp hread
  have hat := h.writeAt hb hbname hspot rfl
  have hother : (Spot.there at_ (.file older executable')).writeAt? ≠ some (l ++ [a]) := by
    simp [Spot.writeAt?, hat, hne]
  refine read_eq_ok_iff.mpr ⟨at_, executable', ?_⟩
  have hplaced := look_place_file content executable hfree hspot
  rwa [Spot.after_other hother] at hplaced

end OpenDir

end Volume

/-! ## All files of a batch -/

variable {v v' : Volume} {dir : Path} {l : Location} {names : List String}

theorem Output.writeTo_eq_ok {o : Output} {path : Path} (h : o.writeTo dir v = (.ok path, v')) :
    ∃ made, v.makeDirs dir = (.ok (), made) ∧
      made.write (dir.joinText o.artifact) o.content = .ok v' := by
  unfold writeTo at h
  split at h
  · cases h
  · next made hmade =>
    dsimp only at h
    split at h
    · next hw =>
      cases h
      exact ⟨made, hmade, hw⟩
    · cases h

theorem Batch.writeAll_cons_eq_ok {o : Output} {rest : List Output} {paths : List Path}
    (h : writeAll dir (o :: rest) v = (.ok paths, v')) :
    ∃ path later middle, paths = path :: later ∧ o.writeTo dir v = (.ok path, middle) ∧
      writeAll dir rest middle = (.ok later, v') := by
  simp only [writeAll] at h
  split at h
  · cases h
  · next path middle hw =>
    rcases hrest : writeAll dir rest middle with ⟨written, end_⟩
    rw [hrest] at h
    cases written with
    | error t => cases h
    | ok later =>
      cases h
      exact ⟨path, later, middle, rfl, hw, hrest⟩

/-- Writing ends in trouble at the first output or at a later one. -/
theorem Batch.writeAll_cons_eq_error {o : Output} {rest : List Output} {t : Trouble}
    (h : writeAll dir (o :: rest) v = (.error t, v')) :
    o.writeTo dir v = (.error t, v') ∨ ∃ path middle, o.writeTo dir v = (.ok path, middle) ∧
      writeAll dir rest middle = (.error t, v') := by
  simp only [writeAll] at h
  split at h
  · next hw =>
    cases h
    exact .inl hw
  · next path middle hw =>
    rcases hrest : writeAll dir rest middle with ⟨written, end_⟩
    rw [hrest] at h
    cases written with
    | ok later => cases h
    | error t =>
      cases h
      exact .inr ⟨path, middle, hw, hrest⟩

/-- The directory is made for the first output and there for the others. -/
theorem Batch.writeAll_made {made : Volume} (h : v.makeDirs dir = (.ok (), made)) (o : Output)
    (rest : List Output) : writeAll dir (o :: rest) v = writeAll dir (o :: rest) made := by
  obtain ⟨l, hl⟩ := Volume.locate_makeDirs h
  have hfirst : o.writeTo dir v = o.writeTo dir made := by
    simp only [Output.writeTo, h, Volume.makeDirs_of_locate hl]
  simp only [writeAll, hfirst]

namespace Volume.OpenDir

/-- In a directory that is there nothing is made before the first output is written. -/
theorem writeAll_cons (hdir : OpenDir v dir l names) {o : Output} {rest : List Output}
    {paths : List Path} (h : Batch.writeAll dir (o :: rest) v = (.ok paths, v')) :
    ∃ later middle, v.write (dir.joinText o.artifact) o.content = .ok middle ∧
      Batch.writeAll dir rest middle = (.ok later, v') := by
  obtain ⟨path, later, middle, -, hfirst, hrest⟩ := Batch.writeAll_cons_eq_ok h
  obtain ⟨made, hmade, hw⟩ := Output.writeTo_eq_ok hfirst
  rw [makeDirs_of_locate hdir.there] at hmade
  cases hmade
  exact ⟨later, middle, hw, hrest⟩

/-- Writing outputs into a directory that is there leaves each of its files with the content of the
last output of its name, or as it was where there is none. -/
theorem writeAll (hnames : ∀ a ∈ names, Path.IsName a) : ∀ {os : List Output} {v v' : Volume}
    {paths : List Path}, OpenDir v dir l names → (∀ o ∈ os, o.artifact ∈ names) →
      Batch.writeAll dir os v = (.ok paths, v') → ∀ a ∈ names,
        (∀ content, lastContent a os = some content → v'.read (dir.joinText a) = .ok content) ∧
        (lastContent a os = none → ∀ older, v.read (dir.joinText a) = .ok older →
          v'.read (dir.joinText a) = .ok older)
  | [], v, v', paths, _, _, h => by
    cases h
    intro a _
    exact ⟨fun _ hsome => (nomatch hsome), fun _ _ hread => hread⟩
  | o :: rest, v, v', paths, hdir, hos, h => by
    obtain ⟨later, middle, hw, hrest⟩ := hdir.writeAll_cons h
    obtain ⟨ho, hos⟩ := List.forall_mem_cons.mp hos
    have hafter := writeAll hnames (hdir.after_write ho (hnames _ ho) hw) hos hrest
    intro a ha
    obtain ⟨hlast, hnone⟩ := hafter a ha
    simp only [lastContent]
    cases hlater : lastContent a rest with
    | some content => exact ⟨fun c hc => hlast c (hlater.trans hc), fun hc => (nomatch hc)⟩
    | none =>
      by_cases hoa : o.artifact = a
      · subst hoa
        simp only [Option.none_or, if_true, Option.some.injEq, reduceCtorEq, false_implies,
          and_true]
        rintro _ rfl
        exact hnone hlater _ (read_write hw)
      · simp only [Option.none_or, if_neg hoa, reduceCtorEq, false_implies, implies_true, true_and]
        intro _ older hread
        exact hnone hlater older
          (hdir.read_other ho (hnames _ ho) hw ha (hnames a ha) (Ne.symm hoa) hread)

end Volume.OpenDir

/-- No link stands in the directory under any of the names. -/
def Volume.Unlinked (v : Volume) (dir : Path) (names : List String) : Prop :=
  ∀ l, v.locate dir = .ok (.there l .dir) →
    ∀ a ∈ names, ∀ target, v.item? (l ++ [a]) ≠ some (.link target)

/-- Outputs are written into a directory that was made for the first of them. -/
theorem Batch.writeAll_open {os : List Output} {paths : List Path}
    (h : writeAll dir os v = (.ok paths, v'))
    (hlinks : (v.makeDirs dir).2.Unlinked dir (os.map (·.artifact))) (hsome : os ≠ []) :
    ∃ made l, v.makeDirs dir = (.ok (), made) ∧
      Volume.OpenDir made dir l (os.map (·.artifact)) ∧
      writeAll dir os made = (.ok paths, v') := by
  obtain ⟨o, rest, rfl⟩ := List.exists_cons_of_ne_nil hsome
  obtain ⟨path, later, middle, -, hfirst, -⟩ := writeAll_cons_eq_ok h
  obtain ⟨made, hmade, -⟩ := Output.writeTo_eq_ok hfirst
  obtain ⟨l, hl⟩ := Volume.locate_makeDirs hmade
  rw [hmade] at hlinks
  rw [writeAll_made hmade] at h
  exact ⟨made, l, hmade, ⟨hl, hlinks l hl⟩, h⟩

/-- **The last output of a name is what its file holds.** -/
theorem Batch.writeAll_last {os : List Output} {paths : List Path}
    (h : writeAll dir os v = (.ok paths, v')) (hnames : ∀ o ∈ os, Path.IsName o.artifact)
    (hlinks : (v.makeDirs dir).2.Unlinked dir (os.map (·.artifact))) {a : String}
    {content : List UInt8} (hlast : lastContent a os = some content) :
    v'.read (dir.joinText a) = .ok content := by
  obtain ⟨o, ho, hartifact, -⟩ := mem_of_lastContent hlast
  obtain ⟨made, l, -, hdir, hw⟩ := writeAll_open h hlinks (List.ne_nil_of_mem ho)
  have hisName : ∀ a ∈ os.map (·.artifact), Path.IsName a := List.forall_mem_map.mpr hnames
  have ha : a ∈ os.map (·.artifact) := List.mem_map.mpr ⟨o, ho, hartifact⟩
  exact (hdir.writeAll hisName (fun o' ho' => List.mem_map_of_mem ho') hw a ha).1 content hlast

end BundleBuild
