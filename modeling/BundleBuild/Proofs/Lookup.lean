/-
Where paths lead, and where they lead after something was put on the volume. A look-up that comes to
an end is a chain of steps (`Leads`), each reading one name; so what a look-up comes to changes only
where one of its steps reads another item. Putting an item where nothing or a file stood changes no
step but the last (`Leads.place`): every directory stays where it was, and the paths that led to
this place now lead to the new item.
-/
import BundleBuild.Volume

namespace BundleBuild

/-- The location that a file written at the spot is put at. -/
def Spot.writeAt? : Spot → Option Location
  | .there l (.file _ _) => some l
  | .vacant l => some l
  | _ => none

/-- Where a path leads once an item was put at a location that was free. -/
def Spot.after (at_ : Location) (item : Item) (spot : Spot) : Spot :=
  if spot.writeAt? = some at_ then .there at_ item else spot

theorem Spot.after_self {at_ : Location} {item : Item} {spot : Spot}
    (h : spot.writeAt? = some at_) : spot.after at_ item = .there at_ item :=
  if_pos h

theorem Spot.after_other {at_ : Location} {item : Item} {spot : Spot}
    (h : spot.writeAt? ≠ some at_) : spot.after at_ item = spot :=
  if_neg h

namespace Volume

variable {v : Volume}

/-! ## Items -/

theorem item?_nil : v.item? [] = some .dir := rfl

theorem item?_place_self {at_ : Location} (item : Item) (h : at_ ≠ []) :
    (v.place at_ item).item? at_ = some item := by
  have hnone : (v.items.filter fun x => x.1 != at_).find? (fun x => x.1 == at_) = none := by
    simp [List.find?_eq_none]
  simp [item?, place, h, List.find?_append, hnone]

theorem item?_place_other {at_ l : Location} (item : Item) (h : l ≠ at_) :
    (v.place at_ item).item? l = v.item? l := by
  unfold item? place
  split
  · rfl
  · have hkept : (v.items.filter fun x => x.1 != at_).find? (fun x => x.1 == l) =
        v.items.find? fun x => x.1 == l := by
      rw [List.find?_filter]
      congr 1
      funext x
      by_cases hx : x.1 = l <;> simp [hx, h]
    simp [List.find?_append, hkept, Ne.symm h]

/-- A file may be put there: nothing or a file stands at the location. -/
def Free (v : Volume) (at_ : Location) : Prop :=
  ∀ item, v.item? at_ = some item → ∃ content executable, item = .file content executable

theorem Free.ne_nil {at_ : Location} (h : v.Free at_) : at_ ≠ [] := by
  rintro rfl
  obtain ⟨_, _, hdir⟩ := h .dir item?_nil
  cases hdir

theorem Free.ne_of_dir {at_ l : Location} (h : v.Free at_) (hl : v.item? l = some .dir) :
    l ≠ at_ := by
  rintro rfl
  obtain ⟨_, _, hdir⟩ := h .dir hl
  cases hdir

theorem Free.ne_of_link {at_ l : Location} {target : Path} (h : v.Free at_)
    (hl : v.item? l = some (.link target)) : l ≠ at_ := by
  rintro rfl
  obtain ⟨_, _, hlink⟩ := h _ hl
  cases hlink

/-! ## Look-ups as chains of steps -/

/-- A name that is looked up in a directory: not the way up, and no longer than names are. -/
def Proper (name : String) : Prop :=
  name ≠ ".." ∧ ¬ nameLimit < name.utf8ByteSize

/-- From a directory the names lead to the spot, over no more than so many links. -/
inductive Leads (v : Volume) (follow : Bool) : Nat → Location → List String → Spot → Prop
  | done {links here} : Leads v follow links here [] (.there here .dir)
  | up {links here rest spot} (next : Leads v follow links here.dropLast rest spot) :
    Leads v follow links here (".." :: rest) spot
  | enter {links here name rest spot} (proper : Proper name)
    (dir : v.item? (here ++ [name]) = some .dir)
    (next : Leads v follow links (here ++ [name]) rest spot) :
    Leads v follow links here (name :: rest) spot
  | vacant {links here name} (proper : Proper name) (none : v.item? (here ++ [name]) = none) :
    Leads v follow links here [name] (.vacant (here ++ [name]))
  | file {links here name content executable} (proper : Proper name)
    (file : v.item? (here ++ [name]) = some (.file content executable)) :
    Leads v follow links here [name] (.there (here ++ [name]) (.file content executable))
  | link {links here name target} (proper : Proper name)
    (link : v.item? (here ++ [name]) = some (.link target)) (stay : follow = false) :
    Leads v follow links here [name] (.there (here ++ [name]) (.link target))
  | follow {links here name rest target spot} (proper : Proper name)
    (link : v.item? (here ++ [name]) = some (.link target)) (go : rest = [] → follow = true)
    (next : Leads v follow links (if target.isAbsolute then [] else here)
      (target.segments ++ rest) spot) :
    Leads v follow (links + 1) here (name :: rest) spot

theorem leads_of_walk {follow : Bool} {links : Nat} {here : Location} {names : List String}
    {spot : Spot} (h : v.walk follow links here names = .ok spot) :
    Leads v follow links here names spot := by
  fun_induction walk v follow links here names
  case case1 => cases h; exact .done
  case case2 ih => exact .up (ih h)
  case case3 => cases h
  case case4 name rest hname hlong next hitem hrest =>
    cases h
    obtain rfl : rest = [] := by simpa using hrest
    exact .vacant ⟨hname, hlong⟩ hitem
  case case5 => cases h
  case case6 hname hlong next hitem ih => exact .enter ⟨hname, hlong⟩ hitem (ih h)
  case case7 name rest hname hlong next content executable hitem hrest =>
    cases h
    obtain rfl : rest = [] := by simpa using hrest
    exact .file ⟨hname, hlong⟩ hitem
  case case8 => cases h
  case case9 name rest hname hlong next target hitem hstay =>
    cases h
    simp only [Bool.and_eq_true, List.isEmpty_iff, Bool.not_eq_true'] at hstay
    obtain ⟨rfl, hstay⟩ := hstay
    exact .link ⟨hname, hlong⟩ hitem hstay
  case case10 => cases h
  case case11 name rest hname hlong next target hitem hgo links ih =>
    refine .follow ⟨hname, hlong⟩ hitem ?_ (ih h)
    rintro rfl
    simpa using hgo

theorem walk_cons {follow : Bool} {links : Nat} {here : Location} {name : String}
    {rest : List String} (h : Proper name) : v.walk follow links here (name :: rest) =
      match v.item? (here ++ [name]) with
      | none => if rest.isEmpty then .ok (.vacant (here ++ [name])) else .error .notFound
      | some .dir => v.walk follow links (here ++ [name]) rest
      | some (.file content executable) =>
        if rest.isEmpty then .ok (.there (here ++ [name]) (.file content executable))
        else .error .notDirectory
      | some (.link target) =>
        if rest.isEmpty && !follow then .ok (.there (here ++ [name]) (.link target))
        else match links with
          | 0 => .error .tooManyLinks
          | links + 1 => v.walk follow links (if target.isAbsolute then [] else here)
              (target.segments ++ rest) := by
  rw [walk]
  · exact if_neg h.2
  · exact h.1

theorem Leads.walk {follow : Bool} {links : Nat} {here : Location} {names : List String}
    {spot : Spot} (h : Leads v follow links here names spot) :
    v.walk follow links here names = .ok spot := by
  induction h with
  | done => rw [Volume.walk]
  | up _ ih => rw [Volume.walk, ih]
  | enter proper dir _ ih => rw [walk_cons proper, dir]; exact ih
  | vacant proper none => rw [walk_cons proper, none]; rfl
  | file proper file => rw [walk_cons proper, file]; rfl
  | link proper link stay => rw [walk_cons proper, link, stay]; rfl
  | @follow links here name rest target spot proper link go _ ih =>
    have hgo : (rest.isEmpty && !follow) = false := by
      cases rest with
      | nil => simp [go rfl]
      | cons _ _ => rfl
    rw [walk_cons proper, link]
    simp only [hgo]
    exact ih

theorem walk_eq_ok_iff {follow : Bool} {links : Nat} {here : Location} {names : List String}
    {spot : Spot} : v.walk follow links here names = .ok spot ↔
      Leads v follow links here names spot :=
  ⟨leads_of_walk, Leads.walk⟩

/-- One more name is read in the directory that the names before it lead to. -/
theorem Leads.append {links : Nat} {here l : Location} {names : List String}
    (h : Leads v true links here names (.there l .dir)) :
    ∃ links', ∀ follow name,
      v.walk follow links here (names ++ [name]) = v.walk follow links' l [name] := by
  generalize hspot : Spot.there l .dir = spot at h
  induction h with
  | done =>
    cases hspot
    exact ⟨_, fun _ _ => rfl⟩
  | up _ ih =>
    obtain ⟨links', hnext⟩ := ih hspot
    refine ⟨links', fun follow name => ?_⟩
    rw [List.cons_append, Volume.walk, hnext]
  | enter proper dir _ ih =>
    obtain ⟨links', hnext⟩ := ih hspot
    refine ⟨links', fun follow name => ?_⟩
    rw [List.cons_append, walk_cons proper, dir]
    exact hnext follow name
  | follow proper link _ _ ih =>
    -- The name makes what is left behind the link longer, so the link is passed in any case.
    obtain ⟨links', hnext⟩ := ih hspot
    refine ⟨links', fun follow name => ?_⟩
    rw [List.cons_append, walk_cons proper, link, ← hnext follow name, List.append_assoc]
    simp
  | vacant _ _ => cases hspot
  | file _ _ => cases hspot
  | link _ _ _ => cases hspot

/-- Nothing or a file stands where a file can be written. -/
theorem Leads.free {follow : Bool} {links : Nat} {here l : Location} {names : List String}
    {spot : Spot} (h : Leads v follow links here names spot) (hl : spot.writeAt? = some l) :
    v.Free l := by
  induction h with
  | done => cases hl
  | up _ ih => exact ih hl
  | enter _ _ _ ih => exact ih hl
  | follow _ _ _ _ ih => exact ih hl
  | vacant _ none =>
    cases hl
    intro item hitem
    rw [none] at hitem
    cases hitem
  | file _ file =>
    cases hl
    intro item hitem
    rw [file] at hitem
    cases hitem
    exact ⟨_, _, rfl⟩
  | link _ _ _ => cases hl

/-- Something is there, a last link not followed, when something is there at its end. -/
theorem Leads.entry {links : Nat} {here l : Location} {names : List String} {item : Item}
    (h : Leads v true links here names (.there l item)) :
    ∃ l' item', Leads v false links here names (.there l' item') := by
  generalize hspot : Spot.there l item = spot at h
  induction h with
  | done => exact ⟨_, _, .done⟩
  | up _ ih =>
    obtain ⟨l', item', hnext⟩ := ih hspot
    exact ⟨l', item', .up hnext⟩
  | enter proper dir _ ih =>
    obtain ⟨l', item', hnext⟩ := ih hspot
    exact ⟨l', item', .enter proper dir hnext⟩
  | vacant _ _ => cases hspot
  | file proper file => exact ⟨_, _, .file proper file⟩
  | link _ _ stay => cases stay
  | @follow links here name rest target spot proper link _ _ ih =>
    by_cases hrest : rest = []
    · subst hrest
      exact ⟨_, _, .link proper link rfl⟩
    · obtain ⟨l', item', hnext⟩ := ih hspot
      exact ⟨l', item', .follow proper link (fun hnil => absurd hnil hrest) hnext⟩

/-- Where nothing is, no last link was passed. -/
theorem Leads.vacant_follow {links : Nat} {here l : Location} {names : List String}
    (h : Leads v false links here names (.vacant l)) :
    Leads v true links here names (.vacant l) := by
  generalize hspot : Spot.vacant l = spot at h ⊢
  induction h with
  | done => cases hspot
  | up _ ih => exact .up (ih hspot)
  | enter proper dir _ ih => exact .enter proper dir (ih hspot)
  | vacant proper none => exact .vacant proper none
  | file _ _ => cases hspot
  | link _ _ _ => cases hspot
  | follow proper link _ _ ih => exact .follow proper link (fun _ => rfl) (ih hspot)

/-! ## Putting an item -/

/-- The last step of a look-up that reads the new item. -/
theorem leads_placed {follow : Bool} {links : Nat} {here : Location} {name : String} {item : Item}
    (proper : Proper name) (hitem : ∀ target, item ≠ .link target) :
    Leads (v.place (here ++ [name]) item) follow links here [name]
      (.there (here ++ [name]) item) := by
  have hplaced : (v.place (here ++ [name]) item).item? (here ++ [name]) = some item :=
    item?_place_self item (by simp)
  cases item with
  | file content executable => exact .file proper hplaced
  | link target => exact absurd rfl (hitem target)
  | dir => exact .enter proper hplaced .done

/-- **Putting an item where nothing or a file stood** moves no directory: each look-up goes the same
way, and only one that came to this location finds something else there. -/
theorem Leads.place {at_ : Location} {item : Item} (hfree : v.Free at_)
    (hitem : ∀ target, item ≠ .link target) {follow : Bool} {links : Nat} {here : Location}
    {names : List String} {spot : Spot} (h : Leads v follow links here names spot) :
    Leads (v.place at_ item) follow links here names (spot.after at_ item) := by
  induction h with
  | done => exact .done
  | up _ ih => exact .up ih
  | enter proper dir _ ih =>
    exact .enter proper (by rw [item?_place_other _ (hfree.ne_of_dir dir), dir]) ih
  | @vacant links here name proper none =>
    by_cases hl : here ++ [name] = at_
    · subst hl
      rw [Spot.after_self rfl]
      exact leads_placed proper hitem
    · rw [Spot.after_other (by simpa [Spot.writeAt?] using hl)]
      exact .vacant proper (by rw [item?_place_other _ hl, none])
  | @file links here name content executable proper file =>
    by_cases hl : here ++ [name] = at_
    · subst hl
      rw [Spot.after_self rfl]
      exact leads_placed proper hitem
    · rw [Spot.after_other (by simpa [Spot.writeAt?] using hl)]
      exact .file proper (by rw [item?_place_other _ hl, file])
  | link proper link stay =>
    exact .link proper (by rw [item?_place_other _ (hfree.ne_of_link link), link]) stay
  | follow proper link go _ ih =>
    exact .follow proper (by rw [item?_place_other _ (hfree.ne_of_link link), link]) go ih

/-! ## Paths -/

/-- A path whose text can be looked up at all. -/
def Sayable (p : Path) : Prop :=
  '\x00' ∉ p.text.toList ∧ ¬ pathLimit < p.text.utf8ByteSize

/-- Where the look-up of a path starts. -/
def start (v : Volume) (p : Path) : Location :=
  if p.isAbsolute then [] else v.home

theorem look_eq_ok_iff {follow : Bool} {p : Path} {spot : Spot} :
    v.look follow p = .ok spot ↔
      Sayable p ∧ Leads v follow linkLimit (v.start p) p.segments spot := by
  unfold look Sayable start
  rw [← walk_eq_ok_iff]
  by_cases hnull : '\x00' ∈ p.text.toList
  · simp [hnull]
  · by_cases hlong : pathLimit < p.text.utf8ByteSize
    · simp [hnull, hlong]
    · simp [hnull, hlong]

theorem look_place {at_ : Location} {item : Item} {follow : Bool} {p : Path} {spot : Spot}
    (hfree : v.Free at_) (hitem : ∀ target, item ≠ .link target)
    (h : v.look follow p = .ok spot) :
    (v.place at_ item).look follow p = .ok (spot.after at_ item) := by
  obtain ⟨hsay, hleads⟩ := look_eq_ok_iff.mp h
  exact look_eq_ok_iff.mpr ⟨hsay, hleads.place hfree hitem⟩

theorem free_of_look {follow : Bool} {p : Path} {spot : Spot} {l : Location}
    (h : v.look follow p = .ok spot) (hl : spot.writeAt? = some l) : v.Free l :=
  (look_eq_ok_iff.mp h).2.free hl

/-- A directory stays where it is when an item is put at a free location. -/
theorem locate_dir_place {at_ l : Location} {item : Item} {p : Path} (hfree : v.Free at_)
    (hitem : ∀ target, item ≠ .link target) (h : v.locate p = .ok (.there l .dir)) :
    (v.place at_ item).locate p = .ok (.there l .dir) :=
  look_place hfree hitem h

theorem isDir_of_locate {p : Path} {l : Location} (h : v.locate p = .ok (.there l .dir)) :
    v.isDir p = .ok true := by
  simp [isDir, find?, h, Except.map]

theorem mem_visited {l : Location} {names : List String} :
    names ∈ v.visited l ↔ names = [] ∨ (names, .dir) ∈ v.below l := by
  simp only [visited, sortSegments, List.mem_cons, List.mem_mergeSort, List.mem_eraseDups,
    List.mem_filterMap, Option.ite_none_right_eq_some, Option.some.injEq]
  constructor
  · rintro (rfl | ⟨⟨_, _⟩, hbelow, rfl, rfl⟩)
    · exact .inl rfl
    · exact .inr hbelow
  · rintro (rfl | hbelow)
    · exact .inl rfl
    · exact .inr ⟨_, hbelow, rfl, rfl⟩

/-- What a listing shows where no directory refuses to be listed. -/
theorem listFiles_of_locate {p : Path} {l : Location} (h : v.locate p = .ok (.there l .dir))
    (hopen : ∀ names ∈ v.visited l, v.listRefusal? (p.join (Path.relative names)) = none) :
    v.listFiles p = .ok ((v.below l).filterMap fun x =>
      if v.showsDir (p.join (Path.relative x.1)) x.2 then none else some x.1) := by
  have hnone : (v.visited l).findSome? (fun names =>
      (v.listRefusal? (p.join (Path.relative names))).map fun cause =>
        Trouble.atPath cause (p.join (Path.relative names))) = none := by
    simpa [List.findSome?_eq_none_iff] using hopen
  simp only [listFiles, h, hnone]

/-! ## Making directories -/

theorem locate_makeDir {v' : Volume} {p : Path} (h : v.makeDir p = .ok v') :
    ∃ l, v'.locate p = .ok (.there l .dir) := by
  unfold makeDir at h
  split at h
  · cases h
  · split at h
    · cases h
    · next l hentry =>
      cases h
      obtain ⟨hsay, hleads⟩ := look_eq_ok_iff.mp hentry
      have hlook : v.locate p = .ok (.vacant l) :=
        look_eq_ok_iff.mpr ⟨hsay, hleads.vacant_follow⟩
      have hplaced : (v.place l .dir).locate p = .ok (Spot.after l .dir (.vacant l)) :=
        look_place (free_of_look hlook rfl) (by simp) hlook
      rw [Spot.after_self rfl] at hplaced
      exact ⟨l, hplaced⟩
    · cases h

theorem locate_makeDirHere {v' : Volume} {p : Path} (h : v.makeDirHere p = (.ok (), v')) :
    ∃ l, v'.locate p = .ok (.there l .dir) := by
  unfold makeDirHere at h
  split at h
  · next hmade =>
    cases h
    exact locate_makeDir hmade
  · split at h
    · next hdir =>
      cases h
      exact ⟨_, hdir⟩
    · cases h

/-- Once made, a directory is there. -/
theorem locate_makeDirs {v' : Volume} {p : Path} (h : v.makeDirs p = (.ok (), v')) :
    ∃ l, v'.locate p = .ok (.there l .dir) := by
  rw [makeDirs] at h
  split at h
  · split at h
    · cases h
    · split at h
      · exact locate_makeDirHere h
      · cases h
  · exact locate_makeDirHere h

/-- Making a directory that is there changes nothing. -/
theorem makeDirs_of_locate {p : Path} {l : Location} (h : v.locate p = .ok (.there l .dir)) :
    v.makeDirs p = (.ok (), v) := by
  have hmake : ∃ e, e ≠ .notFound ∧ v.makeDir p = .error e := by
    obtain ⟨hsay, hleads⟩ := look_eq_ok_iff.mp h
    obtain ⟨l', item', hentry⟩ := hleads.entry
    have hlook : v.locateEntry p = .ok (.there l' item') := look_eq_ok_iff.mpr ⟨hsay, hentry⟩
    unfold makeDir
    split
    · exact ⟨_, by decide, rfl⟩
    · rw [hlook]
      exact ⟨_, by decide, rfl⟩
  obtain ⟨e, hne, hmake⟩ := hmake
  have hhere : v.makeDirHere p = (.ok (), v) := by
    simp [makeDirHere, hmake, h]
  rw [makeDirs, hmake]
  split
  · next heq =>
    cases heq
    exact absurd rfl hne
  · exact hhere

end Volume

end BundleBuild
