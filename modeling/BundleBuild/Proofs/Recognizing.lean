/-
Which declared unit is meant when a unit itself is handed over. Units are compared by their fields,
and the first declared one that has the same fields is taken. That there is no other lies in the
artifact name alone: a catalog is made only where no two units have it in common, so it tells every
declared unit from the others (`Catalog.nodup_names`). A unit that was looked up under a name is
then built under that name, and so is every other unit with its fields, also one put together by
hand; a unit with the fields of none is refused, and the compiler is not asked.
-/
import BundleBuild.Proofs.Capturing
import BundleBuild.Proofs.Transcoding

namespace BundleBuild

/-! ## Units with the same fields -/

/-- The units have the same fields: artifact names are compared as they were given, customizers by
their tags. -/
structure BuildUnit.Alike (a b : BuildUnit) : Prop where
  artifact : a.name = b.name
  platform : a.platform = b.platform
  entryPoint : a.entryPoint = b.entryPoint
  customizers : a.customizers.map (·.tag) = b.customizers.map (·.tag)

/-- The fields are those of the unit, where a platform and an entry point are also what their words
say. -/
structure UnitFields.Describe (f : UnitFields) (u : BuildUnit) : Prop where
  artifact : ArtifactName.ofDatum? f.artifact = some u.name
  platform : f.platform?.map (·.1) = some u.platform
  entryPoint : f.entryPoint.text? = some u.entryPoint.symbol
  customizers : ∃ cs : List Customizer, f.customizers = cs.map .ok ∧
    cs.map (·.tag) = u.customizers.map (·.tag)

namespace BuildUnit

variable {a b : BuildUnit}

theorem same_iff : a.same b = true ↔ a.Alike b := by
  simp only [same, Bool.and_eq_true, beq_iff_eq]
  constructor
  · rintro ⟨⟨⟨hartifact, hplatform⟩, hentry⟩, hcustomizers⟩
    exact ⟨hartifact, hplatform, hentry, hcustomizers⟩
  · rintro ⟨hartifact, hplatform, hentry, hcustomizers⟩
    exact ⟨⟨⟨hartifact, hplatform⟩, hentry⟩, hcustomizers⟩

theorem Alike.refl (a : BuildUnit) : a.Alike a :=
  ⟨rfl, rfl, rfl, rfl⟩

end BuildUnit

/-- What is the same key as a name stands for a name itself. -/
theorem ArtifactName.exists_of_sameKey {d : Datum} {name : ArtifactName}
    (h : d.sameKey name.datum = true) : ∃ other, ofDatum? d = some other := by
  cases name with
  | text | unpaired =>
    cases d with
    | text | platform | entryPoint | unpaired => exact ⟨_, rfl⟩
    | float x =>
      cases hx : (viewDouble x).toWhole? <;>
        simp [datum, Datum.sameKey, Datum.whole?, Datum.text?, hx] at h
    | _ => simp [datum, Datum.sameKey, Datum.whole?, Datum.text?] at h
  | bytes bs s hs =>
    cases d with
    | bytes cs =>
      obtain rfl : cs = bs := by simpa [datum, Datum.sameKey, Datum.whole?] using h
      exact ⟨_, ofDatum?_datum (.bytes cs s hs)⟩
    | float x =>
      cases hx : (viewDouble x).toWhole? <;>
        simp [datum, Datum.sameKey, Datum.whole?, Datum.text?, hx] at h
    | _ => simp [datum, Datum.sameKey, Datum.whole?, Datum.text?] at h

namespace UnitFields

variable {f : UnitFields} {u : BuildUnit}

theorem sameKey_givenArtifact_iff {d : Datum} :
    d.sameKey u.givenArtifact = true ↔ ArtifactName.ofDatum? d = some u.name := by
  have hname := ArtifactName.ofDatum?_datum u.name
  constructor
  · intro h
    obtain ⟨other, hother⟩ := ArtifactName.exists_of_sameKey h
    rw [hother, (ArtifactName.sameKey_iff hother hname).mp h]
  · intro h
    exact (ArtifactName.sameKey_iff h hname).mpr rfl

theorem mapM_toOption_eq_some_iff {ε α : Type} : ∀ {xs : List (Except ε α)} {as : List α},
    xs.mapM Except.toOption = some as ↔ xs = as.map .ok
  | [], as => by cases as <;> simp
  | .error e :: xs, as => by cases as <;> simp [Except.toOption]
  | .ok a :: xs, as => by
    have ih := @mapM_toOption_eq_some_iff ε α xs
    cases as <;> simp [Except.toOption, Option.bind_eq_some_iff, ih, and_comm]

theorem describes_iff : f.describes u = true ↔ f.Describe u := by
  have hcustomizers : (f.customizers.mapM Except.toOption).map (·.map (·.tag)) =
      some (u.customizers.map (·.tag)) ↔ ∃ cs : List Customizer, f.customizers = cs.map .ok ∧
        cs.map (·.tag) = u.customizers.map (·.tag) := by
    simp only [Option.map_eq_some_iff, mapM_toOption_eq_some_iff]
  simp only [describes, Bool.and_eq_true, beq_iff_eq, sameKey_givenArtifact_iff, hcustomizers]
  constructor
  · rintro ⟨⟨⟨hartifact, hplatform⟩, hentry⟩, hcustomizers⟩
    exact ⟨hartifact, hplatform, hentry, hcustomizers⟩
  · rintro ⟨hartifact, hplatform, hentry, hcustomizers⟩
    exact ⟨⟨⟨hartifact, hplatform⟩, hentry⟩, hcustomizers⟩

end UnitFields

/-! ## Finding the declared unit -/

/-- Where keys are not repeated and everything looked for has one key, there is one to be found. -/
theorem find?_of_nodup {α κ : Type} {key : α → κ} {xs : List α} (hnodup : (xs.map key).Nodup)
    {p : α → Bool} {x : α} (hx : x ∈ xs) (hp : p x = true)
    (hkey : ∀ y ∈ xs, p y = true → key y = key x) : xs.find? p = some x := by
  obtain ⟨y, hy⟩ := Option.isSome_iff_exists.mp (List.find?_isSome.mpr ⟨x, hx, hp⟩)
  have hmem := List.mem_of_find?_eq_some hy
  have hsame := List.inj_on_of_nodup_map hnodup hmem hx (hkey y hmem (List.find?_some hy))
  rw [hy, hsame]

namespace Catalog

variable {c : Catalog} {name : String} {u w : BuildUnit} {f : UnitFields}

/-- No two units of a catalog have the same artifact name. -/
theorem nodup_names (c : Catalog) : (c.units.map (·.2.name)).Nodup :=
  List.pairwise_map.mpr c.valid.distinct

theorem nameOf_alike (hu : c.units.get? name = some u) (halike : u.Alike w) :
    c.nameOf w = .ok name := by
  have hfind : (c.units.find? fun x => x.2.same w) = some (name, u) := by
    refine find?_of_nodup c.nodup_names (Entries.mem_of_get? hu) (BuildUnit.same_iff.mpr halike) ?_
    intro y _ hy
    exact (BuildUnit.same_iff.mp hy).artifact.trans halike.artifact.symm
  simp only [nameOf, hfind]

theorem nameOfFields_describe (hu : c.units.get? name = some u) (hf : f.Describe u) :
    c.nameOfFields f = .ok name := by
  have hfind : (c.units.find? fun x => f.describes x.2) = some (name, u) := by
    refine find?_of_nodup c.nodup_names (Entries.mem_of_get? hu)
      (UnitFields.describes_iff.mpr hf) ?_
    intro y _ hy
    have hother := (UnitFields.describes_iff.mp hy).artifact
    exact Option.some.inj (hother.symm.trans hf.artifact)
  simp only [nameOfFields, hfind]

theorem nameOf_unlike (h : ∀ x ∈ c.units, ¬ x.2.Alike w) :
    c.nameOf w = .error (.fault (.unknownUnit w.givenArtifact c.names none)) := by
  have hfind : (c.units.find? fun x => x.2.same w) = none :=
    List.find?_eq_none.mpr fun x hx hsame => h x hx (BuildUnit.same_iff.mp hsame)
  simp only [nameOf, hfind]

theorem nameOfFields_undescribed (h : ∀ x ∈ c.units, ¬ f.Describe x.2) :
    c.nameOfFields f = .error (.fault (.unknownUnit f.artifact c.names none)) := by
  have hfind : (c.units.find? fun x => f.describes x.2) = none :=
    List.find?_eq_none.mpr fun x hx hdescribes => h x hx (UnitFields.describes_iff.mp hdescribes)
  simp only [nameOfFields, hfind]

theorem named_one (hu : c.units.get? name = some u) : c.named [name] = [(name, u)] := by
  simp [named, List.eraseDups_cons, hu]

end Catalog

/-! ## Building one unit -/

/-- Whatever corresponds to some of the others is among what corresponds to them all. -/
theorem forall₂_sublist {α β : Type} {R : α → β → Prop} {ys zs : List β} (h : ys.Sublist zs) :
    ∀ {xs : List α}, List.Forall₂ R xs zs → ∃ some, some.Sublist xs ∧ List.Forall₂ R some ys := by
  induction h with
  | slnil =>
    intro xs hxs
    exact ⟨[], List.nil_sublist _, .nil⟩
  | cons y _ ih =>
    rintro _ (_ | ⟨_, hrest⟩)
    obtain ⟨some, hsub, hsome⟩ := ih hrest
    exact ⟨some, hsub.cons _, hsome⟩
  | cons_cons y _ ih =>
    rintro _ (_ | ⟨hfirst, hrest⟩)
    obtain ⟨some, hsub, hsome⟩ := ih hrest
    exact ⟨_ :: some, hsub.cons_cons _, .cons hfirst hsome⟩

namespace Executor

variable {e : Executor} {v : Volume} {s : Session} {name : String} {u : BuildUnit}

/-- The run builds the unit under the name, and nothing else. -/
structure BuildsUnit (e : Executor) (v : Volume) (s : Session) (name : String) (u : BuildUnit)
    (run : Logged UnitResult × Session) : Prop where
  /-- A result is reported under the name and accounts for the bundles of the unit, and the
  compiler was asked once for each of them that is not listed as skipped. -/
  reported : ∀ r, run.1.result = .ok r → r.unit = name ∧ Accounted u r ∧
    AskedOnce e v s run.2
      ((bundlesOf [(name, u)]).filter fun x => !r.skipped.contains x.input.artifact)
  /-- There is a result, whatever errors the compiler ends in. -/
  returned : (∀ x ∈ bundlesOf [(name, u)], ∃ o, e.catalog.Settled x o) →
    e.poolTrouble? = none → e.Tame v → ∃ r, run.1.result = .ok r
  /-- However it ends, the compiler was asked for nothing but bundles of the unit. -/
  asked : ∃ wanted, wanted.Sublist (bundlesOf [(name, u)]) ∧ AskedOnce e v s run.2 wanted

theorem execute_eq_ok {r : UnitResult} (h : (e.execute v s name).1.result = .ok r) :
    ∃ b rest, (e.executeMany v s (some [name])).1.result = .ok b ∧ b.results = r :: rest := by
  simp only [execute] at h
  cases hb : (e.executeMany v s (some [name])).1.result with
  | error t => simp [hb] at h
  | ok b =>
    cases hr : b.results with
    | nil => simp [hb, hr] at h
    | cons first rest =>
      simp only [hb, hr, Except.ok.injEq] at h
      exact ⟨b, rest, rfl, by rw [hr, h]⟩

/-- A batch for one unit has one result, under the unit's name. -/
theorem results_one {b : Batch} (h : AccountedBatch e [name] b) :
    ∃ r, b.results = [r] ∧ r.unit = name := by
  have hunits := h.units
  rw [List.eraseDups_cons, List.filter_nil, List.eraseDups_nil, List.map_eq_singleton_iff] at hunits
  exact hunits

theorem filter_skips_one {b : Batch} {r : UnitResult} (hresults : b.results = [r])
    (hunit : r.unit = name) : ((bundlesOf [(name, u)]).filter fun x => !b.skips x) =
      (bundlesOf [(name, u)]).filter fun x => !r.skipped.contains x.input.artifact := by
  refine List.filter_congr fun x hx => ?_
  obtain ⟨i, -, rfl⟩ : ∃ i ∈ u.inputs, (⟨name, u, i⟩ : Bundle) = x := by
    simpa [bundlesOf] using hx
  simp [Batch.skips, hresults, hunit]

theorem reported_execute (hu : e.catalog.units.get? name = some u) {r : UnitResult}
    (h : (e.execute v s name).1.result = .ok r) :
    r.unit = name ∧ Accounted u r ∧ AskedOnce e v s (e.execute v s name).2
      ((bundlesOf [(name, u)]).filter fun x => !r.skipped.contains x.input.artifact) := by
  obtain ⟨b, rest, hb, hfirst⟩ := execute_eq_ok h
  obtain ⟨selected, jobs, hplan, hpool, hset, hconclude⟩ := executeMany_recorded hb
  obtain ⟨b', hb', haccounted⟩ := conclude_accounted (planned_of_prepare hplan) hset
  obtain ⟨b'', hb'', hbegun⟩ := conclude_begun hplan hset
  rw [hconclude, Except.ok.injEq] at hb' hb''
  subst hb' hb''
  rw [Option.getD_some] at haccounted hbegun
  obtain ⟨r', hresults, hunit⟩ := results_one haccounted
  cases hfirst.symm.trans hresults
  obtain ⟨w, hw, haccount⟩ := haccounted.results r (by simp [hresults])
  rw [hunit, Catalog.get_eq_ok_iff, hu, Option.some.injEq] at hw
  subst hw
  rw [Catalog.bundles, Catalog.named_one hu, filter_skips_one hresults hunit] at hbegun
  have hsession : (e.execute v s name).2 = (e.runJobs v { session := s } jobs).2.2.session :=
    session_executeMany hplan hpool
  rw [hsession]
  exact ⟨hunit, haccount, askedOnce_runJobs hbegun⟩

theorem returned_execute (hu : e.catalog.units.get? name = some u)
    (hsettled : ∀ x ∈ bundlesOf [(name, u)], ∃ o, e.catalog.Settled x o)
    (hpool : e.poolTrouble? = none) (htame : e.Tame v) :
    ∃ r, (e.execute v s name).1.result = .ok r := by
  have hdeclared : ∀ n ∈ (some [name]).getD e.catalog.names, n ∈ e.catalog.names := by
    simpa [Catalog.names] using Entries.mem_names_iff.mpr ⟨u, hu⟩
  rw [← Catalog.named_one hu] at hsettled
  obtain ⟨jobs, hplan, -⟩ := @prepare_ready e (some [name]) hdeclared hsettled
  have hcaptured := captured_of_settled (planned_of_prepare hplan) (settled_compiles e v s jobs)
  obtain ⟨b, hb, haccounted⟩ := hcaptured.tame htame
  obtain ⟨r, hresults, -⟩ := results_one haccounted
  rw [← result_executeMany hplan hpool] at hb
  exact ⟨r, by simp [execute, hb, hresults]⟩

theorem askedOnce_nothing : AskedOnce e v s s [] :=
  ⟨fun _ _ _ => ⟨[], by simp, .nil⟩, fun _ _ => rfl⟩

theorem asked_execute (hu : e.catalog.units.get? name = some u) :
    ∃ wanted, wanted.Sublist (bundlesOf [(name, u)]) ∧
      AskedOnce e v s (e.execute v s name).2 wanted := by
  cases hplan : e.prepare (some [name]) with
  | error t =>
    have hsession : (e.execute v s name).2 = s := by simp [execute, executeMany, hplan]
    rw [hsession]
    exact ⟨[], List.nil_sublist _, askedOnce_nothing⟩
  | ok prepared =>
    obtain ⟨selected, jobs⟩ := prepared
    cases hpool : e.poolTrouble? with
    | some t =>
      have hsession : (e.execute v s name).2 = s := by simp [execute, executeMany, hplan, hpool]
      rw [hsession]
      exact ⟨[], List.nil_sublist _, askedOnce_nothing⟩
    | none =>
      have hsession : (e.execute v s name).2 = (e.runJobs v { session := s } jobs).2.2.session :=
        session_executeMany hplan hpool
      obtain ⟨hselected, -, hplans⟩ := prepare_eq_ok hplan
      rw [Option.getD_some, Catalog.named_one hu] at hselected
      subst hselected
      rw [← (settled_compiles e v s jobs).plan] at hplans
      obtain ⟨wanted, hsub, hwanted⟩ := forall₂_sublist (List.filter_sublist.map _) hplans
      rw [hsession]
      exact ⟨wanted, hsub, askedOnce_runJobs hwanted⟩

theorem buildsUnit_execute (hu : e.catalog.units.get? name = some u) :
    BuildsUnit e v s name u (e.execute v s name) where
  reported _ h := reported_execute hu h
  returned := returned_execute hu
  asked := asked_execute hu

/-! ## Units that are handed over -/

/-- What is built for a unit that is handed over, in place of its name. -/
structure Recognizes (e : Executor) (v : Volume) (s : Session) : Prop where
  /-- A declared unit is built under its name. -/
  declared : ∀ name ∈ e.catalog.names, ∃ u, e.catalog.get name = .ok u ∧
    e.executeUnit v s u = e.execute v s name ∧ BuildsUnit e v s name u (e.execute v s name)
  /-- So is a unit with the same fields, -/
  alike : ∀ name u w, e.catalog.get name = .ok u → u.Alike w →
    e.executeUnit v s w = e.execute v s name
  /-- and one put together by hand of these fields. -/
  described : ∀ name u f, e.catalog.get name = .ok u → f.Describe u →
    e.executeFields v s f = e.execute v s name
  /-- A unit with the fields of no declared one is refused: the session is as it was, so nothing was
  listed or compiled. -/
  unlike : ∀ w, (∀ x ∈ e.catalog.units, ¬ x.2.Alike w) → e.executeUnit v s w =
    (⟨[], .error (.fault (.unknownUnit w.givenArtifact e.catalog.names none))⟩, s)
  undescribed : ∀ f, (∀ x ∈ e.catalog.units, ¬ f.Describe x.2) → e.executeFields v s f =
    (⟨[], .error (.fault (.unknownUnit f.artifact e.catalog.names none))⟩, s)

/-- **A unit is as good as its name.** With every catalog, building a declared unit is building it
by its name, and only units with the fields of a declared one are built. -/
theorem recognizes_declared (e : Executor) (v : Volume) (s : Session) : Recognizes e v s where
  declared name hname := by
    obtain ⟨u, hu⟩ := Entries.mem_names_iff.mp hname
    have hself := Catalog.nameOf_alike hu (.refl u)
    exact ⟨u, Catalog.get_eq_ok_iff.mpr hu, by simp only [executeUnit, hself],
      buildsUnit_execute hu⟩
  alike name u w hu halike := by
    have hname := Catalog.nameOf_alike (Catalog.get_eq_ok_iff.mp hu) halike
    simp only [executeUnit, hname]
  described name u f hu hf := by
    have hname := Catalog.nameOfFields_describe (Catalog.get_eq_ok_iff.mp hu) hf
    simp only [executeFields, hname]
  unlike w hw := by
    simp only [executeUnit, Catalog.nameOf_unlike hw]
    rfl
  undescribed f hf := by
    simp only [executeFields, Catalog.nameOfFields_undescribed hf]
    rfl

/-- A name that is given by the bytes that spell it. -/
def spelledName (s : String) : ArtifactName :=
  .bytes (encodeUtf8 s) s (decodeUtf8_eq_ok_iff.mpr rfl)

/-- Two units that only the form of their artifact names tells apart. -/
def twins : Executor :=
  { crew with
    catalog := ⟨[
      ("A", ⟨spelledName "server.js", .server, .testMain, [], false⟩),
      ("B", ⟨"server.js", .server, .testMain, [], false⟩)], by decide⟩ }

/-- Each of the two is built under its own name. -/
theorem recognizes_twins :
    Recognizes twins .empty listedSession ∧
      (twins.executeUnit .empty listedSession
        ⟨spelledName "server.js", .server, .testMain, [], false⟩).1.result.map (·.unit) =
          .ok "A" ∧
      (twins.executeUnit .empty listedSession
        ⟨"server.js", .server, .testMain, [], false⟩).1.result.map (·.unit) = .ok "B" := by
  have h := recognizes_declared twins .empty listedSession
  have hspelled := h.alike "A" _ _ rfl (.refl _)
  exact ⟨h, by rw [hspelled]; rfl, rfl⟩

end Executor

end BundleBuild
