/-
The options of units whose customizers only set defines. Such customizers never fail once a catalog
is made, since every unit they refer to is declared, and they touch nothing but the defines.
`Resolved` says what the options are like after some of the settings: each define has the value of
the setting that came last, or the one it started with. One more setting keeps that
(`Resolved.apply`), so it holds after all of them.

A unit goes by its name wherever it is declared, so the order of the declarations does not matter.
The settings are followed in all catalogs that declare the same units at once (`SameUnits`).
-/
import BundleBuild.Proofs.Planning
import BundleBuild.Proofs.Reordering

namespace BundleBuild

namespace Entries

variable {α : Type}

/-- Where no name comes twice, looking up is finding. -/
theorem get?_eq_some_iff_mem {k : String} {a : α} : ∀ {es : Entries α}, es.names.Nodup →
    (es.get? k = some a ↔ (k, a) ∈ es)
  | [], _ => by simp [get?]
  | (k', a') :: es, hnodup => by
    simp only [names, List.map_cons, List.nodup_cons] at hnodup
    have ih := @get?_eq_some_iff_mem k a es hnodup.2
    simp only [get?, List.mem_cons, Prod.mk.injEq]
    by_cases hk : k' = k
    · subst hk
      have hnot : (k', a) ∉ es := fun h => hnodup.1 (List.mem_map_of_mem h)
      simp [hnot, eq_comm]
    · simp only [hk, if_false, ih, Ne.symm hk, false_and, false_or]

theorem get?_perm {es es' : Entries α} (hperm : es.Perm es') (hnodup : es.names.Nodup)
    (k : String) : es.get? k = es'.get? k := by
  have hnodup' : es'.names.Nodup := (hperm.map Prod.fst).nodup hnodup
  apply Option.ext
  intro a
  rw [get?_eq_some_iff_mem hnodup, get?_eq_some_iff_mem hnodup', hperm.mem_iff]

/-- Setting a name makes no name come twice. -/
theorem nodup_names_put {k : String} {a : α} {es : Entries α} (hnodup : es.names.Nodup) :
    (es.put k a).names.Nodup := by
  rw [names_put]
  split
  · exact hnodup
  · next hnew => exact List.nodup_append.mpr ⟨hnodup, by simp, by
      rintro a ha b hb rfl
      exact hnew (List.mem_singleton.mp hb ▸ ha)⟩

end Entries

/-! ## Settings of defines -/

/-- One define set by a customizer: to a literal value, or to the artifact name of a unit. -/
inductive Setting where
  | literal (tag : Nat) (define : String) (value : Datum)
  | artifactOf (tag : Nat) (define unit : String)

namespace Setting

def customizer : Setting → Customizer
  | .literal tag define value => Customizer.literal tag define value
  | .artifactOf tag define unit => Customizer.artifactOf tag define unit

/-- The define that is set. -/
def define : Setting → String
  | .literal _ define _ => define
  | .artifactOf _ define _ => define

/-- The value that a setting gives to its define, where a unit goes by the artifact name that it is
declared with. -/
inductive Gives (c : Catalog) : Setting → Datum → Prop
  | literal {tag : Nat} {define : String} {value : Datum} :
    Gives c (.literal tag define value) value
  | artifactOf {tag : Nat} {define unit : String} {u : BuildUnit} :
    c.units.get? unit = some u → Gives c (.artifactOf tag define unit) u.givenArtifact

end Setting

theorem Catalog.get?_artifactNames (c : Catalog) (name : String) :
    c.artifactNames.get? name = (c.units.get? name).map (·.givenArtifact) := by
  simp only [artifactNames]
  induction c.units with
  | nil => rfl
  | cons x units ih =>
    simp only [List.map_cons, Entries.get?]
    split
    · rfl
    · exact ih

theorem Catalog.names_artifactNames (c : Catalog) : c.artifactNames.names = c.units.names := by
  simp [artifactNames, Entries.names, Function.comp_def]

/-- A define with a name is set among the defines, and nothing else changes. -/
theorem Customizer.define_entries {name : String} {value : Datum} {o : Options}
    {es : Entries Datum} (hname : name ≠ "") (hes : o.defines = .entries es) :
    Customizer.define name value o =
      .ok (.options { o with defines := .entries (es.put name value) }) := by
  have hempty : name.isEmpty = false := by simpa using hname
  simp only [Customizer.define, Options.withDefine, hempty, hes]
  rfl

theorem Customizer.apply_of_transform {k : Customizer} {names : ArtifactNames} {o o' : Options}
    (hfind : (k.references.find? fun r => !names.names.contains r) = none)
    (htransform : k.transform o names = .ok (.options o')) : k.apply o names = .ok o' := by
  simp only [Customizer.apply, hfind, htransform]

/-- A setting of a declared unit, or of none, has a value to give. -/
theorem Setting.exists_gives {c : Catalog} {s : Setting}
    (hrefers : ∀ r ∈ s.customizer.references, r ∈ c.units.names) : ∃ value, s.Gives c value := by
  cases s with
  | literal tag define value => exact ⟨value, .literal⟩
  | artifactOf tag define unit =>
    obtain ⟨u, hu⟩ := Entries.mem_names_iff.mp (hrefers unit List.mem_cons_self)
    exact ⟨u.givenArtifact, .artifactOf hu⟩

/-- A setting puts its value under its define, and that is all. -/
theorem Setting.apply_eq {c : Catalog} {s : Setting} {value : Datum} (hgives : s.Gives c value)
    {o : Options} {es : Entries Datum} (hdefine : s.define ≠ "") (hes : o.defines = .entries es) :
    s.customizer.apply o c.artifactNames =
      .ok { o with defines := .entries (es.put s.define value) } := by
  cases hgives with
  | literal => exact Customizer.apply_of_transform rfl (Customizer.define_entries hdefine hes)
  | @artifactOf tag define unit u hu =>
    have hfind : ([unit].find? fun r => !c.artifactNames.names.contains r) = none := by
      have hdeclared : unit ∈ c.units.names := Entries.mem_names_iff.mpr ⟨u, hu⟩
      simpa [c.names_artifactNames] using hdeclared
    have hset : (Customizer.artifactOf tag define unit).transform o c.artifactNames =
        Customizer.define define u.givenArtifact o := by
      simp only [Customizer.artifactOf, c.get?_artifactNames, hu, Option.map_some]
    exact Customizer.apply_of_transform hfind (hset.trans (Customizer.define_entries hdefine hes))

/-- Two catalogs that declare the same units, in whatever order. -/
def SameUnits (c c' : Catalog) : Prop :=
  ∀ name, c.units.get? name = c'.units.get? name

theorem Setting.Gives.same {c c' : Catalog} (hsame : SameUnits c c') {s : Setting} {value : Datum}
    (h : s.Gives c value) : s.Gives c' value := by
  cases h with
  | literal => exact .literal
  | artifactOf hu => exact .artifactOf ((hsame _).symm.trans hu)

/-! ## Options after some settings -/

/-- The options that `base` has become by the settings `done`. -/
structure Resolved (c : Catalog) (base : Options) (done : List Setting) (o : Options) : Prop where
  /-- A define that was set has the value of the setting that came last. -/
  last : ∀ before s after, done = before ++ s :: after → (∀ t ∈ after, t.define ≠ s.define) →
    ∃ value, s.Gives c value ∧ o.defines.get? s.define = some value
  /-- Every other define is as it was. -/
  untouched : ∀ d, (∀ s ∈ done, s.define ≠ d) → o.defines.get? d = base.defines.get? d
  /-- The defines are those there were and those that were set, each once. -/
  listed : ∃ es, o.defines = .entries es ∧ es.names.Nodup ∧
    ∀ d, d ∈ es.names ↔ (∃ value, base.defines.get? d = some value) ∨ ∃ s ∈ done, s.define = d
  /-- Everything but the defines is as it was. -/
  others : { o with defines := base.defines } = base

namespace Resolved

variable {c : Catalog} {base o : Options} {done : List Setting}

theorem nil {es : Entries Datum} (hes : base.defines = .entries es) (hnodup : es.names.Nodup) :
    Resolved c base [] base where
  last before s after h := by simp at h
  untouched _ _ := rfl
  listed := ⟨es, hes, hnodup, by simp [hes, NamedData.get?, Entries.mem_names_iff]⟩
  others := rfl

theorem apply (h : Resolved c base done o) {s : Setting} (hdefine : s.define ≠ "")
    (hrefers : ∀ r ∈ s.customizer.references, r ∈ c.units.names) :
    ∃ o', Resolved c base (done ++ [s]) o' ∧
      ∀ c', SameUnits c c' → s.customizer.apply o c'.artifactNames = .ok o' := by
  obtain ⟨es, hes, hnodup, hnames⟩ := h.listed
  obtain ⟨value, hgives⟩ := Setting.exists_gives hrefers
  refine ⟨_, ?_, fun c' hsame => Setting.apply_eq (hgives.same hsame) hdefine hes⟩
  have hget : ∀ d, s.define ≠ d → (es.put s.define value).get? d = o.defines.get? d := by
    intro d hd
    rw [Entries.get?_put_other _ _ hd, hes]
    rfl
  refine ⟨?_, ?_, ⟨_, rfl, ?_, ?_⟩, h.others⟩
  · intro before t after hdone hlast
    -- The new setting is the last of all, or comes after the one that is asked for.
    rcases List.eq_nil_or_concat after with rfl | ⟨between, t', rfl⟩
    · obtain ⟨rfl, ht⟩ := List.append_inj' hdone rfl
      cases ht
      exact ⟨value, hgives, Entries.get?_put_self _ _ _⟩
    · rw [List.concat_eq_append, ← List.cons_append, ← List.append_assoc] at hdone
      obtain ⟨rfl, ht⟩ := List.append_inj' hdone rfl
      cases ht
      rw [List.concat_eq_append, List.forall_mem_append] at hlast
      obtain ⟨value', hgives', hvalue'⟩ := h.last before t between rfl hlast.1
      refine ⟨value', hgives', ?_⟩
      exact (hget _ (hlast.2 s List.mem_cons_self)).trans hvalue'
  · intro d hd
    rw [List.forall_mem_append] at hd
    exact (hget d (hd.2 s List.mem_cons_self)).trans (h.untouched d hd.1)
  · exact Entries.nodup_names_put hnodup
  · intro d
    rw [Entries.names_put]
    have hset : (∃ t ∈ done ++ [s], t.define = d) ↔ (∃ t ∈ done, t.define = d) ∨ d = s.define := by
      simp [or_and_right, exists_or, eq_comm]
    rw [hset, ← or_assoc, ← hnames]
    split
    · next hold =>
      exact ⟨.inl, fun hd => hd.elim id fun hd => hd ▸ hold⟩
    · rw [List.mem_append, List.mem_singleton]

/-- Settings in a row, all of whose units are declared, resolve to options. -/
theorem applyAll : ∀ {settings done : List Setting} {o : Options}, Resolved c base done o →
    (∀ s ∈ settings, s.define ≠ "") →
    (∀ s ∈ settings, ∀ r ∈ s.customizer.references, r ∈ c.units.names) →
    ∃ o', Resolved c base (done ++ settings) o' ∧ ∀ c', SameUnits c c' →
      Customizer.applyAll (settings.map Setting.customizer) c'.artifactNames o = .ok o'
  | [], done, o, h, _, _ => ⟨o, by simpa using h, fun _ _ => rfl⟩
  | s :: settings, done, o, h, hdefines, hrefers => by
    obtain ⟨hdefine, hdefines⟩ := List.forall_mem_cons.mp hdefines
    obtain ⟨hrefer, hrefers⟩ := List.forall_mem_cons.mp hrefers
    obtain ⟨o₁, h₁, happly⟩ := h.apply hdefine hrefer
    obtain ⟨o', h', hrest⟩ := applyAll h₁ hdefines hrefers
    refine ⟨o', by simpa using h', fun c' hsame => ?_⟩
    have hafter := hrest c' hsame
    simp only [Customizer.applyAll, List.map_cons, List.foldlM_cons, happly c' hsame] at hafter ⊢
    exact hafter

end Resolved

/-! ## Declared units -/

namespace Catalog

variable {ds ds' : Entries Declaration} {c : Catalog}

theorem names_of_drafts {drafts : Entries Draft} (h : List.Forall₂ Drafts ds drafts) :
    drafts.names = ds.names := by
  induction h with
  | nil => rfl
  | cons hxy _ ih =>
    simp only [Entries.names, List.map_cons] at ih ⊢
    rw [hxy.2.1, ih]

theorem names_of_ofDeclarations (h : ofDeclarations ds = .ok c) : c.units.names = ds.names := by
  obtain ⟨drafts, hpasses, hunits⟩ := ofDeclarations_eq_ok_iff.mp h
  rw [← names_of_drafts (drafts_of_checkDeclarations hpasses.declarations), hunits]
  simp [Entries.names, Function.comp_def]

/-- In another order the declarations make a catalog as well, and it has the same units. -/
theorem exists_sameUnits (hperm : ds.Perm ds') (hnodup : ds.names.Nodup)
    (h : ofDeclarations ds = .ok c) : ∃ c', ofDeclarations ds' = .ok c' ∧ SameUnits c c' := by
  obtain ⟨c', hc', hunits⟩ := ofDeclarations_perm hperm h
  have hnames : c.units.names.Nodup := names_of_ofDeclarations h ▸ hnodup
  exact ⟨c', hc', Entries.get?_perm hunits.symm hnames⟩

end Catalog

theorem BuildUnit.entrySymbol_ne {u : BuildUnit} {i : Input} (hi : i ∈ u.inputs) :
    i.entrySymbol ≠ "" := by
  have hsymbol : ∀ e : EntryPoint, e.symbol ≠ "" := by
    intro e
    cases e <;> decide
  have hcompanion : ∀ p : Platform, ∀ c ∈ p.companions, c.entrySymbol ≠ "" := by
    intro p
    cases p <;> decide
  rcases List.mem_cons.mp hi with rfl | hi
  · exact hsymbol u.entryPoint
  · exact hcompanion u.platform i (List.mem_filter.mp hi).1

/-- The options that a bundle of a platform starts with. -/
theorem Options.default_eq_ok {p : Platform} {entrySymbol : String} (h : entrySymbol ≠ "") :
    Options.default p (.text entrySymbol) = .ok (Options.ofPlatform p entrySymbol) := by
  have hempty : entrySymbol.isEmpty = false := by simpa using h
  simp [Options.default, checkName, checkText, Datum.text?, hempty, Checked.under, Except.map,
    bind, Except.bind, pure, Except.pure]

namespace Catalog

/-- **Settings resolve by name.** In a catalog, a unit for a platform that is known as such, all of
whose customizers set defines, has options for each of its bundles: those that the bundle starts
with, but for the defines, each of which has the value that was set last. The same units declared in
another order give the same options. -/
theorem optionsFor_resolved {ds : Entries Declaration} {c : Catalog} {name : String} {u : BuildUnit}
    {settings : List Setting} {i : Input} (hc : ofDeclarations ds = .ok c)
    (hnames : ds.names.Nodup) (hu : (name, u) ∈ c.units) (hplatform : u.platformIsWord = false)
    (hcustomizers : u.customizers = settings.map Setting.customizer)
    (hdefines : ∀ s ∈ settings, s.define ≠ "") (hi : i ∈ u.inputs) :
    ∃ base o, Options.default u.platform (.text i.entrySymbol) = .ok base ∧
      c.optionsFor u i = .ok o ∧ Resolved c base settings o ∧
      ∀ ds', ds.Perm ds' → ∃ c', ofDeclarations ds' = .ok c' ∧ c'.optionsFor u i = .ok o := by
  have hstart : Resolved c (Options.ofPlatform u.platform i.entrySymbol) []
      (Options.ofPlatform u.platform i.entrySymbol) :=
    Resolved.nil rfl (by simp [Entries.names, platformNameDefine, debugDefine])
  have hrefers : ∀ s ∈ settings, ∀ r ∈ s.customizer.references, r ∈ c.units.names := by
    intro s hs r hr
    exact c.valid.referring _ hu _ (hcustomizers ▸ List.mem_map_of_mem hs) r hr
  obtain ⟨o, ho, hsettle⟩ := hstart.applyAll hdefines hrefers
  have hoptions : ∀ c', SameUnits c c' → c'.optionsFor u i = .ok o := by
    intro c' hsame
    simp only [Catalog.optionsFor, BuildUnit.optionsFor, hplatform, hcustomizers]
    exact hsettle c' hsame
  refine ⟨_, o, Options.default_eq_ok (BuildUnit.entrySymbol_ne hi), hoptions c fun _ => rfl, ho,
    fun ds' hperm => ?_⟩
  obtain ⟨c', hc', hsame⟩ := exists_sameUnits hperm hnames hc
  exact ⟨c', hc', hoptions c' hsame⟩

/-- The page of the standard catalog, which is told the artifact name of its worker. -/
theorem optionsFor_resolved_page :
    let page : BuildUnit := ⟨"browser-repl.js", .browser, .browserReplMain,
      [Customizer.artifactOf 1 workerScriptDefine "BROWSER_WORKER"], false⟩
    let settings : List Setting := [.artifactOf 1 workerScriptDefine "BROWSER_WORKER"]
    ofDeclarations standardDeclarations = .ok standard ∧ standardDeclarations.names.Nodup ∧
      ("BROWSER_REPL", page) ∈ standard.units ∧ page.platformIsWord = false ∧
      page.customizers = settings.map Setting.customizer ∧ (∀ s ∈ settings, s.define ≠ "") ∧
      page.ownInput ∈ page.inputs ∧
      ∃ base o, Options.default page.platform (.text page.ownInput.entrySymbol) = .ok base ∧
        standard.optionsFor page page.ownInput = .ok o ∧ Resolved standard base settings o ∧
        ∀ ds', standardDeclarations.Perm ds' →
          ∃ c', ofDeclarations ds' = .ok c' ∧ c'.optionsFor page page.ownInput = .ok o := by
  intro page settings
  have hnames : standardDeclarations.names.Nodup := by decide
  have hpage : ("BROWSER_REPL", page) ∈ standard.units := by simp [standard, page]
  have hdefines : ∀ s ∈ settings, s.define ≠ "" := by
    simp [settings, Setting.define, workerScriptDefine]
  have hown : page.ownInput ∈ page.inputs := List.mem_cons_self
  exact ⟨ofDeclarations_standard, hnames, hpage, rfl, rfl, hdefines, hown,
    optionsFor_resolved ofDeclarations_standard hnames hpage rfl rfl hdefines hown⟩

/-- One unit whose platform is given by its word. -/
def wordPlatform : UnitFields where
  artifact := .text "server.js"
  platform := .text "server"
  entryPoint := .entryPoint .testMain
  customizers := [.ok (Setting.literal 0 "app.LEVEL" (.int 1)).customizer]

/-- A unit whose platform is given by its word is declared, but its options cannot be told. -/
theorem optionsFor_wordPlatform :
    let c : Catalog := ⟨[("A", wordPlatform.draft.unit)], by decide⟩
    ofDeclarations [("A", .fields wordPlatform)] = .ok c ∧
      wordPlatform.draft.unit.customizers =
        [Setting.literal 0 "app.LEVEL" (.int 1)].map Setting.customizer ∧
      c.optionsFor wordPlatform.draft.unit wordPlatform.draft.unit.ownInput =
        .error (.lacks "str" "dir_name") := by
  refine ⟨ofDeclarations_eq_ok_iff.mpr ⟨[("A", wordPlatform.draft)], ?_, rfl⟩, rfl, rfl⟩
  exact {
    declarations := rfl
    artifacts := rfl
    unique := rfl
    producers := rfl
    references := checkReferences_eq_ok_iff.mpr (by decide) }

end Catalog

end BundleBuild
