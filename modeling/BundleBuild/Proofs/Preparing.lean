/-
What becomes of a request before anything is compiled. The requested names are looked up one after
another, and then the options of every bundle are settled in the order of the units and of their
bundles (`plan_eq_mapM`: two nested loops are one over the bundles). So the first name that is not
declared ends it, else the first customizer that fails on the first bundle whose options fail, and
otherwise there is one job for each bundle.
-/
import BundleBuild.Proofs.Building
import BundleBuild.Proofs.Planning

namespace BundleBuild

/-! ## Requested bundles -/

/-- One bundle of a unit that is declared under a name. -/
structure Bundle where
  name : String
  unit : BuildUnit
  input : Input

/-- The bundles of some units, in order. -/
def bundlesOf (selected : Entries BuildUnit) : List Bundle :=
  selected.flatMap fun x => x.2.inputs.map fun i => ⟨x.1, x.2, i⟩

namespace Catalog

variable {c : Catalog} {names : List String} {selected : Entries BuildUnit}

/-- The declared units among the names, each once, where it was first named. -/
def named (c : Catalog) (names : List String) : Entries BuildUnit :=
  names.eraseDups.filterMap fun name => (c.units.get? name).map fun u => (name, u)

/-- The bundles that are asked for by the names of their units. -/
def bundles (c : Catalog) (names : List String) : List Bundle :=
  bundlesOf (c.named names)

theorem mem_bundles_iff {x : Bundle} :
    x ∈ c.bundles names ↔
      x.name ∈ names ∧ c.units.get? x.name = some x.unit ∧ x.input ∈ x.unit.inputs := by
  simp only [bundles, bundlesOf, named, List.mem_flatMap, List.mem_filterMap, List.mem_map,
    List.mem_eraseDups, Option.map_eq_some_iff]
  constructor
  · rintro ⟨y, ⟨name, hname, u, hu, rfl⟩, i, hi, rfl⟩
    exact ⟨hname, hu, hi⟩
  · rintro ⟨hname, hu, hi⟩
    exact ⟨(x.name, x.unit), ⟨x.name, hname, x.unit, hu, rfl⟩, x.input, hi, rfl⟩

/-- The options of a bundle, when they can be settled. -/
def Settled (c : Catalog) (x : Bundle) (o : Options) : Prop :=
  c.optionsFor x.unit x.input = .ok o

theorem select_eq_named (h : c.select names = .ok selected) : selected = c.named names := by
  obtain ⟨hnames, -, hdeclared⟩ := select_eq_ok h
  rw [named, ← hnames, Entries.names, List.filterMap_map]
  have hself : ∀ x ∈ selected, some x = ((c.units.get? x.1).map fun u => (x.1, u)) := by
    intro x hx
    rw [hdeclared x hx]
    rfl
  exact (List.filterMap_some).symm.trans (List.filterMap_congr hself)

/-- Names that are declared are gone through, and only declared units are chosen. -/
theorem select_go_append : ∀ {before : List String} {chosen : Entries BuildUnit},
    (∀ name ∈ before, name ∈ c.names) → (∀ name ∈ chosen.names, name ∈ c.names) →
      ∃ chosen' : Entries BuildUnit, (∀ name ∈ chosen'.names, name ∈ c.names) ∧
        ∀ rest, select.go c (before ++ rest) chosen = select.go c rest chosen'
  | [], chosen, _, hchosen => ⟨chosen, hchosen, fun _ => rfl⟩
  | name :: before, chosen, hbefore, hchosen => by
    obtain ⟨hname, hbefore⟩ := List.forall_mem_cons.mp hbefore
    by_cases hin : name ∈ chosen.names
    · obtain ⟨chosen', hchosen', hgo⟩ := select_go_append hbefore hchosen
      exact ⟨chosen', hchosen', fun rest => by simp [select.go, hin, hgo rest]⟩
    · obtain ⟨u, hu⟩ := Entries.mem_names_iff.mp hname
      have hadded : ∀ n ∈ Entries.names (chosen ++ [(name, u)]), n ∈ c.names := by
        intro n hn
        rw [Entries.names, List.map_append, List.mem_append] at hn
        rcases hn with hn | hn
        · exact hchosen n hn
        · rw [List.mem_singleton.mp hn]
          exact hname
      obtain ⟨chosen', hchosen', hgo⟩ := select_go_append hbefore hadded
      refine ⟨chosen', hchosen', fun rest => ?_⟩
      simp [select.go, hin, get, hu, bind, Except.bind, hgo rest]

theorem select_declared (h : ∀ name ∈ names, name ∈ c.names) :
    c.select names = .ok (c.named names) := by
  have hnothing : ∀ name ∈ Entries.names ([] : Entries BuildUnit), name ∈ c.names := by
    simp [Entries.names]
  obtain ⟨chosen, -, hgo⟩ := select_go_append h hnothing
  have hselect : c.select names = .ok chosen := by
    rw [select, ← List.append_nil names, hgo]
    rfl
  rw [hselect, select_eq_named hselect]

end Catalog

/-- The trouble is a fault, or what the transform of the customizer ended in and no handler of
errors takes. -/
def Customizer.Told (k : Customizer) (names : ArtifactNames) (o : Options) (t : Trouble) : Prop :=
  (∃ f, t = .fault f) ∨ ∃ raised, k.transform o names = .error raised ∧ raised.unhandled? = some t

/-- The error of the first customizer that fails, on the first bundle whose options fail. -/
def Catalog.FirstError (c : Catalog) (wanted : List Bundle) (t : Trouble) : Prop :=
  ∃ before x after, wanted = before ++ x :: after ∧ (∀ y ∈ before, ∃ o, c.Settled y o) ∧
    ∃ done k rest o, x.unit.customizers = done ++ k :: rest ∧
      Customizer.applyAll done c.artifactNames
        (Options.ofPlatform x.unit.platform x.input.entrySymbol) = .ok o ∧
      k.apply o c.artifactNames = .error t ∧ k.Told c.artifactNames o t

/-! ## Plans that fail -/

namespace Executor

variable {e : Executor} {requested : Option (List String)} {selected : Entries BuildUnit}
  {jobs : List Job}

/-- A job for a bundle, with the options settled for it. -/
def Plans (e : Executor) (x : Bundle) (j : Job) : Prop :=
  ∃ o, e.catalog.Settled x o ∧ (⟨x.name, x.unit.platform, x.input, o⟩ : Job) = j

def planBundle (e : Executor) (x : Bundle) : Except Trouble Job := do
  let o ← e.catalog.optionsFor x.unit x.input
  return ⟨x.name, x.unit.platform, x.input, o⟩

theorem planBundle_eq_ok_iff {x : Bundle} {j : Job} : e.planBundle x = .ok j ↔ e.Plans x j := by
  simp only [planBundle, bind_eq_ok_iff, pure_eq_ok_iff, Plans, Catalog.Settled]

/-- The units and their bundles are gone through as one list of bundles. -/
theorem plan_eq_mapM (selected : Entries BuildUnit) :
    e.plan selected = (bundlesOf selected).mapM e.planBundle := by
  rw [bundlesOf, ← mapM_flatMap]
  simp only [plan, planUnit, List.mapM_map]
  rfl

theorem prepare_declared
    (hdeclared : ∀ name ∈ requested.getD e.catalog.names, name ∈ e.catalog.names) :
    e.prepare requested =
      (e.catalog.bundles (requested.getD e.catalog.names)).mapM e.planBundle >>= fun jobs =>
        .ok (e.catalog.named (requested.getD e.catalog.names), jobs) := by
  simp only [prepare, Catalog.select_declared hdeclared, plan_eq_mapM, Catalog.bundles]
  rfl

/-- Any other request has a job for each of its bundles. -/
theorem prepare_ready
    (hdeclared : ∀ name ∈ requested.getD e.catalog.names, name ∈ e.catalog.names)
    (hsettled : ∀ x ∈ e.catalog.bundles (requested.getD e.catalog.names), ∃ o,
      e.catalog.Settled x o) :
    ∃ jobs, e.prepare requested = .ok (e.catalog.named (requested.getD e.catalog.names), jobs) ∧
      List.Forall₂ e.Plans (e.catalog.bundles (requested.getD e.catalog.names)) jobs := by
  have hplan : ∀ x ∈ e.catalog.bundles (requested.getD e.catalog.names), ∃ j,
      e.planBundle x = .ok j := by
    intro x hx
    obtain ⟨o, ho⟩ := hsettled x hx
    exact ⟨_, planBundle_eq_ok_iff.mpr ⟨o, ho, rfl⟩⟩
  obtain ⟨jobs, hjobs⟩ := exists_mapM_ok hplan
  refine ⟨jobs, by rw [prepare_declared hdeclared, hjobs]; rfl, ?_⟩
  exact (mapM_eq_ok_iff.mp hjobs).imp fun _ _ => planBundle_eq_ok_iff.mp

end Executor

end BundleBuild
