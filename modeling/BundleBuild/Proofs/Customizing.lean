/-
Which error a unit's customizers end in. A customizer makes options of the options it is given, or
it ends in one of five ways (`Customizer.EndsIn`), in this order: a unit it refers to is not
declared, its transform ends in a fault of the library's own, in what no handler of errors takes, in
any other error, or gives back what are no options. The customizers of a unit are applied one after
another, so the error is that of the first one that makes none, and neither the customizers after it
nor, in the first of the five ways, its own transform have any say in it.
-/
import BundleBuild.Declaration
import BundleBuild.Proofs.Sequencing

namespace BundleBuild

namespace Customizer

variable {c : Customizer} {names : ArtifactNames} {o o' : Options} {t : Trouble}

/-! ## One customizer -/

/-- Every unit that the customizer refers to is declared. -/
def Informed (c : Customizer) (names : ArtifactNames) : Prop :=
  ∀ r ∈ c.references, r ∈ names.names

/-- The first of the units it refers to that is not declared. -/
def FirstMissing (c : Customizer) (names : ArtifactNames) (missing : String) : Prop :=
  ∃ before after, c.references = before ++ missing :: after ∧
    (∀ r ∈ before, r ∈ names.names) ∧ missing ∉ names.names

/-- The customizer makes options of the options it is given. -/
structure Makes (c : Customizer) (names : ArtifactNames) (o o' : Options) : Prop where
  informed : c.Informed names
  made : c.transform o names = .ok (.options o')

/-- The error that the customizer ends in. -/
inductive EndsIn (c : Customizer) (names : ArtifactNames) (o : Options) : Trouble → Prop
  | unknown {missing : String} (first : c.FirstMissing names missing) :
    EndsIn c names o
      (.fault (.unknownUnit (.text missing) (sortTexts names.names) (some c.name)))
  | own {f : Fault} (informed : c.Informed names)
    (raised : c.transform o names = .error (.fault f)) : EndsIn c names o (.fault f)
  | unhandled {t t' : Trouble} (informed : c.Informed names)
    (raised : c.transform o names = .error t) (through : t.unhandled? = some t') :
    EndsIn c names o t'
  | foreign {t : Trouble} (informed : c.Informed names)
    (raised : c.transform o names = .error t) (notOwn : ∀ f, t ≠ .fault f)
    (handled : t.unhandled? = none) :
    EndsIn c names o (.fault (.configuration {
      cause := .customizerFailed c.name t.text
      details := some (t.kind ++ ": " ++ t.text) }))
  | noOptions {kind : String} (informed : c.Informed names)
    (gave : c.transform o names = .ok (.other kind)) :
    EndsIn c names o (.fault (.configuration { cause := .customizerResult c.name kind }))

theorem find?_eq_some_iff_firstMissing {missing : String} :
    (c.references.find? fun r => !names.names.contains r) = some missing ↔
      c.FirstMissing names missing := by
  rw [List.find?_eq_some_iff_append]
  simp only [FirstMissing, List.contains_eq_mem, Bool.not_eq_true', decide_eq_false_iff_not,
    Bool.not_not, decide_eq_true_eq]
  constructor
  · rintro ⟨hmissing, before, after, hsplit, hbefore⟩
    exact ⟨before, after, hsplit, hbefore, hmissing⟩
  · rintro ⟨before, after, hsplit, hbefore, hmissing⟩
    exact ⟨hmissing, before, after, hsplit, hbefore⟩

theorem find?_eq_none_iff_informed :
    (c.references.find? fun r => !names.names.contains r) = none ↔ c.Informed names := by
  simp [List.find?_eq_none, Informed]

theorem apply_unknown {missing : String} (h : c.FirstMissing names missing) (o : Options) :
    c.apply o names =
      .error (.fault (.unknownUnit (.text missing) (sortTexts names.names) (some c.name))) := by
  simp only [apply, find?_eq_some_iff_firstMissing.mpr h]

theorem apply_informed (h : c.Informed names) (o : Options) :
    c.apply o names = match c.transform o names with
      | .ok (.options o') => .ok o'
      | .ok (.other kind) =>
        .error (.fault (.configuration { cause := .customizerResult c.name kind }))
      | .error (.fault f) => .error (.fault f)
      | .error t => match t.unhandled? with
        | some t' => .error t'
        | none => .error (.fault (.configuration {
            cause := .customizerFailed c.name t.text
            details := some (t.kind ++ ": " ++ t.text) })) := by
  have hknown := find?_eq_none_iff_informed.mpr h
  unfold apply
  generalize (c.references.find? fun r => !names.names.contains r) = missing at hknown ⊢
  subst hknown
  rfl

theorem Makes.apply (h : c.Makes names o o') : c.apply o names = .ok o' := by
  rw [apply_informed h.informed, h.made]

theorem EndsIn.apply (h : c.EndsIn names o t) : c.apply o names = .error t := by
  cases h with
  | unknown first => exact apply_unknown first o
  | own informed raised => rw [apply_informed informed, raised]
  | @unhandled t _ informed raised through =>
    rw [apply_informed informed, raised]
    cases t with
    | fault f => cases through
    | _ => simp only [through]
  | @foreign t informed raised notOwn handled =>
    rw [apply_informed informed, raised]
    cases t with
    | fault f => exact absurd rfl (notOwn f)
    | _ => simp only [handled]
  | noOptions informed gave => rw [apply_informed informed, gave]

/-- A customizer does one or the other. -/
theorem makes_or_endsIn (c : Customizer) (names : ArtifactNames) (o : Options) :
    (∃ o', c.Makes names o o') ∨ ∃ t, c.EndsIn names o t := by
  cases hfind : c.references.find? fun r => !names.names.contains r with
  | some missing => exact .inr ⟨_, .unknown (find?_eq_some_iff_firstMissing.mp hfind)⟩
  | none =>
    have hinformed := find?_eq_none_iff_informed.mp hfind
    rcases htransform : c.transform o names with t | (o' | kind)
    · by_cases hown : ∃ f, t = .fault f
      · obtain ⟨f, rfl⟩ := hown
        exact .inr ⟨_, .own hinformed htransform⟩
      · cases hunhandled : t.unhandled? with
        | some t' => exact .inr ⟨t', .unhandled hinformed htransform hunhandled⟩
        | none =>
          exact .inr ⟨_, .foreign hinformed htransform (fun f hf => hown ⟨f, hf⟩) hunhandled⟩
    · exact .inl ⟨o', hinformed, htransform⟩
    · exact .inr ⟨_, .noOptions hinformed htransform⟩

theorem apply_eq_ok_iff : c.apply o names = .ok o' ↔ c.Makes names o o' := by
  refine ⟨fun h => ?_, Makes.apply⟩
  rcases makes_or_endsIn c names o with ⟨o₁, hmakes⟩ | ⟨t, hends⟩
  · rw [hmakes.apply] at h
    cases h
    exact hmakes
  · rw [hends.apply] at h
    cases h

theorem apply_eq_error_iff : c.apply o names = .error t ↔ c.EndsIn names o t := by
  refine ⟨fun h => ?_, EndsIn.apply⟩
  rcases makes_or_endsIn c names o with ⟨o₁, hmakes⟩ | ⟨t, hends⟩
  · rw [hmakes.apply] at h
    cases h
  · rw [hends.apply] at h
    cases h
    exact hends

/-- A fault that concerns no unit, file or field in particular says what its cause says. -/
theorem text_configuration (cause : ConfigurationCause) (details : Option String) :
    (Trouble.fault (.configuration { cause, details })).text = cause.text := rfl

theorem text_customizerFailed (name text : String) :
    (ConfigurationCause.customizerFailed name text).text =
      "Option customizer '" ++ name ++ "' failed: " ++ text := rfl

theorem text_customizerResult (name kind : String) :
    (ConfigurationCause.customizerResult name kind).text =
      "Option customizer '" ++ name ++ "' must return CompilerOptions, got " ++ kind := rfl

/-- The transform ends in no fault of the library's own, and in nothing that is not handled. -/
def Foreign (c : Customizer) (names : ArtifactNames) (o : Options) : Prop :=
  ∀ t, c.transform o names = .error t → (∀ f, t ≠ .fault f) ∧ t.unhandled? = none

/-- What the library has to say itself about a transform is said under the customizer's name. -/
theorem EndsIn.named (h : c.EndsIn names o t) (hinformed : c.Informed names)
    (hforeign : c.Foreign names o) :
    t.kind = "ConfigurationError" ∧
      ∃ rest, t.text = "Option customizer '" ++ c.name ++ "' " ++ rest := by
  cases h with
  | unknown first =>
    obtain ⟨before, after, hsplit, -, hmissing⟩ := first
    exact absurd (hinformed _ (by simp [hsplit])) hmissing
  | own _ raised => exact absurd rfl ((hforeign _ raised).1 _)
  | unhandled _ raised through =>
    rw [(hforeign _ raised).2] at through
    cases through
  | @foreign t =>
    have hwords : "' failed: " = "' " ++ "failed: " := by decide
    refine ⟨rfl, "failed: " ++ t.text, ?_⟩
    rw [text_configuration, text_customizerFailed, hwords]
    simp only [String.append_assoc]
  | @noOptions kind _ _ =>
    have hwords : "' must return CompilerOptions, got " =
      "' " ++ "must return CompilerOptions, got " := by decide
    refine ⟨rfl, "must return CompilerOptions, got " ++ kind, ?_⟩
    rw [text_configuration, text_customizerResult, hwords]
    simp only [String.append_assoc]

/-! ## One after another -/

/-- Each of the customizers makes options of those that the ones before it have made. -/
inductive MakesAll (names : ArtifactNames) : List Customizer → Options → Options → Prop
  | none {o : Options} : MakesAll names [] o o
  | next {c : Customizer} {cs : List Customizer} {o o₁ o' : Options} (first : c.Makes names o o₁)
    (rest : MakesAll names cs o₁ o') : MakesAll names (c :: cs) o o'

/-- The customizers before `c` make options, and of these `c` makes none but ends in an error. -/
structure FirstError (names : ArtifactNames) (cs : List Customizer) (o : Options)
    (before : List Customizer) (c : Customizer) (after : List Customizer) (t : Trouble) : Prop where
  split : cs = before ++ c :: after
  reached : ∃ given, MakesAll names before o given ∧ c.EndsIn names given t

variable {cs before after : List Customizer}

theorem applyAll_eq_ok_iff : ∀ {cs : List Customizer} {o o' : Options},
    applyAll cs names o = .ok o' ↔ MakesAll names cs o o'
  | [], o, o' => by
    constructor
    · intro h
      cases h
      exact .none
    · rintro ⟨⟩
      rfl
  | c :: cs, o, o' => by
    have hcons : applyAll (c :: cs) names o = c.apply o names >>= applyAll cs names :=
      List.foldlM_cons
    rw [hcons, bind_eq_ok_iff]
    constructor
    · rintro ⟨o₁, hfirst, hrest⟩
      exact .next (apply_eq_ok_iff.mp hfirst) (applyAll_eq_ok_iff.mp hrest)
    · rintro (_ | ⟨first, rest⟩)
      exact ⟨_, first.apply, applyAll_eq_ok_iff.mpr rest⟩

theorem FirstError.applyAll (h : FirstError names cs o before c after t) :
    applyAll cs names o = .error t := by
  obtain ⟨rfl, given, hbefore, hends⟩ := h
  have happend : Customizer.applyAll (before ++ c :: after) names o =
      Customizer.applyAll before names o >>= Customizer.applyAll (c :: after) names :=
    List.foldlM_append
  rw [happend, applyAll_eq_ok_iff.mpr hbefore]
  simp only [Customizer.applyAll, List.foldlM_cons, hends.apply, bind, Except.bind]

theorem applyAll_eq_error_iff : applyAll cs names o = .error t ↔
    ∃ before c after, FirstError names cs o before c after t := by
  constructor
  · intro h
    obtain ⟨before, c, after, given, hsplit, hbefore, hc⟩ := foldlM_first_error h
    exact ⟨before, c, after, hsplit, given, applyAll_eq_ok_iff.mp hbefore, apply_eq_error_iff.mp hc⟩
  · rintro ⟨before, c, after, h⟩
    exact h.applyAll

/-- The customizers after the one that fails have no say in the error. -/
theorem FirstError.whatever_after (h : FirstError names cs o before c after t)
    (later : List Customizer) : FirstError names (before ++ c :: later) o before c later t :=
  ⟨rfl, h.reached⟩

/-- Nor does the transform of a customizer that refers to a unit which is not declared. -/
theorem FirstError.whatever_transform (h : FirstError names cs o before c after t)
    {missing : String} (hmissing : c.FirstMissing names missing) (f : Transform)
    (later : List Customizer) :
    FirstError names (before ++ { c with transform := f } :: later) o before
      { c with transform := f } later t := by
  obtain ⟨-, given, hbefore, hends⟩ := h
  have hunknown := (EndsIn.unknown hmissing (o := given)).apply
  rw [hends.apply] at hunknown
  cases hunknown
  exact ⟨rfl, given, hbefore, .unknown hmissing⟩

end Customizer

/-! ## The customizers of a unit -/

namespace BuildUnit

open Customizer (MakesAll FirstError)

/-- The options that a bundle of the unit starts with. -/
def startOptions (u : BuildUnit) (input : Input) : Options :=
  Options.ofPlatform u.platform input.entrySymbol

/-- What becomes of the options of a bundle is the work of the unit's customizers. -/
structure Customized (u : BuildUnit) (names : ArtifactNames) (input : Input) : Prop where
  /-- The options are those that all customizers make, one after another. -/
  made : ∀ o, u.optionsFor names input = .ok o ↔
    MakesAll names u.customizers (u.startOptions input) o
  /-- An error is that of the first customizer that makes none. -/
  error : ∀ t, u.optionsFor names input = .error t ↔
    ∃ before c after, FirstError names u.customizers (u.startOptions input) before c after t
  /-- No customizer after it is run: any others in their place give the same error. -/
  unrun : ∀ before c after t,
    FirstError names u.customizers (u.startOptions input) before c after t →
    ∀ later, { u with customizers := before ++ c :: later }.optionsFor names input = .error t
  /-- Its own transform is not run where it refers to a unit that is not declared: any other
  transform gives the same error. -/
  untried : ∀ before c after t,
    FirstError names u.customizers (u.startOptions input) before c after t →
    ∀ missing, c.FirstMissing names missing → ∀ transform later,
      { u with customizers := before ++ { c with transform } :: later }.optionsFor names input =
        .error t
  /-- An error that is no fault of the library's own is made one that names the customizer. -/
  named : ∀ c ∈ u.customizers, ∀ given t, c.EndsIn names given t → c.Informed names →
    c.Foreign names given →
    t.kind = "ConfigurationError" ∧
      ∃ rest, t.text = "Option customizer '" ++ c.name ++ "' " ++ rest

theorem optionsFor_eq_applyAll {u : BuildUnit} (h : u.platformIsWord = false)
    (names : ArtifactNames) (input : Input) (customizers : List Customizer) :
    { u with customizers }.optionsFor names input =
      Customizer.applyAll customizers names (u.startOptions input) := by
  simp [optionsFor, startOptions, h]

/-- **Errors of customizers.** For a unit whose platform is given as a platform, the options of a
bundle are those that its customizers make one after another, and if they do not, the error is that
of the first customizer that fails, told apart by how it fails. Where a platform is given by its
word alone, no options can be started with, whatever the customizers are. -/
theorem optionsFor_customized (u : BuildUnit) (names : ArtifactNames) (input : Input) :
    (u.platformIsWord = false → Customized u names input) ∧
      (u.platformIsWord = true → ∀ customizers,
        { u with customizers }.optionsFor names input = .error (.lacks "str" "dir_name")) := by
  refine ⟨fun hplatform => ?_, fun hword customizers => by simp [optionsFor, hword]⟩
  have hown := optionsFor_eq_applyAll hplatform names input
  refine ⟨fun o => ?_, fun t => ?_, fun before c after t h later => ?_,
    fun before c after t h missing hmissing transform later => ?_,
    fun c _ given t hends hinformed hforeign => hends.named hinformed hforeign⟩
  · exact (hown u.customizers).congr_left.trans Customizer.applyAll_eq_ok_iff
  · exact (hown u.customizers).congr_left.trans Customizer.applyAll_eq_error_iff
  · rw [hown]
    exact (h.whatever_after later).applyAll
  · rw [hown]
    exact (h.whatever_transform hmissing transform later).applyAll

/-- A unit whose second customizer fails, before a third one that refers to nothing declared. -/
def untidy : BuildUnit where
  name := "server.js"
  platform := .server
  entryPoint := .testMain
  customizers := [
    .literal 0 "app.LEVEL" (.int 1),
    .plain 1 (some "tidy") none fun _ => .error (.raised "ValueError" "no room"),
    .artifactOf 2 "app.WORKER" "NOWHERE"]

theorem optionsFor_customized_untidy :
    untidy.platformIsWord = false ∧ Customized untidy [] untidy.ownInput ∧
      untidy.optionsFor [] untidy.ownInput = .error (.fault (.configuration {
        cause := .customizerFailed "tidy" "no room"
        details := some "ValueError: no room" })) :=
  ⟨rfl, (optionsFor_customized untidy [] untidy.ownInput).1 rfl, rfl⟩

/-- A customizer that exits is not said to have failed: the exit is passed on. -/
example : { untidy with
    customizers := [.plain 0 (some "quit") none fun _ => .error (.exit "SystemExit" "3")]
    }.optionsFor [] untidy.ownInput = .error (.exit "SystemExit" "3") :=
  rfl

/-- A unit put together by hand, with the word of a platform where the platform should be. -/
def worded : BuildUnit :=
  (UnitFields.mk (.text "server.js") (.text "server") (.entryPoint .testMain) []).draft.unit

/-- Its customizers do their work, there being none, and yet it has no options. -/
theorem optionsFor_worded :
    MakesAll [] worded.customizers (worded.startOptions worded.ownInput)
        (worded.startOptions worded.ownInput) ∧
      worded.optionsFor [] worded.ownInput = .error (.lacks "str" "dir_name") :=
  ⟨.none, rfl⟩

end BuildUnit

end BundleBuild
