/-
Builders over whole conversations. A builder is called any number of times, with arguments that are
right or wrong, and answers every call; a call that is refused leaves it as it was.

What one call can do is said once (`Step`). From it the builder after any calls is a summary of what
was said (`Tracks`): the entry point it was last given, the offers it took, and whether its unit was
made. So what a builder answers can be told from the calls and answers before, without looking into
it (`call_governed`).
-/
import Mathlib.Data.List.Forall2
import BundleBuild.Proofs.Building

namespace BundleBuild

/-- The customizer that an offer is taken as: the very one, or one that does what the function does,
whatever the artifact names are. -/
inductive Offer.TakenAs : Offer → Customizer → Prop
  | customizer (c : Customizer) : TakenAs (.customizer c) c
  | function {tag : Nat} {name : Option String} {f : Options → Except Trouble Transformed}
    {c : Customizer} (named : c.name = name.getD "custom") (unreferring : c.references = [])
    (wraps : ∀ o names, c.transform o names = f o) : TakenAs (.function tag name f) c

theorem Offer.takenAs_of_customizer? {offer : Offer} {c : Customizer}
    (h : offer.customizer? = some c) : offer.TakenAs c := by
  cases offer with
  | customizer c' =>
    cases h
    exact .customizer c
  | function tag name f =>
    cases h
    exact .function rfl rfl fun _ _ => rfl
  | other => cases h

namespace Builder

variable {b b' opened : Builder} {c : Call} {answer : Except Trouble Reply}

/-! ## One call -/

/-- The entry point that a call gives, if it is one. -/
def Call.given? : Call → Option EntryPoint
  | .entryPoint (.entryPoint e) => some e
  | _ => none

/-- Whether a call hands the builder something it can use. -/
def Call.isSound : Call → Bool
  | .entryPoint entry => (Call.entryPoint entry).given?.isSome
  | .customize offer => offer.customizer?.isSome
  | .build => true

/-- What a call can do. -/
inductive Step (b : Builder) : Call → Except Trouble Reply → Builder → Prop
  | entered (e : EntryPoint) (fresh : b.used = false) :
    Step b (.entryPoint (.entryPoint e)) (.ok .itself) { b with entryPoint := some e }
  | customized {offer : Offer} {k : Customizer} (fresh : b.used = false)
    (taken : offer.customizer? = some k) :
    Step b (.customize offer) (.ok .itself) { b with customizers := b.customizers ++ [k] }
  | built {e : EntryPoint} (fresh : b.used = false) (entry : b.entryPoint = some e) :
    Step b .build (.ok (.unit ⟨b.name, b.platform, e, b.customizers, false⟩))
      { b with used := true }
  | unsound {c : Call} (f : ConfigurationFault) (fresh : b.used = false)
    (sound : c.isSound = false) : Step b c (.error (.fault (.configuration f))) b
  | entryless (f : ConfigurationFault) (fresh : b.used = false) (entry : b.entryPoint = none) :
    Step b .build (.error (.fault (.configuration f))) b
  | closed {c : Call} (f : ConfigurationFault) (used : b.used = true) :
    Step b c (.error (.fault (.configuration f))) b

theorem perform_used (h : b.used = true) (c : Call) :
    b.perform c = refuse .builderUsed (some b.name.shown) := by
  have hclosed : b.ensureOpen = refuse .builderUsed (some b.name.shown) := by simp [ensureOpen, h]
  cases c <;> simp only [perform, setEntryPoint, customize, build, hclosed] <;> rfl

theorem step_call (b : Builder) (c : Call) : Step b c (b.call c).1 (b.call c).2 := by
  cases hused : b.used with
  | true =>
    simp only [call, perform_used hused]
    exact .closed _ hused
  | false =>
    have hopen : b.ensureOpen = .ok () := ensureOpen_eq_ok_iff.mpr hused
    cases c with
    | entryPoint entry =>
      simp only [call, perform, setEntryPoint, hopen]
      cases entry with
      | entryPoint e => exact .entered e hused
      | _ => exact .unsound _ hused rfl
    | customize offer =>
      simp only [call, perform, customize, hopen]
      cases hoffer : offer.customizer? with
      | some k => exact .customized hused hoffer
      | none => exact .unsound _ hused (by simp [Call.isSound, hoffer])
    | build =>
      cases hentry : b.entryPoint with
      | some e =>
        have hbuild := build_eq_ok_iff.mpr ⟨hused, e, hentry, rfl, rfl⟩
        simp only [call, perform, hbuild]
        exact .built hused hentry
      | none =>
        simp only [call, perform, build, hopen, hentry]
        exact .entryless _ hused hentry

/-! ## Calls one after another -/

/-- Calls with their answers. -/
abbrev Transcript := List (Call × Except Trouble Reply)

/-- What is said in calls one after another, and the builder after them. -/
def converse (b : Builder) : List Call → Transcript × Builder
  | [] => ([], b)
  | c :: rest =>
    let (answer, b') := b.call c
    let (later, last) := converse b' rest
    ((c, answer) :: later, last)

namespace Transcript

/-- A unit was made. -/
def Built (t : Transcript) : Prop :=
  ∃ u, (Call.build, .ok (.unit u)) ∈ t

/-- The entry points that were called for, in order, whatever the answers were. -/
def entries (t : Transcript) : List EntryPoint :=
  t.filterMap (·.1.given?)

/-- The offers that were taken, in order. -/
def taken (t : Transcript) : List Offer :=
  t.filterMap fun x => match x with
    | (.customize offer, .ok _) => some offer
    | _ => none

end Transcript

/-- The builder is a summary of what was said since it was opened. -/
structure Tracks (opened : Builder) (t : Transcript) (b : Builder) : Prop where
  name : b.name = opened.name
  platform : b.platform = opened.platform
  used : b.used = true ↔ t.Built
  entryPoint : b.used = false → b.entryPoint = t.entries.getLast?
  customizers : List.Forall₂ Offer.TakenAs t.taken b.customizers

variable {t : Transcript}

/-- An answer that is a refusal says nothing that the builder would keep. -/
theorem Tracks.refused (h : Tracks opened t b) {c : Call} {trouble : Trouble}
    (hentry : b.used = false → c.given? = none) : Tracks opened (t ++ [(c, .error trouble)]) b where
  name := h.name
  platform := h.platform
  used := by simpa [Transcript.Built] using h.used
  entryPoint hused := by
    rw [h.entryPoint hused]
    simp [Transcript.entries, hentry hused]
  customizers := by
    have htaken : Transcript.taken (t ++ [(c, .error trouble)]) = t.taken := by
      cases c <;> simp [Transcript.taken]
    rw [htaken]
    exact h.customizers

theorem Step.tracks (h : Step b c answer b') (hb : Tracks opened t b) :
    Tracks opened (t ++ [(c, answer)]) b' := by
  obtain ⟨hname, hplatform, hbuilt, hentry, hcustomizers⟩ := id hb
  cases h with
  | entered e fresh =>
    refine ⟨hname, hplatform, by simpa [Transcript.Built] using hbuilt, fun _ => ?_, ?_⟩
    · simp [Transcript.entries, Call.given?]
    · simpa [Transcript.taken] using hcustomizers
  | @customized offer k fresh taken =>
    refine ⟨hname, hplatform, by simpa [Transcript.Built] using hbuilt, fun hused => ?_, ?_⟩
    · simpa [Transcript.entries, Call.given?] using hentry hused
    · have htaken : Transcript.taken (t ++ [(.customize offer, .ok .itself)]) =
          t.taken ++ [offer] := by simp [Transcript.taken]
      rw [htaken]
      exact List.rel_append hcustomizers (.cons (Offer.takenAs_of_customizer? taken) .nil)
  | built fresh entry =>
    refine ⟨hname, hplatform, by simp [Transcript.Built], fun hused => ?_, ?_⟩
    · cases hused
    · simpa [Transcript.taken] using hcustomizers
  | unsound f fresh sound =>
    refine hb.refused fun _ => ?_
    cases c with
    | entryPoint entry => simpa [Call.isSound] using sound
    | customize | build => rfl
  | entryless f fresh entry => exact hb.refused fun _ => rfl
  | closed f used => exact hb.refused fun fresh => by rw [used] at fresh; cases fresh

theorem tracks_converse : ∀ (calls : List Call) {b : Builder} {t : Transcript}, Tracks opened t b →
    Tracks opened (t ++ (b.converse calls).1) (b.converse calls).2
  | [], b, t, h => by simpa [converse] using h
  | c :: calls, b, t, h => by
    have hrest := tracks_converse calls ((step_call b c).tracks h)
    simpa [converse] using hrest

/-- A builder that was just opened has nothing to remember. -/
theorem tracks_opened {artifact platform : Datum} (h : start artifact platform = .ok b) :
    Tracks b [] b ∧ name? artifact = some b.name ∧ platform = .platform b.platform := by
  obtain ⟨hname, -, hplatform, hopened⟩ := start_eq_ok h
  refine ⟨?_, hname, hplatform⟩
  rw [hopened]
  exact ⟨rfl, rfl, by simp [Transcript.Built], fun _ => rfl, .nil⟩

/-! ## What a builder answers -/

/-- The answer to a call, told from what was said before, and the builder after it. -/
structure Governed (artifact platform : Datum) (before : Transcript) (b : Builder) (c : Call)
    (answer : Except Trouble Reply) (b' : Builder) : Prop where
  /-- A unit is made when none was made before and an entry point was called for. -/
  builds : c = .build → ((∃ u, answer = .ok (.unit u)) ↔ ¬ before.Built ∧ before.entries ≠ [])
  /-- The unit has the name and the platform the builder was opened with, the last entry point that
  was called for, and the customizers that were taken. -/
  unit : ∀ u, answer = .ok (.unit u) →
    name? artifact = some u.name ∧ platform = .platform u.platform ∧
      before.entries.getLast? = some u.entryPoint ∧
      List.Forall₂ Offer.TakenAs before.taken u.customizers
  /-- Any other call is taken when no unit was made before and it hands over something of use. -/
  takes : c ≠ .build → (answer = .ok .itself ↔ ¬ before.Built ∧ c.isSound = true)
  /-- A call that is refused leaves the builder as it was. -/
  unchanged : ∀ trouble, answer = .error trouble → b' = b
  /-- Once the unit was made every call is a fault of the configuration. -/
  closed : before.Built → ∃ f, answer = .error (.fault (.configuration f))

theorem Step.governed {artifact platform : Datum} (h : Step b c answer b')
    (hb : Tracks opened t b) (hname : name? artifact = some opened.name)
    (hplatform : platform = .platform opened.platform) :
    Governed artifact platform t b c answer b' := by
  have hunbuilt : b.used = false → ¬ t.Built := fun hused hbuilt => by
    rw [hb.used.mpr hbuilt] at hused
    cases hused
  have hsome : b.used = false → (b.entryPoint = none ↔ t.entries = []) := fun hused => by
    rw [hb.entryPoint hused, List.getLast?_eq_none_iff]
  cases h with
  | entered e fresh =>
    have hnot := hunbuilt fresh
    refine ⟨by simp, by simp, ?_, by simp, fun h => absurd h hnot⟩
    simp [hnot, Call.isSound, Call.given?]
  | customized fresh taken =>
    have hnot := hunbuilt fresh
    refine ⟨by simp, by simp, ?_, by simp, fun h => absurd h hnot⟩
    simp [hnot, Call.isSound, taken]
  | @built e fresh entry =>
    have hnot := hunbuilt fresh
    have hentries : t.entries ≠ [] := mt (hsome fresh).mpr (by simp [entry])
    refine ⟨by simp [hnot, hentries], ?_, fun h => absurd rfl h, by simp, fun h => absurd h hnot⟩
    rintro u ⟨⟩
    refine ⟨by rw [hb.name]; exact hname, by rw [hb.platform]; exact hplatform, ?_, ?_⟩
    · rw [← hb.entryPoint fresh, entry]
    · exact hb.customizers
  | unsound f fresh sound =>
    have hbuild : c ≠ .build := by
      rintro rfl
      cases sound
    refine ⟨fun h => absurd h hbuild, by simp, ?_, fun _ _ => rfl, fun _ => ⟨f, rfl⟩⟩
    simp [sound]
  | entryless f fresh entry =>
    have hentries := (hsome fresh).mp entry
    exact ⟨by simp [hentries], by simp, fun h => absurd rfl h, fun _ _ => rfl, fun _ => ⟨f, rfl⟩⟩
  | closed f used =>
    have hbuilt := hb.used.mp used
    exact ⟨by simp [hbuilt], by simp, by simp [hbuilt], fun _ _ => rfl, fun _ => ⟨f, rfl⟩⟩

/-- **What a builder answers**, to any call after any calls, follows from what was said since it was
opened. -/
theorem call_governed {artifact platform : Datum} (h : start artifact platform = .ok opened)
    (calls : List Call) (c : Call) :
    let b := (opened.converse calls).2
    Governed artifact platform (opened.converse calls).1 b c (b.call c).1 (b.call c).2 := by
  obtain ⟨htracks, hname, hplatform⟩ := tracks_opened h
  have hbefore : Tracks opened (opened.converse calls).1 (opened.converse calls).2 :=
    tracks_converse calls htracks
  exact (step_call _ c).governed hbefore hname hplatform

def serverBuilder : Builder where
  name := "a.js"
  platform := .server

/-- Calls that go wrong in every way until an entry point is there to stay. -/
def fumblingCalls : List Call := [
  .build,
  .entryPoint (.entryPoint .testMain),
  .customize .other,
  .customize (.function 0 (some "tuned") fun o => .ok (.options o)),
  .entryPoint (.entryPoint .serverReplMain),
  .entryPoint (.text "app.test.main"),
  .customize (.customizer (.literal 1 "app.LEVEL" (.int 1)))]

theorem call_governed_fumblingCalls :
    let before := (serverBuilder.converse fumblingCalls).1
    let b := (serverBuilder.converse fumblingCalls).2
    start (.text "a.js") (.platform .server) = .ok serverBuilder ∧
      before.entries = [.testMain, .serverReplMain] ∧ before.taken.length = 2 ∧
      (∃ u, (b.call .build).1 = .ok (.unit u)) ∧
      Governed (.text "a.js") (.platform .server) before b .build (b.call .build).1
        (b.call .build).2 :=
  ⟨rfl, rfl, rfl, ⟨_, rfl⟩, call_governed rfl fumblingCalls .build⟩

end Builder

end BundleBuild
