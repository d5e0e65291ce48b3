/-
What a build reports while it runs: notices for the log and marks for tracing, in the order they
are made. `Logged` is a computation that reports and may end early; what it has reported by then
stays. A span reports the start and the end of the computation inside it.
-/
import BundleBuild.Trouble

namespace BundleBuild

inductive Level where
  | debug
  | info
  | warning
  | error
  deriving DecidableEq, Repr

namespace Level

def name : Level → String
  | .debug => "debug"
  | .info => "info"
  | .warning => "warning"
  | .error => "error"

/-- Higher is more serious. -/
def rank : Level → Nat
  | .debug => 10
  | .info => 20
  | .warning => 30
  | .error => 40

end Level

/-- The part of the library a notice comes from. -/
inductive Channel where
  | spans
  | faults
  | configuration
  | executor
  | sourceTree
  | compiler
  deriving DecidableEq, Repr

/-- The name of the logger of a channel. -/
def Channel.name : Channel → String
  | .spans => "splitbuild"
  | .faults => "splitbuild_core.errors"
  | .configuration => "splitbuild_core.config"
  | .executor => "splitbuild_core.executor"
  | .sourceTree => "splitbuild_core.source_tree"
  | .compiler => "splitbuild_core.compiler"

/-- One line of the log. -/
structure Notice where
  channel : Channel
  level : Level
  event : String
  fields : Entries Datum := []

/-- One step of a traced span. -/
inductive Mark where
  | started (name : String) (attributes : Entries Datum)
  | succeeded
  | failed (text : String)
  | raised (kind text : String)

inductive Record where
  | notice (n : Notice)
  | mark (m : Mark)

def notices (rs : List Record) : List Notice :=
  rs.filterMap fun r => match r with
    | .notice n => some n
    | .mark _ => none

def marks (rs : List Record) : List Mark :=
  rs.filterMap fun r => match r with
    | .notice _ => none
    | .mark m => some m

/-- A fault with details says so in the log when it arises. -/
def Fault.announcement (f : Fault) : List Record :=
  match nonEmpty? f.details with
  | some d => [.notice {
      channel := .faults
      level := .error
      event := "splitbuild_error"
      fields := [
        ("error_type", .text f.kind), ("user_message", .text f.message),
        ("internal_details", .text d)] }]
  | none => []

def Trouble.announcement : Trouble → List Record
  | .fault f => f.announcement
  | _ => []

/-- What was reported, and how it ended. -/
structure Logged (α : Type) where
  records : List Record
  result : Except Trouble α

namespace Logged

variable {α β : Type}

instance : Monad Logged where
  pure a := ⟨[], .ok a⟩
  bind x f := match x.result with
    | .ok a => let y := f a; ⟨x.records ++ y.records, y.result⟩
    | .error t => ⟨x.records, .error t⟩

def tell (n : Notice) : Logged Unit :=
  ⟨[.notice n], .ok ()⟩

/-- Ends early with trouble that was announced before. -/
def fail (t : Trouble) : Logged α :=
  ⟨[], .error t⟩

/-- Ends early with trouble that arises here. -/
def raise (t : Trouble) : Logged α :=
  ⟨t.announcement, .error t⟩

/-- A silent computation, whose trouble arises here. -/
def lift : Except Trouble α → Logged α
  | .ok a => pure a
  | .error t => raise t

/-- The computation never ends early: its end is part of its value. -/
def attempt (x : Logged α) : Logged (Except Trouble α) :=
  ⟨x.records, .ok x.result⟩

/-- The computation with its start and its end reported under `name`. Of trouble that is not handled
no end is reported. The event of a notice takes the place of an attribute of that name; an attribute
called as the logger itself is refused before the start, and the refusal tells loggers `settled` by
an earlier use from new ones. -/
def spanOf (settled : Bool) (name : String) (attributes : Entries Datum) (body : Logged α) :
    Logged α :=
  let fields : Entries Datum := attributes.filter (·.1 ≠ "event")
  let notice (level : Level) (event : String) (fields : Entries Datum) : Record :=
    .notice { channel := .spans, level := level, event := event, fields := fields }
  let before := [.mark (.started name attributes), notice .debug (name ++ "_started") fields]
  let after := match body.result with
    | .ok _ => [.mark .succeeded, notice .debug (name ++ "_completed") fields]
    | .error t => match t.unhandled? with
      | some t' => t'.announcement
      | none => [.mark (.failed t.text), .mark (.raised t.kind t.text),
          notice .warning (name ++ "_failed") (fields.put "error" (.text t.text))]
  if attributes.any (·.1 == "self") then fail (.reservedField settled)
  else ⟨before ++ body.records ++ after, body.result.mapError Trouble.surfaced⟩

/-- The computation with its start and its end reported by a new logger. -/
def span (name : String) (attributes : Entries Datum) (body : Logged α) : Logged α :=
  spanOf false name attributes body

theorem result_span {name : String} {attributes : Entries Datum}
    (h : attributes.any (·.1 == "self") = false) (body : Logged α) :
    (span name attributes body).result = body.result.mapError Trouble.surfaced := by
  simp [span, spanOf, h]

theorem result_lift (x : Except Trouble α) : (lift x).result = x := by
  cases x <;> rfl

theorem result_bind (x : Logged α) (f : α → Logged β) :
    (x >>= f).result = x.result >>= fun a => (f a).result := by
  obtain ⟨records, result⟩ := x
  cases result <;> rfl

end Logged

end BundleBuild
