/-
How a command line is arranged: the command, the settings, then an argument for each define and
each flag in the order of their names and one for each file in the order of its parts
(`Arranged`). Options keep their defines and flags in the order in which they were set, files come
in any order, and nothing of either order shows: two ways to make the same options end in the same
command line (`arguments_congr`).

What carries this is that no name ever comes twice in options that the program makes
(`Options.Made.tables`), and that paths are told apart by their parts (`Path.parts_inj`).
-/
import BundleBuild.Proofs.Decoding
import BundleBuild.Proofs.Ordering
import BundleBuild.Proofs.Resolving

namespace BundleBuild

/-! ## Tables -/

namespace Entries

variable {α : Type}

theorem nodup_names_putAll {more : List (String × α)} : ∀ {es : Entries α}, es.names.Nodup →
    (putAll es more).names.Nodup := by
  induction more with
  | nil => exact fun h => h
  | cons e more ih => exact fun h => ih (nodup_names_put h)

theorem nodup_names_ofList (xs : List (String × α)) : (ofList xs).names.Nodup :=
  nodup_names_putAll List.nodup_nil

/-- Tables that give each name the same value have the same entries. -/
theorem perm_of_get? {es es' : Entries α} (hnodup : es.names.Nodup) (hnodup' : es'.names.Nodup)
    (h : ∀ name, es.get? name = es'.get? name) : es.Perm es' := by
  refine (List.perm_ext_iff_of_nodup (.of_map _ hnodup) (.of_map _ hnodup')).mpr ?_
  rintro ⟨name, a⟩
  rw [← get?_eq_some_iff_mem hnodup, ← get?_eq_some_iff_mem hnodup', h]

theorem sortByName_increasing {es : Entries α} (h : es.names.Nodup) :
    (sortByName es).Pairwise fun a b => a.1 < b.1 :=
  sorts_names.increasing h

theorem sortByName_congr {es es' : Entries α} (hnodup : es.names.Nodup) (hnodup' : es'.names.Nodup)
    (h : ∀ name, es.get? name = es'.get? name) : sortByName es = sortByName es' :=
  sorts_names.perm hnodup (perm_of_get? hnodup hnodup' h)

end Entries

/-! ## Options -/

namespace Options

/-- One change of options. -/
inductive Change where
  | define (name : String) (value : Datum)
  | flag (name : String) (value : Datum)

def Change.apply : Change → Options → Except OptionFlaw Options
  | .define name value, o => o.withDefine name value
  | .flag name value, o => o.withFlag name value

/-- The options after all changes, one after another. -/
def changed (o : Options) (changes : List Change) : Except OptionFlaw Options :=
  changes.foldlM (fun o change => change.apply o) o

/-- Options that the program makes: checked ones, those of a platform, and whatever changes make of
them; a field can be replaced, as long as tables take the place of tables. -/
inductive Made : Options → Prop
  | checked {d : Datum} {o : Options} (h : check d = .ok o) : Made o
  | ofPlatform (p : Platform) (symbol : String) : Made (ofPlatform p symbol)
  | change {o o' : Options} (made : Made o) (c : Change) (h : c.apply o = .ok o') : Made o'
  | replaced {o : Options} (made : Made o) (name : String) {value : Datum}
    (table : name = "defines" ∨ name = "flags" → ∃ r, value = .map r) : Made (o.replace name value)

/-- The defines and flags are these, and no name comes twice among either. -/
structure Tables (o : Options) (defines flags : Entries Datum) : Prop where
  defines_eq : o.defines = .entries defines
  flags_eq : o.flags = .entries flags
  defines_nodup : defines.names.Nodup
  flags_nodup : flags.names.Nodup

variable {o o' : Options} {defines flags : Entries Datum}

theorem nodup_names_checkEntries {check : Datum → Checked Datum} {d : Datum} {es : Entries Datum}
    (h : checkEntries check d = .ok es) : es.names.Nodup := by
  unfold checkEntries at h
  split at h
  · obtain ⟨xs, -, rfl⟩ := map_eq_ok_iff.mp h
    exact Entries.nodup_names_ofList xs
  · cases h

theorem nodup_names_field {r : RawRecord} {name : String} {check : Datum → Checked Datum}
    {es : Entries Datum} (h : fieldOr r name (checkEntries check) [] = .ok es) :
    es.names.Nodup := by
  rcases fieldOr_eq_ok h with rfl | ⟨d, hd⟩
  · exact List.nodup_nil
  · exact nodup_names_checkEntries hd

theorem tables_of_check {d : Datum} (h : check d = .ok o) : ∃ defines flags,
    o.Tables defines flags := by
  obtain ⟨r, -, hfields⟩ := checkRecord_eq_ok h
  obtain ⟨⟨_, _, defines, flags⟩, hall, rfl⟩ := map_eq_ok_iff.mp hfields
  obtain ⟨-, hrest⟩ := Checked.both_eq_ok_iff.mp hall
  obtain ⟨-, htables⟩ := Checked.both_eq_ok_iff.mp hrest
  obtain ⟨hdefines, hflags⟩ := Checked.both_eq_ok_iff.mp htables
  exact ⟨defines, flags, rfl, rfl, nodup_names_field hdefines, nodup_names_field hflags⟩

theorem tables_ofPlatform (p : Platform) (symbol : String) : ∃ defines flags,
    (ofPlatform p symbol).Tables defines flags := by
  have hnames : [platformNameDefine, debugDefine].Nodup := by decide
  exact ⟨_, _, rfl, rfl, hnames, List.nodup_nil⟩

/-- A change sets one name in one of the tables, and that is all. -/
theorem Tables.change (h : o.Tables defines flags) {c : Change} (hc : c.apply o = .ok o') :
    ∃ defines' flags', o'.Tables defines' flags' ∧
      o' = { o with defines := .entries defines', flags := .entries flags' } := by
  cases c with
  | define name value =>
    simp only [Change.apply, withDefine] at hc
    split at hc
    · cases hc
    · obtain ⟨named, hput, rfl⟩ := map_eq_ok_iff.mp hc
      rw [h.defines_eq] at hput
      cases hput
      refine ⟨_, _, ⟨rfl, h.flags_eq, Entries.nodup_names_put h.defines_nodup, h.flags_nodup⟩, ?_⟩
      rw [h.flags_eq]
  | flag name value =>
    obtain ⟨named, hput, rfl⟩ := map_eq_ok_iff.mp hc
    rw [h.flags_eq] at hput
    cases hput
    refine ⟨_, _, ⟨h.defines_eq, rfl, h.defines_nodup, Entries.nodup_names_put h.flags_nodup⟩, ?_⟩
    rw [h.defines_eq]

/-- Changes in a row leave everything but the tables as it was. -/
theorem Tables.changed {changes : List Change} : ∀ {o : Options} {defines flags : Entries Datum},
    o.Tables defines flags → o.changed changes = .ok o' →
    ∃ defines' flags', o'.Tables defines' flags' ∧
      o' = { o with defines := .entries defines', flags := .entries flags' } := by
  induction changes with
  | nil =>
    intro o defines flags h hchanged
    cases hchanged
    refine ⟨defines, flags, h, ?_⟩
    rw [← h.defines_eq, ← h.flags_eq]
  | cons c changes ih =>
    intro o defines flags h hchanged
    obtain ⟨o₁, hc, hrest⟩ := bind_eq_ok_iff.mp (List.foldlM_cons.symm.trans hchanged)
    obtain ⟨defines₁, flags₁, h₁, rfl⟩ := h.change hc
    obtain ⟨defines', flags', h', heq⟩ := ih h₁ hrest
    exact ⟨defines', flags', h', heq⟩

theorem Tables.replaced (h : o.Tables defines flags) (name : String) {value : Datum}
    (table : name = "defines" ∨ name = "flags" → ∃ r, value = .map r) :
    ∃ defines' flags', (o.replace name value).Tables defines' flags' := by
  unfold replace
  split
  case h_7 =>
    obtain ⟨r, rfl⟩ := table (.inl rfl)
    exact ⟨_, _, rfl, h.flags_eq, Entries.nodup_names_ofList _, h.flags_nodup⟩
  case h_8 =>
    obtain ⟨r, rfl⟩ := table (.inr rfl)
    exact ⟨_, _, h.defines_eq, rfl, h.defines_nodup, Entries.nodup_names_ofList _⟩
  all_goals exact ⟨_, _, h.defines_eq, h.flags_eq, h.defines_nodup, h.flags_nodup⟩

theorem Made.changed {changes : List Change} : ∀ {o : Options}, o.Made →
    o.changed changes = .ok o' → o'.Made := by
  induction changes with
  | nil =>
    intro o made hchanged
    cases hchanged
    exact made
  | cons c changes ih =>
    intro o made hchanged
    obtain ⟨o₁, hc, hrest⟩ := bind_eq_ok_iff.mp (List.foldlM_cons.symm.trans hchanged)
    exact ih (.change made c hc) hrest

/-- The defines and flags of options that the program makes are tables. -/
theorem Made.tables (made : o.Made) : ∃ defines flags, o.Tables defines flags := by
  induction made with
  | checked h => exact tables_of_check h
  | ofPlatform p symbol => exact tables_ofPlatform p symbol
  | change _ c hc ih =>
    obtain ⟨defines, flags, h⟩ := ih
    obtain ⟨defines', flags', h', -⟩ := h.change hc
    exact ⟨defines', flags', h'⟩
  | replaced _ name table ih =>
    obtain ⟨defines, flags, h⟩ := ih
    exact h.replaced name table

end Options

/-! ## Files -/

theorem Lead.text_inj {a b : Lead} (h : a.text = b.text) : a = b := by
  cases a <;> cases b <;> first | rfl | exact absurd h (by decide)

namespace Path

theorem notMem_segments (p : Path) {name : String} (hname : '/' ∈ name.toList) :
    name ∉ p.segments := by
  intro hin
  have hsegment := List.all_eq_true.mp p.normal name hin
  simp [isSegment, hname] at hsegment

theorem parts_of_relative {p : Path} (h : p.isAbsolute = false) : p.parts = p.segments := by
  simp [parts, h]

theorem parts_of_absolute {p : Path} (h : p.isAbsolute = true) :
    p.parts = p.lead.text :: p.segments := by
  simp [parts, h]

/-- The first part of an absolute path has a slash, which no segment has. -/
theorem parts_ne {p q : Path} (hrelative : p.isAbsolute = false)
    (habsolute : q.isAbsolute = true) : p.parts ≠ q.parts := by
  have hslash : '/' ∈ q.lead.text.toList := by
    revert habsolute
    cases hlead : q.lead <;> simp [isAbsolute, hlead, Lead.text]
  rw [parts_of_relative hrelative, parts_of_absolute habsolute]
  intro h
  exact p.notMem_segments hslash (h ▸ List.mem_cons_self)

/-- Paths that have the same parts are the same. -/
theorem parts_inj {p q : Path} (h : p.parts = q.parts) : p = q := by
  cases hp : p.isAbsolute <;> cases hq : q.isAbsolute
  · rw [parts_of_relative hp, parts_of_relative hq] at h
    have hleads : p.lead = .relative ∧ q.lead = .relative := by
      simpa [isAbsolute] using And.intro hp hq
    exact ext (hleads.1.trans hleads.2.symm) h
  · exact absurd h (parts_ne hp hq)
  · exact absurd h.symm (parts_ne hq hp)
  · rw [parts_of_absolute hp, parts_of_absolute hq] at h
    obtain ⟨hlead, hsegments⟩ := List.cons.inj h
    exact ext (Lead.text_inj hlead) hsegments

end Path

theorem mem_sortPaths {files : List Path} {file : Path} :
    file ∈ sortPaths files ↔ file ∈ files := by
  simp [sortPaths, List.mem_eraseDups]

theorem nodup_parts (files : List Path) : (files.eraseDups.map Path.parts).Nodup :=
  (nodup_eraseDups files).map fun _ _ => Path.parts_inj

theorem sortPaths_increasing (files : List Path) :
    (sortPaths files).Pairwise fun a b => a.parts < b.parts :=
  sorts_parts.increasing (nodup_parts files)

theorem sortPaths_congr {files files' : List Path} (hsame : ∀ file, file ∈ files ↔ file ∈ files') :
    sortPaths files = sortPaths files' := by
  have hperm : files.eraseDups.Perm files'.eraseDups := by
    refine (List.perm_ext_iff_of_nodup (nodup_eraseDups _) (nodup_eraseDups _)).mpr fun file => ?_
    rw [List.mem_eraseDups, List.mem_eraseDups, hsame]
  exact sorts_parts.perm (nodup_parts files) hperm

/-! ## The command line -/

/-- A text, a truth value or a number. -/
inductive Scalar : Datum → Prop
  | text {d : Datum} {s : String} (h : d.text? = some s) : Scalar d
  | unpaired (ps : Points) : Scalar (.unpaired ps)
  | bool (b : Bool) : Scalar (.bool b)
  | int (n : Int) : Scalar (.int n)
  | float (x : Float) : Scalar (.float x)

/-- A whole number has no more digits than can be written. -/
def Datum.Short : Datum → Prop
  | .int n => n.natAbs < Nat.pow 10 digitLimit
  | _ => True

theorem exists_defineLiteral {d : Datum} (h : Scalar d) (hshort : d.Short) :
    ∃ literal, defineLiteral d = .ok literal := by
  cases h with
  | @text d s hs =>
    refine ⟨.text (textLiteral s), ?_⟩
    cases d with
    | text s' | platform p | entryPoint e =>
      cases hs
      rfl
    | _ => cases hs
  | unpaired | bool | float => exact ⟨_, rfl⟩
  | int n => exact ⟨_, defineLiteral_int hshort⟩

theorem defineLiteral_of_not_short {d : Datum} (h : ¬ d.Short) :
    defineLiteral d = .error (.raised "ValueError" longNumberMessage) := by
  cases d with
  | int n => rw [defineLiteral, if_neg (show ¬ n.natAbs < Nat.pow 10 digitLimit from h)]
  | _ => exact absurd trivial h

/-- The arguments of a request: the command, the six settings, one argument for each define and for
each flag, strictly increasing by name, and one for each file, strictly increasing by parts. -/
inductive Arranged (command : List String) (r : CompileRequest) (defines flags : Entries Datum) :
    List Word → Prop
  | intro {defines' flags' : Entries Datum} {words : List Word} {files : List Path}
    (defines_perm : defines'.Perm defines)
    (defines_increasing : defines'.Pairwise fun a b => a.1 < b.1)
    (flags_perm : flags'.Perm flags)
    (flags_increasing : flags'.Pairwise fun a b => a.1 < b.1)
    (files_same : ∀ file, file ∈ files ↔ file ∈ r.files)
    (files_increasing : files.Pairwise fun a b => a.parts < b.parts)
    (words_spell : List.Forall₂ (fun define word => ∃ literal,
      defineLiteral define.2 = .ok literal ∧ word = literal.after ("--define=" ++ define.1 ++ "="))
      defines' words) :
    Arranged command r defines flags (command.map .text ++ [
      r.options.compilationLevel.word.after "--compilation_level=",
      r.options.environment.word.after "--env=",
      r.options.languageIn.word.after "--language_in=",
      r.options.languageOut.word.after "--language_out=",
      r.options.dependencyMode.word.after "--dependency_mode=",
      .text ("--entry_point=goog:" ++ r.entrySymbol)] ++ words ++
      flags'.map (fun flag => flag.2.word.after ("--" ++ flag.1 ++ "=")) ++
      files.map (fun file => .text ("--js=" ++ file.text)))

namespace CompileRequest

variable {command : List String} {r : CompileRequest} {defines flags : Entries Datum}

/-- Of tables, all arguments but those of the defines can be written. -/
theorem arguments_eq (h : r.options.Tables defines flags) : r.arguments command =
    ((sortByName defines).mapM fun define => defineArgument define.1 define.2).map fun words =>
      command.map .text ++ r.settingArguments ++ words ++
        (sortByName flags).map (fun flag => flag.2.word.after ("--" ++ flag.1 ++ "=")) ++
        r.fileArguments := by
  simp only [arguments, defineArguments, flagArguments, h.defines_eq, h.flags_eq]
  rfl

theorem exists_arranged (h : r.options.Tables defines flags)
    (hscalar : ∀ define ∈ defines, Scalar define.2) (hshort : ∀ define ∈ defines, define.2.Short) :
    ∃ args, r.arguments command = .ok args ∧ Arranged command r defines flags args := by
  have hwritten : ∀ define ∈ sortByName defines, ∃ word,
      defineArgument define.1 define.2 = .ok word := by
    intro define hin
    have hdefine : define ∈ defines := List.mem_mergeSort.mp hin
    obtain ⟨literal, hliteral⟩ := exists_defineLiteral (hscalar _ hdefine) (hshort _ hdefine)
    exact ⟨_, by rw [defineArgument, hliteral]; rfl⟩
  obtain ⟨words, hwords⟩ := exists_mapM_ok hwritten
  refine ⟨_, by rw [arguments_eq h, hwords]; rfl, ?_⟩
  refine .intro (List.mergeSort_perm _ _) (Entries.sortByName_increasing h.defines_nodup)
    (List.mergeSort_perm _ _) (Entries.sortByName_increasing h.flags_nodup)
    (fun file => mem_sortPaths) (sortPaths_increasing _) ?_
  refine (mapM_eq_ok_iff.mp hwords).imp fun define word hword => ?_
  obtain ⟨literal, hliteral, hspelled⟩ := bind_eq_ok_iff.mp hword
  exact ⟨literal, hliteral, (pure_eq_ok_iff.mp hspelled).symm⟩

/-- One whole number that is too long and the command line cannot be written. -/
theorem arguments_of_not_short (h : r.options.Tables defines flags)
    (hscalar : ∀ define ∈ defines, Scalar define.2) (hlong : ∃ define ∈ defines, ¬ define.2.Short) :
    r.arguments command = .error (.raised "ValueError" longNumberMessage) := by
  have hargument : ∀ {define : String × Datum}, ¬ define.2.Short →
      defineArgument define.1 define.2 = .error (.raised "ValueError" longNumberMessage) := by
    intro define hdefine
    rw [defineArgument, defineLiteral_of_not_short hdefine]
    rfl
  obtain ⟨long, hin, hlong⟩ := hlong
  rw [arguments_eq h]
  cases hwords : (sortByName defines).mapM fun define => defineArgument define.1 define.2 with
  | ok words =>
    obtain ⟨word, hword⟩ := ok_of_mapM hwords long (List.mem_mergeSort.mpr hin)
    rw [hargument hlong] at hword
    cases hword
  | error trouble =>
    -- Another define may be the one that fails, but all fail in the same way.
    obtain ⟨define, hdefine, htrouble⟩ := mapM_eq_error hwords
    by_cases hshort : define.2.Short
    · obtain ⟨literal, hliteral⟩ :=
        exists_defineLiteral (hscalar _ (List.mem_mergeSort.mp hdefine)) hshort
      rw [defineArgument, hliteral] at htrouble
      cases htrouble
    · rw [hargument hshort] at htrouble
      cases htrouble
      rfl

/-- The order of changes and of files does not show. -/
theorem arguments_congr {symbol : String} {start o o' : Options}
    {changes changes' : List Options.Change} {files files' : List Path} (made : start.Made)
    (ho : start.changed changes = .ok o) (ho' : start.changed changes' = .ok o')
    (hdefines : ∀ name, o.defines.get? name = o'.defines.get? name)
    (hflags : ∀ name, o.flags.get? name = o'.flags.get? name)
    (hfiles : ∀ file, file ∈ files ↔ file ∈ files') :
    arguments command ⟨files, symbol, o⟩ = arguments command ⟨files', symbol, o'⟩ := by
  obtain ⟨defines, flags, hstart⟩ := made.tables
  obtain ⟨defines₁, flags₁, h₁, rfl⟩ := hstart.changed ho
  obtain ⟨defines₂, flags₂, h₂, rfl⟩ := hstart.changed ho'
  have hsortDefines : sortByName defines₁ = sortByName defines₂ :=
    Entries.sortByName_congr h₁.defines_nodup h₂.defines_nodup hdefines
  have hsortFlags : sortByName flags₁ = sortByName flags₂ :=
    Entries.sortByName_congr h₁.flags_nodup h₂.flags_nodup hflags
  rw [arguments_eq h₁, arguments_eq h₂, hsortDefines, hsortFlags]
  simp only [settingArguments, fileArguments, sortPaths_congr hfiles]

/-- **A command line is reproducible.** Where the defines are texts, truth values and numbers, none
of them a whole number too long to be written, the command line has every define, flag and file
once and in order; with a number that is too long there is none. And options that are made from the
same ones in two ways, by whatever changes in whatever order, have the same command line if they
give every name the same value, whatever the order of the files. -/
theorem arguments_reproducible (command : List String) :
    (∀ (r : CompileRequest) (defines flags : Entries Datum), r.options.Made →
      r.options.defines = .entries defines → r.options.flags = .entries flags →
      (∀ define ∈ defines, Scalar define.2) →
      ((∀ define ∈ defines, define.2.Short) → ∃ args,
        r.arguments command = .ok args ∧ Arranged command r defines flags args) ∧
      ((∃ define ∈ defines, ¬ define.2.Short) →
        r.arguments command = .error (.raised "ValueError" longNumberMessage))) ∧
    (∀ (symbol : String) (start o o' : Options) (changes changes' : List Options.Change)
      (files files' : List Path), start.Made →
      start.changed changes = .ok o → start.changed changes' = .ok o' →
      (∀ name, o.defines.get? name = o'.defines.get? name) →
      (∀ name, o.flags.get? name = o'.flags.get? name) →
      (∀ file, file ∈ files ↔ file ∈ files') →
      arguments command ⟨files, symbol, o⟩ = arguments command ⟨files', symbol, o'⟩) := by
  refine ⟨fun r defines flags made hdefines hflags hscalar => ?_, ?_⟩
  · obtain ⟨defines', flags', h⟩ := made.tables
    obtain rfl : defines' = defines := NamedData.entries.inj (h.defines_eq.symm.trans hdefines)
    obtain rfl : flags' = flags := NamedData.entries.inj (h.flags_eq.symm.trans hflags)
    exact ⟨exists_arranged h hscalar, arguments_of_not_short h hscalar⟩
  · intro symbol start o o' changes changes' files files' made ho ho' hdefines hflags hfiles
    exact arguments_congr made ho ho' hdefines hflags hfiles

/-- The least whole number that is too long to be written. -/
def longNumber : Datum :=
  .int (.ofNat (Nat.pow 10 digitLimit))

theorem not_short_ofNat {n : Nat} (h : Nat.pow 10 digitLimit ≤ n) :
    ¬ (Datum.int (.ofNat n)).Short :=
  Nat.not_lt.mpr h

/-- A whole number as a define, and there is no command line. -/
theorem arguments_longNumber : Scalar longNumber ∧ ∃ o,
    (Options.ofPlatform .server "app.test.main").withDefine "app.N" longNumber = .ok o ∧
    arguments ["google-closure-compiler"] ⟨[Path.ofText "src/a.js"], "app.test.main", o⟩ =
      .error (.raised "ValueError" longNumberMessage) := by
  let defines : Entries Datum := [(platformNameDefine, .text "server"), (debugDefine, .bool true),
    ("app.N", longNumber)]
  have hnames : [platformNameDefine, debugDefine, "app.N"].Nodup := by decide
  refine ⟨.int _, _, rfl, ?_⟩
  refine arguments_of_not_short ⟨rfl, rfl, hnames, List.nodup_nil⟩ ?_
    ⟨("app.N", longNumber), List.mem_of_getLast? rfl, not_short_ofNat (Nat.le_refl _)⟩
  refine List.forall_mem_cons.mpr ⟨.text rfl, List.forall_mem_cons.mpr ⟨.bool _, ?_⟩⟩
  exact List.forall_mem_singleton.mpr (.int _)

def plainStart : Options :=
  .ofPlatform .server "app.main"

/-- A define set twice, and others in between. -/
def forth : List Options.Change :=
  [.define "b" (.int 1), .flag "warn" (.text "off"), .define "a" (.text "it's"),
    .define "b" (.bool true)]

/-- The same in the other order. -/
def back : List Options.Change :=
  [.define "a" (.text "it's"), .define "b" (.bool true), .flag "warn" (.text "off")]

def forthDefines : Entries Datum :=
  [(platformNameDefine, .text "server"), (debugDefine, .bool false), ("b", .bool true),
    ("a", .text "it's")]

def backDefines : Entries Datum :=
  [(platformNameDefine, .text "server"), (debugDefine, .bool false), ("a", .text "it's"),
    ("b", .bool true)]

def withTables (defines : Entries Datum) : Options :=
  { plainStart with defines := .entries defines, flags := .entries [("warn", .text "off")] }

def twoFiles : List Path :=
  [.ofText "src/b.js", .ofText "src/a.js"]

theorem scalar_forthDefines : ∀ define ∈ forthDefines, Scalar define.2 :=
  List.forall_mem_cons.mpr ⟨.text rfl, List.forall_mem_cons.mpr ⟨.bool _,
    List.forall_mem_cons.mpr ⟨.bool _, List.forall_mem_singleton.mpr (.text rfl)⟩⟩⟩

theorem short_forthDefines : ∀ define ∈ forthDefines, define.2.Short := by
  intro define hin
  simp only [forthDefines, List.mem_cons, List.not_mem_nil, or_false] at hin
  rcases hin with rfl | rfl | rfl | rfl <;> exact trivial

theorem get?_forthDefines (name : String) : forthDefines.get? name = backDefines.get? name := by
  have hperm : forthDefines.Perm backDefines := .cons _ (.cons _ (.swap _ _ _))
  have hnodup : [platformNameDefine, debugDefine, "b", "a"].Nodup := by decide
  exact Entries.get?_perm hperm hnodup name

theorem arguments_reproducible_forth_back :
    plainStart.changed forth = .ok (withTables forthDefines) ∧
    plainStart.changed back = .ok (withTables backDefines) ∧
    (∃ args, arguments ["compiler"] ⟨twoFiles, "app.main", withTables forthDefines⟩ = .ok args ∧
      Arranged ["compiler"] ⟨twoFiles, "app.main", withTables forthDefines⟩ forthDefines
        [("warn", .text "off")] args) ∧
    arguments ["compiler"] ⟨twoFiles, "app.main", withTables forthDefines⟩ =
      arguments ["compiler"] ⟨twoFiles.reverse, "app.main", withTables backDefines⟩ := by
  have made : plainStart.Made := .ofPlatform _ _
  have hforth : plainStart.changed forth = .ok (withTables forthDefines) := rfl
  have hback : plainStart.changed back = .ok (withTables backDefines) := rfl
  obtain ⟨hshape, hsame⟩ := arguments_reproducible ["compiler"]
  refine ⟨hforth, hback, ?_, ?_⟩
  · exact (hshape ⟨twoFiles, "app.main", withTables forthDefines⟩ forthDefines _
      (made.changed hforth) rfl rfl scalar_forthDefines).1 short_forthDefines
  · exact hsame "app.main" plainStart _ _ forth back twoFiles twoFiles.reverse made hforth hback
      get?_forthDefines (fun _ => rfl) (fun _ => List.mem_reverse.symm)

end CompileRequest

end BundleBuild
