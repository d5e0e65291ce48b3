/-
Paths in normal form: a leading part (none, one slash or exactly two) and segments, none of them
empty or a lone dot. `Path.ofText` puts a text into this form, `Path.text` writes it out,
`Path.join` anchors a path at another one.
-/

namespace BundleBuild

/-- The text cut at every `sep`; there is always at least one piece. -/
def splitChars (sep : Char) : List Char → List (List Char)
  | [] => [[]]
  | c :: rest =>
    if c = sep then [] :: splitChars sep rest
    else match splitChars sep rest with
      | [] => [[c]]
      | piece :: pieces => (c :: piece) :: pieces

/-- The text cut at every `sep`. -/
def splitText (sep : Char) (s : String) : List String :=
  (splitChars sep s.toList).map String.ofList

/-- Backslashes turned into slashes. -/
def forwardSlashes (s : String) : String :=
  String.ofList (s.toList.map fun c => if c = '\\' then '/' else c)

/-- What an absolute path begins with; exactly two slashes are kept apart from one. -/
inductive Lead where
  | relative
  | root
  | doubleRoot
  deriving DecidableEq, Repr

def Lead.text : Lead → String
  | .relative => ""
  | .root => "/"
  | .doubleRoot => "//"

/-- Whether a text is a segment of a path: neither empty nor a lone dot, and without slashes. -/
def isSegment (s : String) : Bool :=
  s ≠ "" && s ≠ "." && !s.toList.contains '/'

/-- A path in normal form. -/
structure Path where
  lead : Lead
  segments : List String
  normal : segments.all isSegment = true
  deriving DecidableEq, Repr

theorem splitChars_ne_nil (sep : Char) (cs : List Char) : splitChars sep cs ≠ [] := by
  unfold splitChars
  split
  · simp
  · split
    · simp
    · split <;> simp

/-- A character that does not separate stands in front of the first piece. -/
theorem splitChars_cons_of_ne {sep c : Char} (h : c ≠ sep) (cs : List Char) :
    ∃ piece pieces, splitChars sep cs = piece :: pieces ∧
      splitChars sep (c :: cs) = (c :: piece) :: pieces := by
  obtain ⟨piece, pieces, hcs⟩ := List.exists_cons_of_ne_nil (splitChars_ne_nil sep cs)
  exact ⟨piece, pieces, hcs, by simp [splitChars, h, hcs]⟩

/-- The pieces put together are the text without what separates them. -/
theorem flatten_splitChars (sep : Char) (cs : List Char) :
    (splitChars sep cs).flatten = cs.filter (· ≠ sep) := by
  induction cs with
  | nil => rfl
  | cons c cs ih =>
    by_cases hc : c = sep
    · simpa [splitChars, hc] using ih
    · obtain ⟨piece, pieces, hcs, hcons⟩ := splitChars_cons_of_ne hc cs
      rw [hcs] at ih
      rw [hcons, List.filter_cons_of_pos (by simpa using hc), ← ih]
      rfl

theorem mem_of_mem_splitChars {sep c : Char} {cs piece : List Char} (h : piece ∈ splitChars sep cs)
    (hc : c ∈ piece) : c ∈ cs ∧ c ≠ sep := by
  have hin : c ∈ (splitChars sep cs).flatten := List.mem_flatten.mpr ⟨piece, h, hc⟩
  rw [flatten_splitChars] at hin
  simpa using hin

theorem splitChars_of_not_mem {sep : Char} : ∀ {cs : List Char}, sep ∉ cs →
    splitChars sep cs = [cs]
  | [], _ => rfl
  | c :: cs, h => by
    obtain ⟨hc, hcs⟩ := not_or.mp (mt List.mem_cons.mpr h)
    simp only [splitChars, if_neg (Ne.symm hc), splitChars_of_not_mem hcs]

namespace Path

/-- The segments of a text: its pieces between slashes but for empty ones and lone dots. -/
def segmentsOf (s : String) : List String :=
  (splitText '/' s).filter fun piece => piece ≠ "" && piece ≠ "."

theorem all_segmentsOf (s : String) : (segmentsOf s).all isSegment = true := by
  rw [List.all_eq_true]
  intro piece h
  obtain ⟨hpiece, hproper⟩ := List.mem_filter.mp h
  obtain ⟨cs, hcs, rfl⟩ := List.mem_map.mp hpiece
  have hslash : '/' ∉ cs := fun hc => (mem_of_mem_splitChars hcs hc).2 rfl
  simp only [Bool.and_eq_true, decide_eq_true_eq] at hproper
  simp [isSegment, hproper, hslash]

def leadOf : List Char → Lead
  | '/' :: '/' :: '/' :: _ => .root
  | '/' :: '/' :: _ => .doubleRoot
  | '/' :: _ => .root
  | _ => .relative

/-- The normal form of a text. -/
def ofText (s : String) : Path :=
  ⟨leadOf s.toList, segmentsOf s, all_segmentsOf s⟩

/-- The relative path of the given names; what is no segment is left out. -/
def relative (names : List String) : Path :=
  ⟨.relative, names.filter isSegment, by simp⟩

def isAbsolute (p : Path) : Bool :=
  p.lead != .relative

/-- The text of a path; the empty relative path is a lone dot. -/
def text (p : Path) : String :=
  if p.lead = .relative && p.segments.isEmpty then "."
  else p.lead.text ++ "/".intercalate p.segments

/-- The parts of a path: its segments, after its leading part when it is absolute. -/
def parts (p : Path) : List String :=
  if p.isAbsolute then p.lead.text :: p.segments else p.segments

/-- `p` seen from `base`: an absolute path stays as it is. -/
def join (base p : Path) : Path :=
  if p.isAbsolute then p
  else ⟨base.lead, base.segments ++ p.segments, by simp [List.all_append, base.normal, p.normal]⟩

def joinText (base : Path) (s : String) : Path :=
  base.join (ofText s)

/-- The path without its last segment. -/
def parent (p : Path) : Path :=
  ⟨p.lead, p.segments.dropLast, List.all_eq_true.mpr fun s hs =>
    List.all_eq_true.mp p.normal s ((List.dropLast_sublist _).subset hs)⟩

theorem ext {p q : Path} (hlead : p.lead = q.lead) (hsegments : p.segments = q.segments) :
    p = q := by
  cases p
  cases q
  simp_all

@[simp]
theorem join_absolute {base p : Path} (h : p.isAbsolute = true) : base.join p = p := by
  simp [join, h]

theorem lead_join {base p : Path} (h : p.isAbsolute = false) :
    (base.join p).lead = base.lead := by
  simp [join, h]

theorem segments_join {base p : Path} (h : p.isAbsolute = false) :
    (base.join p).segments = base.segments ++ p.segments := by
  simp [join, h]

/-- Anchoring twice is anchoring at the joined base. -/
theorem join_assoc (a b p : Path) : a.join (b.join p) = (a.join b).join p := by
  by_cases hp : p.isAbsolute = true
  · simp [hp]
  · have hp' : p.isAbsolute = false := by simpa using hp
    have hlead : (b.join p).isAbsolute = b.isAbsolute := by
      rw [isAbsolute, lead_join hp', isAbsolute]
    by_cases hb : b.isAbsolute = true
    · rw [join_absolute (hlead.trans hb), join_absolute hb]
    · have hb' : b.isAbsolute = false := by simpa using hb
      apply ext
      · rw [lead_join (hlead.trans hb'), lead_join hp', lead_join hb']
      · rw [segments_join (hlead.trans hb'), segments_join hp', segments_join hp',
          segments_join hb', List.append_assoc]

/-- The segments that names are: all of them, where each is one. -/
theorem segments_relative {names : List String} (h : ∀ s ∈ names, isSegment s = true) :
    (relative names).segments = names :=
  List.filter_eq_self.mpr h

theorem relative_join (names more : List String) :
    (relative names).join (relative more) = relative (names ++ more) :=
  ext rfl (List.filter_append ..).symm

theorem relative_segments {p : Path} (h : p.lead = .relative) : relative p.segments = p :=
  ext h.symm (segments_relative (List.all_eq_true.mp p.normal))

end Path

end BundleBuild
