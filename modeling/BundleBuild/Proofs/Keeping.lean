/-
What is kept of a text that is put into lines. A line that is too long is cut where it may be, and
of each part only blanks at its end are taken away: whatever the width, the characters that are not
blank are printed, all of them and in order (`visible_shownLines`).

The columns have to be reckoned for this, and a line is filled by adding up those of its words.
The sum is right only as long as no character changes how another is measured, so the texts here
have none that joins the next one to it and none that asks for a picture. Each cluster is then one
character with marks that take up no column, and at most two columns wide.
-/
import BundleBuild.Proofs.Wrapping

namespace BundleBuild.Console

/-! ## Characters that are seen -/

/-- The characters of a text that are not blank. -/
def visible (cs : List Char) : List Char :=
  cs.filter (!isBlank ·)

@[simp]
theorem visible_append (a b : List Char) : visible (a ++ b) = visible a ++ visible b :=
  List.filter_append a b

@[simp]
theorem visible_eq_nil {cs : List Char} : visible cs = [] ↔ ∀ c ∈ cs, isBlank c = true := by
  simp [visible, List.filter_eq_nil_iff]

theorem visible_flatten (parts : List (List Char)) :
    visible parts.flatten = parts.flatMap visible := by
  rw [visible, List.filter_flatten, List.flatMap_def]
  rfl

/-! ## Characters that are measured one by one -/

/-- No character changes how another is measured. -/
def Unjoined (cs : List Char) : Prop :=
  joiner ∉ cs ∧ pictureSelector ∉ cs

theorem Unjoined.subset {cs ds : List Char} (h : Unjoined cs) (hsub : ds ⊆ cs) : Unjoined ds :=
  ⟨fun hin => h.1 (hsub hin), fun hin => h.2 (hsub hin)⟩

theorem Unjoined.append {a b : List Char} (ha : Unjoined a) (hb : Unjoined b) :
    Unjoined (a ++ b) :=
  ⟨by simp [ha.1, hb.1], by simp [ha.2, hb.2]⟩

/-- The columns of the characters, each on its own. -/
def columns : List Char → Nat
  | [] => 0
  | c :: cs => charWidth c + columns cs

@[simp]
theorem columns_nil : columns [] = 0 :=
  rfl

@[simp]
theorem columns_cons (c : Char) (cs : List Char) :
    columns (c :: cs) = charWidth c + columns cs :=
  rfl

@[simp]
theorem columns_append (a b : List Char) : columns (a ++ b) = columns a + columns b := by
  induction a with
  | nil => simp
  | cons c a ih => rw [List.cons_append, columns_cons, columns_cons, ih, Nat.add_assoc]

theorem columns_eq_zero {cs : List Char} (h : ∀ c ∈ cs, charWidth c = 0) : columns cs = 0 := by
  induction cs with
  | nil => rfl
  | cons c cs ih =>
    obtain ⟨hc, hcs⟩ := List.forall_mem_cons.mp h
    rw [columns_cons, hc, ih hcs]

theorem Unjoined.charsWidth_eq {cs : List Char} (h : Unjoined cs) : charsWidth cs = columns cs := by
  have hwidth : ∀ last, widthAfter last cs = columns cs := by
    induction cs with
    | nil => exact fun _ => rfl
    | cons c cs ih =>
      intro last
      have hj : c ≠ joiner := fun heq => h.1 (heq ▸ List.mem_cons_self)
      have hs : c ≠ pictureSelector := fun heq => h.2 (heq ▸ List.mem_cons_self)
      rw [widthAfter_cons hj hs, ih (h.subset (List.subset_cons_self c cs)), columns_cons]
  exact hwidth none

/-! ## Clusters -/

/-- One character, with marks behind it that take up no column. -/
def Cluster.Based (cl : Cluster) : Prop :=
  ∃ base marks, cl.chars = base :: marks ∧ cl.width = charWidth base ∧
    ∀ m ∈ marks, charWidth m = 0

namespace Cluster.Based

variable {cl : Cluster}

theorem columns_eq (h : cl.Based) : columns cl.chars = cl.width := by
  obtain ⟨base, marks, hchars, hwidth, hmarks⟩ := h
  rw [hchars, columns_cons, columns_eq_zero hmarks, hwidth, Nat.add_zero]

theorem width_le (h : cl.Based) : cl.width ≤ 2 := by
  obtain ⟨base, -, -, hwidth, -⟩ := h
  exact hwidth ▸ charWidth_le_two base

theorem mark (h : cl.Based) {m : Char} (hm : charWidth m = 0) :
    Based ⟨cl.chars ++ [m], cl.width⟩ := by
  obtain ⟨base, marks, hchars, hwidth, hmarks⟩ := h
  refine ⟨base, marks ++ [m], by simp [hchars], hwidth, fun d hd => ?_⟩
  rcases List.mem_append.mp hd with hd | hd
  · exact hmarks d hd
  · rwa [List.mem_singleton.mp hd]

/-- Text that begins with the cluster and has fewer columns is empty. -/
theorem eq_nil_of_columns_lt (h : cl.Based) {rest body tail : List Char}
    (hchars : cl.chars ++ rest = body ++ tail) (hlt : columns body < cl.width) : body = [] := by
  cases body with
  | nil => rfl
  | cons b body =>
    obtain ⟨base, marks, hcl, hwidth, -⟩ := h
    rw [hcl, List.cons_append, List.cons_append, List.cons.injEq] at hchars
    rw [columns_cons, ← hchars.1] at hlt
    omega

end Cluster.Based

/-- All clusters but the first take up columns. -/
theorem clustersAfter_based {found : List Cluster} {last : Option Char} {cs : List Char}
    (h : Unjoined cs) (hbased : ∀ cl ∈ found, cl.Based)
    (hpos : ∀ cl ∈ found.dropLast, 0 < cl.width) :
    (∀ cl ∈ clustersAfter found last cs, cl.Based) ∧
      ∀ cl ∈ (clustersAfter found last cs).tail, 0 < cl.width := by
  fun_induction clustersAfter found last cs with
  | case1 found last =>
    simp only [List.mem_reverse, List.tail_reverse]
    exact ⟨hbased, hpos⟩
  | case2 last c rest ih =>
    refine ih (h.subset (List.subset_cons_self c rest)) ?_ (by simp)
    simpa using ⟨c, [], rfl, rfl, by simp⟩
  | case3 => exact absurd List.mem_cons_self h.1
  | case4 => exact absurd List.mem_cons_self h.1
  | case5 => exact absurd List.mem_cons_self h.2
  | case6 last c rest before others _ _ hzero ih =>
    obtain ⟨hbefore, hothers⟩ := List.forall_mem_cons.mp hbased
    refine ih (h.subset (List.subset_cons_self c rest))
      (List.forall_mem_cons.mpr ⟨hbefore.mark hzero, hothers⟩) ?_
    cases others with
    | nil => simp
    | cons => simpa using hpos
  | case7 last c rest before others _ _ hwide ih =>
    refine ih (h.subset (List.subset_cons_self c rest))
      (List.forall_mem_cons.mpr ⟨⟨c, [], rfl, rfl, by simp⟩, hbased⟩) ?_
    rw [List.dropLast_cons_cons]
    exact List.forall_mem_cons.mpr ⟨Nat.pos_of_ne_zero hwide, hpos⟩

theorem clusters_based {cs : List Char} (h : Unjoined cs) :
    (∀ cl ∈ clusters cs, cl.Based) ∧ ∀ cl ∈ (clusters cs).tail, 0 < cl.width :=
  clustersAfter_based h (by simp) (by simp)

/-! ## Lines that are short but for blanks -/

/-- But for blanks at its end, the line has no more columns than there are. -/
def Short (width : Nat) (line : List Char) : Prop :=
  ∃ body tail, line = body ++ tail ∧ columns body ≤ width ∧ ∀ c ∈ tail, isBlank c = true

theorem Short.of_columns_le {width : Nat} {line : List Char} (h : columns line ≤ width) :
    Short width line :=
  ⟨line, [], by simp, h, by simp⟩

theorem Short.take {width : Nat} {line : List Char} (h : Short width line) (n : Nat) :
    Short width (line.take n) := by
  obtain ⟨body, tail, rfl, hbody, htail⟩ := h
  refine ⟨body.take n, tail.take (n - body.length), List.take_append, ?_,
    fun c hc => htail c (List.mem_of_mem_take hc)⟩
  have hsplit : columns body = columns (body.take n) + columns (body.drop n) := by
    rw [← columns_append, List.take_append_drop]
  omega

/-- A cut takes away no more than blanks, if there is room for everything else. -/
theorem visible_cutAt {room : Nat} {cls : List Cluster} {body tail : List Char}
    (hbased : ∀ cl ∈ cls, cl.Based) (hpos : ∀ cl ∈ cls.tail, 0 < cl.width)
    (hroom : 0 < room ∨ ∀ cl ∈ cls, 0 < cl.width) (hchars : cls.flatMap (·.chars) = body ++ tail)
    (htail : ∀ c ∈ tail, isBlank c = true) (hbody : columns body ≤ room) :
    visible (cutAt room cls) = visible body := by
  fun_induction cutAt room cls generalizing body tail with
  | case1 =>
    rw [(List.append_eq_nil_iff.mp hchars.symm).1]
  | case2 cls hsome =>
    obtain ⟨cl, rest, rfl⟩ := List.exists_cons_of_ne_nil hsome
    have hwide : 0 < cl.width := (hroom.resolve_left (by simp)) cl List.mem_cons_self
    rw [(hbased cl List.mem_cons_self).eq_nil_of_columns_lt hchars (by omega)]
  | case3 room cl rest hfits ih =>
    obtain ⟨hcl, hrest⟩ := List.forall_mem_cons.mp hbased
    rw [List.flatMap_cons] at hchars
    have hstep : ∀ {body tail : List Char}, rest.flatMap (·.chars) = body ++ tail →
        (∀ c ∈ tail, isBlank c = true) → columns body ≤ room + 1 - cl.width →
        visible (cutAt (room + 1 - cl.width) rest) = visible body := fun hchars htail hbody =>
      ih hrest (fun d hd => hpos d (List.mem_of_mem_tail hd)) (.inr hpos) hchars htail hbody
    rw [visible_append]
    rcases List.append_eq_append_iff.mp hchars with ⟨more, rfl, hmore⟩ | ⟨more, hcut, rfl⟩
    · have hcolumns := hcl.columns_eq
      rw [columns_append] at hbody
      rw [hstep hmore htail (by omega), visible_append]
    · have hblank : visible more = [] := visible_eq_nil.mpr fun c hc =>
        htail c (List.mem_append_left _ hc)
      have hnothing : visible (cutAt (room + 1 - cl.width) rest) = visible [] :=
        hstep rfl (fun c hc => htail c (List.mem_append_right _ hc)) (Nat.zero_le _)
      rw [hnothing, hcut, visible_append, hblank]
      simp [visible]
  | case4 room cl rest hwide =>
    rw [(hbased cl List.mem_cons_self).eq_nil_of_columns_lt hchars (by omega)]
    decide

theorem Short.visible_crop {width : Nat} {line : List Char} (h : Short width line)
    (hunjoined : Unjoined line) (hwidth : 0 < width) :
    visible (crop width line) = visible line := by
  unfold crop fit
  split
  · rw [if_neg (by omega)]
    obtain ⟨hbased, hpos⟩ := clusters_based hunjoined
    have hchars := flatMap_clusters line
    obtain ⟨body, tail, rfl, hbody, htail⟩ := h
    have hblank : visible tail = [] := visible_eq_nil.mpr htail
    rw [visible_cutAt hbased hpos (.inl hwidth) hchars htail hbody, visible_append, hblank,
      List.append_nil]
  · rfl

theorem visible_take {body tail : List Char} {n : Nat} (htail : ∀ c ∈ tail, isBlank c = true)
    (hn : body.length ≤ n) : visible ((body ++ tail).take n) = visible (body ++ tail) := by
  have hcut : visible (tail.take (n - body.length)) = [] := visible_eq_nil.mpr fun c hc =>
    htail c (List.mem_of_mem_take hc)
  have hblank : visible tail = [] := visible_eq_nil.mpr htail
  rw [List.take_append, List.take_of_length_le hn, visible_append, visible_append, hcut, hblank]

theorem visible_cropBlanks (width : Nat) (line : List Char) :
    visible (cropBlanks width line) = visible line := by
  have hfront : (dropTrailingBlanks line).length =
      line.length - (line.reverse.takeWhile isBlank).length := by
    have hsplit := congrArg List.length
      (List.takeWhile_append_dropWhile (p := isBlank) (l := line.reverse))
    simp only [List.length_append, List.length_reverse] at hsplit
    rw [dropTrailingBlanks, List.length_reverse]
    omega
  obtain ⟨tail, hline, htail⟩ := exists_dropTrailingBlanks_append line
  have hlength : (dropTrailingBlanks line).length ≤ line.length -
      min (line.reverse.takeWhile isBlank).length (line.length - width) := by omega
  have hkept := visible_take htail hlength
  rwa [hline] at hkept

/-! ## Filling lines -/

/-- A word of based clusters is cut into pieces that are not too wide. -/
theorem columns_chopAfter_le {width used : Nat} {piece : List Char} {cls : List Cluster}
    (hwidth : 2 ≤ width) (hbased : ∀ cl ∈ cls, cl.Based) (hused : columns piece = used)
    (hle : used ≤ width) : ∀ p ∈ chopAfter width piece used cls, columns p ≤ width := by
  fun_induction chopAfter width piece used cls with
  | case1 piece used => simpa [hused] using hle
  | case2 piece used cl rest _ ih =>
    obtain ⟨hcl, hrest⟩ := List.forall_mem_cons.mp hbased
    exact List.forall_mem_cons.mpr
      ⟨hused ▸ hle, ih hrest hcl.columns_eq (hcl.width_le.trans hwidth)⟩
  | case3 piece used cl rest hfits ih =>
    obtain ⟨hcl, hrest⟩ := List.forall_mem_cons.mp hbased
    exact ih hrest (by rw [columns_append, hcl.columns_eq, hused]) (Nat.not_lt.mp hfits)

namespace Filling

variable {width : Nat} {f : Filling}

/-- Lines being filled that are short so far. -/
structure Fair (width : Nat) (f : Filling) : Prop where
  short : ∀ line ∈ f.lines, Short width line
  unjoined : Unjoined f.line
  used : f.used = columns f.line

theorem Fair.startLine (h : Fair width f) {piece : List Char} (hunjoined : Unjoined piece)
    (hshort : Short width piece) : Fair width (f.startLine piece) where
  short := by
    intro line hline
    rcases List.mem_append.mp hline with hdone | hnew
    · simp only [Filling.startLine] at hdone
      split at hdone
      · cases hdone
      · exact h.short line hdone
    · rwa [List.mem_singleton.mp hnew]
  unjoined := hunjoined
  used := hunjoined.charsWidth_eq

theorem Fair.foldl_startLine (h : Fair width f) {pieces : List (List Char)}
    (hpieces : ∀ piece ∈ pieces, Unjoined piece ∧ Short width piece) :
    Fair width (pieces.foldl Filling.startLine f) := by
  induction pieces generalizing f with
  | nil => exact h
  | cons piece pieces ih =>
    obtain ⟨hpiece, hrest⟩ := List.forall_mem_cons.mp hpieces
    exact ih (h.startLine hpiece.1 hpiece.2) hrest

theorem Fair.add (h : Fair width f) {word : List Char} (hwidth : 2 ≤ width)
    (hword : Unjoined word) : Fair width (f.add true width word) := by
  obtain ⟨tail, htail, hblank⟩ := exists_dropTrailingBlanks_append word
  have hsize : charsWidth (dropTrailingBlanks word) = columns (dropTrailingBlanks word) :=
    (hword.subset fun c hc => by rw [← htail]; exact List.mem_append_left _ hc).charsWidth_eq
  unfold Filling.add
  dsimp only
  split
  · next hfits =>
    refine ⟨fun line hline => ?_, h.unjoined.append hword, ?_⟩
    · rcases List.mem_append.mp hline with hdone | hnew
      · exact h.short line (List.mem_append_left _ hdone)
      · rw [List.mem_singleton.mp hnew]
        refine ⟨f.line ++ dropTrailingBlanks word, tail, ?_, ?_, hblank⟩
        · rw [List.append_assoc, htail]
        · rwa [columns_append, ← h.used, ← hsize]
    · simp only [hword.charsWidth_eq, h.used, columns_append]
  · split
    · refine h.foldl_startLine fun piece hpiece => ⟨hword.subset fun c hc => ?_, ?_⟩
      · rw [← flatten_chop width word]
        exact List.mem_flatten.mpr ⟨piece, hpiece, hc⟩
      · exact .of_columns_le (columns_chopAfter_le hwidth (clusters_based hword).1 rfl
          (Nat.zero_le _) piece hpiece)
    · exact h.startLine hword ⟨_, tail, htail.symm, by omega, hblank⟩

theorem Fair.foldl_add (h : Fair width f) {words : List (List Char)} (hwidth : 2 ≤ width)
    (hwords : ∀ word ∈ words, Unjoined word) :
    Fair width (words.foldl (Filling.add true width) f) := by
  induction words generalizing f with
  | nil => exact h
  | cons word words ih =>
    obtain ⟨hword, hrest⟩ := List.forall_mem_cons.mp hwords
    exact ih (h.add hwidth hword) hrest

end Filling

theorem Unjoined.of_mem {parts : List (List Char)} (h : Unjoined parts.flatten) {part : List Char}
    (hpart : part ∈ parts) : Unjoined part :=
  h.subset fun _ hc => List.mem_flatten.mpr ⟨part, hpart, hc⟩

theorem short_partsOf {width : Nat} {line : List Char} (hwidth : 2 ≤ width)
    (hunjoined : Unjoined line) : ∀ part ∈ partsOf true width line, Short width part := by
  rcases partsOf_cases true width line with ⟨hparts, hblank⟩ | ⟨words, rfl, -, hparts⟩
  · rw [hparts]
    simpa using ⟨[], line, rfl, Nat.zero_le _, hblank⟩
  · rw [hparts]
    have hempty : Filling.Fair width {} :=
      ⟨by simpa [Filling.lines] using .of_columns_le (Nat.zero_le _), by simp [Unjoined], rfl⟩
    exact (hempty.foldl_add hwidth fun word => hunjoined.of_mem).short

/-! ## Lines -/

theorem visible_wrapLine {width : Nat} {line : List Char} (hwidth : 2 ≤ width)
    (hunjoined : Unjoined line) :
    ((wrapLine true width line).map (crop width)).flatMap visible = visible line := by
  have hpart : ∀ part ∈ partsOf true width line,
      visible (crop width (cropBlanks width part)) = visible part := by
    intro part hpart
    have hshort := short_partsOf hwidth hunjoined part hpart
    have hun : Unjoined part := by
      rw [← flatten_partsOf true width line] at hunjoined
      exact hunjoined.of_mem hpart
    rw [cropBlanks, (hshort.take _).visible_crop (hun.subset (List.take_subset _ _)) (by omega)]
    exact visible_cropBlanks width part
  rw [wrapLine_eq, List.map_map, List.flatMap_map]
  conv => rhs; rw [← flatten_partsOf true width line, visible_flatten]
  exact List.flatMap_congr hpart

theorem visible_joinTabbed (column : Nat) (pieces : List (List Char)) :
    visible (joinTabbed column pieces) = visible pieces.flatten := by
  fun_induction joinTabbed column pieces with
  | case1 => rfl
  | case2 => simp
  | case3 column piece rest _ filled ih =>
    have hblank : ∀ n, visible (blanks n) = [] := fun n => visible_eq_nil.mpr fun c hc => by
      rw [List.eq_of_mem_replicate hc]
      decide
    rw [visible_append, ih, List.flatten_cons, visible_append]
    simp only [filled, fillTab, visible_append, hblank, List.append_nil]

/-- What separates the pieces of a text is not seen, if it is blank. -/
theorem visible_flatten_splitChars {sep : Char} (h : isBlank sep = true) (cs : List Char) :
    visible (splitChars sep cs).flatten = visible cs := by
  rw [flatten_splitChars, visible, visible, List.filter_filter]
  refine List.filter_congr fun c _ => ?_
  by_cases hc : c = sep
  · simp [hc, h]
  · simp [hc]

theorem visible_expandTabs (line : List Char) : visible (expandTabs line) = visible line := by
  rw [expandTabs, visible_joinTabbed, visible_flatten_splitChars (by decide)]

theorem unjoined_expandTabs {line : List Char} (h : Unjoined line) :
    Unjoined (expandTabs line) := by
  have hnone : ∀ {c : Char}, c ≠ ' ' → c ∉ line → c ∉ expandTabs line := by
    intro c hc hout
    have hcount := countP_expandTabs (p := (· == c)) (by simpa using hc.symm) line
    refine List.count_eq_zero.mp (hcount.trans (List.count_eq_zero.mpr ?_))
    exact fun hin => hout (List.mem_filter.mp hin).1
  exact ⟨hnone (by decide) h.1, hnone (by decide) h.2⟩

/-- **Nothing but blanks is lost in lines**, and nothing else is added: the characters of the text
that can be seen are printed, in order. -/
theorem visible_shownLines {width : Nat} {cs : List Char} (hwidth : 2 ≤ width)
    (hunjoined : Unjoined cs) :
    visible ((shownLines width cs).flatMap (· ++ ['\n'])) = visible cs := by
  have hends : ∀ lines : List (List Char),
      visible (lines.flatMap (· ++ ['\n'])) = lines.flatMap visible := by
    intro lines
    have hend : visible ['\n'] = [] := by decide
    rw [List.flatMap_def, visible_flatten, List.flatMap_map]
    simp only [visible_append, hend, List.append_nil]
  have hline : ∀ line ∈ splitChars '\n' cs,
      ((wrapLine true width (expandTabs line)).map (crop width)).flatMap visible =
        visible line := by
    intro line hline
    have hun : Unjoined line := hunjoined.subset fun c hc => (mem_of_mem_splitChars hline hc).1
    rw [visible_wrapLine hwidth (unjoined_expandTabs hun), visible_expandTabs]
  calc visible ((shownLines width cs).flatMap (· ++ ['\n']))
      = (shownLines width cs).flatMap visible := hends _
    _ = (splitChars '\n' cs).flatMap visible := by
      rw [shownLines, List.flatMap_assoc, List.flatMap_congr hline]
    _ = visible cs := by rw [← visible_flatten, visible_flatten_splitChars (by decide)]

end BundleBuild.Console
