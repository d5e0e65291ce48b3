/-
What becomes of a text that is put into lines. A line is cut into words, and a word that is too long
into what shows as one character each; none of this loses anything, so the parts it is wrapped into,
put together again, are the line (`flatten_partsOf`). What is printed of a part is the part without
what is beyond the width, and nothing is printed that is not in the text, but for blanks
(`countP_shownLines_le`).

A line that fits is printed as it is (`shownLines_of_fits`). That its words fit one after another
needs an argument, since the columns of a text are not the sum of those of its parts: a sign that
asks for a picture looks back at the character before it. What it finds there can only add to the
columns, so the words never take up more than the line.
-/
import BundleBuild.Proofs.Showing

namespace BundleBuild.Console

/-! ## Text between line ends -/

/-- The lines of a text, each ended, are the text and one more end. -/
theorem flatMap_splitChars (sep : Char) (cs : List Char) :
    (splitChars sep cs).flatMap (· ++ [sep]) = cs ++ [sep] := by
  induction cs with
  | nil => rfl
  | cons c cs ih =>
    by_cases hc : c = sep
    · simpa [splitChars, hc] using ih
    · obtain ⟨piece, pieces, hcs, hcons⟩ := splitChars_cons_of_ne hc cs
      rw [hcs] at ih
      rw [hcons, List.cons_append, ← ih]
      rfl

/-! ## Clusters -/

theorem flatMap_clustersAfter (found : List Cluster) (last : Option Char) (cs : List Char) :
    (clustersAfter found last cs).flatMap (·.chars) = found.reverse.flatMap (·.chars) ++ cs := by
  fun_induction clustersAfter found last cs with
  | case1 => simp
  | _ => simp_all

/-- Nothing is lost when a text is taken for what shows as one character each. -/
theorem flatMap_clusters (cs : List Char) : (clusters cs).flatMap (·.chars) = cs := by
  simpa [clusters] using flatMap_clustersAfter [] none cs

theorem flatten_chopAfter (width : Nat) (piece : List Char) (used : Nat) (cl : List Cluster) :
    (chopAfter width piece used cl).flatten = piece ++ cl.flatMap (·.chars) := by
  fun_induction chopAfter width piece used cl with
  | case1 => simp
  | case2 _ _ _ _ _ ih => simp [ih]
  | case3 _ _ _ _ _ ih => simp [ih]

theorem flatten_chop (width : Nat) (word : List Char) : (chop width word).flatten = word := by
  rw [chop, flatten_chopAfter, flatMap_clusters, List.nil_append]

/-! ## Words -/

theorem drop_length_takeWhile (p : Char → Bool) (cs : List Char) :
    cs.drop (cs.takeWhile p).length = cs.dropWhile p := by
  conv => lhs; arg 2; rw [← List.takeWhile_append_dropWhile (p := p) (l := cs)]
  rw [List.drop_left]

/-- The words of a text by what blanks begin and end. -/
theorem wordsOf_succ (fuel : Nat) (cs : List Char) :
    let body := (cs.dropWhile isBlank).takeWhile (!isBlank ·)
    let after := (cs.dropWhile isBlank).dropWhile (!isBlank ·)
    wordsOf (fuel + 1) cs = if body.isEmpty then [] else
      (cs.takeWhile isBlank ++ body ++ after.takeWhile isBlank) ::
        wordsOf fuel (after.dropWhile isBlank) := by
  simp only [wordsOf, ← List.drop_drop, drop_length_takeWhile]

theorem of_dropWhile_eq_cons {p : Char → Bool} {cs rest : List Char} {c : Char}
    (h : cs.dropWhile p = c :: rest) : p c = false := by
  have hnot := List.head?_dropWhile_not p cs
  rw [h] at hnot
  exact hnot

/-- A text has no words if it is blank. Otherwise there is a first one, and if there is more behind
it, the word ends in a blank and the rest begins with none. -/
theorem wordsOf_cases (fuel : Nat) (cs : List Char) :
    (wordsOf (fuel + 1) cs = [] ∧ ∀ c ∈ cs, isBlank c = true) ∨
      ∃ word rest, wordsOf (fuel + 1) cs = word :: wordsOf fuel rest ∧
        (∃ c ∈ word, isBlank c = false) ∧ cs = word ++ rest ∧
        (rest ≠ [] → (∃ c, rest.head? = some c ∧ isBlank c = false) ∧
          ∃ c, word.getLast? = some c ∧ isBlank c = true) := by
  have hsteps := wordsOf_succ fuel cs
  dsimp only at hsteps
  split at hsteps
  · next hbody =>
    refine .inl ⟨hsteps, ?_⟩
    rw [← List.dropWhile_eq_nil_iff]
    cases hcs : cs.dropWhile isBlank with
    | nil => rfl
    | cons c rest => simp [hcs, of_dropWhile_eq_cons hcs] at hbody
  · next hbody =>
    refine .inr ⟨_, _, hsteps, ?_, ?_, ?_⟩
    · obtain ⟨c, hc⟩ := List.exists_mem_of_ne_nil _ (mt List.isEmpty_iff.mpr hbody)
      have hnot : isBlank c = false := by simpa using List.mem_takeWhile_imp hc
      exact ⟨c, List.mem_append_left _ (List.mem_append_right _ hc), hnot⟩
    · simp only [List.append_assoc, List.takeWhile_append_dropWhile]
    · intro hrest
      obtain ⟨c, rest, hcons⟩ := List.exists_cons_of_ne_nil hrest
      refine ⟨⟨c, by rw [hcons]; rfl, of_dropWhile_eq_cons hcons⟩, ?_⟩
      cases hafter : (cs.dropWhile isBlank).dropWhile (!isBlank ·) with
      | nil => simp [hafter] at hcons
      | cons b after =>
        have hb : isBlank b = true := by simpa using of_dropWhile_eq_cons hafter
        rw [List.takeWhile_cons_of_pos hb]
        refine ⟨_, List.getLast?_append_of_ne_nil _ (by simp) |>.trans
          (List.getLast?_eq_some_getLast (by simp)), ?_⟩
        have hlast := List.getLast_mem (l := b :: after.takeWhile isBlank) (by simp)
        rcases List.mem_cons.mp hlast with heq | hin
        · rw [heq, hb]
        · exact List.mem_takeWhile_imp hin

/-- Words each of which ends in a blank, but for the last one. -/
inductive Divided : List (List Char) → Prop
  | one (word : List Char) : Divided [word]
  | more {word next : List Char} {words : List (List Char)}
    (blank : ∃ c, word.getLast? = some c ∧ isBlank c = true) (h : Divided (next :: words)) :
    Divided (word :: next :: words)

theorem wordsOf_nil (fuel : Nat) : wordsOf fuel [] = [] := by
  cases fuel <;> rfl

/-- Put together again, the words of a text that is not blank are the text. -/
theorem flatten_wordsOf {fuel : Nat} {cs : List Char} (h : cs.length < fuel)
    (hsome : ∃ c ∈ cs, isBlank c = false) :
    (wordsOf fuel cs).flatten = cs ∧ Divided (wordsOf fuel cs) := by
  induction fuel generalizing cs with
  | zero => cases h
  | succ fuel ih =>
    rcases wordsOf_cases fuel cs with ⟨-, hblank⟩ | ⟨word, rest, hwords, hword, rfl, hrest⟩
    · obtain ⟨c, hc, hnot⟩ := hsome
      rw [hblank c hc] at hnot
      cases hnot
    · rw [hwords, List.flatten_cons]
      cases hmore : rest with
      | nil =>
        rw [wordsOf_nil]
        exact ⟨by simp, .one word⟩
      | cons c more =>
        obtain ⟨⟨c', hc', hnot⟩, hlast⟩ := hrest (by simp [hmore])
        have hlength : rest.length < fuel := by
          obtain ⟨b, hb, -⟩ := hword
          have hpos := List.length_pos_of_mem hb
          rw [List.length_append] at h
          omega
        obtain ⟨hflat, hdivided⟩ := ih hlength ⟨c', List.mem_of_mem_head? hc', hnot⟩
        rw [← hmore, hflat]
        refine ⟨rfl, ?_⟩
        cases hnext : wordsOf fuel rest with
        | nil => exact .one word
        | cons next words => exact .more hlast (hnext ▸ hdivided)

/-! ## Columns -/

theorem widthAfter_joiner (last : Option Char) (d : Char) (rest : List Char) :
    widthAfter last (joiner :: d :: rest) = widthAfter last rest := by
  simp [widthAfter]

theorem widthAfter_selector (last : Option Char) (rest : List Char) :
    widthAfter last (pictureSelector :: rest) =
      (if last.any (isAmong widened ·.toNat) then 1 else 0) + widthAfter none rest := by
  have hother : pictureSelector ≠ joiner := by decide
  rw [widthAfter.eq_def]
  cases last <;> simp [hother]

theorem widthAfter_cons {c : Char} (hj : c ≠ joiner) (hs : c ≠ pictureSelector)
    (last : Option Char) (rest : List Char) : widthAfter last (c :: rest) =
      charWidth c + widthAfter (if charWidth c = 0 then last else some c) rest := by
  rw [widthAfter.eq_def]
  simp [hj, hs]

theorem charWidth_le_two (c : Char) : charWidth c ≤ 2 := by
  unfold charWidth
  dsimp only
  split
  · decide
  · split
    · decide
    · split <;> decide

theorem widthAfter_le (last : Option Char) (cs : List Char) :
    widthAfter last cs ≤ 2 * cs.length := by
  induction last, cs using widthAfter.induct with
  | case1 | case2 => simp [widthAfter]
  | case3 last d rest ih =>
    rw [widthAfter_joiner, List.length_cons, List.length_cons]
    omega
  | case4 rest _ _ ih | case5 rest _ ih =>
    rw [widthAfter_selector, List.length_cons]
    split <;> omega
  | case6 last c rest hj hs width ih =>
    rw [widthAfter_cons hj hs, List.length_cons, Nat.mul_succ, Nat.add_comm]
    exact Nat.add_le_add ih (charWidth_le_two c)

/-- A character that was measured before can only add to the columns. -/
theorem widthAfter_none_le (last : Option Char) (cs : List Char) :
    widthAfter none cs ≤ widthAfter last cs := by
  induction last, cs using widthAfter.induct with
  | case1 => exact Nat.le_refl _
  | case2 => simp [widthAfter]
  | case3 last d rest ih => rwa [widthAfter_joiner, widthAfter_joiner]
  | case4 rest l =>
    rw [widthAfter_selector, widthAfter_selector]
    simp
  | case5 => exact Nat.le_refl _
  | case6 last c rest hj hs width ih =>
    rw [widthAfter_cons hj hs, widthAfter_cons hj hs]
    split
    · next hw =>
      rw [if_pos (show width = 0 from hw)] at ih
      exact Nat.add_le_add_left ih _
    · exact Nat.le_refl _

theorem getLast?_tail_ne {c x : Char} {cs : List Char} (h : (c :: cs).getLast? ≠ some x) :
    cs.getLast? ≠ some x := by
  cases cs <;> simp_all

/-- Text in front of more text takes up the columns that it takes up on its own, unless its last
character joins what follows. -/
theorem exists_widthAfter_append (last : Option Char) {a : List Char}
    (h : a.getLast? ≠ some joiner) (b : List Char) :
    ∃ last', widthAfter last (a ++ b) = widthAfter last a + widthAfter last' b := by
  induction last, a using widthAfter.induct with
  | case1 last => exact ⟨last, by simp [widthAfter]⟩
  | case2 => simp at h
  | case3 last d rest ih =>
    obtain ⟨last', hlast⟩ := ih (getLast?_tail_ne (getLast?_tail_ne h))
    exact ⟨last', by simpa only [List.cons_append, widthAfter_joiner] using hlast⟩
  | case4 rest _ _ ih | case5 rest _ ih =>
    obtain ⟨last', hlast⟩ := ih (getLast?_tail_ne h)
    refine ⟨last', ?_⟩
    rw [List.cons_append, widthAfter_selector, widthAfter_selector, hlast, Nat.add_assoc]
  | case6 last c rest hj hs width ih =>
    obtain ⟨last', hlast⟩ := ih (getLast?_tail_ne h)
    refine ⟨last', ?_⟩
    rw [List.cons_append, widthAfter_cons hj hs, widthAfter_cons hj hs, hlast, Nat.add_assoc]

theorem widthAfter_le_append (last : Option Char) (a b : List Char) :
    widthAfter last a ≤ widthAfter last (a ++ b) := by
  induction last, a using widthAfter.induct with
  | case1 | case2 => simp [widthAfter]
  | case3 last d rest ih => simpa only [List.cons_append, widthAfter_joiner] using ih
  | case4 rest _ _ ih | case5 rest _ ih =>
    simpa only [List.cons_append, widthAfter_selector, Nat.add_le_add_iff_left] using ih
  | case6 last c rest hj hs width ih =>
    simpa only [List.cons_append, widthAfter_cons hj hs, Nat.add_le_add_iff_left] using ih

/-- The columns of words that are measured one by one. -/
def wordsWidth : List (List Char) → Nat
  | [] => 0
  | word :: words => charsWidth word + wordsWidth words

/-- Words that are divided by blanks take up no more columns one by one than together. -/
theorem Divided.wordsWidth_le {words : List (List Char)} (h : Divided words) :
    wordsWidth words ≤ charsWidth words.flatten := by
  induction h with
  | one word => simp [wordsWidth]
  | @more word next words blank _ ih =>
    have hlast : word.getLast? ≠ some joiner := by
      obtain ⟨c, hc, hblank⟩ := blank
      rw [hc]
      rintro ⟨⟩
      exact absurd hblank (by decide)
    obtain ⟨last, hlast⟩ := exists_widthAfter_append none hlast (next :: words).flatten
    rw [wordsWidth, List.flatten_cons, charsWidth, charsWidth, hlast]
    exact Nat.add_le_add_left (ih.trans (widthAfter_none_le last _)) _

/-- A text is its front and blanks. -/
theorem exists_dropTrailingBlanks_append (cs : List Char) :
    ∃ tail, dropTrailingBlanks cs ++ tail = cs ∧ ∀ c ∈ tail, isBlank c = true := by
  refine ⟨(cs.reverse.takeWhile isBlank).reverse, ?_, fun c hc => ?_⟩
  · rw [dropTrailingBlanks, ← List.reverse_append, List.takeWhile_append_dropWhile,
      List.reverse_reverse]
  · exact List.mem_takeWhile_imp (List.mem_reverse.mp hc)

theorem charsWidth_dropTrailingBlanks_le (word : List Char) :
    charsWidth (dropTrailingBlanks word) ≤ charsWidth word := by
  obtain ⟨tail, hword, -⟩ := exists_dropTrailingBlanks_append word
  conv => rhs; rw [← hword]
  exact widthAfter_le_append none _ _

/-! ## Filling lines -/

namespace Filling

variable {folds : Bool} {width : Nat}

theorem flatten_startLine (f : Filling) (piece : List Char) :
    (f.startLine piece).lines.flatten = f.lines.flatten ++ piece := by
  unfold startLine lines
  split
  · next h =>
    simp only [Bool.and_eq_true, List.isEmpty_iff] at h
    simp [h.1, h.2]
  · simp

theorem flatten_add (f : Filling) (word : List Char) :
    (f.add folds width word).lines.flatten = f.lines.flatten ++ word := by
  have hchop : ∀ (pieces : List (List Char)) (f : Filling),
      (pieces.foldl startLine f).lines.flatten = f.lines.flatten ++ pieces.flatten := by
    intro pieces
    induction pieces with
    | nil => simp
    | cons piece pieces ih =>
      intro f
      rw [List.foldl_cons, ih, flatten_startLine, List.flatten_cons, List.append_assoc]
  unfold add
  dsimp only
  split
  · simp [lines]
  · split
    · split
      · rw [hchop, flatten_chop]
      · exact flatten_startLine f word
    · exact flatten_startLine f word

/-- Lines that are filled hold what they held and the words, in order. -/
theorem flatten_foldl_add (words : List (List Char)) (f : Filling) :
    (words.foldl (add folds width) f).lines.flatten = f.lines.flatten ++ words.flatten := by
  induction words generalizing f with
  | nil => simp
  | cons word words ih =>
    rw [List.foldl_cons, ih, flatten_add, List.flatten_cons, List.append_assoc]

/-- Words that fit side by side go into the line that was begun. -/
theorem foldl_add_of_fits {words : List (List Char)} {f : Filling}
    (h : f.used + wordsWidth words ≤ width) :
    (words.foldl (add folds width) f).lines = f.done ++ [f.line ++ words.flatten] := by
  induction words generalizing f with
  | nil => simp [lines]
  | cons word words ih =>
    rw [wordsWidth, ← Nat.add_assoc] at h
    have hsize := charsWidth_dropTrailingBlanks_le word
    have hadd : f.add folds width word =
        { f with line := f.line ++ word, used := f.used + charsWidth word } := by
      rw [add, if_pos (by omega)]
    rw [List.foldl_cons, hadd, ih h, List.flatten_cons, List.append_assoc]

end Filling

/-- The parts that a line is wrapped into, with the blanks that are beyond the width. -/
def partsOf (folds : Bool) (width : Nat) (line : List Char) : List (List Char) :=
  match wordsOf (line.length + 1) line with
  | [] => [line]
  | words => (words.foldl (Filling.add folds width) {}).lines

theorem wrapLine_eq (folds : Bool) (width : Nat) (line : List Char) :
    wrapLine folds width line = (partsOf folds width line).map (cropBlanks width) := by
  unfold wrapLine partsOf
  cases wordsOf (line.length + 1) line <;> rfl

/-- A line of blanks only is one part; any other is filled up with the words it is made of. -/
theorem partsOf_cases (folds : Bool) (width : Nat) (line : List Char) :
    (partsOf folds width line = [line] ∧ ∀ c ∈ line, isBlank c = true) ∨
      ∃ words, words.flatten = line ∧ Divided words ∧
        partsOf folds width line = (words.foldl (Filling.add folds width) {}).lines := by
  unfold partsOf
  rcases wordsOf_cases line.length line with ⟨hnil, hblank⟩ | ⟨word, rest, hwords, hword, hline, -⟩
  · rw [hnil]
    exact .inl ⟨rfl, hblank⟩
  · have hsome : ∃ c ∈ line, isBlank c = false := by
      obtain ⟨c, hc, hnot⟩ := hword
      exact ⟨c, by rw [hline]; exact List.mem_append_left _ hc, hnot⟩
    obtain ⟨hflat, hdivided⟩ := flatten_wordsOf (Nat.lt_succ_self _) hsome
    refine .inr ⟨_, hflat, hdivided, ?_⟩
    rw [hwords]

/-- The parts that a line is wrapped into, put together again, are the line. -/
theorem flatten_partsOf (folds : Bool) (width : Nat) (line : List Char) :
    (partsOf folds width line).flatten = line := by
  rcases partsOf_cases folds width line with ⟨hparts, -⟩ | ⟨words, hflat, -, hparts⟩
  · rw [hparts]
    simp
  · rw [hparts, Filling.flatten_foldl_add, hflat]
    rfl

/-! ## Lines that fit -/

/-- The line has no more columns than there are, and no more characters. -/
def Fits (width : Nat) (line : List Char) : Prop :=
  line.length ≤ width ∧ charsWidth line ≤ width

theorem cropBlanks_of_fits {width : Nat} {line : List Char} (h : line.length ≤ width) :
    cropBlanks width line = line := by
  simp [cropBlanks, Nat.sub_eq_zero_of_le h]

theorem crop_of_fits {width : Nat} {line : List Char} (h : charsWidth line ≤ width) :
    crop width line = line := by
  rw [crop, if_neg (Nat.not_lt.mpr h)]

theorem wrapLine_of_fits {folds : Bool} {width : Nat} {line : List Char} (h : Fits width line) :
    wrapLine folds width line = [line] := by
  have hparts : partsOf folds width line = [line] := by
    rcases partsOf_cases folds width line with ⟨hparts, -⟩ | ⟨words, hflat, hdivided, hparts⟩
    · exact hparts
    · have hwords := hdivided.wordsWidth_le
      rw [hflat] at hwords
      rw [hparts, Filling.foldl_add_of_fits (by simpa using hwords.trans h.2), hflat]
      rfl
  rw [wrapLine_eq, hparts, List.map_singleton, cropBlanks_of_fits h.1]

theorem expandTabs_of_not_mem {line : List Char} (h : '\t' ∉ line) : expandTabs line = line := by
  rw [expandTabs, splitChars_of_not_mem h]
  rfl

/-- The lines of a short text fit, since no character takes up more than two columns. -/
theorem fits_of_length {width : Nat} {cs : List Char} (h : 2 * cs.length ≤ width) :
    ∀ line ∈ splitChars '\n' cs, Fits width line := by
  intro line hline
  have hlength : line.length ≤ cs.length := by
    have hsub := (List.sublist_flatten_of_mem hline).length_le
    rw [flatten_splitChars] at hsub
    exact hsub.trans (List.length_filter_le _ cs)
  have hwidth := widthAfter_le none line
  exact ⟨by omega, hwidth.trans (by omega)⟩

/-- A text whose lines fit is put into these lines. -/
theorem shownLines_of_fits {width : Nat} {cs : List Char} (htab : '\t' ∉ cs)
    (h : ∀ line ∈ splitChars '\n' cs, Fits width line) :
    shownLines width cs = splitChars '\n' cs := by
  have hline : ∀ line ∈ splitChars '\n' cs,
      (wrapLine true width (expandTabs line)).map (crop width) = [line] := by
    intro line hline
    rw [expandTabs_of_not_mem fun hin => htab (mem_of_mem_splitChars hline hin).1,
      wrapLine_of_fits (h line hline), List.map_singleton, crop_of_fits (h line hline).2]
  rw [shownLines, List.flatMap_congr hline, List.flatMap_singleton']

/-! ## Characters that are printed -/

section Counts

variable {p : Char → Bool}

theorem countP_cutAt_le (hblank : p ' ' = false) (room : Nat) (cl : List Cluster) :
    (cutAt room cl).countP p ≤ (cl.flatMap (·.chars)).countP p := by
  fun_induction cutAt room cl with
  | case1 => simp
  | case2 => simp
  | case3 room cluster rest h ih =>
    simp only [List.countP_append, List.flatMap_cons]
    omega
  | case4 => simp [hblank]

theorem countP_crop_le (hblank : p ' ' = false) (width : Nat) (line : List Char) :
    (crop width line).countP p ≤ line.countP p := by
  unfold crop fit
  split
  · rw [if_neg (by omega)]
    have hcut := countP_cutAt_le hblank width (clusters line)
    rwa [flatMap_clusters] at hcut
  · exact Nat.le_refl _

theorem countP_joinTabbed (hblank : p ' ' = false) (column : Nat) (pieces : List (List Char)) :
    (joinTabbed column pieces).countP p = pieces.flatten.countP p := by
  fun_induction joinTabbed column pieces with
  | case1 => rfl
  | case2 => simp
  | case3 column piece rest _ filled ih =>
    simp only [List.countP_append, ih, List.flatten_cons]
    simp [filled, fillTab, blanks, List.countP_replicate, hblank]

theorem countP_expandTabs (hblank : p ' ' = false) (line : List Char) :
    (expandTabs line).countP p = (line.filter (· ≠ '\t')).countP p := by
  rw [expandTabs, countP_joinTabbed hblank, flatten_splitChars]

/-- What is printed of a line has characters of a kind as often as the line at most, unless they
are blanks. -/
theorem countP_wrapLine_le (hblank : p ' ' = false) (hend : p '\n' = false) (width : Nat)
    (line : List Char) :
    (((wrapLine true width line).map (crop width)).flatMap (· ++ ['\n'])).countP p ≤
      line.countP p := by
  rw [wrapLine_eq]
  conv => rhs; rw [← flatten_partsOf true width line]
  induction partsOf true width line with
  | nil => simp
  | cons part parts ih =>
    have hpart : (crop width (cropBlanks width part)).countP p ≤ part.countP p :=
      (countP_crop_le hblank width _).trans (List.take_sublist _ _).countP_le
    have hbreak : ['\n'].countP p = 0 := by simp [hend]
    simp only [List.map_cons, List.flatMap_cons, List.countP_append, List.flatten_cons, hbreak]
    omega

/-- A tab is never printed, and no character is added but blanks. -/
theorem countP_shownLines_le (hblank : p ' ' = false) (hend : p '\n' = false) (width : Nat)
    (cs : List Char) : ((shownLines width cs).flatMap (· ++ ['\n'])).countP p ≤
      (cs.filter (· ≠ '\t')).countP p := by
  have hlines : ∀ lines : List (List Char),
      ((lines.flatMap fun line => (wrapLine true width (expandTabs line)).map (crop width)).flatMap
        (· ++ ['\n'])).countP p ≤ (lines.flatten.filter (· ≠ '\t')).countP p := by
    intro lines
    induction lines with
    | nil => simp
    | cons line lines ih =>
      have hline := countP_wrapLine_le hblank hend width (expandTabs line)
      rw [countP_expandTabs hblank] at hline
      rw [List.flatMap_cons, List.flatMap_append, List.countP_append, List.flatten_cons,
        List.filter_append, List.countP_append]
      exact Nat.add_le_add hline ih
  refine (hlines (splitChars '\n' cs)).trans ?_
  rw [flatten_splitChars]
  exact (List.filter_sublist.filter _).countP_le

end Counts

theorem mem_of_mem_shownLines {width : Nat} {cs : List Char} {c : Char} (hblank : c ≠ ' ')
    (hend : c ≠ '\n') (h : c ∈ (shownLines width cs).flatMap (· ++ ['\n'])) :
    c ∈ cs ∧ c ≠ '\t' := by
  have hcount := countP_shownLines_le (p := (· == c)) (by simpa using hblank.symm)
    (by simpa using hend.symm) width cs
  have hin : c ∈ cs.filter (· ≠ '\t') :=
    List.count_pos_iff.mp ((List.count_pos_iff.mpr h).trans_le hcount)
  simpa using hin

end BundleBuild.Console
