/-
Which messages can be shown. A status line is marked-up text, so a message is read for tags like any
other part of it, and one that closes what was never opened cannot be shown. Where a tag would have
to start with an opening bracket that the message does not hold, there is none to read: the sign in
front is closed by itself, and the line is shown (`exists_statusLine`). What is shown is at least
one line.
-/
import Mathlib.Data.List.TakeWhile
import BundleBuild.Console.Line
import BundleBuild.Proofs.Containment

namespace BundleBuild.Console

/-! ## Pieces of a text -/

theorem tagAt?_plain {cs : List Char} (h : '[' ∉ cs) : tagAt? cs = none := by
  unfold tagAt?
  dsimp only
  split
  · next rest hdrop =>
    exact absurd (List.mem_of_mem_drop (hdrop ▸ List.mem_cons_self)) h
  · rfl

/-- Text without an opening bracket is one piece. -/
theorem piecesFrom_plain : ∀ {cs before : List Char} {fuel position : Nat}, '[' ∉ cs →
    cs.length < fuel → piecesFrom fuel position before cs = [.text (before ++ cs)]
  | [], before, fuel + 1, position, _, _ => by simp [piecesFrom]
  | c :: cs, before, fuel + 1, position, h, hfuel => by
    have hcs : '[' ∉ cs := fun hin => h (List.mem_cons_of_mem _ hin)
    simp only [piecesFrom, tagAt?_plain h, piecesFrom_plain hcs (Nat.lt_of_succ_lt_succ hfuel),
      List.append_assoc, List.singleton_append]

theorem piecesFrom_tag {c : Char} {rest content after before : List Char} {fuel position : Nat}
    (h : tagAt? (c :: rest) = some (0, content, after)) :
    piecesFrom (fuel + 1) position before (c :: rest) =
      .text before :: .text [] :: .tag position content ::
        piecesFrom fuel (position + content.length + 2) [] after := by
  simp [piecesFrom, h]

theorem piecesFrom_char {c : Char} {rest before : List Char} {fuel position : Nat}
    (h : tagAt? (c :: rest) = none) : piecesFrom (fuel + 1) position before (c :: rest) =
      piecesFrom fuel (position + 1) (before ++ [c]) rest := by
  simp [piecesFrom, h]

/-! ## Tags of one word -/

/-- What a tag may start with and what it may go on with makes it one. -/
theorem tagAt?_content {first : Char} {more : List Char} (hfirst : startsTag first = true)
    (hmore : ∀ c ∈ more, c ≠ ']' ∧ c ≠ '[') (rest : List Char) :
    tagAt? ('[' :: first :: (more ++ ']' :: rest)) = some (0, first :: more, rest) := by
  have htake : (more ++ ']' :: rest).takeWhile (fun c => !decide (c = ']') && !decide (c = '[')) =
      more := by
    rw [List.takeWhile_append_of_pos fun c hc => by simp [hmore c hc]]
    simp
  simp [tagAt?, tagContent?, htake, hfirst]

/-- A word of small letters. -/
structure IsWord (cs : List Char) : Prop where
  letters : cs.all (fun c => 'a' ≤ c ∧ c ≤ 'z') = true
  word : blankWords cs = [cs]
  /-- It is no colour that is mixed of three parts. -/
  unmixed : bracketed? "rgb" (lowerText (String.ofList cs)) = none

namespace IsWord

variable {cs : List Char}

theorem letter (h : IsWord cs) {c : Char} (hc : c ∈ cs) : 'a' ≤ c ∧ c ≤ 'z' :=
  of_decide_eq_true (List.all_eq_true.mp h.letters c hc)

theorem ne_of_letter {c : Char} (h : 'a' ≤ c ∧ c ≤ 'z') :
    c ≠ ']' ∧ c ≠ '[' ∧ c ≠ '=' ∧ c ≠ '/' := by
  refine ⟨?_, ?_, ?_, ?_⟩ <;>
  · rintro rfl
    exact absurd h (by decide)

theorem eq_cons (h : IsWord cs) : ∃ first more, cs = first :: more ∧ startsTag first = true := by
  cases hc : cs with
  | nil =>
    have hword := h.word
    rw [hc] at hword
    cases hword
  | cons first more =>
    refine ⟨first, more, rfl, ?_⟩
    have hletter := h.letter (c := first) (by simp [hc])
    simp [startsTag, hletter]

theorem unbracketed (h : IsWord cs) : ∀ c ∈ cs, c ≠ ']' ∧ c ≠ '[' := fun _ hc =>
  ⟨(ne_of_letter (h.letter hc)).1, (ne_of_letter (h.letter hc)).2.1⟩

theorem tagAt?_open (h : IsWord cs) (rest : List Char) :
    tagAt? ('[' :: (cs ++ ']' :: rest)) = some (0, cs, rest) := by
  obtain ⟨first, more, rfl, hfirst⟩ := h.eq_cons
  exact tagAt?_content hfirst (fun c hc => h.unbracketed c (List.mem_cons_of_mem _ hc)) rest

theorem tagAt?_close (h : IsWord cs) (rest : List Char) :
    tagAt? ('[' :: '/' :: (cs ++ ']' :: rest)) = some (0, '/' :: cs, rest) :=
  tagAt?_content (by decide) h.unbracketed rest

/-- A word is a style or is taken as it is written. -/
theorem exists_nameOf (h : IsWord cs) : ∃ name, nameOf cs = .ok name := by
  have hcolour : ∃ known, isColour (lowerText (String.ofList cs)) = .ok known := by
    unfold isColour
    split
    · exact ⟨true, rfl⟩
    · exact ⟨false, by rw [isMixedColour, h.unmixed]⟩
  obtain ⟨known, hknown⟩ := hcolour
  have hadd : ∃ style, Style.add {} [String.ofList cs] = .ok style := by
    unfold Style.add
    split
    · exact ⟨_, rfl⟩
    · unfold Style.addWord
      split
      · exact ⟨_, rfl⟩
      · exact ⟨_, by rw [hknown]; rfl⟩
  obtain ⟨style, hstyle⟩ := hadd
  have hname : ∃ name, styleName cs = .ok name := by
    unfold styleName
    dsimp only
    split
    · exact ⟨_, rfl⟩
    · rw [h.word, List.map_cons, List.map_nil, hstyle]
      cases style with
      | none => exact ⟨_, rfl⟩
      | some s => exact ⟨_, rfl⟩
  obtain ⟨name, hname⟩ := hname
  exact ⟨name, by rw [nameOf, hname]; rfl⟩

theorem takeWhile_eq (h : IsWord cs) : cs.takeWhile (fun c => decide (c ≠ '=')) = cs := by
  refine List.takeWhile_eq_self_iff.mpr fun c hc => ?_
  exact decide_eq_true (ne_of_letter (h.letter hc)).2.2.1

theorem showPieces_open (h : IsWord cs) {name : String} (hname : nameOf cs = .ok name)
    (opened : List OpenTag) (position : Nat) (rest : List Piece) :
    showPieces opened (.tag position cs :: rest) = showPieces (⟨name, []⟩ :: opened) rest := by
  obtain ⟨first, more, hcons, -⟩ := h.eq_cons
  have hfirst : first ≠ '/' := (ne_of_letter (h.letter (c := first) (by simp [hcons]))).2.2.2
  have hnothing : cs.drop (cs.length + 1) = [] := by simp
  rw [showPieces]
  simp only [h.takeWhile_eq]
  split
  · cases hcons
    exact absurd rfl hfirst
  · rw [hname, hnothing]
    rfl

theorem close_bare (name : String) : OpenTag.close ⟨name, []⟩ = .ok () := by
  unfold OpenTag.close
  split <;> rfl

theorem showPieces_close (h : IsWord cs) {name : String} (hname : nameOf cs = .ok name)
    (position : Nat) (rest : List Piece) :
    showPieces [⟨name, []⟩] (.tag position ('/' :: cs) :: rest) = showPieces [] rest := by
  have hwhole : ('/' :: cs).takeWhile (fun c => decide (c ≠ '=')) = '/' :: cs := by
    rw [List.takeWhile_cons_of_pos (by decide), h.takeWhile_eq]
  have hclosed : closeTag [⟨name, []⟩] position ('/' :: cs) cs = .ok [] := by
    unfold closeTag
    split
    · simp [close_bare, Except.map]
    · simp [hname, bind, Except.bind, close_bare, Except.map]
  rw [showPieces]
  simp only [hwhole, hclosed]
  rfl

end IsWord

/-! ## The mark of a sign -/

/-- A mark between an opening and a closing tag of one colour, and a blank. -/
structure IsMark (cs colour : List Char) (mark : Char) : Prop where
  spelled : cs = '[' :: colour ++ ']' :: mark :: '[' :: '/' :: colour ++ [']', ' ']
  colour : IsWord colour
  mark : mark ≠ '[' ∧ mark ≠ '\\' ∧ mark ≠ ':'

/-- What is shown in front of the message. -/
def Sign.shown : Sign → String
  | .success => "✓ "
  | .error => "✗ "
  | .warning => "⚠ "
  | .none => ""

theorem Sign.isMark : ∀ sign : Sign, sign = .none ∨
    ∃ colour mark, IsMark sign.markup.toList colour mark ∧ sign.shown.toList = [mark, ' ']
  | .success => .inr ⟨"green".toList, '✓',
      ⟨by decide, ⟨by decide, by decide, by decide⟩, by decide⟩, by decide⟩
  | .error => .inr ⟨"red".toList, '✗',
      ⟨by decide, ⟨by decide, by decide, by decide⟩, by decide⟩, by decide⟩
  | .warning => .inr ⟨"yellow".toList, '⚠',
      ⟨by decide, ⟨by decide, by decide, by decide⟩, by decide⟩, by decide⟩
  | .none => .inl rfl

namespace IsMark

variable {cs colour : List Char} {mark : Char}

/-- A sign in front of a message: two tags with the mark between them, and the message is read on
from the blank. -/
theorem exists_pieces (h : IsMark cs colour mark) (message : List Char) :
    ∃ fuel closing position, message.length < fuel ∧ pieces (cs ++ message) =
      .text [] :: .text [] :: .tag 0 colour :: .text [mark] :: .text [] ::
        .tag closing ('/' :: colour) :: piecesFrom fuel position [' '] message := by
  have hmark : ∀ rest, tagAt? (mark :: rest) = none := by
    intro rest
    simp [tagAt?, h.mark.1, h.mark.2.1]
  have hblank : ∀ rest, tagAt? (' ' :: rest) = none := fun rest => by simp [tagAt?]
  have hspelled : cs ++ message =
      '[' :: (colour ++ ']' :: (mark :: '[' :: '/' :: (colour ++ ']' :: (' ' :: message)))) := by
    simp [h.spelled]
  -- Four characters start a piece or end one; each tag takes at least one.
  have hfuel : ∃ fuel, (cs ++ message).length + 1 = message.length + fuel + 1 + 1 + 1 + 1 + 1 := by
    refine ⟨(cs ++ message).length - message.length - 4, ?_⟩
    rw [hspelled]
    simp only [List.length_cons, List.length_append]
    omega
  obtain ⟨fuel, hfuel⟩ := hfuel
  rw [pieces, hfuel, hspelled, piecesFrom_tag (h.colour.tagAt?_open _), piecesFrom_char (hmark _),
    piecesFrom_tag (h.colour.tagAt?_close _), piecesFrom_char (hblank _)]
  exact ⟨_, _, _, by omega, rfl⟩

/-- A sign is shown as its mark: the one tag that is opened is closed. -/
theorem showPieces_mark (h : IsMark cs colour mark) (closing : Nat) (rest : List Piece) :
    showPieces [] (.text [] :: .text [] :: .tag 0 colour :: .text [mark] :: .text [] ::
      .tag closing ('/' :: colour) :: rest) = (showPieces [] rest).map (mark :: ·) := by
  obtain ⟨name, hname⟩ := h.colour.exists_nameOf
  have hmark : replaceEmoji (unescapeBrackets [mark]) = [mark] := by
    have hplain : unescapeBrackets [mark] = [mark] := by simp [unescapeBrackets]
    rw [hplain]
    exact if_neg h.mark.2.2
  rw [showPieces, showPieces, h.colour.showPieces_open hname, showPieces, showPieces,
    h.colour.showPieces_close hname, hmark]
  cases showPieces [] rest <;> rfl

end IsMark

/-! ## Lines -/

/-- A message without an opening bracket can be shown behind any sign. -/
theorem exists_statusLine (width : Nat) (sign : Sign) {message : String}
    (h : '[' ∉ message.toList) : ∃ text, statusLine width sign message = .ok text := by
  have hshown : ∃ shown, showMarkup (sign.markup ++ message) = .ok shown := by
    unfold showMarkup
    dsimp only
    rw [String.toList_append]
    split
    · next hbracket =>
      rcases sign.isMark with rfl | ⟨colour, mark, hmark, -⟩
      · simp [Sign.markup, h] at hbracket
      · obtain ⟨fuel, closing, position, hfuel, hpieces⟩ := hmark.exists_pieces message.toList
        rw [hpieces, hmark.showPieces_mark, piecesFrom_plain h hfuel]
        exact ⟨_, rfl⟩
    · exact ⟨_, rfl⟩
  obtain ⟨shown, hok⟩ := hshown
  exact ⟨_, by rw [statusLine, hok]; rfl⟩

theorem wrapLine_ne_nil (folds : Bool) (width : Nat) (line : List Char) :
    wrapLine folds width line ≠ [] := by
  unfold wrapLine
  split <;> simp [Filling.lines]

theorem shownLines_ne_nil (width : Nat) (cs : List Char) : shownLines width cs ≠ [] := by
  obtain ⟨line, hline⟩ := List.exists_mem_of_ne_nil _ (splitChars_ne_nil '\n' cs)
  obtain ⟨part, hpart⟩ := List.exists_mem_of_ne_nil _ (wrapLine_ne_nil true width (expandTabs line))
  exact List.ne_nil_of_mem (List.mem_flatMap.mpr ⟨line, hline, List.mem_map_of_mem hpart⟩)

/-- A status line is never empty. -/
theorem statusLine_ne {width : Nat} {sign : Sign} {message text : String}
    (h : statusLine width sign message = .ok text) : text ≠ "" := by
  unfold statusLine at h
  cases hshown : showMarkup (sign.markup ++ message) with
  | error e => rw [hshown] at h; cases h
  | ok shown =>
    rw [hshown] at h
    have htext := Except.ok.inj h
    obtain ⟨line, hline⟩ :=
      List.exists_mem_of_ne_nil _ (shownLines_ne_nil width shown.toList)
    have hend : '\n' ∈ (shownLines width shown.toList).flatMap (· ++ ['\n']) :=
      List.mem_flatMap.mpr ⟨line, hline, by simp⟩
    intro hempty
    have hnil := String.ofList_eq_empty_iff.mp (htext.trans hempty)
    rw [hnil] at hend
    cases hend

end BundleBuild.Console
