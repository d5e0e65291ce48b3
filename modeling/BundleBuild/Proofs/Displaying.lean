/-
Which messages a status line shows as they are written (`displays`). The message is put behind its
sign and the whole is read as markup, so a message is shown to the letter only if nothing in it can
be read so: a word in brackets is lost, and a message that closes a tag which was never opened
cannot be shown at all. That nothing else gets lost is seen by counting: what is printed has the
brackets, backslashes and colons of the message only if they all stand for themselves.

How a text is put into lines depends on the width. Lines that fit are printed to the letter but for
tabs, and of longer ones all that can be seen.
-/
import BundleBuild.Proofs.Rendering

namespace BundleBuild.Console

/-! ## Signs -/

/-- A text without brackets is read like any other. -/
theorem showMarkup_eq (s : String) : showMarkup s =
    (showPieces [] (pieces s.toList)).map fun cs => String.ofList (cs.filter (!isStripped ·)) := by
  unfold showMarkup
  dsimp only
  split
  · rfl
  · next hnone =>
    have hplain : '[' ∉ s.toList := by simpa using hnone
    have hunescaped : ¬ ['\\', '['] <:+: s.toList := fun hin => hplain (hin.subset (by simp))
    rw [pieces, piecesFrom_plain hplain (Nat.lt_succ_self _), showPieces, showPieces,
      List.nil_append, unescapeBrackets_of_not_escaped hunescaped]
    simp [Except.map]

/-- A message behind a sign is read on from the blank, with no tag open. -/
theorem Sign.exists_showPieces (sign : Sign) (message : List Char) :
    ∃ front before fuel position, sign.shown.toList = front ++ before ∧
      (before = [] ∨ before = [' ']) ∧ message.length < fuel ∧
      showPieces [] (pieces (sign.markup.toList ++ message)) =
        (showPieces [] (piecesFrom fuel position before message)).map (front ++ ·) := by
  rcases sign.isMark with rfl | ⟨colour, mark, hmark, hshown⟩
  · refine ⟨[], [], message.length + 1, 0, rfl, .inl rfl, Nat.lt_succ_self _, ?_⟩
    have hmarkup : Sign.none.markup.toList = [] := rfl
    rw [hmarkup, pieces, List.nil_append]
    cases showPieces [] (piecesFrom (message.length + 1) 0 [] message) <;> rfl
  · obtain ⟨fuel, closing, position, hfuel, hpieces⟩ := hmark.exists_pieces message
    exact ⟨[mark], [' '], fuel, position, hshown, .inr rfl, hfuel,
      by rw [hpieces, hmark.showPieces_mark]; rfl⟩

theorem Sign.weight_shown (sign : Sign) : weight sign.shown.toList = 0 := by
  cases sign <;> decide

theorem Sign.filter_shown (sign : Sign) :
    sign.shown.toList.filter (!isStripped ·) = sign.shown.toList := by
  cases sign <;> decide

theorem plain_append_iff {before cs : List Char} (h : before = [] ∨ before = [' ']) :
    Plain (before ++ cs) ↔ Plain cs := by
  rcases h with rfl | rfl
  · rfl
  · constructor
    · rintro ⟨hunescaped, hcodeless⟩
      refine ⟨fun hin => hunescaped (hin.trans (List.suffix_cons ' ' cs).isInfix), ?_⟩
      cases hcodeless with
      | char _ hcodeless => exact hcodeless
    · rintro ⟨hunescaped, hcodeless⟩
      refine ⟨fun hin => ?_, .char (by decide) hcodeless⟩
      rcases List.infix_cons_iff.mp hin with ⟨after, heq⟩ | hin
      · cases heq
      · exact hunescaped hin

/-! ## Texts of status lines -/

/-- Nothing in the text is read as markup: no tag, no escape and no code. -/
structure Unmarked (cs : List Char) : Prop extends Plain cs where
  tagless : Tagless cs

section Texts

variable {sign : Sign} {message : String}

/-- Markup shows as less than it is: text that loses no markers has none. -/
theorem unmarked_of_weight {text : String} (h : showMarkup (sign.markup ++ message) = .ok text)
    (hweight : weight message.toList ≤ weight text.toList) : Unmarked message.toList := by
  obtain ⟨front, before, fuel, position, hsign, hbefore, hfuel, hpieces⟩ :=
    sign.exists_showPieces message.toList
  rw [showMarkup_eq, String.toList_append, hpieces] at h
  obtain ⟨_, hwhole, rfl⟩ := map_eq_ok_iff.mp h
  obtain ⟨shown, hshown, rfl⟩ := map_eq_ok_iff.mp hwhole
  have hnone := sign.weight_shown
  rw [hsign, weight_append] at hnone
  have hkept : weight message.toList ≤ weight shown := by
    rw [String.toList_ofList, List.filter_append, weight_append] at hweight
    have hfront : weight (front.filter (!isStripped ·)) ≤ weight front :=
      List.filter_sublist.countP_le
    have hrest : weight (shown.filter (!isStripped ·)) ≤ weight shown :=
      List.filter_sublist.countP_le
    omega
  have htagless : Tagless message.toList := (weight_showPieces hfuel hshown).2 (by omega)
  rw [piecesFrom_tagless htagless hfuel] at hshown
  obtain ⟨more, hmore, rfl⟩ := showPieces_text hshown
  cases hmore
  refine ⟨(plain_append_iff hbefore).mp (plain_of_weight ?_), htagless⟩
  rw [weight_append]
  simp only [List.append_nil] at hkept
  omega

theorem exists_showMarkup (sign : Sign) (h : Tagless message.toList) :
    ∃ text, showMarkup (sign.markup ++ message) = .ok text := by
  obtain ⟨front, before, fuel, position, -, -, hfuel, hpieces⟩ :=
    sign.exists_showPieces message.toList
  rw [showMarkup_eq, String.toList_append, hpieces, piecesFrom_tagless h hfuel]
  exact ⟨_, rfl⟩

/-- Text without markup is shown but for controls. -/
theorem showMarkup_of_unmarked (h : Unmarked message.toList) :
    showMarkup (sign.markup ++ message) =
      .ok (sign.shown ++ String.ofList (message.toList.filter (!isStripped ·))) := by
  obtain ⟨front, before, fuel, position, hsign, hbefore, hfuel, hpieces⟩ :=
    sign.exists_showPieces message.toList
  have hplain : Plain (before ++ message.toList) := (plain_append_iff hbefore).mpr h.toPlain
  rw [showMarkup_eq, String.toList_append, hpieces, piecesFrom_tagless h.tagless hfuel, showPieces,
    hplain.shown_eq, showPieces]
  simp only [Except.map, List.append_nil, ← List.append_assoc, ← hsign]
  rw [List.filter_append, sign.filter_shown, String.ofList_append, String.ofList_toList]

/-! ## Closing what is not open -/

theorem tagAt?_front {c : Char} {front : List Char} (hbracket : '[' ∉ c :: front)
    (hlast : (c :: front).getLast? ≠ some '\\') (rest : List Char) :
    tagAt? (c :: front ++ rest) = none := by
  have hsome : (c :: front).dropWhile (fun d => decide (d = '\\')) ≠ [] := by
    intro hempty
    have hall : ∀ d ∈ c :: front, d = '\\' := by
      simpa [List.dropWhile_eq_nil_iff] using hempty
    rw [List.getLast?_eq_some_getLast (List.cons_ne_nil c front)] at hlast
    exact hlast (congrArg some (hall _ (List.getLast_mem _)))
  obtain ⟨d, more, hdrop⟩ := List.exists_cons_of_ne_nil hsome
  have hd : d ≠ '[' := by
    rintro rfl
    exact hbracket ((List.dropWhile_suffix _).subset (hdrop ▸ List.mem_cons_self))
  have happend : (c :: front ++ rest).dropWhile (fun d => decide (d = '\\')) =
      d :: (more ++ rest) := by
    rw [List.dropWhile_append, hdrop]
    rfl
  simp only [tagAt?, drop_length_takeWhile]
  rw [happend]
  split
  · next heq =>
    cases heq
    exact absurd rfl hd
  · rfl

theorem piecesFrom_front {front rest before : List Char} {fuel position : Nat}
    (hbracket : '[' ∉ front) (hlast : front.getLast? ≠ some '\\') :
    piecesFrom (fuel + front.length) position before (front ++ rest) =
      piecesFrom fuel (position + front.length) (before ++ front) rest := by
  induction front generalizing position before with
  | nil => simp
  | cons c front ih =>
    have hhere : tagAt? (c :: (front ++ rest)) = none := tagAt?_front hbracket hlast rest
    have hbracket' : '[' ∉ front := fun hin => hbracket (List.mem_cons_of_mem c hin)
    rw [List.length_cons, ← Nat.add_assoc, List.cons_append, piecesFrom_char hhere,
      ih hbracket' (getLast?_tail_ne hlast)]
    simp [Nat.add_assoc, Nat.add_comm 1]

/-- The first tag of a text stands alone behind the text in front of it. -/
theorem exists_piecesFrom_tagged {front content after before : List Char} {fuel position : Nat}
    (hbracket : '[' ∉ front) (hlast : front.getLast? ≠ some '\\')
    (htag : tagAt? ('[' :: (content ++ ']' :: after)) = some (0, content, after))
    (hfuel : (front ++ '[' :: (content ++ ']' :: after)).length < fuel) :
    ∃ left next, after.length < left ∧
      piecesFrom fuel position before (front ++ '[' :: (content ++ ']' :: after)) =
        .text (before ++ front) :: .text [] :: .tag (position + front.length) content ::
          piecesFrom left next [] after := by
  obtain ⟨left, rfl, hleft⟩ : ∃ left, fuel = left + 1 + front.length ∧ after.length < left := by
    refine ⟨fuel - 1 - front.length, ?_⟩
    simp only [List.length_append, List.length_cons] at hfuel
    omega
  exact ⟨left, _, hleft, by rw [piecesFrom_front hbracket hlast, piecesFrom_tag htag]⟩

/-- A closing tag cannot be shown where no tag is open. -/
theorem exists_showPieces_error (position : Nat) (closing : List Char) (rest : List Piece) :
    ∃ e, showPieces [] (.tag position ('/' :: closing) :: rest) = .error e := by
  have hclose : ∀ content closing, ∃ e, closeTag [] position content closing = .error e := by
    intro content closing
    unfold closeTag
    split
    · exact ⟨_, rfl⟩
    · cases nameOf closing with
      | error e => exact ⟨e, rfl⟩
      | ok name => exact ⟨_, rfl⟩
  obtain ⟨e, he⟩ := hclose ('/' :: closing) (closing.takeWhile (· ≠ '='))
  have hname : ('/' :: closing).takeWhile (fun c => decide (c ≠ '=')) =
      '/' :: closing.takeWhile (· ≠ '=') := List.takeWhile_cons_of_pos (by decide)
  refine ⟨e, ?_⟩
  rw [showPieces]
  simp only [hname, he]
  rfl

/-- A message that closes a tag before it opens one is refused behind any sign. -/
theorem exists_statusLine_error {width : Nat} {front closing after : List Char}
    (hmessage : message.toList = front ++ '[' :: '/' :: (closing ++ ']' :: after))
    (hbracket : '[' ∉ front) (hlast : front.getLast? ≠ some '\\')
    (hclosing : ∀ c ∈ closing, c ≠ ']' ∧ c ≠ '[') :
    ∃ e, statusLine width sign message = .error e := by
  obtain ⟨out, before, fuel, position, -, -, hfuel, hpieces⟩ :=
    sign.exists_showPieces message.toList
  have htagged : message.toList = front ++ '[' :: ('/' :: closing ++ ']' :: after) := hmessage
  rw [htagged] at hfuel
  obtain ⟨left, next, -, hfirst⟩ := exists_piecesFrom_tagged hbracket hlast
    (tagAt?_content (by decide) hclosing after) hfuel
  obtain ⟨e, he⟩ := exists_showPieces_error (position + front.length) closing
    (piecesFrom left next [] after)
  refine ⟨e, ?_⟩
  rw [htagged, hfirst, showPieces, showPieces, ← htagged] at hpieces
  rw [statusLine, showMarkup_eq, String.toList_append, hpieces, he]
  rfl

/-! ## Words in brackets -/

theorem isMarker_eq_false_of_weight {cs : List Char} (h : weight cs = 0) :
    ∀ c ∈ cs, isMarker c = false := by
  simpa [weight, List.countP_eq_zero] using h

/-- A word in brackets is taken for a style and not shown. -/
theorem showMarkup_word {front word back : List Char} (hword : IsWord word)
    (hmessage : message.toList = front ++ '[' :: (word ++ ']' :: back))
    (hfront : weight front = 0) (hback : weight back = 0) : showMarkup (sign.markup ++ message) =
      .ok (sign.shown ++ String.ofList ((front ++ back).filter (!isStripped ·))) := by
  obtain ⟨out, before, fuel, position, hsign, hbefore, hfuel, hpieces⟩ :=
    sign.exists_showPieces message.toList
  have hunbracketed : ∀ {cs : List Char}, weight cs = 0 → '[' ∉ cs := fun h hin =>
    absurd (isMarker_eq_false_of_weight h _ hin) (by decide)
  have hlast : front.getLast? ≠ some '\\' := fun h =>
    absurd (isMarker_eq_false_of_weight hfront _ (List.mem_of_getLast? h)) (by decide)
  have hplain : Plain (before ++ front) ∧ Plain back :=
    ⟨(plain_append_iff hbefore).mpr (plain_of_weight (by omega)), plain_of_weight (by omega)⟩
  have hnone : replaceEmoji (unescapeBrackets []) = [] := rfl
  obtain ⟨name, hname⟩ := hword.exists_nameOf
  rw [hmessage] at hfuel
  obtain ⟨left, next, hleft, hfirst⟩ := exists_piecesFrom_tagged (hunbracketed hfront) hlast
    (hword.tagAt?_open back) hfuel
  rw [hmessage, hfirst, showPieces, showPieces, hword.showPieces_open hname,
    piecesFrom_plain (hunbracketed hback) hleft, showPieces, showPieces, List.nil_append,
    hplain.1.shown_eq, hplain.2.shown_eq, hnone, ← hmessage] at hpieces
  rw [showMarkup_eq, String.toList_append, hpieces]
  simp only [Except.map, List.append_nil, List.nil_append, ← List.append_assoc, ← hsign]
  rw [List.append_assoc, List.filter_append, sign.filter_shown, String.ofList_append,
    String.ofList_toList]

end Texts

/-! ## Lines -/

/-- What is printed with all the markers of the message has no markup, and none of the controls
that are taken out. -/
theorem unmarked_of_printed {width : Nat} {sign : Sign} {message line : String}
    (h : statusLine width sign message = .ok line)
    (hweight : weight message.toList ≤ weight line.toList) : Unmarked message.toList ∧
      ∀ c ∈ line.toList, c ≠ ' ' → c ≠ '\n' → isStripped c = false ∧ c ≠ '\t' := by
  obtain ⟨text, htext, rfl⟩ := map_eq_ok_iff.mp h
  rw [String.toList_ofList] at hweight ⊢
  have hkept : weight message.toList ≤ weight text.toList := by
    have hprinted := countP_shownLines_le (p := isMarker) (by decide) (by decide) width text.toList
    exact (hweight.trans hprinted).trans List.filter_sublist.countP_le
  have hunmarked := unmarked_of_weight htext hkept
  refine ⟨hunmarked, fun c hc hblank hend => ?_⟩
  obtain ⟨hin, htab⟩ := mem_of_mem_shownLines hblank hend hc
  refine ⟨?_, htab⟩
  rw [showMarkup_of_unmarked hunmarked] at htext
  rw [← Except.ok.inj htext, String.toList_append, String.toList_ofList, ← sign.filter_shown,
    ← List.filter_append] at hin
  simpa using (List.mem_filter.mp hin).2

theorem weight_visible (cs : List Char) : weight (visible cs) = weight cs := by
  have hseen : ∀ {c : Char}, isMarker c = true → isBlank c = false := by
    intro c hc
    simp only [isMarker, Bool.or_eq_true, decide_eq_true_eq] at hc
    rcases hc with (rfl | rfl) | rfl <;> decide
  rw [weight, visible, List.countP_filter]
  refine List.countP_congr fun c _ => ?_
  simpa using hseen

section Lines

variable {width : Nat} {sign : Sign} {message : String}

theorem statusLine_of_unmarked (h : Unmarked message.toList) : statusLine width sign message =
    .ok (String.ofList ((shownLines width
      (sign.shown.toList ++ message.toList.filter (!isStripped ·))).flatMap (· ++ ['\n']))) := by
  rw [statusLine, showMarkup_of_unmarked h]
  simp [Except.map]

/-- Before it is put into lines, a message is shown as it is written, unless it has markup. -/
theorem showMarkup_eq_ok_iff :
    showMarkup (sign.markup ++ message) = .ok (sign.shown ++ message) ↔
      Unmarked message.toList ∧ ∀ c ∈ message.toList, isStripped c = false := by
  constructor
  · intro h
    have hunmarked : Unmarked message.toList := unmarked_of_weight h (by simp)
    rw [showMarkup_of_unmarked hunmarked] at h
    have hkept := congrArg String.toList (Except.ok.inj h)
    simp only [String.toList_append, String.toList_ofList, List.append_cancel_left_eq,
      List.filter_eq_self] at hkept
    exact ⟨hunmarked, fun c hc => by simpa using hkept c hc⟩
  · rintro ⟨hunmarked, hkept⟩
    have hfilter : message.toList.filter (!isStripped ·) = message.toList :=
      List.filter_eq_self.mpr fun c hc => by simp [hkept c hc]
    rw [showMarkup_of_unmarked hunmarked, hfilter, String.ofList_toList]

theorem visible_filter_stripped {cs : List Char}
    (h : ∀ c ∈ cs, isStripped c = true → isBlank c = true) :
    visible (cs.filter (!isStripped ·)) = visible cs := by
  rw [visible, visible, List.filter_filter]
  refine List.filter_congr fun c hc => ?_
  cases hstripped : isStripped c with
  | true => simp [h c hc hstripped]
  | false => simp

/-- All that can be seen of a message is printed, unless it has markup. -/
theorem exists_statusLine_visible_iff (hwidth : 2 ≤ width) (hunjoined : Unjoined message.toList) :
    (∃ line, statusLine width sign message = .ok line ∧
        visible line.toList = visible (sign.shown ++ message).toList) ↔
      Unmarked message.toList ∧ ∀ c ∈ message.toList, isStripped c = true → isBlank c = true := by
  constructor
  · rintro ⟨line, hline, hvisible⟩
    have hweight := congrArg weight hvisible
    rw [weight_visible, weight_visible, String.toList_append, weight_append] at hweight
    obtain ⟨hunmarked, hkept⟩ := unmarked_of_printed hline (by omega)
    refine ⟨hunmarked, fun c hc hstripped => ?_⟩
    by_contra hnot
    have hin : c ∈ visible (sign.shown ++ message).toList :=
      List.mem_filter.mpr ⟨by simp [hc], by simpa using hnot⟩
    rw [← hvisible] at hin
    have hout := hkept c (List.mem_filter.mp hin).1 (by rintro rfl; cases hstripped)
      (by rintro rfl; cases hstripped)
    rw [hout.1] at hstripped
    cases hstripped
  · rintro ⟨hunmarked, hkept⟩
    have hsign : Unjoined sign.shown.toList := by
      cases sign <;> exact ⟨by decide, by decide⟩
    have htext : Unjoined (sign.shown.toList ++ message.toList.filter (!isStripped ·)) :=
      hsign.append (hunjoined.subset List.filter_sublist.subset)
    refine ⟨_, statusLine_of_unmarked hunmarked, ?_⟩
    rw [String.toList_ofList, visible_shownLines hwidth htext, visible_append,
      visible_filter_stripped hkept, String.toList_append, visible_append]

/-- Text whose lines fit is printed as it is. -/
theorem statusLine_of_fits {text : String} (h : showMarkup (sign.markup ++ message) = .ok text)
    (htab : '\t' ∉ text.toList)
    (hfits : ∀ line ∈ splitChars '\n' text.toList, Fits width line) :
    statusLine width sign message = .ok (text ++ "\n") := by
  rw [statusLine, h, Except.map, shownLines_of_fits htab hfits, flatMap_splitChars,
    String.ofList_append, String.ofList_toList]

theorem statusLine_verbatim_iff
    (hfits : ∀ line ∈ splitChars '\n' (sign.shown ++ message).toList, Fits width line) :
    statusLine width sign message = .ok (sign.shown ++ message ++ "\n") ↔
      Unmarked message.toList ∧ ∀ c ∈ message.toList, isStripped c = false ∧ c ≠ '\t' := by
  constructor
  · intro hline
    obtain ⟨hunmarked, hkept⟩ := unmarked_of_printed hline (by simp; omega)
    refine ⟨hunmarked, fun c hc => ?_⟩
    by_cases hblank : c = ' ' ∨ c = '\n'
    · rcases hblank with rfl | rfl <;> decide
    · exact hkept c (by simp [hc]) (fun heq => hblank (.inl heq)) fun heq => hblank (.inr heq)
  · rintro ⟨hunmarked, hkept⟩
    have htab : '\t' ∉ (sign.shown ++ message).toList := by
      have hsign : '\t' ∉ sign.shown.toList := by cases sign <;> decide
      rw [String.toList_append, List.mem_append]
      exact fun h => h.elim hsign fun hin => (hkept _ hin).2 rfl
    exact statusLine_of_fits
      (showMarkup_eq_ok_iff.mpr ⟨hunmarked, fun c hc => (hkept c hc).1⟩) htab hfits

/-- Brackets and colons alone are no markup. -/
example : statusLine 80 .error "a: [1]" = .ok "✗ a: [1]\n" := by
  have hcolon : codeAfter? " [1]".toList = none := by decide
  have hcodeless : Codeless "a: [1]".toList :=
    .char (by decide) (.lone (codeAfter?_eq_none_iff.mp hcolon)
      (.char (by decide) (.char (by decide) (.char (by decide) (.char (by decide) .nil)))))
  have htagless : Tagless "a: [1]".toList := by
    repeat' first | exact tagless_nil | apply tagless_cons
    all_goals decide
  have hkept : "a: [1]".toList.all (fun c => !isStripped c && c ≠ '\t') = true := by decide
  rw [(statusLine_verbatim_iff (fits_of_length (by decide))).mpr
    ⟨⟨⟨by decide, hcodeless⟩, htagless⟩, by simpa using hkept⟩]
  decide

end Lines

/-- What becomes of a message behind a sign, on a console of so many columns. -/
structure Displays (width : Nat) (sign : Sign) (message : String) : Prop where
  /-- A message without tags is printed. -/
  printed : Tagless message.toList → ∃ line, statusLine width sign message = .ok line
  /-- One that closes a tag before it opens any is not. -/
  refused : ∀ {front closing after : List Char},
    message.toList = front ++ '[' :: '/' :: (closing ++ ']' :: after) → '[' ∉ front →
    front.getLast? ≠ some '\\' → (∀ c ∈ closing, c ≠ ']' ∧ c ≠ '[') →
    ∃ e, statusLine width sign message = .error e
  /-- A word in brackets is lost. -/
  lost : ∀ {front word back : List Char}, IsWord word →
    message.toList = front ++ '[' :: (word ++ ']' :: back) → weight front = 0 → weight back = 0 →
    showMarkup (sign.markup ++ message) =
      .ok (sign.shown ++ String.ofList ((front ++ back).filter (!isStripped ·)))
  /-- Before it is put into lines, the text is the message exactly when nothing in this is markup
  and nothing is a control that is taken out. -/
  text : showMarkup (sign.markup ++ message) = .ok (sign.shown ++ message) ↔
    Unmarked message.toList ∧ ∀ c ∈ message.toList, isStripped c = false
  /-- In lines of whatever length, exactly then are all the characters printed that can be seen. -/
  seen : 2 ≤ width → Unjoined message.toList →
    ((∃ line, statusLine width sign message = .ok line ∧
        visible line.toList = visible (sign.shown ++ message).toList) ↔
      Unmarked message.toList ∧ ∀ c ∈ message.toList, isStripped c = true → isBlank c = true)
  /-- Where the lines fit, exactly then is the message printed to the letter, if it has no tabs. -/
  verbatim : (∀ line ∈ splitChars '\n' (sign.shown ++ message).toList, Fits width line) →
    (statusLine width sign message = .ok (sign.shown ++ message ++ "\n") ↔
      Unmarked message.toList ∧ ∀ c ∈ message.toList, isStripped c = false ∧ c ≠ '\t')

/-- **A message is shown as it is written exactly when none of it is markup.** -/
theorem displays (width : Nat) (sign : Sign) (message : String) : Displays width sign message where
  printed h := by
    obtain ⟨text, htext⟩ := exists_showMarkup sign h
    exact ⟨_, by rw [statusLine, htext]; rfl⟩
  refused := exists_statusLine_error
  lost := showMarkup_word
  text := showMarkup_eq_ok_iff
  seen := exists_statusLine_visible_iff
  verbatim := statusLine_verbatim_iff

/-- A word in brackets is not shown. -/
theorem statusLine_bracketed :
    statusLine 80 .success "Built [ab] x" = .ok "✓ Built  x\n" := by
  have hword : IsWord "ab".toList := ⟨by decide, by decide, by decide⟩
  have hmessage : "Built [ab] x".toList =
      "Built ".toList ++ '[' :: ("ab".toList ++ ']' :: " x".toList) := by decide
  have hshown : Sign.success.shown ++ String.ofList
      (("Built ".toList ++ " x".toList).filter (!isStripped ·)) = "✓ Built  x" := by decide
  have htext : showMarkup (Sign.success.markup ++ "Built [ab] x") = .ok "✓ Built  x" := by
    rw [showMarkup_word hword hmessage (by decide) (by decide), hshown]
  rw [statusLine_of_fits htext (by decide) (fits_of_length (by decide))]
  decide

end BundleBuild.Console
