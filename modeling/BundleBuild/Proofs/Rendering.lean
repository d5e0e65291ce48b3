/-
What marked-up text loses when it is shown. A tag vanishes, so does a backslash in front of a
bracket, and a code between colons gives way to its picture, in which there is no bracket, backslash
or colon. These three markers therefore never grow in number, and they become fewer with everything
that is read as more than itself. So a text that keeps its markers had no tag in it
(`weight_showPieces`), no escape and no code (`plain_of_weight`), and a text without these is shown
as it is (`piecesFrom_tagless`, `Plain.shown_eq`).
-/
import BundleBuild.Proofs.Keeping

namespace BundleBuild.Console

/-! ## Tags -/

/-- What stands between the brackets of a tag. -/
def IsTag (content : List Char) : Prop :=
  ∃ first more, content = first :: more ∧ startsTag first = true ∧ ∀ c ∈ more, c ≠ ']' ∧ c ≠ '['

/-- No part of the text is a tag. -/
def Tagless (cs : List Char) : Prop :=
  ∀ content, IsTag content → ¬ ('[' :: content ++ [']']) <:+: cs

theorem tagContent?_eq_some {cs content after : List Char}
    (h : tagContent? cs = some (content, after)) :
    IsTag content ∧ cs = content ++ ']' :: after := by
  cases cs with
  | nil => cases h
  | cons first rest =>
    simp only [tagContent?, drop_length_takeWhile] at h
    split at h
    · next tail hdrop =>
      split at h
      · next hfirst =>
        cases h
        refine ⟨⟨first, _, rfl, hfirst, fun c hc => ?_⟩, ?_⟩
        · simpa using List.mem_takeWhile_imp hc
        · rw [List.cons_append, ← hdrop, List.takeWhile_append_dropWhile]
      · cases h
    · cases h

/-- A tag that is found stands there, behind its escapes. -/
theorem tagAt?_eq_some {cs content after : List Char} {escapes : Nat}
    (h : tagAt? cs = some (escapes, content, after)) : IsTag content ∧
      cs = List.replicate escapes '\\' ++ ('[' :: content ++ ']' :: after) := by
  simp only [tagAt?, drop_length_takeWhile] at h
  split at h
  · next rest hdrop =>
    obtain ⟨⟨content', after'⟩, hcontent, heq⟩ := Option.map_eq_some_iff.mp h
    cases heq
    obtain ⟨htag, rfl⟩ := tagContent?_eq_some hcontent
    have hescapes : cs.takeWhile (fun c => decide (c = '\\')) =
        List.replicate (cs.takeWhile fun c => decide (c = '\\')).length '\\' :=
      List.eq_replicate_iff.mpr ⟨rfl, fun c hc => by simpa using List.mem_takeWhile_imp hc⟩
    refine ⟨htag, ?_⟩
    rw [← hescapes, List.cons_append, ← hdrop, List.takeWhile_append_dropWhile]
  · cases h

theorem Tagless.tail {c : Char} {cs : List Char} (h : Tagless (c :: cs)) : Tagless cs :=
  fun content htag hin => h content htag (hin.trans (List.suffix_cons c cs).isInfix)

theorem Tagless.tagAt?_eq_none {cs : List Char} (h : Tagless cs) : tagAt? cs = none := by
  cases hfound : tagAt? cs with
  | none => rfl
  | some found =>
    obtain ⟨escapes, content, after⟩ := found
    obtain ⟨htag, rfl⟩ := tagAt?_eq_some hfound
    exact absurd ⟨List.replicate escapes '\\', after, by simp⟩ (h content htag)

theorem tagless_cons {c : Char} {cs : List Char} (hhere : tagAt? (c :: cs) = none)
    (h : Tagless cs) : Tagless (c :: cs) := by
  intro content htag hin
  rcases List.infix_cons_iff.mp hin with hprefix | hin
  · obtain ⟨after, heq⟩ := hprefix
    obtain ⟨first, more, rfl, hfirst, hmore⟩ := htag
    rw [← heq] at hhere
    have hfound := tagAt?_content hfirst hmore after
    simp [hfound] at hhere
  · exact h content htag hin

/-- Text without tags is one piece. -/
theorem piecesFrom_tagless {cs before : List Char} {fuel position : Nat} (h : Tagless cs)
    (hfuel : cs.length < fuel) : piecesFrom fuel position before cs = [.text (before ++ cs)] := by
  induction cs generalizing before fuel position with
  | nil =>
    obtain ⟨fuel, rfl⟩ := Nat.exists_eq_succ_of_ne_zero (Nat.ne_of_gt hfuel)
    simp [piecesFrom]
  | cons c cs ih =>
    obtain ⟨fuel, rfl⟩ := Nat.exists_eq_succ_of_ne_zero (Nat.ne_of_gt (Nat.lt_of_le_of_lt
      (Nat.zero_le _) hfuel))
    rw [piecesFrom_char h.tagAt?_eq_none, ih h.tail (Nat.lt_of_succ_lt_succ hfuel)]
    simp

/-! ## Characters that are read as more than themselves -/

/-- The characters that markup is made of. -/
def isMarker (c : Char) : Bool :=
  c = '[' || c = '\\' || c = ':'

/-- How many of them a text has. -/
def weight (cs : List Char) : Nat :=
  cs.countP isMarker

@[simp]
theorem weight_nil : weight [] = 0 :=
  rfl

@[simp]
theorem weight_append (cs ds : List Char) : weight (cs ++ ds) = weight cs + weight ds :=
  List.countP_append

@[simp]
theorem weight_cons (c : Char) (cs : List Char) :
    weight (c :: cs) = weight cs + if isMarker c then 1 else 0 :=
  List.countP_cons

/-! ## Escapes -/

theorem weight_unescapeBrackets_le (cs : List Char) :
    weight (unescapeBrackets cs) ≤ weight cs := by
  fun_induction unescapeBrackets cs with
  | case1 rest ih =>
    simp only [weight_cons]
    omega
  | case2 c rest _ ih =>
    simp only [weight_cons]
    omega
  | case3 => exact Nat.le_refl _

/-- A text that loses nothing to escapes has none. -/
theorem not_escaped_of_weight {cs : List Char} (h : weight cs ≤ weight (unescapeBrackets cs)) :
    ¬ ['\\', '['] <:+: cs := by
  fun_induction unescapeBrackets cs with
  | case1 rest ih =>
    have hle := weight_unescapeBrackets_le rest
    simp [isMarker] at h
    omega
  | case2 c rest hother ih =>
    have hrest : weight rest ≤ weight (unescapeBrackets rest) := by
      simp only [weight_cons] at h
      omega
    intro hin
    rcases List.infix_cons_iff.mp hin with hprefix | hin
    · obtain ⟨after, heq⟩ := hprefix
      cases heq
      exact hother _ rfl rfl
    · exact ih hrest hin
  | case3 => simp

theorem unescapeBrackets_of_not_escaped {cs : List Char} (h : ¬ ['\\', '['] <:+: cs) :
    unescapeBrackets cs = cs := by
  fun_induction unescapeBrackets cs with
  | case1 rest => exact absurd (List.prefix_append ['\\', '['] rest).isInfix h
  | case2 c rest _ ih =>
    rw [ih fun hin => h (hin.trans (List.suffix_cons c rest).isInfix)]
  | case3 => rfl

/-! ## Pictures -/

theorem spelled_cons (cs : List Char) {lines : List String} {css : List (List Char)}
    (h : lines = css.map String.ofList) :
    String.ofList cs :: lines = (cs :: css).map String.ofList := by
  rw [h, List.map_cons]

-- The table is written out one line after the other: a literal is easily compared with its
-- characters, but they are not easily read out of it.
set_option maxRecDepth 20000 in
theorem spelled_emojiLines : ∃ css : List (List Char), emojiLines = css.map String.ofList ∧
    css.all (fun cs => cs.all fun c => !isMarker c) = true := by
  apply Exists.intro
  apply And.intro
  · unfold emojiLines
    repeat apply spelled_cons
    exact List.map_nil.symm
  · decide +kernel

theorem weight_eq_zero {cs : List Char} (h : ∀ c ∈ cs, isMarker c = false) : weight cs = 0 := by
  refine List.countP_eq_zero.mpr fun c hc => ?_
  simp [h c hc]

theorem mem_of_wordAfter? {name word : String} {words : List String}
    (h : wordAfter? name words = some word) : word ∈ words := by
  fun_induction wordAfter? name words with
  | case1 => simp_all
  | case2 key value rest _ ih => simp [ih h]
  | case3 => cases h

theorem weight_emoji? {name picture : String} (h : emoji? name = some picture) :
    weight picture.toList = 0 := by
  obtain ⟨css, htable, hplain⟩ := spelled_emojiLines
  obtain ⟨line, hline, hword⟩ := List.exists_of_findSome?_eq_some h
  rw [htable] at hline
  obtain ⟨cs, hcs, rfl⟩ := List.mem_map.mp hline
  obtain ⟨word, hsplit, rfl⟩ := List.mem_map.mp (mem_of_wordAfter? hword)
  refine weight_eq_zero fun c hc => ?_
  rw [String.toList_ofList] at hsplit hc
  have hin : c ∈ cs := (mem_of_mem_splitChars hsplit hc).1
  simpa using List.all_eq_true.mp (List.all_eq_true.mp hplain cs hcs) c hin

theorem weight_presentation (cs : List Char) : weight (splitPresentation cs).2.toList = 0 := by
  have hsign : ∀ {tail sign : String}, presentation? tail = some sign → weight sign.toList = 0 := by
    intro tail sign h
    unfold presentation? at h
    split at h <;> cases h <;> rfl
  unfold splitPresentation
  dsimp only
  split
  · next sign hfound =>
    split
    · exact hsign hfound
    · rfl
  · rfl

/-- Pictures are made of other characters than markup. -/
theorem weight_codePicture? {code : List Char} {picture : String}
    (h : codePicture? code = some picture) : weight picture.toList = 0 := by
  simp only [codePicture?] at h
  obtain ⟨base, hbase, rfl⟩ := Option.map_eq_some_iff.mp h
  rw [String.toList_append, weight_append, weight_emoji? hbase, weight_presentation]

/-! ## Codes -/

theorem codeAfter?_eq_some {cs code after : List Char} (h : codeAfter? cs = some (code, after)) :
    cs = code ++ ':' :: after ∧ ∀ c ∈ code, c ≠ ':' ∧ isBlank c = false := by
  simp only [codeAfter?, drop_length_takeWhile] at h
  split at h
  · next rest hdrop =>
    cases h
    refine ⟨?_, fun c hc => ?_⟩
    · rw [← hdrop, List.takeWhile_append_dropWhile]
    · simpa using List.mem_takeWhile_imp hc
  · cases h

theorem codeAfter?_append {code : List Char} (h : ∀ c ∈ code, c ≠ ':' ∧ isBlank c = false)
    (after : List Char) : codeAfter? (code ++ ':' :: after) = some (code, after) := by
  have htake : (code ++ ':' :: after).takeWhile (fun c => !decide (c = ':') && !isBlank c) =
      code := by
    rw [List.takeWhile_append_of_pos fun c hc => by simp [h c hc]]
    simp
  simp [codeAfter?, htake]

theorem exists_codeAfter? {code : List Char} (h : ∀ c ∈ code, isBlank c = false)
    (after : List Char) : ∃ found, codeAfter? (code ++ ':' :: after) = some found := by
  have hnone : ∀ c ∈ ([] : List Char), c ≠ ':' ∧ isBlank c = false := by simp
  induction code with
  | nil => exact ⟨_, codeAfter?_append hnone after⟩
  | cons c code ih =>
    by_cases hc : c = ':'
    · subst hc
      exact ⟨_, codeAfter?_append hnone (code ++ ':' :: after)⟩
    · obtain ⟨⟨code', after'⟩, hfound⟩ := ih fun d hd => h d (List.mem_cons_of_mem _ hd)
      obtain ⟨heq, hcode'⟩ := codeAfter?_eq_some hfound
      have hcode : ∀ d ∈ c :: code', d ≠ ':' ∧ isBlank d = false :=
        List.forall_mem_cons.mpr ⟨⟨hc, h c List.mem_cons_self⟩, hcode'⟩
      exact ⟨_, by rw [List.cons_append, heq]; exact codeAfter?_append hcode after'⟩

/-- A colon opens no code exactly when a blank comes before every colon behind it. -/
theorem codeAfter?_eq_none_iff {cs : List Char} : codeAfter? cs = none ↔
    ∀ code after, cs = code ++ ':' :: after → ∃ c ∈ code, isBlank c = true := by
  constructor
  · rintro h code after rfl
    by_contra hnone
    have hcode : ∀ c ∈ code, isBlank c = false := by simpa using hnone
    obtain ⟨found, hfound⟩ := exists_codeAfter? hcode after
    rw [hfound] at h
    cases h
  · intro h
    cases hfound : codeAfter? cs with
    | none => rfl
    | some found =>
      obtain ⟨code, after⟩ := found
      obtain ⟨rfl, hcode⟩ := codeAfter?_eq_some hfound
      obtain ⟨c, hc, hblank⟩ := h code after rfl
      rw [(hcode c hc).2] at hblank
      cases hblank

/-- No picture is named in the text, which is read from the left: a colon opens a code, unless a
blank comes before the next one, and a code that names no picture is passed over with both its
colons. -/
inductive Codeless : List Char → Prop
  | nil : Codeless []
  | char {c : Char} {rest : List Char} (other : c ≠ ':') (h : Codeless rest) :
    Codeless (c :: rest)
  | lone {rest : List Char}
    (unclosed : ∀ code after, rest = code ++ ':' :: after → ∃ c ∈ code, isBlank c = true)
    (h : Codeless rest) : Codeless (':' :: rest)
  | nameless {code after : List Char} (between : ∀ c ∈ code, c ≠ ':' ∧ isBlank c = false)
    (unknown : codePicture? code = none) (h : Codeless after) :
    Codeless (':' :: (code ++ ':' :: after))

section Steps

variable {fuel : Nat} {c : Char} {rest code after : List Char}

theorem showEmoji_char (h : c ≠ ':') :
    showEmoji (fuel + 1) (c :: rest) = c :: showEmoji fuel rest :=
  if_neg h

theorem showEmoji_lone (h : codeAfter? rest = none) :
    showEmoji (fuel + 1) (':' :: rest) = ':' :: showEmoji fuel rest := by
  refine (if_pos rfl).trans ?_
  rw [h]

theorem showEmoji_nameless (h : codeAfter? rest = some (code, after))
    (hunknown : codePicture? code = none) :
    showEmoji (fuel + 1) (':' :: rest) = ':' :: code ++ ':' :: showEmoji fuel after := by
  refine (if_pos rfl).trans ?_
  rw [h]
  simp only [hunknown]

theorem showEmoji_picture {picture : String} (h : codeAfter? rest = some (code, after))
    (hknown : codePicture? code = some picture) :
    showEmoji (fuel + 1) (':' :: rest) = picture.toList ++ showEmoji fuel after := by
  refine (if_pos rfl).trans ?_
  rw [h]
  simp only [hknown]

end Steps

theorem showEmoji_of_codeless {cs : List Char} (h : Codeless cs) (fuel : Nat) :
    showEmoji fuel cs = cs := by
  induction h generalizing fuel with
  | nil => cases fuel <;> rfl
  | char other _ ih =>
    cases fuel with
    | zero => rfl
    | succ fuel => rw [showEmoji_char other, ih]
  | lone unclosed _ ih =>
    cases fuel with
    | zero => rfl
    | succ fuel => rw [showEmoji_lone (codeAfter?_eq_none_iff.mpr unclosed), ih]
  | nameless between unknown _ ih =>
    cases fuel with
    | zero => rfl
    | succ fuel =>
      rw [showEmoji_nameless (codeAfter?_append between _) unknown, ih, List.cons_append]

/-- Pictures take the place of colons: a text that loses none of these has no codes. -/
theorem weight_showEmoji {fuel : Nat} {cs : List Char} (hfuel : cs.length ≤ fuel) :
    weight (showEmoji fuel cs) ≤ weight cs ∧
      (weight cs ≤ weight (showEmoji fuel cs) → Codeless cs) := by
  induction fuel generalizing cs with
  | zero =>
    obtain rfl := List.eq_nil_of_length_eq_zero (Nat.le_zero.mp hfuel)
    exact ⟨Nat.le_refl _, fun _ => .nil⟩
  | succ fuel ih =>
    cases cs with
    | nil => exact ⟨Nat.le_refl _, fun _ => .nil⟩
    | cons c rest =>
      have hrest : rest.length ≤ fuel := Nat.le_of_succ_le_succ hfuel
      by_cases hc : c = ':'
      · subst hc
        cases hcode : codeAfter? rest with
        | none =>
          rw [showEmoji_lone hcode]
          simp only [weight_cons]
          exact ⟨by have := (ih hrest).1; omega,
            fun h => .lone (codeAfter?_eq_none_iff.mp hcode) ((ih hrest).2 (by omega))⟩
        | some found =>
          obtain ⟨code, after⟩ := found
          obtain ⟨rfl, hbetween⟩ := codeAfter?_eq_some hcode
          have hafter : after.length ≤ fuel := by
            simp only [List.length_append, List.length_cons] at hrest
            omega
          cases hpicture : codePicture? code with
          | none =>
            rw [showEmoji_nameless hcode hpicture]
            simp only [weight_cons, weight_append, List.cons_append]
            exact ⟨by have := (ih hafter).1; omega,
              fun h => .nameless hbetween hpicture ((ih hafter).2 (by omega))⟩
          | some picture =>
            have hle := (ih hafter).1
            rw [showEmoji_picture hcode hpicture]
            simp only [weight_cons, weight_append, weight_codePicture? hpicture]
            have hcolon : isMarker ':' = true := by decide
            simp only [hcolon, if_true]
            exact ⟨by omega, fun h => by omega⟩
      · rw [showEmoji_char hc]
        simp only [weight_cons]
        exact ⟨by have := (ih hrest).1; omega, fun h => .char hc ((ih hrest).2 (by omega))⟩

/-! ## Text between tags -/

/-- Nothing in a text between tags is read as more than itself. -/
structure Plain (cs : List Char) : Prop where
  unescaped : ¬ ['\\', '['] <:+: cs
  codeless : Codeless cs

theorem Plain.shown_eq {cs : List Char} (h : Plain cs) :
    replaceEmoji (unescapeBrackets cs) = cs := by
  rw [unescapeBrackets_of_not_escaped h.unescaped, replaceEmoji, showEmoji_of_codeless h.codeless]

theorem weight_shown_le (cs : List Char) :
    weight (replaceEmoji (unescapeBrackets cs)) ≤ weight cs :=
  (weight_showEmoji (Nat.le_refl _)).1.trans (weight_unescapeBrackets_le cs)

theorem plain_of_weight {cs : List Char}
    (h : weight cs ≤ weight (replaceEmoji (unescapeBrackets cs))) : Plain cs := by
  have hpictures := weight_showEmoji (Nat.le_refl (unescapeBrackets cs).length)
  have hunescaped := not_escaped_of_weight (h.trans hpictures.1)
  refine ⟨hunescaped, ?_⟩
  rw [replaceEmoji] at h
  rw [unescapeBrackets_of_not_escaped hunescaped] at h hpictures
  exact hpictures.2 h

theorem showPieces_text {opened : List OpenTag} {cs shown : List Char} {rest : List Piece}
    (h : showPieces opened (.text cs :: rest) = .ok shown) :
    ∃ more, showPieces opened rest = .ok more ∧
      shown = replaceEmoji (unescapeBrackets cs) ++ more := by
  obtain ⟨more, hmore, rfl⟩ := map_eq_ok_iff.mp h
  exact ⟨more, hmore, rfl⟩

theorem showPieces_tag {opened : List OpenTag} {position : Nat} {content shown : List Char}
    {rest : List Piece} (h : showPieces opened (.tag position content :: rest) = .ok shown) :
    ∃ others, showPieces others rest = .ok shown := by
  rw [showPieces] at h
  split at h
  · obtain ⟨others, -, hothers⟩ := bind_eq_ok_iff.mp h
    exact ⟨others, hothers⟩
  · obtain ⟨known, -, hknown⟩ := bind_eq_ok_iff.mp h
    exact ⟨_, hknown⟩

/-! ## Pieces of a message -/

theorem tagless_nil : Tagless [] := by
  rintro content - hin
  cases List.infix_nil.mp hin

/-- A tag goes with its bracket, and an escaped one with one backslash at least. -/
theorem exists_showPieces_after {fuel position escapes : Nat} {c : Char}
    {rest before content after shown : List Char} {opened : List OpenTag}
    (htag : tagAt? (c :: rest) = some (escapes, content, after))
    (h : showPieces opened (piecesFrom (fuel + 1) position before (c :: rest)) = .ok shown) :
    ∃ others next more, showPieces others (piecesFrom fuel next [] after) = .ok more ∧
      after.length < (c :: rest).length ∧
      weight shown + weight after < weight before + weight (c :: rest) + weight more := by
  obtain ⟨-, hcs⟩ := tagAt?_eq_some htag
  have hlength : after.length < (c :: rest).length := by
    rw [hcs]
    simp only [List.length_append, List.length_cons]
    omega
  have hescapes : ∀ n, weight (List.replicate n '\\') = n := fun n => by
    simp [weight, List.countP_replicate, isMarker]
  have hbrackets : isMarker '[' = true ∧ isMarker ']' = false := by decide
  have hweight : weight (c :: rest) = escapes + (weight content + 1 + weight after) := by
    rw [hcs]
    simp only [weight_append, weight_cons, List.cons_append, hescapes, hbrackets]
    simp
    omega
  have hbefore := weight_shown_le before
  have hhalves := weight_shown_le (List.replicate (escapes / 2) '\\')
  rw [hescapes] at hhalves
  simp only [piecesFrom, htag] at h
  split at h
  · next hodd =>
    obtain ⟨_, hfirst, rfl⟩ := showPieces_text h
    obtain ⟨_, hsecond, rfl⟩ := showPieces_text hfirst
    obtain ⟨more, hthen, rfl⟩ := showPieces_text hsecond
    have hkept := weight_shown_le ('[' :: content ++ [']'])
    have hown : weight ('[' :: content ++ [']']) = weight content + 1 := by
      simp [hbrackets]
    refine ⟨_, _, more, hthen, hlength, ?_⟩
    simp only [weight_append]
    omega
  · obtain ⟨_, hfirst, rfl⟩ := showPieces_text h
    obtain ⟨_, hsecond, rfl⟩ := showPieces_text hfirst
    obtain ⟨others, hthen⟩ := showPieces_tag hsecond
    refine ⟨_, _, _, hthen, hlength, ?_⟩
    simp only [weight_append]
    omega

/-- What is shown of a text has no more markers than the text, and fewer if there is a tag in it. -/
theorem weight_showPieces {fuel position : Nat} {before cs shown : List Char}
    {opened : List OpenTag} (hfuel : cs.length < fuel)
    (h : showPieces opened (piecesFrom fuel position before cs) = .ok shown) :
    weight shown ≤ weight before + weight cs ∧
      (weight before + weight cs ≤ weight shown → Tagless cs) := by
  induction fuel generalizing position before cs shown opened with
  | zero => cases hfuel
  | succ fuel ih =>
    cases cs with
    | nil =>
      obtain ⟨more, hmore, rfl⟩ := showPieces_text h
      cases hmore
      simpa using ⟨weight_shown_le before, fun _ => tagless_nil⟩
    | cons c rest =>
      cases htag : tagAt? (c :: rest) with
      | none =>
        rw [piecesFrom_char htag] at h
        obtain ⟨hle, htagless⟩ := ih (Nat.lt_of_succ_lt_succ hfuel) h
        simp only [weight_append, weight_cons, weight_nil] at hle htagless ⊢
        exact ⟨by omega, fun hw => tagless_cons htag (htagless (by omega))⟩
      | some found =>
        obtain ⟨escapes, content, after⟩ := found
        obtain ⟨others, next, more, hthen, hlength, hlt⟩ := exists_showPieces_after htag h
        have hle := (ih (by omega) hthen).1
        rw [weight_nil] at hle
        exact ⟨by omega, fun hw => by omega⟩

end BundleBuild.Console
