/-
What a define argument says can be read back from it. The name of a define may hold anything, equals
signs and quotes too, and so may a text; still no two defines have one argument, since there is a
reader that finds both halves again (`readDefine`). It goes by the numbers of characters, so that it
reads texts with halves of surrogate pairs as well.

The half to find first is the literal, from its end. One that ends in a quote is a text: going
backwards, each quote inside it has a backslash before it, and the one that opens it an equals sign
(`splitOpening_escape`). Any other literal has no equals sign at all
(`readBinding_bare`).
-/
import Mathlib.Data.List.Basic
import Mathlib.Data.List.Induction
import Mathlib.Data.List.TakeWhile
import BundleBuild.Command.Arguments

namespace BundleBuild

/-! ## Texts between quotes -/

/-- What stands before the first quote that no backslash escapes, with the escapes undone, and what
stands behind this quote. -/
def readUntilQuote : Points → Option (Points × Points)
  | [] => none
  | 39 :: rest => some ([], rest)
  | [92] => none
  | 92 :: n :: rest => (readUntilQuote rest).map fun (text, after) => (n :: text, after)
  | n :: rest => (readUntilQuote rest).map fun (text, after) => (n :: text, after)

/-- The text between a quote that opens it and the one that closes it, and what comes after. -/
def readQuoted : Points → Option (Points × Points)
  | 39 :: rest => readUntilQuote rest
  | _ => none

/-- Escaping is undone from left to right, and no escaped quote is taken for the closing one. -/
theorem readUntilQuote_escape (rest : Points) : ∀ ps : Points,
    readUntilQuote (escapePoints ps ++ 39 :: rest) = some (ps, rest)
  | [] => rfl
  | n :: ps => by
    have ih := readUntilQuote_escape rest ps
    rw [escapePoints, List.flatMap_cons, ← escapePoints]
    split
    · simp [readUntilQuote, ih]
    · next hplain =>
      simp only [Bool.or_eq_true, decide_eq_true_eq, not_or] at hplain
      rw [List.cons_append, List.cons_append, readUntilQuote, List.nil_append, ih]
      · rfl
      all_goals simp [hplain]

/-- The literal of a text closes with its last character and reads back as the text. -/
theorem readQuoted_pointsLiteral (ps : Points) :
    readQuoted (pointsLiteral ps) = some (ps, []) :=
  readUntilQuote_escape [] ps

theorem points_textLiteral (s : String) : points (textLiteral s) = pointsLiteral (points s) := by
  have hescape : ∀ c : Char,
      (if c = '\\' ∨ c = '\'' then ['\\', c] else [c]).map Char.toNat =
        if c.toNat = 92 ∨ c.toNat = 39 then [92, c.toNat] else [c.toNat] := fun c => by
    have hbackslash : c.toNat = 92 ↔ c = '\\' := Char.toNat_inj (d := '\\')
    have hquote : c.toNat = 39 ↔ c = '\'' := Char.toNat_inj (d := '\'')
    simp only [hbackslash, hquote]
    split <;> rfl
  simp [textLiteral, points, pointsLiteral, escapePoints, escapeEvery_escapeEvery, List.map_flatMap,
    List.flatMap_map, hescape]

/-! ## Where a literal opens -/

/-- Backwards, what stands before the first quote that an equals sign follows, and what stands
behind this sign. -/
def splitOpening : Points → Option (Points × Points)
  | 39 :: 61 :: rest => some ([], rest)
  | n :: rest => (splitOpening rest).map fun (body, name) => (n :: body, name)
  | [] => none

theorem splitOpening_cons {n : Nat} (hn : n ≠ 39) (rest : Points) :
    splitOpening (n :: rest) = (splitOpening rest).map fun (body, name) => (n :: body, name) := by
  rw [splitOpening]
  simp [hn]

theorem splitOpening_quote {n : Nat} (hn : n ≠ 61) (rest : Points) :
    splitOpening (39 :: n :: rest) =
      (splitOpening (n :: rest)).map fun (body, name) => (39 :: body, name) := by
  rw [splitOpening]
  simp [hn]

/-- Backwards, the escaped form of a text begins with its last character, escaped. -/
theorem reverse_escapePoints (n : Nat) (ps : Points) :
    (escapePoints (ps ++ [n])).reverse =
      if n = 92 || n = 39 then n :: 92 :: (escapePoints ps).reverse
      else n :: (escapePoints ps).reverse := by
  rw [escapePoints, List.flatMap_append, List.flatMap_singleton, List.reverse_append,
    ← escapePoints]
  split <;> rfl

theorem splitOpening_escape (name ps : Points) :
    splitOpening ((escapePoints ps).reverse ++ 39 :: 61 :: name) =
      some ((escapePoints ps).reverse, name) := by
  -- The reader comes from the end, so the text has to grow there.
  induction ps using List.reverseRecOn with
  | nil => rfl
  | append_singleton ps n ih =>
    rw [reverse_escapePoints]
    by_cases hquote : n = 39
    · simp [hquote, splitOpening_quote, splitOpening_cons, ih]
    · split <;> simp [splitOpening_cons hquote, splitOpening_cons, ih]

/-! ## Whole numbers -/

theorem toNat_of_isDigit {c : Char} (h : c.isDigit = true) : 48 ≤ c.toNat ∧ c.toNat ≤ 57 := by
  simpa [Char.isDigit, UInt32.le_iff_toNat_le] using h

theorem digitValue?_of_isDigit {c : Char} (h : c.isDigit = true) :
    digitValue? 10 c = some (c.toNat - '0'.toNat) := by
  have hrange := toNat_of_isDigit h
  have hvalue : c.toNat - 48 < 10 := by omega
  simp [digitValue?, hrange, hvalue]

theorem isDigitRun_of_isDigit : ∀ {cs : List Char}, cs ≠ [] → (∀ c ∈ cs, c.isDigit = true) →
    isDigitRun 10 cs = true
  | [], hsome, _ => absurd rfl hsome
  | [c], _, h => by simp [isDigitRun, digitValue?_of_isDigit (h c (by simp))]
  | c :: d :: rest, _, h => by
    have hmark : d ≠ '_' := by
      rintro rfl
      exact absurd (h '_' (by simp)) (by decide)
    have hrest : isDigitRun 10 (d :: rest) = true :=
      isDigitRun_of_isDigit (by simp) fun x hx => h x (List.mem_cons_of_mem _ hx)
    rw [isDigitRun, digitValue?_of_isDigit (h c (by simp)), hrest]
    · rfl
    · simp
    · simp [hmark]

theorem digitsValue_of_isDigit {cs : List Char} (h : ∀ c ∈ cs, c.isDigit = true) :
    digitsValue 10 cs = Nat.ofDigitChars 10 cs 0 := by
  rw [digitsValue, Nat.ofDigitChars_eq_foldl]
  generalize 0 = acc
  induction cs generalizing acc with
  | nil => rfl
  | cons c cs ih =>
    obtain ⟨hc, hcs⟩ := List.forall_mem_cons.mp h
    rw [List.foldl_cons, List.foldl_cons, ih hcs, digitValue?_of_isDigit hc, Nat.mul_comm acc]

theorem plainSpelling_points {cs : List Char} (h : ∀ c ∈ cs, c.toNat < 127) :
    plainSpelling (points (String.ofList cs)) = cs := by
  rw [plainSpelling, points, String.toList_ofList, List.map_map]
  conv_rhs => rw [← List.map_id cs]
  refine List.map_congr_left fun c hc => ?_
  simp [plainPoint, h c hc]

theorem dropBaseMark_ten (cs : List Char) : dropBaseMark 10 cs = cs := by
  unfold dropBaseMark
  split <;> simp [baseLetters]

/-- A number with its sign, written out. -/
def signed (negative : Bool) (digits : List Char) : List Char :=
  if negative then '-' :: digits else digits

section Signed

variable {digits : List Char} (negative : Bool) (h : ∀ c ∈ digits, c.isDigit = true)
include h

theorem splitSign_signed : splitSign (signed negative digits) = (negative, digits) := by
  cases negative with
  | true => rfl
  | false =>
    have hplus : '+' ∉ digits := fun hin => absurd (h _ hin) (by decide)
    have hminus : '-' ∉ digits := fun hin => absurd (h _ hin) (by decide)
    simp only [signed]
    unfold splitSign
    split <;> simp_all

theorem toNat_of_mem_signed {c : Char} (hc : c ∈ signed negative digits) :
    45 ≤ c.toNat ∧ c.toNat ≤ 57 := by
  have hcases : c = '-' ∨ c ∈ digits := by
    cases negative <;> simp_all [signed]
  rcases hcases with rfl | hdigit
  · decide
  · have hrange := toNat_of_isDigit (h c hdigit)
    omega

theorem dropWhile_signed : (signed negative digits).dropWhile isPlainWhite =
    signed negative digits := by
  refine List.dropWhile_eq_self_iff.mpr fun hl => ?_
  have hrange := toNat_of_mem_signed negative h (List.getElem_mem hl)
  grind [isPlainWhite, isWhite, isWhiteNumber]

/-- Digits that are not too many read as the number they spell, with the sign before them. -/
theorem readInt?_signed (hsome : digits ≠ []) (hlong : digits.length ≤ digitLimit) :
    readInt? (String.ofList (signed negative digits)) =
      some (withSign negative (Nat.ofDigitChars 10 digits 0)) := by
  have hplain : plainSpelling (points (String.ofList (signed negative digits))) =
      signed negative digits := by
    refine plainSpelling_points fun c hc => ?_
    have hrange := toNat_of_mem_signed negative h hc
    omega
  have hrun : digits.takeWhile (fun c => (digitValue? 10 c).isSome || c = '_') = digits :=
    List.takeWhile_eq_self_iff.mpr fun c hc => by simp [digitValue?_of_isDigit (h c hc)]
  have hcount : digits.filter (· ≠ '_') = digits := by
    refine List.filter_eq_self.mpr fun c hc => ?_
    have hmark : c ≠ '_' := by
      rintro rfl
      exact absurd (h _ hc) (by decide)
    simpa using hmark
  simp only [readInt?, readInt, hplain, dropWhile_signed negative h, splitSign_signed negative h,
    dropBaseMark_ten, hrun, hcount, isDigitRun_of_isDigit hsome h, digitsValue_of_isDigit h]
  simp [Nat.not_lt.mpr hlong, Except.toOption]

end Signed

theorem toList_writeInt (n : Int) :
    (writeInt n).toList = signed (n < 0) (Nat.toDigits 10 n.natAbs) := by
  cases n with
  | ofNat n => simp [writeInt, signed]
  | negSucc n => simp [writeInt, signed, Int.negSucc_lt_zero]

theorem isDigit_toDigits (n : Nat) : ∀ c ∈ Nat.toDigits 10 n, c.isDigit = true :=
  fun _ hc => Nat.isDigit_of_mem_toDigits (by decide) (by decide) hc

/-- A written number has digits and a minus, so neither letters, nor quotes, nor equals signs. -/
theorem not_mem_writeInt {n : Nat} (hn : n < 45 ∨ 57 < n) (k : Int) : n ∉ points (writeInt k) := by
  intro hin
  obtain ⟨c, hc, rfl⟩ := List.mem_map.mp hin
  rw [toList_writeInt] at hc
  have hrange := toNat_of_mem_signed _ (isDigit_toDigits _) hc
  omega

theorem length_toDigits_le {n limit : Nat} (hlimit : 0 < limit) (h : n < Nat.pow 10 limit) :
    (Nat.toDigits 10 n).length ≤ limit :=
  (Nat.length_toDigits_le_iff (by decide) hlimit).mpr h

theorem withSign_natAbs (n : Int) : withSign (n < 0) n.natAbs = n := by
  simp only [withSign, decide_eq_true_eq]
  split <;> omega

/-- A whole number that can be written reads back. -/
theorem readInt?_writeInt {n : Int} (h : n.natAbs < Nat.pow 10 digitLimit) :
    readInt? (writeInt n) = some n := by
  have hlong := length_toDigits_le (by decide) h
  have hread := readInt?_signed (n < 0) (isDigit_toDigits _) Nat.toDigits_ne_nil hlong
  rw [← toList_writeInt, String.ofList_toList, Nat.ofDigitChars_ten_toDigits] at hread
  rw [hread, withSign_natAbs]

/-! ## Reading a define -/

/-- A value that a define can be read back as: a text, a truth value, or a whole number that can be
written. -/
inductive Legible : Datum → Prop
  | text (s : String) : Legible (.text s)
  | unpaired (ps : Points) : Legible (.unpaired ps)
  | bool (b : Bool) : Legible (.bool b)
  | int {n : Int} (short : n.natAbs < Nat.pow 10 digitLimit) : Legible (.int n)

/-- A literal that stands in no quotes. -/
def readBare? (literal : String) : Option Datum :=
  if literal = "true" then some (.bool true)
  else if literal = "false" then some (.bool false)
  else (readInt? literal).map .int

/-- The text that has these characters. -/
def spell (ps : Points) : String :=
  String.ofList (ps.map Char.ofNat)

@[simp] theorem spell_points (s : String) : spell (points s) = s := by
  have hback : Char.ofNat ∘ Char.toNat = id := funext Char.ofNat_toNat
  rw [spell, points, List.map_map, hback, List.map_id, String.ofList_toList]

/-- The name and the value that an equals sign joins. Whether the value is a text shows at its
end. -/
def readBinding (text : Points → Datum) (ps : Points) : Option (String × Datum) :=
  match ps.reverse with
  | 39 :: back => do
    let (body, name) ← splitOpening back
    let (value, after) ← readQuoted (39 :: body.reverse ++ [39])
    if after.isEmpty then some (spell name.reverse, text value) else none
  | back =>
    let literal := spell (back.takeWhile (· ≠ 61)).reverse
    let name := spell ((back.dropWhile (· ≠ 61)).drop 1).reverse
    (readBare? literal).map fun value => (name, value)

/-- The name and the value that the argument sets. -/
def readDefine : Word → Option (String × Datum)
  | .text s => ((points s).dropPrefix? (points "--define=")).bind (readBinding (.text ∘ spell))
  | .unpaired ps => (ps.dropPrefix? (points "--define=")).bind (readBinding .unpaired)

theorem readBinding_quoted (text : Points → Datum) (name : String) (ps : Points) :
    readBinding text (points name ++ 61 :: pointsLiteral ps) = some (name, text ps) := by
  have hquoted := readQuoted_pointsLiteral ps
  rw [pointsLiteral, List.cons_append] at hquoted
  simp [readBinding, pointsLiteral, splitOpening_escape, hquoted]

/-- A literal with no quotes and no equals sign is what follows the last equals sign. -/
theorem readBinding_bare {text : Points → Datum} {name literal : String} {value : Datum}
    (hsome : points literal ≠ []) (hquote : 39 ∉ points literal) (hequals : 61 ∉ points literal)
    (h : readBare? literal = some value) :
    readBinding text (points name ++ 61 :: points literal) = some (name, value) := by
  have hback : (points name ++ 61 :: points literal).reverse =
      (points literal).reverse ++ 61 :: (points name).reverse := by simp
  have hall : ∀ n ∈ (points literal).reverse, decide (n ≠ 61) = true := by
    intro n hn
    rw [List.mem_reverse] at hn
    exact decide_eq_true fun heq => hequals (heq ▸ hn)
  unfold readBinding
  split
  · next back hends =>
    refine absurd (List.mem_reverse.mp ?_) hquote
    obtain ⟨n, rest, hrest⟩ := List.exists_cons_of_ne_nil (List.reverse_ne_nil_iff.mpr hsome)
    rw [hback, hrest, List.cons_append] at hends
    rw [hrest, (List.cons.inj hends).1]
    exact List.mem_cons_self
  · rw [hback, List.takeWhile_append_of_pos hall, List.dropWhile_append_of_pos hall]
    simp [h]

theorem readBare?_writeInt {n : Int} (h : n.natAbs < Nat.pow 10 digitLimit) :
    readBare? (writeInt n) = some (.int n) := by
  have hword : ∀ word : String, 101 ∈ points word → writeInt n ≠ word := by
    rintro _ he rfl
    exact not_mem_writeInt (by decide) n he
  have htrue := hword "true" (by decide)
  have hfalse := hword "false" (by decide)
  simp [readBare?, htrue, hfalse, readInt?_writeInt h]

theorem points_append (s t : String) : points (s ++ t) = points s ++ points t := by
  simp [points]

/-- The numbers of the characters of a word. -/
def Word.points : Word → Points
  | .text s => BundleBuild.points s
  | .unpaired ps => ps

/-- What a text in quotes stands for: in a word without halves of surrogate pairs there are none. -/
def Word.quoted : Word → Points → Datum
  | .text _ => .text ∘ spell
  | .unpaired _ => .unpaired

theorem readDefine_after (name : String) (literal : Word) :
    readDefine (literal.after ("--define=" ++ name ++ "=")) =
      readBinding literal.quoted (points name ++ 61 :: literal.points) := by
  have hequals : points "=" = [61] := by decide
  cases literal <;>
    simp only [Word.after, readDefine, points_append, List.append_assoc, hequals, Word.points,
      Word.quoted, List.dropPrefix?_append_of_beq _ BEq.rfl, Option.bind_some, List.cons_append,
      List.nil_append]

theorem defineLiteral_int {n : Int} (h : n.natAbs < Nat.pow 10 digitLimit) :
    defineLiteral (.int n) = .ok (.text (writeInt n)) := by
  rw [defineLiteral, if_pos h]

/-- Every value that can be read back has a literal, in front of which the reader finds the name. -/
theorem readBinding_defineLiteral {value : Datum} (h : Legible value) : ∃ literal,
    defineLiteral value = .ok literal ∧ ∀ name : String,
      readBinding literal.quoted (points name ++ 61 :: literal.points) = some (name, value) := by
  cases h with
  | text s =>
    refine ⟨.text (textLiteral s), rfl, fun name => ?_⟩
    rw [Word.points, points_textLiteral, readBinding_quoted]
    simp [Word.quoted]
  | unpaired ps => exact ⟨_, rfl, fun name => readBinding_quoted _ name ps⟩
  | bool b =>
    have hbare : readBare? (if b then "true" else "false") = some (.bool b) := by
      cases b <;> rfl
    refine ⟨_, rfl, fun name => readBinding_bare ?_ ?_ ?_ hbare⟩ <;> cases b <;> decide
  | @int n short =>
    have hsome : points (writeInt n) ≠ [] := by
      rw [points, toList_writeInt, signed]
      split <;> simp [Nat.toDigits_ne_nil]
    exact ⟨_, defineLiteral_int short, fun name => readBinding_bare hsome
      (not_mem_writeInt (by decide) n) (not_mem_writeInt (by decide) n)
      (readBare?_writeInt short)⟩

/-- The reader undoes what makes the argument. -/
theorem readDefine_defineArgument (name : String) {value : Datum} (h : Legible value) :
    ∃ argument, defineArgument name value = .ok argument ∧
      readDefine argument = some (name, value) := by
  obtain ⟨literal, hliteral, hread⟩ := readBinding_defineLiteral h
  refine ⟨literal.after ("--define=" ++ name ++ "="), ?_, ?_⟩
  · rw [defineArgument, hliteral]
    rfl
  · rw [readDefine_after, hread]

/-- **A define argument tells its define.** Of every name and every text, truth value or whole
number that can be written there is an argument, which reads back as both; so no two defines share
an argument. The literal of a text closes with its last character, escapes read from left to right,
and reads back as the text; so does that of a text with halves of surrogate pairs. -/
theorem defineArgument_decodes :
    (∀ name value, Legible value → ∃ argument,
      defineArgument name value = .ok argument ∧ readDefine argument = some (name, value)) ∧
    (∀ name name' value value', Legible value → Legible value' →
      defineArgument name value = defineArgument name' value' → name = name' ∧ value = value') ∧
    (∀ s, ∃ literal, defineLiteral (.text s) = .ok (.text literal) ∧
      readQuoted (points literal) = some (points s, [])) ∧
    ∀ ps, ∃ literal, defineLiteral (.unpaired ps) = .ok (.unpaired literal) ∧
      readQuoted literal = some (ps, []) := by
  refine ⟨fun name value h => readDefine_defineArgument name h, ?_, fun s => ⟨_, rfl, ?_⟩,
    fun ps => ⟨_, rfl, readQuoted_pointsLiteral ps⟩⟩
  · intro name name' value value' h h' hsame
    obtain ⟨argument, hargument, hread⟩ := readDefine_defineArgument name h
    obtain ⟨argument', hargument', hread'⟩ := readDefine_defineArgument name' h'
    rw [hargument, hargument'] at hsame
    cases hsame
    rw [hread] at hread'
    cases hread'
    exact ⟨rfl, rfl⟩
  · rw [points_textLiteral]
    exact readQuoted_pointsLiteral (points s)

/-- A name that could pass for a define of its own, and a text that could pass for the end of
another. -/
theorem defineArgument_decodes_quotes :
    Legible (.text "\\'='") ∧ Legible (.int (-7)) ∧
    (∃ argument, defineArgument "a='b'" (.text "\\'='") = .ok argument ∧
      readDefine argument = some ("a='b'", .text "\\'='")) ∧
    ∃ argument, defineArgument "a=true" (.int (-7)) = .ok argument ∧
      readDefine argument = some ("a=true", .int (-7)) :=
  have hint : Legible (.int (-7)) := .int (by decide +kernel)
  ⟨.text _, hint, defineArgument_decodes.1 _ _ (.text _), defineArgument_decodes.1 _ _ hint⟩

end BundleBuild
