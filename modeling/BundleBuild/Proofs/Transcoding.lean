/-
Reading UTF-8 undoes its writing: bytes are read as a text exactly when they are the bytes of that
text (`decodeUtf8_eq_ok_iff`), so the bytes that are refused are those of no text.

Between the two stand the well-formed sequences of bytes with the characters they spell
(`Spells`). Every character is spelled by one of them, and what is written for it is that one; and
a character is read at the head of the bytes exactly when they begin with one.
-/
import BundleBuild.Proofs.Sequencing
import BundleBuild.Text.Utf8

namespace BundleBuild

/-! ## Sequences of bytes -/

/-- A byte that goes on with a sequence. -/
def Continues (b : UInt8) : Prop :=
  0x80 ≤ b.toNat ∧ b.toNat ≤ 0xBF

/-- The well-formed sequences, with the characters they spell: no longer than need be, and none
for a surrogate or beyond the last code point. -/
inductive Spells : List UInt8 → Char → Prop
  | one {a : UInt8} (ha : a.toNat < 0x80) : Spells [a] (Char.ofNat a.toNat)
  | two {a b : UInt8} (ha : 0xC2 ≤ a.toNat ∧ a.toNat ≤ 0xDF) (hb : Continues b) :
    Spells [a, b] (Char.ofNat (a.toNat % 0x20 * 64 + b.toNat % 64))
  | three {a b c : UInt8} (ha : 0xE0 ≤ a.toNat ∧ a.toNat ≤ 0xEF) (hb : Continues b)
    (short : a.toNat = 0xE0 → 0xA0 ≤ b.toNat) (surrogate : a.toNat = 0xED → b.toNat ≤ 0x9F)
    (hc : Continues c) :
    Spells [a, b, c] (Char.ofNat ((a.toNat % 0x10 * 64 + b.toNat % 64) * 64 + c.toNat % 64))
  | four {a b c d : UInt8} (ha : 0xF0 ≤ a.toNat ∧ a.toNat ≤ 0xF4) (hb : Continues b)
    (short : a.toNat = 0xF0 → 0x90 ≤ b.toNat) (beyond : a.toNat = 0xF4 → b.toNat ≤ 0x8F)
    (hc : Continues c) (hd : Continues d) :
    Spells [a, b, c, d] (Char.ofNat
      (((a.toNat % 0x08 * 64 + b.toNat % 64) * 64 + c.toNat % 64) * 64 + d.toNat % 64))

/-! ## Writing a character -/

theorem utf8EncodeChar_ofNat {n : Nat} (h : n.isValidChar) :
    String.utf8EncodeChar (Char.ofNat n) =
      if n ≤ 0x7F then [UInt8.ofNat n]
      else if n ≤ 0x7FF then [UInt8.ofNat (n / 64 % 32 + 192), UInt8.ofNat (n % 64 + 128)]
      else if n ≤ 0xFFFF then
        [UInt8.ofNat (n / 4096 % 16 + 224), UInt8.ofNat (n / 64 % 64 + 128),
          UInt8.ofNat (n % 64 + 128)]
      else
        [UInt8.ofNat (n / 262144 % 8 + 240), UInt8.ofNat (n / 4096 % 64 + 128),
          UInt8.ofNat (n / 64 % 64 + 128), UInt8.ofNat (n % 64 + 128)] := by
  have hcode : (Char.ofNat n).val.toNat = n := by
    rw [Char.ofNat, dif_pos h]
    rfl
  simp only [String.utf8EncodeChar, hcode]

theorem ofNat_eq_of_toNat {n : Nat} {b : UInt8} (h : n = b.toNat) : UInt8.ofNat n = b := by
  rw [h, UInt8.ofNat_toNat]

/-- What is written for a character is the sequence that spells it. -/
theorem Spells.utf8EncodeChar_eq {bs : List UInt8} {c : Char} (h : Spells bs c) :
    String.utf8EncodeChar c = bs := by
  cases h with
  | one ha =>
    rw [utf8EncodeChar_ofNat (by omega), if_pos (by omega), UInt8.ofNat_toNat]
  | two ha hb =>
    obtain ⟨hb₁, hb₂⟩ := hb
    rw [utf8EncodeChar_ofNat (by omega), if_neg (by omega), if_pos (by omega)]
    simp only [List.cons.injEq, and_true]
    exact ⟨ofNat_eq_of_toNat (by omega), ofNat_eq_of_toNat (by omega)⟩
  | three ha hb short surrogate hc =>
    obtain ⟨hb₁, hb₂⟩ := hb
    obtain ⟨hc₁, hc₂⟩ := hc
    rw [utf8EncodeChar_ofNat (by omega), if_neg (by omega), if_neg (by omega), if_pos (by omega)]
    simp only [List.cons.injEq, and_true]
    exact ⟨ofNat_eq_of_toNat (by omega), ofNat_eq_of_toNat (by omega),
      ofNat_eq_of_toNat (by omega)⟩
  | four ha hb short beyond hc hd =>
    obtain ⟨hb₁, hb₂⟩ := hb
    obtain ⟨hc₁, hc₂⟩ := hc
    obtain ⟨hd₁, hd₂⟩ := hd
    rw [utf8EncodeChar_ofNat (by omega), if_neg (by omega), if_neg (by omega), if_neg (by omega)]
    simp only [List.cons.injEq, and_true]
    exact ⟨ofNat_eq_of_toNat (by omega), ofNat_eq_of_toNat (by omega),
      ofNat_eq_of_toNat (by omega), ofNat_eq_of_toNat (by omega)⟩

theorem toNat_ofNat_of_lt {n : Nat} (h : n < 256) : (UInt8.ofNat n).toNat = n := by
  simpa using Nat.mod_eq_of_lt h

section Continuation

variable (n : Nat)

/-- A byte that goes on with a sequence has room for six bits. -/
theorem toNat_continuation : (UInt8.ofNat (n % 64 + 0x80)).toNat = n % 64 + 0x80 :=
  toNat_ofNat_of_lt (by omega)

theorem continuation_mod : (n % 64 + 0x80) % 64 = n % 64 := by
  omega

theorem continues_ofNat : Continues (UInt8.ofNat (n % 64 + 0x80)) := by
  rw [Continues, toNat_continuation]
  omega

end Continuation

/-- Every code point is spelled by some sequence. -/
theorem exists_spells_ofNat {n : Nat} (h : n.isValidChar) : ∃ bs, Spells bs (Char.ofNat n) := by
  rcases Nat.lt_or_ge n 0x80 with hone | hone
  · have ha : (UInt8.ofNat n).toNat = n := toNat_ofNat_of_lt (by omega)
    have hs := Spells.one (a := UInt8.ofNat n) (by omega)
    rw [ha] at hs
    exact ⟨_, hs⟩
  rcases Nat.lt_or_ge n 0x800 with htwo | htwo
  · have ha : (UInt8.ofNat (n / 64 + 0xC0)).toNat = n / 64 + 0xC0 := toNat_ofNat_of_lt (by omega)
    have hs := Spells.two (a := UInt8.ofNat (n / 64 + 0xC0)) (by omega) (continues_ofNat n)
    have hcode : (n / 64 + 0xC0) % 0x20 * 64 + n % 64 = n := by omega
    rw [ha, toNat_continuation, continuation_mod, hcode] at hs
    exact ⟨_, hs⟩
  rcases Nat.lt_or_ge n 0x10000 with hthree | hthree
  · have ha : (UInt8.ofNat (n / 4096 + 0xE0)).toNat = n / 4096 + 0xE0 :=
      toNat_ofNat_of_lt (by omega)
    have hb := toNat_continuation (n / 64)
    have hs := Spells.three (a := UInt8.ofNat (n / 4096 + 0xE0)) (by omega)
      (continues_ofNat (n / 64)) (by omega) (by omega) (continues_ofNat n)
    have hcode : ((n / 4096 + 0xE0) % 0x10 * 64 + n / 64 % 64) * 64 + n % 64 = n := by omega
    simp only [ha, toNat_continuation, continuation_mod, hcode] at hs
    exact ⟨_, hs⟩
  · have ha : (UInt8.ofNat (n / 262144 + 0xF0)).toNat = n / 262144 + 0xF0 :=
      toNat_ofNat_of_lt (by omega)
    have hb := toNat_continuation (n / 4096)
    have hs := Spells.four (a := UInt8.ofNat (n / 262144 + 0xF0)) (by omega)
      (continues_ofNat (n / 4096)) (by omega) (by omega) (continues_ofNat (n / 64))
      (continues_ofNat n)
    have hcode : (((n / 262144 + 0xF0) % 0x08 * 64 + n / 4096 % 64) * 64 + n / 64 % 64) * 64 +
        n % 64 = n := by omega
    simp only [ha, toNat_continuation, continuation_mod, hcode] at hs
    exact ⟨_, hs⟩

theorem spells_utf8EncodeChar (c : Char) : Spells (String.utf8EncodeChar c) c := by
  obtain ⟨bs, h⟩ := exists_spells_ofNat c.valid
  have hc : Char.ofNat c.val.toNat = c := Char.ofNat_toNat c
  rw [hc] at h
  rwa [h.utf8EncodeChar_eq]

/-! ## Reading a character -/

theorem readContinuation_succ_eq_char_iff {lo hi n seen acc w : Nat} {bs : List UInt8}
    {c : Char} : readContinuation lo hi (n + 1) seen acc bs = .char c w ↔
      ∃ b rest, bs = b :: rest ∧ (lo ≤ b.toNat ∧ b.toNat ≤ hi) ∧
        readContinuation 0x80 0xBF n (seen + 1) (acc * 64 + b.toNat % 64) rest = .char c w := by
  cases bs with
  | nil => simp [readContinuation]
  | cons b rest =>
    rw [readContinuation]
    by_cases h : lo ≤ b.toNat ∧ b.toNat ≤ hi
    · simp [h]
    · simp [h]

section Leads

variable {n : Nat}

theorem leadShape_two (h : 0xC2 ≤ n ∧ n ≤ 0xDF) : leadShape n = some (1, 0x80, 0xBF) := by
  simp [leadShape, h]

theorem leadShape_three (h : 0xE0 ≤ n ∧ n ≤ 0xEF) : leadShape n =
    some (2, if n = 0xE0 then 0xA0 else 0x80, if n = 0xED then 0x9F else 0xBF) := by
  by_cases hshort : n = 0xE0
  · subst hshort
    rfl
  by_cases hsurrogate : n = 0xED
  · subst hsurrogate
    rfl
  have htwo : ¬ n ≤ 0xDF := by omega
  have hrest : 0xE1 ≤ n ∧ n ≤ 0xEF := by omega
  simp only [leadShape, htwo, hrest, hshort, hsurrogate, decide_false, decide_true, Bool.and_false,
    Bool.and_true, Bool.false_eq_true, if_true, if_false]

theorem leadShape_four (h : 0xF0 ≤ n ∧ n ≤ 0xF4) : leadShape n =
    some (3, if n = 0xF0 then 0x90 else 0x80, if n = 0xF4 then 0x8F else 0xBF) := by
  by_cases hshort : n = 0xF0
  · subst hshort
    rfl
  by_cases hbeyond : n = 0xF4
  · subst hbeyond
    rfl
  have hother : ¬ n ≤ 0xDF ∧ n ≠ 0xE0 ∧ n ≠ 0xED ∧ ¬ n ≤ 0xEF := by omega
  have hrest : 0xF1 ≤ n ∧ n ≤ 0xF3 := by omega
  simp only [leadShape, hother, hrest, hshort, hbeyond, decide_false, decide_true, Bool.and_false,
    Bool.and_true, Bool.false_eq_true, if_true, if_false]

theorem lead_of_leadShape {shape : Nat × Nat × Nat} (h : leadShape n = some shape) :
    (0xC2 ≤ n ∧ n ≤ 0xDF) ∨ (0xE0 ≤ n ∧ n ≤ 0xEF) ∨ (0xF0 ≤ n ∧ n ≤ 0xF4) := by
  unfold leadShape at h
  simp only [Bool.and_eq_true, decide_eq_true_eq] at h
  split at h
  · omega
  split at h
  · omega
  split at h
  · omega
  split at h
  · omega
  split at h
  · omega
  split at h
  · omega
  split at h
  · omega
  · cases h

end Leads

theorem utf8Head_two {b : UInt8} {rest : List UInt8} (h : 0xC2 ≤ b.toNat ∧ b.toNat ≤ 0xDF) :
    utf8Head b rest = readContinuation 0x80 0xBF 1 1 (b.toNat % 0x20) rest := by
  rw [utf8Head, if_neg (by omega), leadShape_two h]
  rfl

theorem utf8Head_three {b : UInt8} {rest : List UInt8} (h : 0xE0 ≤ b.toNat ∧ b.toNat ≤ 0xEF) :
    utf8Head b rest = readContinuation (if b.toNat = 0xE0 then 0xA0 else 0x80)
      (if b.toNat = 0xED then 0x9F else 0xBF) 2 1 (b.toNat % 0x10) rest := by
  rw [utf8Head, if_neg (by omega), leadShape_three h]
  rfl

theorem utf8Head_four {b : UInt8} {rest : List UInt8} (h : 0xF0 ≤ b.toNat ∧ b.toNat ≤ 0xF4) :
    utf8Head b rest = readContinuation (if b.toNat = 0xF0 then 0x90 else 0x80)
      (if b.toNat = 0xF4 then 0x8F else 0xBF) 3 1 (b.toNat % 0x08) rest := by
  rw [utf8Head, if_neg (by omega), leadShape_four h]
  rfl

/-- The lead bytes of the sequences that are read as characters. -/
theorem lead_of_utf8Head {b : UInt8} {rest : List UInt8} {c : Char} {w : Nat}
    (h : utf8Head b rest = .char c w) :
    b.toNat < 0x80 ∨ (0xC2 ≤ b.toNat ∧ b.toNat ≤ 0xDF) ∨ (0xE0 ≤ b.toNat ∧ b.toNat ≤ 0xEF) ∨
      (0xF0 ≤ b.toNat ∧ b.toNat ≤ 0xF4) := by
  unfold utf8Head at h
  split at h
  · exact .inl ‹_›
  · split at h
    · cases h
    · next hshape => exact .inr (lead_of_leadShape hshape)

/-- What a second byte is held to: one lead byte asks for more of it, and another for less. -/
theorem second_iff {a short lo long hi : Nat} {b : UInt8} (hlo : 0x80 ≤ lo) (hhi : hi ≤ 0xBF) :
    ((if a = short then lo else 0x80) ≤ b.toNat ∧
        b.toNat ≤ (if a = long then hi else 0xBF)) ↔
      Continues b ∧ (a = short → lo ≤ b.toNat) ∧ (a = long → b.toNat ≤ hi) := by
  unfold Continues
  split_ifs <;> omega

theorem exists_spells_of_utf8Head {b : UInt8} {rest : List UInt8} {c : Char} {w : Nat}
    (h : utf8Head b rest = .char c w) :
    ∃ bs more, Spells bs c ∧ b :: rest = bs ++ more ∧ w = bs.length := by
  rcases lead_of_utf8Head h with ha | ha | ha | ha
  · rw [utf8Head, if_pos ha] at h
    cases h
    exact ⟨[b], rest, .one ha, rfl, rfl⟩
  · rw [utf8Head_two ha] at h
    obtain ⟨b₂, rest, rfl, hb, h⟩ := readContinuation_succ_eq_char_iff.mp h
    cases h
    exact ⟨[b, b₂], rest, .two ha hb, rfl, rfl⟩
  · rw [utf8Head_three ha] at h
    obtain ⟨b₂, rest, rfl, hb, h⟩ := readContinuation_succ_eq_char_iff.mp h
    obtain ⟨b₃, rest, rfl, hc, h⟩ := readContinuation_succ_eq_char_iff.mp h
    obtain ⟨hb, hshort, hsurrogate⟩ := (second_iff (by decide) (by decide)).mp hb
    cases h
    exact ⟨[b, b₂, b₃], rest, .three ha hb hshort hsurrogate hc, rfl, rfl⟩
  · rw [utf8Head_four ha] at h
    obtain ⟨b₂, rest, rfl, hb, h⟩ := readContinuation_succ_eq_char_iff.mp h
    obtain ⟨b₃, rest, rfl, hc, h⟩ := readContinuation_succ_eq_char_iff.mp h
    obtain ⟨b₄, rest, rfl, hd, h⟩ := readContinuation_succ_eq_char_iff.mp h
    obtain ⟨hb, hshort, hbeyond⟩ := (second_iff (by decide) (by decide)).mp hb
    cases h
    exact ⟨[b, b₂, b₃, b₄], rest, .four ha hb hshort hbeyond hc hd, rfl, rfl⟩

theorem utf8Head_of_spells {bs more rest : List UInt8} {b : UInt8} {c : Char} (hs : Spells bs c)
    (h : b :: rest = bs ++ more) : utf8Head b rest = .char c bs.length := by
  cases hs with
  | one ha =>
    cases h
    rw [utf8Head, if_pos ha]
    rfl
  | two ha hb =>
    cases h
    rw [utf8Head_two ha]
    exact readContinuation_succ_eq_char_iff.mpr ⟨_, _, rfl, hb, rfl⟩
  | three ha hb short surrogate hc =>
    cases h
    have hsecond := (second_iff (by decide) (by decide)).mpr ⟨hb, short, surrogate⟩
    rw [utf8Head_three ha]
    exact readContinuation_succ_eq_char_iff.mpr ⟨_, _, rfl, hsecond,
      readContinuation_succ_eq_char_iff.mpr ⟨_, _, rfl, hc, rfl⟩⟩
  | four ha hb short beyond hc hd =>
    cases h
    have hsecond := (second_iff (by decide) (by decide)).mpr ⟨hb, short, beyond⟩
    rw [utf8Head_four ha]
    exact readContinuation_succ_eq_char_iff.mpr ⟨_, _, rfl, hsecond,
      readContinuation_succ_eq_char_iff.mpr ⟨_, _, rfl, hc,
        readContinuation_succ_eq_char_iff.mpr ⟨_, _, rfl, hd, rfl⟩⟩⟩

theorem drop_of_spells {bs more rest : List UInt8} {b : UInt8} {c : Char} (hs : Spells bs c)
    (h : b :: rest = bs ++ more) : rest.drop (bs.length - 1) = more := by
  cases hs <;> cases h <;> rfl

/-- Where a character is read, what is written for it stands. -/
theorem eq_append_of_utf8Head {b : UInt8} {rest : List UInt8} {c : Char} {w : Nat}
    (h : utf8Head b rest = .char c w) :
    b :: rest = String.utf8EncodeChar c ++ rest.drop (w - 1) := by
  obtain ⟨bs, more, hs, hbytes, rfl⟩ := exists_spells_of_utf8Head h
  rw [drop_of_spells hs hbytes, hs.utf8EncodeChar_eq, hbytes]

/-- Bytes that begin with what is written for a character are read as it. -/
theorem utf8Head_of_eq_append {b : UInt8} {rest more : List UInt8} {c : Char}
    (h : b :: rest = String.utf8EncodeChar c ++ more) :
    ∃ w, utf8Head b rest = .char c w ∧ rest.drop (w - 1) = more :=
  have hs := spells_utf8EncodeChar c
  ⟨_, utf8Head_of_spells hs h, drop_of_spells hs h⟩

/-! ## Reading a text -/

theorem toList_byteArray (bytes : ByteArray) : bytes.toList = bytes.data.toList := by
  -- The loop has gathered the bytes before its place, so it ends with all of them.
  have hloop : ∀ left i, i + left = bytes.data.toList.length →
      ByteArray.toList.loop bytes i (bytes.data.toList.take i).reverse = bytes.data.toList := by
    intro left
    induction left with
    | zero =>
      intro i hi
      have hend : ¬ i < bytes.size := Nat.not_lt.mpr (Nat.le_of_eq hi.symm)
      rw [ByteArray.toList.loop, if_neg hend, List.reverse_reverse]
      exact List.take_of_length_le (Nat.le_of_eq hi.symm)
    | succ left ih =>
      intro i hi
      have hlt : i < bytes.data.toList.length := by omega
      have hnext : bytes.get! i :: (bytes.data.toList.take i).reverse =
          (bytes.data.toList.take (i + 1)).reverse := by
        rw [List.take_succ_eq_append_getElem hlt, List.reverse_append]
        exact congrArg (· :: _) (getElem!_pos bytes.data i hlt)
      rw [ByteArray.toList.loop, if_pos (show i < bytes.size from hlt), hnext,
        ih (i + 1) (by omega)]
  exact hloop _ 0 (Nat.zero_add _)

/-- The bytes of a text are those of its characters. -/
theorem encodeUtf8_ofList (cs : List Char) :
    encodeUtf8 (String.ofList cs) = cs.flatMap String.utf8EncodeChar := by
  rw [encodeUtf8, toList_byteArray, String.toUTF8_eq_toByteArray, String.toByteArray_ofList,
    List.utf8Encode, List.toList_data_toByteArray]

theorem flatMap_utf8EncodeChar_eq_nil {cs : List Char}
    (h : cs.flatMap String.utf8EncodeChar = []) : cs = [] := by
  cases cs with
  | nil => rfl
  | cons c cs =>
    have hs := spells_utf8EncodeChar c
    rw [List.flatMap_cons, List.append_eq_nil_iff] at h
    rw [h.1] at hs
    cases hs

theorem decodeUtf8From_eq_ok_iff {fuel pos : Nat} {bytes : List UInt8} {cs : List Char}
    (h : bytes.length ≤ fuel) :
    decodeUtf8From fuel pos bytes = .ok cs ↔ cs.flatMap String.utf8EncodeChar = bytes := by
  induction fuel generalizing pos bytes cs with
  | zero =>
    rw [List.length_eq_zero_iff.mp (Nat.le_zero.mp h)]
    refine ⟨fun hread => ?_, fun hcs => ?_⟩
    · cases hread
      rfl
    · rw [flatMap_utf8EncodeChar_eq_nil hcs]
      rfl
  | succ fuel ih =>
    cases bytes with
    | nil =>
      refine ⟨fun hread => ?_, fun hcs => ?_⟩
      · cases hread
        rfl
      · rw [flatMap_utf8EncodeChar_eq_nil hcs]
        rfl
    | cons b rest =>
      have hrest : ∀ w, (rest.drop (w - 1)).length ≤ fuel := by
        intro w
        rw [List.length_drop]
        simp only [List.length_cons] at h
        omega
      constructor
      · intro hread
        cases hhead : utf8Head b rest with
        | flawed flaw w =>
          simp only [decodeUtf8From, hhead] at hread
          cases hread
        | char c w =>
          simp only [decodeUtf8From, hhead] at hread
          obtain ⟨cs', hcs, hread⟩ := bind_eq_ok_iff.mp hread
          cases hread
          rw [List.flatMap_cons, (ih (hrest w)).mp hcs, ← eq_append_of_utf8Head hhead]
      · intro hcs
        cases cs with
        | nil => cases hcs
        | cons c cs =>
          rw [List.flatMap_cons] at hcs
          obtain ⟨w, hhead, hmore⟩ := utf8Head_of_eq_append hcs.symm
          simp only [decodeUtf8From, hhead]
          exact bind_eq_ok_iff.mpr ⟨cs, (ih (hrest w)).mpr hmore.symm, rfl⟩

/-- **Bytes are read as a text exactly when they are the bytes of that text.** -/
theorem decodeUtf8_eq_ok_iff {bytes : List UInt8} {s : String} :
    decodeUtf8 bytes = .ok s ↔ encodeUtf8 s = bytes := by
  have hs : encodeUtf8 s = s.toList.flatMap String.utf8EncodeChar := by
    rw [← encodeUtf8_ofList, String.ofList_toList]
  rw [decodeUtf8, map_eq_ok_iff, hs]
  constructor
  · rintro ⟨cs, hcs, rfl⟩
    simpa using (decodeUtf8From_eq_ok_iff (Nat.le_refl _)).mp hcs
  · intro h
    exact ⟨s.toList, (decodeUtf8From_eq_ok_iff (Nat.le_refl _)).mpr h, String.ofList_toList⟩

/-! ## Reading any bytes -/

/-- Where nothing is ill-formed nothing is replaced. -/
theorem decodeUtf8LossyFrom_eq {fuel pos : Nat} {bytes : List UInt8} {cs : List Char}
    (h : decodeUtf8From fuel pos bytes = .ok cs) : decodeUtf8LossyFrom fuel bytes = cs := by
  induction fuel generalizing pos bytes cs with
  | zero =>
    cases h
    rfl
  | succ fuel ih =>
    cases bytes with
    | nil =>
      cases h
      rfl
    | cons b rest =>
      cases hhead : utf8Head b rest with
      | flawed flaw w =>
        simp only [decodeUtf8From, hhead] at h
        cases h
      | char c w =>
        simp only [decodeUtf8From, hhead] at h
        obtain ⟨cs', hcs, h⟩ := bind_eq_ok_iff.mp h
        cases h
        simp only [decodeUtf8LossyFrom, hhead, ih hcs]

theorem decodeUtf8Lossy_encodeUtf8 (s : String) : decodeUtf8Lossy (encodeUtf8 s) = s := by
  have hread : decodeUtf8 (encodeUtf8 s) = .ok s := decodeUtf8_eq_ok_iff.mpr rfl
  obtain ⟨cs, hcs, rfl⟩ := map_eq_ok_iff.mp hread
  rw [decodeUtf8Lossy, decodeUtf8LossyFrom_eq hcs]

/-- Every byte leaves a trace in the text. -/
theorem decodeUtf8Lossy_eq_empty_iff {bytes : List UInt8} :
    decodeUtf8Lossy bytes = "" ↔ bytes = [] := by
  rw [decodeUtf8Lossy, String.ofList_eq_empty_iff]
  cases bytes with
  | nil => simp [decodeUtf8LossyFrom]
  | cons b rest =>
    rw [List.length_cons, decodeUtf8LossyFrom]
    cases utf8Head b rest <;> simp

theorem encodeUtf8_eq_nil_iff {s : String} : encodeUtf8 s = [] ↔ s = "" := by
  rw [← decodeUtf8Lossy_eq_empty_iff, decodeUtf8Lossy_encodeUtf8]

end BundleBuild
