import ClassFormat.Proofs.Text.Utf8
import ClassFormat.Text.Utf16

/-!
# Units and characters

A character of the basic plane has one unit, and any other has two, which are a
pair.  Reading pairs them again, so a text is read back from its units.  Where
reading finds no unit without a partner, and none that stands for U+FFFD itself,
it can be undone as well: the units are those of the text.
-/

namespace ClassFormat.Text.Utf16

/-! ## The units of one character -/

theorem toNat_toUInt16_of_lt {code : Nat} (small : code < 0x10000) :
    code.toUInt16.toNat = code :=
  UInt16.toNat_ofNat_of_lt' small

theorem isHigh_iff {unit : UInt16} :
    isHigh unit = true ↔ 0xd800 ≤ unit.toNat ∧ unit.toNat < 0xdc00 := by
  simp only [isHigh, Bool.and_eq_true, decide_eq_true_eq,
    UInt16.le_iff_toNat_le, UInt16.lt_iff_toNat_lt]
  exact Iff.rfl

theorem isLow_iff {unit : UInt16} :
    isLow unit = true ↔ 0xdc00 ≤ unit.toNat ∧ unit.toNat < 0xe000 := by
  simp only [isLow, Bool.and_eq_true, decide_eq_true_eq, UInt16.le_iff_toNat_le,
    UInt16.lt_iff_toNat_lt]
  exact Iff.rfl

/--
No character is a surrogate, so a character of the basic plane has no unit of a
pair.
-/
theorem not_surrogate_of_basic {c : Char} (basic : c.toNat < 0x10000) :
    isHigh c.toNat.toUInt16 = false ∧ isLow c.toNat.toUInt16 = false := by
  rw [← Bool.not_eq_true, ← Bool.not_eq_true, isHigh_iff, isLow_iff,
    toNat_toUInt16_of_lt basic]
  have valid : c.toNat.isValidChar := c.valid
  rcases valid with below | ⟨above, -⟩ <;> omega

theorem single_of_basic {c : Char} (basic : c.toNat < 0x10000) :
    single c.toNat.toUInt16 = c := by
  rcases not_surrogate_of_basic basic with ⟨notHigh, notLow⟩
  rw [single, notHigh, notLow, toNat_toUInt16_of_lt basic]
  exact Char.ofNat_toNat c

/--
A character beyond the basic plane has two units, which are a pair and stand for
it together.
-/
theorem exists_pair_of_beyond {c : Char} (beyond : ¬c.toNat < 0x10000) :
    ∃ high low, ofChar c = [high, low] ∧ isHigh high = true ∧ isLow low = true ∧
      pair high low = c := by
  have bound := Utf8.codePoint_lt c
  have high : (0xd800 + (c.toNat - 0x10000) / 1024).toUInt16.toNat =
      0xd800 + (c.toNat - 0x10000) / 1024 := toNat_toUInt16_of_lt (by omega)
  have low : (0xdc00 + (c.toNat - 0x10000) % 1024).toUInt16.toNat =
      0xdc00 + (c.toNat - 0x10000) % 1024 := toNat_toUInt16_of_lt (by omega)
  have code : 0x10000 + (0xd800 + (c.toNat - 0x10000) / 1024 - 0xd800) * 1024 +
      (0xdc00 + (c.toNat - 0x10000) % 1024 - 0xdc00) = c.toNat := by omega
  refine ⟨_, _, if_neg beyond, ?_, ?_, ?_⟩
  · rw [isHigh_iff, high]
    omega
  · rw [isLow_iff, low]
    omega
  · rw [pair, high, low, code]
    exact Char.ofNat_toNat c

theorem toNat_ofNat {code : Nat} (valid : code.isValidChar) :
    (Char.ofNat code).toNat = code := by
  rw [Char.ofNat, dif_pos valid]
  rfl

/--
What stands for a unit without a partner has this unit, unless it is there for
want of a character.
-/
theorem ofChar_single {unit : UInt16} (readable : single unit ≠ replacement) :
    ofChar (single unit) = [unit] := by
  have bound : unit.toNat < 0x10000 := unit.toNat_lt
  rw [single] at readable ⊢
  split at readable
  · exact absurd rfl readable
  · next partnerless =>
      rw [if_neg partnerless]
      rw [Bool.or_eq_true, isHigh_iff, isLow_iff] at partnerless
      have valid : unit.toNat.isValidChar := by
        rcases Nat.lt_or_ge unit.toNat 0xd800 with below | above
        · exact .inl below
        · exact .inr ⟨by omega, by omega⟩
      rw [ofChar, toNat_ofNat valid, if_pos bound]
      show [UInt16.ofNat unit.toNat] = _
      rw [UInt16.ofNat_toNat]

/-- What stands for a pair has the two units of the pair. -/
theorem ofChar_pair {high low : UInt16} (isHigh : isHigh high = true)
    (isLow : isLow low = true) :
    ofChar (pair high low) = [high, low] := by
  rw [isHigh_iff] at isHigh
  rw [isLow_iff] at isLow
  have valid :
      Nat.isValidChar
        (0x10000 + (high.toNat - 0xd800) * 1024 + (low.toNat - 0xdc00)) :=
    .inr ⟨by omega, by omega⟩
  have beyond : ¬(pair high low).toNat < 0x10000 := by
    rw [pair, toNat_ofNat valid]
    omega
  have first : 0xd800 + ((pair high low).toNat - 0x10000) / 1024 =
      high.toNat := by
    rw [pair, toNat_ofNat valid]
    omega
  have second : 0xdc00 + ((pair high low).toNat - 0x10000) % 1024 =
      low.toNat := by
    rw [pair, toNat_ofNat valid]
    omega
  rw [ofChar, if_neg beyond, first, second]
  show [UInt16.ofNat high.toNat, UInt16.ofNat low.toNat] = _
  rw [UInt16.ofNat_toNat, UInt16.ofNat_toNat]

/-! ## The units of a text -/

theorem encode_append (first second : List Char) :
    encode (first ++ second) = encode first ++ encode second :=
  List.flatMap_append

theorem encode_cons_of_basic {c : Char} (basic : c.toNat < 0x10000)
    (text : List Char) :
    encode (c :: text) = c.toNat.toUInt16 :: encode text := by
  rw [encode, List.flatMap_cons, ofChar, if_pos basic]
  rfl

/--
Reading takes the units of a character as this character, whatever follows.
-/
theorem decodeOnto_ofChar_append (done : List Char) (c : Char)
    (rest : List UInt16) :
    decodeOnto done (ofChar c ++ rest) = decodeOnto (c :: done) rest := by
  by_cases basic : c.toNat < 0x10000
  · rw [ofChar, if_pos basic]
    cases rest with
    | nil =>
        show (single c.toNat.toUInt16 :: done).reverse = _
        rw [single_of_basic basic]
        rfl
    | cons next rest =>
        show decodeOnto done (c.toNat.toUInt16 :: next :: rest) = _
        rw [decodeOnto, (not_surrogate_of_basic basic).1, single_of_basic basic]
        rfl
  · rcases exists_pair_of_beyond basic with
      ⟨high, low, units, isHigh, isLow, joined⟩
    rw [units]
    show decodeOnto done (high :: low :: rest) = _
    rw [decodeOnto, isHigh, isLow, joined]
    rfl

theorem decodeOnto_encode (done text : List Char) :
    decodeOnto done (encode text) = done.reverse ++ text := by
  induction text generalizing done with
  | nil => exact (List.append_nil _).symm
  | cons c text hypothesis =>
      show decodeOnto done (ofChar c ++ encode text) = _
      rw [decodeOnto_ofChar_append, hypothesis]
      simp

theorem decode_encode (text : List Char) : decode (encode text) = text :=
  decodeOnto_encode [] text

theorem mem_decodeOnto {done : List Char} {c : Char} (member : c ∈ done)
    (units : List UInt16) :
    c ∈ decodeOnto done units := by
  fun_induction decodeOnto done units with
  | case1 done => exact List.mem_reverse.2 member
  | case2 done unit => exact List.mem_reverse.2 (List.mem_cons_of_mem _ member)
  | case3 done high low rest _ hypothesis =>
      exact hypothesis (List.mem_cons_of_mem _ member)
  | case4 done unit next rest _ hypothesis =>
      exact hypothesis (List.mem_cons_of_mem _ member)

/-- What was read without want of characters has the units which were read. -/
theorem encode_decodeOnto {done : List Char} {units : List UInt16}
    (readable : replacement ∉ decodeOnto done units) :
    encode (decodeOnto done units) = encode done.reverse ++ units := by
  have joined (first : Char) (done : List Char) :
      encode (first :: done).reverse = encode done.reverse ++ ofChar first := by
    rw [List.reverse_cons, encode_append]
    exact congrArg (encode done.reverse ++ ·) (List.append_nil _)
  fun_induction decodeOnto done units with
  | case1 done => exact (List.append_nil _).symm
  | case2 done unit =>
      have present : single unit ≠ replacement := by
        intro lacking
        exact readable (List.mem_reverse.2 (lacking ▸ List.mem_cons_self))
      rw [joined, ofChar_single present]
  | case3 done high low rest paired hypothesis =>
      rcases Bool.and_eq_true_iff.1 paired with ⟨isHigh, isLow⟩
      rw [hypothesis readable, joined, ofChar_pair isHigh isLow,
        List.append_assoc]
      rfl
  | case4 done unit next rest _ hypothesis =>
      have present : single unit ≠ replacement := by
        intro lacking
        exact readable (mem_decodeOnto (lacking ▸ List.mem_cons_self) _)
      rw [hypothesis readable, joined, ofChar_single present, List.append_assoc]
      rfl

theorem encode_decode {units : List UInt16}
    (readable : replacement ∉ decode units) :
    encode (decode units) = units :=
  encode_decodeOnto readable

/-- Only U+FFFD has the unit which stands for it. -/
theorem replacement_mem_of_encode {text : List Char}
    (member : 0xfffd ∈ encode text) :
    replacement ∈ text := by
  rcases List.mem_flatMap.1 member with ⟨c, among, inside⟩
  by_cases basic : c.toNat < 0x10000
  · rw [ofChar, if_pos basic, List.mem_singleton] at inside
    have code := congrArg UInt16.toNat inside
    rw [toNat_toUInt16_of_lt basic] at code
    have same : replacement = c := Char.toNat_inj.1 code
    exact same ▸ among
  · rcases exists_pair_of_beyond basic with ⟨high, low, units, isHigh, isLow, -⟩
    rw [units, List.mem_cons, List.mem_singleton] at inside
    rcases inside with rfl | rfl
    · exact absurd isHigh (by decide)
    · exact absurd isLow (by decide)

end ClassFormat.Text.Utf16
