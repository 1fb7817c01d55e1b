import ClassFormat.Text.Utf8

/-!
# What strict UTF-8 accepts

The standard encoding of a character is the one which strings have in memory.
The strict reading takes one such encoding after the other, and nothing else: a
byte sequence is accepted exactly if it is the encoding of some text, and it is
read as that text.
-/

namespace ClassFormat.Text.Utf8

theorem scalar?_eq_some_iff {least code : Nat} {c : Char} :
    scalar? least code = some c ↔ c.toNat = code ∧ least ≤ code := by
  simp only [scalar?]
  split
  · next valid =>
      have small : code < 2 ^ 32 := by
        rcases valid with below | ⟨-, below⟩ <;> omega
      split
      · next enough =>
          rw [Option.some.injEq]
          constructor
          · rintro rfl
            exact ⟨UInt32.toNat_ofNat_of_lt' small, enough⟩
          · rintro ⟨rfl, -⟩
            apply Char.ext
            exact UInt32.ofNat_toNat
      · next short =>
          constructor
          · nofun
          · rintro ⟨-, enough⟩
            exact absurd enough short
  · next invalid =>
      constructor
      · nofun
      · rintro ⟨rfl, -⟩
        exact absurd c.valid invalid

theorem codePoint_lt (c : Char) : c.toNat < 0x110000 := by
  have valid : c.toNat.isValidChar := c.valid
  rcases valid with below | ⟨-, below⟩
  · exact Nat.lt_trans below (by decide)
  · exact below

theorem isContinuation_iff {byte : UInt8} :
    isContinuation byte = true ↔ 0x80 ≤ byte.toNat ∧ byte.toNat < 0xc0 := by
  simp only [isContinuation, Bool.and_eq_true, decide_eq_true_eq,
    UInt8.le_iff_toNat_le]
  exact and_congr_right fun _ => Nat.lt_succ_iff.symm

/-- A continuation byte is told by the bits which it adds. -/
theorem toNat_eq_of_isContinuation {byte : UInt8}
    (continues : isContinuation byte = true) :
    byte.toNat = 0x80 + continuationBits byte ∧ continuationBits byte < 64 := by
  have range := isContinuation_iff.1 continues
  rw [continuationBits]
  omega

theorem toNat_ofNat_of_lt {code : Nat} (small : code < 0x100) :
    (UInt8.ofNat code).toNat = code :=
  UInt8.toNat_ofNat_of_lt' small

/-- The continuation byte which adds some bits. -/
theorem isContinuation_ofNat {bits : Nat} (small : bits < 64) :
    isContinuation (UInt8.ofNat (0x80 + bits)) = true ∧
      continuationBits (UInt8.ofNat (0x80 + bits)) = bits := by
  rw [isContinuation_iff, continuationBits, toNat_ofNat_of_lt (by omega)]
  omega

/-! ## Standard encodings -/

theorem utf8EncodeChar_of_one {c : Char} (below : c.toNat < 0x80) :
    String.utf8EncodeChar c = [UInt8.ofNat c.toNat] :=
  if_pos (Nat.lt_succ_iff.1 below)

theorem utf8EncodeChar_of_two {c : Char} (above : 0x80 ≤ c.toNat)
    (below : c.toNat < 0x800) :
    String.utf8EncodeChar c =
      [UInt8.ofNat (0xc0 + c.toNat / 64),
        UInt8.ofNat (0x80 + c.toNat % 64)] := by
  have high : 0xc0 + c.toNat / 64 = c.toNat / 64 % 32 + 192 := by omega
  rw [high, Nat.add_comm 0x80]
  exact (if_neg (Nat.not_le.2 above)).trans (if_pos (Nat.lt_succ_iff.1 below))

theorem utf8EncodeChar_of_three {c : Char} (above : 0x800 ≤ c.toNat)
    (below : c.toNat < 0x10000) :
    String.utf8EncodeChar c =
      [UInt8.ofNat (0xe0 + c.toNat / 4096),
        UInt8.ofNat (0x80 + c.toNat / 64 % 64),
        UInt8.ofNat (0x80 + c.toNat % 64)] := by
  have first : ¬c.toNat ≤ 127 := by omega
  have second : ¬c.toNat ≤ 2047 := by omega
  have high : 0xe0 + c.toNat / 4096 = c.toNat / 4096 % 16 + 224 := by omega
  rw [high, Nat.add_comm 0x80, Nat.add_comm 0x80]
  exact (if_neg first).trans
    ((if_neg second).trans (if_pos (Nat.lt_succ_iff.1 below)))

theorem utf8EncodeChar_of_four {c : Char} (above : 0x10000 ≤ c.toNat) :
    String.utf8EncodeChar c =
      [UInt8.ofNat (0xf0 + c.toNat / 262144),
        UInt8.ofNat (0x80 + c.toNat / 4096 % 64),
        UInt8.ofNat (0x80 + c.toNat / 64 % 64),
        UInt8.ofNat (0x80 + c.toNat % 64)] := by
  have first : ¬c.toNat ≤ 127 := by omega
  have second : ¬c.toNat ≤ 2047 := by omega
  have third : ¬c.toNat ≤ 65535 := by omega
  have high : 0xf0 + c.toNat / 262144 = c.toNat / 262144 % 8 + 240 := by
    have := codePoint_lt c
    omega
  rw [high, Nat.add_comm 0x80, Nat.add_comm 0x80, Nat.add_comm 0x80]
  exact (if_neg first).trans ((if_neg second).trans (if_neg third))

/-! ## Reading one character -/

theorem exists_of_map_scalar? {least code : Nat} {c : Char}
    {others rest : List UInt8}
    (read : (scalar? least code).map (·, others) = some (c, rest)) :
    c.toNat = code ∧ least ≤ c.toNat ∧ others = rest := by
  rcases Option.map_eq_some_iff.1 read with ⟨found, scalar, same⟩
  cases same
  rcases scalar?_eq_some_iff.1 scalar with ⟨equal, enough⟩
  exact ⟨equal, equal ▸ enough, rfl⟩

/-- What is read from the front is the standard encoding of a character. -/
theorem eq_append_of_nextChar? {bytes rest : List UInt8} {c : Char}
    (read : nextChar? bytes = some (c, rest)) :
    bytes = String.utf8EncodeChar c ++ rest := by
  revert read
  fun_cases nextChar? bytes with
  | case2 lead others one =>
      intro read
      have one : lead.toNat < 0x80 := UInt8.lt_iff_toNat_lt.1 one
      rcases exists_of_map_scalar? read with ⟨code, -, rfl⟩
      rw [utf8EncodeChar_of_one (code ▸ one), code, UInt8.ofNat_toNat]
      rfl
  | case3 lead notOne two b others marks =>
      intro read
      have two : lead.toNat < 0xe0 := UInt8.lt_iff_toNat_lt.1 two
      have least : 0xc0 ≤ lead.toNat := UInt8.le_iff_toNat_le.1 marks.1
      have second := toNat_eq_of_isContinuation marks.2
      rcases exists_of_map_scalar? read with ⟨code, enough, rfl⟩
      rw [utf8EncodeChar_of_two enough (by omega)]
      have high : 0xc0 + c.toNat / 64 = lead.toNat := by omega
      have low : 0x80 + c.toNat % 64 = b.toNat := by omega
      rw [high, low, UInt8.ofNat_toNat, UInt8.ofNat_toNat]
      rfl
  | case6 lead notOne notTwo three b d others marks =>
      intro read
      have three : lead.toNat < 0xf0 := UInt8.lt_iff_toNat_lt.1 three
      have least : 0xe0 ≤ lead.toNat :=
        UInt8.le_iff_toNat_le.1 (UInt8.not_lt.1 notTwo)
      have second := toNat_eq_of_isContinuation marks.1
      have third := toNat_eq_of_isContinuation marks.2
      rcases exists_of_map_scalar? read with ⟨code, enough, rfl⟩
      rw [utf8EncodeChar_of_three enough (by omega)]
      have high : 0xe0 + c.toNat / 4096 = lead.toNat := by omega
      have middle : 0x80 + c.toNat / 64 % 64 = b.toNat := by omega
      have low : 0x80 + c.toNat % 64 = d.toNat := by omega
      rw [high, middle, low, UInt8.ofNat_toNat, UInt8.ofNat_toNat,
        UInt8.ofNat_toNat]
      rfl
  | case9 lead notOne notTwo notThree four b d e others marks =>
      intro read
      have four : lead.toNat < 0xf8 := UInt8.lt_iff_toNat_lt.1 four
      have least : 0xf0 ≤ lead.toNat :=
        UInt8.le_iff_toNat_le.1 (UInt8.not_lt.1 notThree)
      have second := toNat_eq_of_isContinuation marks.1
      have third := toNat_eq_of_isContinuation marks.2.1
      have fourth := toNat_eq_of_isContinuation marks.2.2
      rcases exists_of_map_scalar? read with ⟨code, enough, rfl⟩
      rw [utf8EncodeChar_of_four enough]
      have high : 0xf0 + c.toNat / 262144 = lead.toNat := by omega
      have upper : 0x80 + c.toNat / 4096 % 64 = b.toNat := by omega
      have middle : 0x80 + c.toNat / 64 % 64 = d.toNat := by omega
      have low : 0x80 + c.toNat % 64 = e.toNat := by omega
      rw [high, upper, middle, low, UInt8.ofNat_toNat, UInt8.ofNat_toNat,
        UInt8.ofNat_toNat, UInt8.ofNat_toNat]
      rfl
  | _ => nofun

theorem not_lt_of_le_toNat {byte bound : UInt8}
    (above : bound.toNat ≤ byte.toNat) :
    ¬byte < bound :=
  UInt8.not_lt.2 (UInt8.le_iff_toNat_le.2 above)

theorem nextChar?_of_one {lead : UInt8} (below : lead.toNat < 0x80)
    (rest : List UInt8) :
    nextChar? (lead :: rest) = (scalar? 0 lead.toNat).map (·, rest) :=
  if_pos (UInt8.lt_iff_toNat_lt.2 below)

theorem nextChar?_of_two {lead b : UInt8} (above : 0xc0 ≤ lead.toNat)
    (below : lead.toNat < 0xe0) (second : isContinuation b = true)
    (rest : List UInt8) :
    nextChar? (lead :: b :: rest) =
      (scalar? 0x80 (lead.toNat % 32 * 64 + continuationBits b)).map
        (·, rest) := by
  have notOne : ¬lead < 0x80 :=
    not_lt_of_le_toNat (Nat.le_trans (by decide) above)
  have two : lead < 0xe0 := UInt8.lt_iff_toNat_lt.2 below
  exact (if_neg notOne).trans
    ((if_pos two).trans (if_pos ⟨UInt8.le_iff_toNat_le.2 above, second⟩))

theorem nextChar?_of_three {lead b d : UInt8} (above : 0xe0 ≤ lead.toNat)
    (below : lead.toNat < 0xf0) (second : isContinuation b = true)
    (third : isContinuation d = true) (rest : List UInt8) :
    nextChar? (lead :: b :: d :: rest) =
      (scalar? 0x800
        (lead.toNat % 16 * 4096 + continuationBits b * 64 +
          continuationBits d)).map (·, rest) := by
  have notOne : ¬lead < 0x80 :=
    not_lt_of_le_toNat (Nat.le_trans (by decide) above)
  have notTwo : ¬lead < 0xe0 := not_lt_of_le_toNat above
  have three : lead < 0xf0 := UInt8.lt_iff_toNat_lt.2 below
  exact (if_neg notOne).trans ((if_neg notTwo).trans ((if_pos three).trans
    (if_pos ⟨second, third⟩)))

theorem nextChar?_of_four {lead b d e : UInt8} (above : 0xf0 ≤ lead.toNat)
    (below : lead.toNat < 0xf8) (second : isContinuation b = true)
    (third : isContinuation d = true) (fourth : isContinuation e = true)
    (rest : List UInt8) :
    nextChar? (lead :: b :: d :: e :: rest) =
      (scalar? 0x10000
        (lead.toNat % 8 * 262144 + continuationBits b * 4096 +
          continuationBits d * 64 +
          continuationBits e)).map (·, rest) := by
  have notOne : ¬lead < 0x80 :=
    not_lt_of_le_toNat (Nat.le_trans (by decide) above)
  have notTwo : ¬lead < 0xe0 :=
    not_lt_of_le_toNat (Nat.le_trans (by decide) above)
  have notThree : ¬lead < 0xf0 := not_lt_of_le_toNat above
  have four : lead < 0xf8 := UInt8.lt_iff_toNat_lt.2 below
  exact (if_neg notOne).trans
    ((if_neg notTwo).trans
      ((if_neg notThree).trans
        ((if_pos four).trans (if_pos ⟨second, third, fourth⟩))))

/--
The standard encoding of a character is read from the front as this character.
-/
theorem nextChar?_append (c : Char) (rest : List UInt8) :
    nextChar? (String.utf8EncodeChar c ++ rest) = some (c, rest) := by
  have bound := codePoint_lt c
  have scalar {least code : Nat} (enough : least ≤ c.toNat)
      (same : code = c.toNat) :
      (scalar? least code).map (·, rest) = some (c, rest) := by
    rw [scalar?_eq_some_iff.2 ⟨same.symm, same ▸ enough⟩]
    rfl
  have continues (bits : Nat) :=
    isContinuation_ofNat (Nat.mod_lt bits (by decide : 64 > 0))
  rcases Nat.lt_or_ge c.toNat 0x80 with one | notOne
  · have lead := toNat_ofNat_of_lt (show c.toNat < 0x100 by omega)
    rw [utf8EncodeChar_of_one one]
    exact (nextChar?_of_one (by omega) rest).trans (scalar (Nat.zero_le _) lead)
  rcases Nat.lt_or_ge c.toNat 0x800 with two | notTwo
  · have lead := toNat_ofNat_of_lt (show 0xc0 + c.toNat / 64 < 0x100 by omega)
    have second := continues c.toNat
    rw [utf8EncodeChar_of_two notOne two]
    exact (nextChar?_of_two (by omega) (by omega) second.1 rest).trans
      (scalar notOne (by omega))
  rcases Nat.lt_or_ge c.toNat 0x10000 with three | notThree
  · have lead := toNat_ofNat_of_lt (show 0xe0 + c.toNat / 4096 < 0x100 by omega)
    have second := continues (c.toNat / 64)
    have third := continues c.toNat
    rw [utf8EncodeChar_of_three notTwo three]
    exact (nextChar?_of_three (by omega) (by omega) second.1 third.1 rest).trans
      (scalar notTwo (by omega))
  · have lead :=
      toNat_ofNat_of_lt (show 0xf0 + c.toNat / 262144 < 0x100 by omega)
    have second := continues (c.toNat / 4096)
    have third := continues (c.toNat / 64)
    have fourth := continues c.toNat
    rw [utf8EncodeChar_of_four notThree]
    exact Eq.trans
      (nextChar?_of_four (by omega) (by omega) second.1 third.1 fourth.1 rest)
      (scalar notThree (by omega))

/-! ## Reading a whole sequence -/

/--
A sequence which begins with the encoding of a character is read as beginning
with it.
-/
theorem nextChar?_of_eq_flatMap {bytes : List UInt8} {c : Char}
    {chars : List Char}
    (encoded : bytes = (c :: chars).flatMap String.utf8EncodeChar) :
    nextChar? bytes = some (c, chars.flatMap String.utf8EncodeChar) := by
  rw [encoded, List.flatMap_cons, nextChar?_append]

theorem decodeOnto?_eq_some_iff {done chars : List Char} {bytes : List UInt8} :
    decodeOnto? done bytes = some chars ↔
      ∃ read, bytes = read.flatMap String.utf8EncodeChar ∧
        chars = done.reverse ++ read := by
  fun_induction decodeOnto? done bytes with
  | case1 done =>
      constructor
      · rintro ⟨⟩
        exact ⟨[], rfl, (List.append_nil _).symm⟩
      · rintro ⟨_ | ⟨c, read⟩, encoded, rfl⟩
        · rw [List.append_nil]
        · cases nextChar?_of_eq_flatMap encoded
  | case2 done byte others refused =>
      constructor
      · nofun
      · rintro ⟨_ | ⟨c, read⟩, encoded, -⟩
        · cases encoded
        · rw [nextChar?_of_eq_flatMap encoded] at refused
          cases refused
  | case3 done byte others c rest accepted shorter hypothesis =>
      rw [hypothesis]
      constructor
      · rintro ⟨read, rfl, rfl⟩
        exact ⟨c :: read, eq_append_of_nextChar? accepted, by simp⟩
      · rintro ⟨_ | ⟨d, read⟩, encoded, rfl⟩
        · cases encoded
        · rw [nextChar?_of_eq_flatMap encoded] at accepted
          cases accepted
          exact ⟨read, rfl, by simp⟩

/--
A byte sequence is read as a text exactly if it is the standard encoding of the
text.
-/
theorem decode?_eq_some_iff {bytes : List UInt8} {chars : List Char} :
    decode? bytes = some chars ↔
      bytes = chars.flatMap String.utf8EncodeChar := by
  rw [decode?, decodeOnto?_eq_some_iff]
  constructor
  · rintro ⟨read, rfl, rfl⟩
    rfl
  · rintro rfl
    exact ⟨chars, rfl, rfl⟩

end ClassFormat.Text.Utf8
