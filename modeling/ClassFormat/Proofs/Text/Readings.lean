import ClassFormat.Proofs.Text.ModifiedUtf8

/-!
# The two readings of standard UTF-8

Which of the two readings an entry gets is decided for all of it at once: a
single byte which does not belong to standard UTF-8 has the whole entry read
group by group.  What stands before and behind this byte may be standard UTF-8,
and is then read by the reading which was not made for it.

Characters of the basic plane are read alike.  The modified encoding writes the
others as two groups each, and has no use for the four bytes they take in
standard UTF-8: read group by group, every one of these bytes is U+FFFD.  So the
readings agree exactly on the texts of the basic plane.
-/

namespace ClassFormat.ModifiedUtf8

open Text Text.Utf8

/-- A text as it is read from its standard encoding group by group. -/
def byGroups (text : List Char) : List Char :=
  text.flatMap fun c =>
    if c.toNat < 0x10000 then [c] else List.replicate 4 Utf16.replacement

theorem byGroups_cons_of_basic {c : Char} (basic : c.toNat < 0x10000)
    (text : List Char) :
    byGroups (c :: text) = c :: byGroups text := by
  rw [byGroups, List.flatMap_cons, if_pos basic]
  rfl

theorem byGroups_cons_of_beyond {c : Char} (beyond : ¬c.toNat < 0x10000)
    (text : List Char) :
    byGroups (c :: text) =
      List.replicate 4 Utf16.replacement ++ byGroups text := by
  rw [byGroups, List.flatMap_cons, if_neg beyond]
  rfl

theorem basic_of_mem_byGroups {text : List Char} {c : Char}
    (member : c ∈ byGroups text) :
    c.toNat < 0x10000 := by
  rcases List.mem_flatMap.1 member with ⟨source, -, inside⟩
  split at inside
  · next basic => rwa [List.mem_singleton.1 inside]
  · rw [List.eq_of_mem_replicate inside]
    decide

/-- The texts of the basic plane stay as they are. -/
theorem byGroups_eq_self_iff {text : List Char} :
    byGroups text = text ↔ ∀ c ∈ text, c.toNat < 0x10000 := by
  constructor
  · intro same c member
    rw [← same] at member
    exact basic_of_mem_byGroups member
  · intro basic
    induction text with
    | nil => rfl
    | cons c text hypothesis =>
        rcases List.forall_mem_cons.1 basic with ⟨first, others⟩
        rw [byGroups_cons_of_basic first, hypothesis others]

/-- A character beyond the basic plane leaves U+FFFD behind. -/
theorem replacement_mem_byGroups {text : List Char} {c : Char}
    (member : c ∈ text) (beyond : ¬c.toNat < 0x10000) :
    Utf16.replacement ∈ byGroups text := by
  refine List.mem_flatMap.2 ⟨c, member, ?_⟩
  rw [if_neg beyond]
  exact List.mem_cons_self

/-! ## Standard encodings read group by group -/

/--
A character of the basic plane is encoded as a group by standard UTF-8 too.
-/
theorem exists_group_of_basic {c : Char} (basic : c.toNat < 0x10000) :
    ∃ group : Group, group.bytes = String.utf8EncodeChar c ∧
      group.unit = c.toNat.toUInt16 ∧ group.Continued := by
  rcases Nat.eq_zero_or_pos c.toNat with zero | positive
  · refine ⟨.one 0 (by decide), ?_, ?_, nofun⟩
    · rw [utf8EncodeChar_of_one (by omega), zero]
      rfl
    · rw [zero]
      rfl
  · rw [← encodeUnit_of_basic positive basic]
    exact exists_group_of_encodeUnit _

/-- The four bytes of a character beyond the basic plane begin no group. -/
theorem units_utf8EncodeChar_append_of_beyond {c : Char}
    (beyond : ¬c.toNat < 0x10000) (rest : List UInt8) :
    units (String.utf8EncodeChar c ++ rest) =
      unreadable :: unreadable :: unreadable :: unreadable :: units rest := by
  have bound := codePoint_lt c
  have lead : 0xf0 ≤ (UInt8.ofNat (0xf0 + c.toNat / 262144)).toNat := by
    rw [toNat_ofNat_of_lt (by omega)]
    omega
  have continues (bits : Nat) :=
    (isContinuation_ofNat (Nat.mod_lt bits (by decide : 64 > 0))).1
  have alone {a : UInt8} (rest : List UInt8) (stray : isContinuation a = true ∨
      0xf0 ≤ a.toNat) :
      units (a :: rest) = unreadable :: units rest :=
    units_of_stray fun done => unitsOnto_of_stray done stray rest
  rw [utf8EncodeChar_of_four (Nat.not_lt.1 beyond)]
  simp only [List.cons_append, List.nil_append]
  rw [alone _ (.inr lead), alone _ (.inl (continues _)),
    alone _ (.inl (continues _)), alone _ (.inl (continues _))]

/-- The standard encoding of a text has the units of what is read from it. -/
theorem units_flatMap_utf8EncodeChar_append (text : List Char)
    (rest : List UInt8) :
    units (text.flatMap String.utf8EncodeChar ++ rest) =
      Utf16.encode (byGroups text) ++ units rest := by
  induction text with
  | nil => rfl
  | cons c text hypothesis =>
      rw [List.flatMap_cons, List.append_assoc]
      by_cases basic : c.toNat < 0x10000
      · rcases exists_group_of_basic basic with ⟨group, bytes, unit, -⟩
        rw [← bytes, units_bytes_append, unit, hypothesis,
          byGroups_cons_of_basic basic, Utf16.encode_cons_of_basic basic]
        rfl
      · rw [units_utf8EncodeChar_append_of_beyond basic, hypothesis,
          byGroups_cons_of_beyond basic, Utf16.encode_append]
        rfl

theorem decode_flatMap_utf8EncodeChar (text : List Char) :
    decode (text.flatMap String.utf8EncodeChar) = byGroups text := by
  have read := units_flatMap_utf8EncodeChar_append text []
  rw [List.append_nil] at read
  rw [decode, read]
  show Utf16.decode (Utf16.encode (byGroups text) ++ []) = _
  rw [List.append_nil, Utf16.decode_encode]

/-! ## Around an encoded U+0000 -/

/--
The lead byte of the two which stand for U+0000 never occurs in standard UTF-8.
-/
theorem not_mem_utf8EncodeChar (c : Char) : 0xc0 ∉ String.utf8EncodeChar c := by
  have bound := codePoint_lt c
  have other {code : Nat} (small : code < 0x100) (different : code ≠ 0xc0) :
      0xc0 ≠ UInt8.ofNat code := by
    intro same
    have equal := congrArg UInt8.toNat same
    rw [toNat_ofNat_of_lt small] at equal
    exact different equal.symm
  rcases Nat.lt_or_ge c.toNat 0x80 with one | notOne
  · rw [utf8EncodeChar_of_one one, List.mem_singleton]
    exact other (by omega) (by omega)
  rcases Nat.lt_or_ge c.toNat 0x800 with two | notTwo
  · rw [utf8EncodeChar_of_two notOne two, List.mem_pair, not_or]
    exact ⟨other (by omega) (by omega), other (by omega) (by omega)⟩
  rcases Nat.lt_or_ge c.toNat 0x10000 with three | notThree
  · rw [utf8EncodeChar_of_three notTwo three, List.mem_cons, List.mem_pair,
      not_or, not_or]
    exact ⟨other (by omega) (by omega), other (by omega) (by omega),
      other (by omega) (by omega)⟩
  · rw [utf8EncodeChar_of_four notThree, List.mem_cons, List.mem_cons,
      List.mem_pair, not_or, not_or, not_or]
    exact ⟨other (by omega) (by omega), other (by omega) (by omega),
      other (by omega) (by omega), other (by omega) (by omega)⟩

theorem decode?_eq_none_of_mem {bytes : List UInt8} (member : 0xc0 ∈ bytes) :
    Utf8.decode? bytes = none := by
  rw [Option.eq_none_iff_forall_not_mem]
  intro text accepted
  rw [decode?_eq_some_iff.1 accepted, List.mem_flatMap] at member
  rcases member with ⟨c, -, inside⟩
  exact not_mem_utf8EncodeChar c inside

/--
The standard encodings of some texts, each of them behind two bytes which stand
for U+0000.
-/
def behindNuls (texts : List (List Char)) : List UInt8 :=
  texts.flatMap fun text => 0xc0 :: 0x80 :: text.flatMap String.utf8EncodeChar

/-- What is read from them. -/
def readBehindNuls (texts : List (List Char)) : List Char :=
  texts.flatMap fun text => '\x00' :: byGroups text

theorem units_behindNuls (texts : List (List Char)) :
    units (behindNuls texts) = Utf16.encode (readBehindNuls texts) := by
  induction texts with
  | nil => rfl
  | cons text texts hypothesis =>
      calc
        units (behindNuls (text :: texts)) =
            0 ::
              units (text.flatMap String.utf8EncodeChar ++ behindNuls texts) :=
          units_bytes_append (.two 0xc0 0x80 (by decide)) _
        _ =
          0 ::
            (Utf16.encode (byGroups text) ++
              Utf16.encode (readBehindNuls texts)) := by
          rw [units_flatMap_utf8EncodeChar_append, hypothesis]
        _ = Utf16.encode ('\x00' :: byGroups text) ++
              Utf16.encode (readBehindNuls texts) := by
          rw [Utf16.encode_cons_of_basic (by decide)]
          rfl
        _ = Utf16.encode (readBehindNuls (text :: texts)) :=
          (Utf16.encode_append _ _).symm

/-- One encoded U+0000 is enough to have all the rest read group by group. -/
theorem text_with_nuls (first : List Char) {texts : List (List Char)}
    (nuls : texts ≠ []) :
    (⟨first.flatMap String.utf8EncodeChar ++ behindNuls texts⟩ :
      ModifiedUtf8).text =
      String.ofList (byGroups first ++ readBehindNuls texts) := by
  have lead : 0xc0 ∈ behindNuls texts := by
    rcases List.exists_cons_of_ne_nil nuls with ⟨text, others, rfl⟩
    exact List.mem_cons_self
  rw [ModifiedUtf8.text, decode?_eq_none_of_mem (List.mem_append_right _ lead)]
  show String.ofList (decode _) = _
  rw [decode, units_flatMap_utf8EncodeChar_append, units_behindNuls,
    ← Utf16.encode_append, Utf16.decode_encode]

/--
What is standard UTF-8 is read as the text it encodes.  Read group by group it
would be the text with four times U+FFFD for every character beyond the basic
plane, and so the same text exactly if there is no such character.  This is how
it is read if two bytes which stand for U+0000 follow, and so is all other
standard UTF-8 if such bytes stand in between.
-/
theorem standard_is_read_by_groups {bytes : List UInt8} {text : List Char}
    (standard : Utf8.decode? bytes = some text) :
    (⟨bytes⟩ : ModifiedUtf8).text = String.ofList text ∧
      decode bytes = byGroups text ∧
      (decode bytes = text ↔ ∀ c ∈ text, c.toNat < 0x10000) ∧
      (⟨bytes ++ [0xc0, 0x80]⟩ : ModifiedUtf8).text =
        String.ofList (byGroups text ++ ['\x00']) ∧
      ∀ texts : List (List Char), texts ≠ [] →
        (⟨bytes ++ behindNuls texts⟩ : ModifiedUtf8).text =
          String.ofList (byGroups text ++ readBehindNuls texts) := by
  have read : (⟨bytes⟩ : ModifiedUtf8).text = String.ofList text := by
    rw [ModifiedUtf8.text, standard]
  rcases decode?_eq_some_iff.1 standard with rfl
  have grouped := decode_flatMap_utf8EncodeChar text
  have one : [([] : List Char)] ≠ [] := List.cons_ne_nil _ _
  refine ⟨read, grouped, ?_, text_with_nuls text one, fun _ nuls =>
    text_with_nuls text nuls⟩
  rw [grouped, byGroups_eq_self_iff]

/--
A letter of two bytes and a character of four, before, between and behind two
encoded U+0000.  The letter is read again, and there are four times U+FFFD for
the other character.
-/
theorem standard_is_read_by_groups_sample :
    (Utf8.decode? [0xc3, 0xa9] = some ['é'] ∧
      decode [0xc3, 0xa9] = ['é'] ∧
      (⟨[0xc3, 0xa9, 0xc0, 0x80]⟩ : ModifiedUtf8).text = "é\x00" ∧
      (⟨[0xc3, 0xa9, 0xc0, 0x80, 0xc3, 0xa9, 0xc0, 0x80, 0xc3, 0xa9]⟩ :
        ModifiedUtf8).text =
        "é\x00é\x00é") ∧
    (Utf8.decode? [0xc3, 0xa9, 0xf0, 0x9f, 0x98, 0x80] = some ['é', '😀'] ∧
      (⟨[0xc3, 0xa9, 0xf0, 0x9f, 0x98, 0x80]⟩ : ModifiedUtf8).text = "é😀" ∧
      decode [0xc3, 0xa9, 0xf0, 0x9f, 0x98, 0x80] =
        ['é', '\ufffd', '\ufffd', '\ufffd', '\ufffd'] ∧
      decode [0xc3, 0xa9, 0xf0, 0x9f, 0x98, 0x80] ≠ ['é', '😀'] ∧
      (⟨[0xc3, 0xa9, 0xf0, 0x9f, 0x98, 0x80, 0xc0, 0x80]⟩ : ModifiedUtf8).text =
        "é\ufffd\ufffd\ufffd\ufffd\x00" ∧
      (⟨[0xc3, 0xa9, 0xf0, 0x9f, 0x98, 0x80, 0xc0, 0x80, 0xf0, 0x9f, 0x98, 0x80,
        0xc0, 0x80, 0xc3, 0xa9]⟩ : ModifiedUtf8).text =
        "é\ufffd\ufffd\ufffd\ufffd\x00\ufffd\ufffd\ufffd\ufffd\x00é") := by
  refine ⟨?basic, ?beyond⟩
  case basic =>
    have standard : Utf8.decode? [0xc3, 0xa9] = some ['é'] := by decide +kernel
    rcases standard_is_read_by_groups standard with ⟨-, -, same, ends, between⟩
    have basic : ∀ c ∈ ['é'],
        c.toNat < 0x10000 := List.forall_mem_singleton.2 (by decide)
    exact ⟨standard, same.2 basic, ends, between [['é'], ['é']] (by decide)⟩
  case beyond =>
    have standard : Utf8.decode? [0xc3, 0xa9, 0xf0, 0x9f, 0x98, 0x80] =
        some ['é', '😀'] := by
      decide +kernel
    rcases standard_is_read_by_groups standard with
      ⟨read, grouped, same, ends, between⟩
    have beyond : ¬ ∀ c ∈ ['é', '😀'], c.toNat < 0x10000 :=
      fun basic => absurd (basic '😀' (by decide)) (by decide)
    exact ⟨standard, read, grouped, mt same.1 beyond, ends,
      between [['😀'], ['é']] (by decide)⟩

/--
A character of four bytes is read as it is, but not if two bytes for U+0000
follow.
-/
theorem beyond_basic_plane_is_lost :
    Utf8.decode? [0xf0, 0x9f, 0x98, 0x80] = some ['😀'] ∧
      decode [0xf0, 0x9f, 0x98, 0x80] ≠ ['😀'] ∧
      (⟨[0xf0, 0x9f, 0x98, 0x80, 0xc0, 0x80]⟩ : ModifiedUtf8).text ≠
        (⟨[0xf0, 0x9f, 0x98, 0x80]⟩ : ModifiedUtf8).text ++ "\x00" := by
  decide +kernel

end ClassFormat.ModifiedUtf8
