import ClassFormat.Proofs.Text.Readings

/-!
# What ill-formed bytes are read as

Bytes are well-formed if every one of them belongs to a character of standard
UTF-8 or to a continued group.  A byte which begins no complete group shows: it
is read as U+FFFD.  But what follows the first byte of a group is taken into it
whatever it is, and only its low bits count.  So there are ill-formed bytes
which nobody can tell from what is read: groups for all the units of a text, of
which some are not continued.  There are no others.
-/

namespace ClassFormat.ModifiedUtf8

open Text Text.Utf8

/--
Bytes each of which belongs to a character of standard UTF-8 or to a continued
group.
-/
inductive WellFormed : List UInt8 → Prop where
  | nil : WellFormed []
  | character (c : Char) {rest : List UInt8} (others : WellFormed rest) :
      WellFormed (String.utf8EncodeChar c ++ rest)
  | group {group : Group} (continued : group.Continued) {rest : List UInt8}
      (others : WellFormed rest) : WellFormed (group.bytes ++ rest)

/--
Bytes which are the standard encoding of a text, or groups for its units,
continued or not.
-/
def Spells (bytes : List UInt8) (text : List Char) : Prop :=
  bytes = text.flatMap String.utf8EncodeChar ∨
    ∃ groups : List Group, bytes = groups.flatMap Group.bytes ∧
      groups.map Group.unit = Utf16.encode text

/-! ## Well-formed bytes -/

theorem wellFormed_flatMap_utf8EncodeChar (text : List Char) :
    WellFormed (text.flatMap String.utf8EncodeChar) := by
  induction text with
  | nil => exact .nil
  | cons c text hypothesis => exact .character c hypothesis

/--
The first byte of a group is below those which begin a character of four bytes.
-/
theorem Group.exists_bytes_eq_cons (group : Group) :
    ∃ a others, group.bytes = a :: others ∧ a.toNat < 0xf0 := by
  cases group with
  | one a led => exact ⟨a, [], rfl, by omega⟩
  | two a b led => exact ⟨a, [b], rfl, by omega⟩
  | three a b c led => exact ⟨a, [b, c], rfl, led.2⟩

/-- No group stands where a character beyond the basic plane begins. -/
theorem bytes_append_ne_utf8EncodeChar_append {c : Char}
    (beyond : ¬c.toNat < 0x10000) (group : Group) (rest others : List UInt8) :
    group.bytes ++ rest ≠ String.utf8EncodeChar c ++ others := by
  intro same
  have bound := codePoint_lt c
  rcases group.exists_bytes_eq_cons with ⟨a, tail, begins, below⟩
  rw [begins, utf8EncodeChar_of_four (Nat.not_lt.1 beyond)] at same
  have lead := congrArg UInt8.toNat (List.cons.inj same).1
  rw [toNat_ofNat_of_lt (by omega)] at lead
  omega

/--
Bytes which begin with a group are well-formed only if this group is continued.
-/
theorem wellFormed_bytes_append_iff {group : Group} {rest : List UInt8} :
    WellFormed (group.bytes ++ rest) ↔ group.Continued ∧ WellFormed rest := by
  constructor
  · intro wellFormed
    generalize same : group.bytes ++ rest = bytes at wellFormed
    cases wellFormed with
    | nil =>
        rcases group.exists_bytes_eq_cons with ⟨a, tail, begins, -⟩
        rw [begins] at same
        cases same
    | character c others =>
        by_cases basic : c.toNat < 0x10000
        · rcases exists_group_of_basic basic with ⟨first, bytes, -, continued⟩
          rw [← bytes] at same
          rcases Group.eq_of_append_eq same with ⟨rfl, rfl⟩
          exact ⟨continued, others⟩
        · exact absurd same
            (bytes_append_ne_utf8EncodeChar_append basic group rest _)
    | group continued others =>
        rcases Group.eq_of_append_eq same with ⟨rfl, rfl⟩
        exact ⟨continued, others⟩
  · rintro ⟨continued, others⟩
    exact .group continued others

/-- Groups are well-formed exactly if all of them are continued. -/
theorem wellFormed_groups_iff {groups : List Group} :
    WellFormed (groups.flatMap Group.bytes) ↔
      ∀ group ∈ groups, group.Continued := by
  induction groups with
  | nil => exact ⟨fun _ => nofun, fun _ => .nil⟩
  | cons group groups hypothesis =>
      rw [List.flatMap_cons, wellFormed_bytes_append_iff, hypothesis,
        List.forall_mem_cons]

/--
Among the bytes which spell a text, those which are groups may be ill-formed.
-/
theorem Spells.wellFormed_iff {bytes : List UInt8} {text : List Char}
    (spelled : Spells bytes text) :
    WellFormed bytes ↔
      ∀ groups : List Group, bytes = groups.flatMap Group.bytes →
        ∀ group ∈ groups, group.Continued := by
  constructor
  · rintro wellFormed groups rfl
    exact wellFormed_groups_iff.1 wellFormed
  · intro continued
    rcases spelled with rfl | ⟨groups, rfl, -⟩
    · exact wellFormed_flatMap_utf8EncodeChar text
    · exact wellFormed_groups_iff.2 (continued groups rfl)

/-! ## Texts without U+FFFD -/

/-- What is read group by group without U+FFFD was spelled by groups. -/
theorem spells_of_decode {bytes : List UInt8}
    (readable : Utf16.replacement ∉ decode bytes) :
    Spells bytes (decode bytes) := by
  have encoded : Utf16.encode (decode bytes) = units bytes :=
    Utf16.encode_decode readable
  have allRead : unreadable ∉ units bytes := by
    intro member
    rw [← encoded] at member
    exact readable (Utf16.replacement_mem_of_encode member)
  rcases exists_groups_of_units allRead with ⟨groups, same⟩
  refine .inr ⟨groups, same, ?_⟩
  rw [encoded, same, units_flatMap_bytes]

theorem decode_of_groups {groups : List Group} {text : List Char}
    (spelled : groups.map Group.unit = Utf16.encode text) :
    decode (groups.flatMap Group.bytes) = text := by
  rw [decode, units_flatMap_bytes, spelled, Utf16.decode_encode]

/-- A text without U+FFFD is read from what spells it, and from nothing else. -/
theorem text_eq_iff_spells {entry : ModifiedUtf8} {text : String}
    (readable : Utf16.replacement ∉ text.toList) :
    entry.text = text ↔ Spells entry.bytes text.toList := by
  constructor
  · rintro rfl
    rw [ModifiedUtf8.text] at readable ⊢
    split
    · next chars accepted =>
        rw [String.toList_ofList]
        exact .inl (decode?_eq_some_iff.1 accepted)
    · next refused =>
        rw [refused] at readable
        rw [String.toList_ofList] at readable ⊢
        exact spells_of_decode readable
  · rintro (standard | ⟨groups, same, spelled⟩)
    · exact text_of_standard standard
    · have read : decode entry.bytes = text.toList := by
        rw [same, decode_of_groups spelled]
      rw [ModifiedUtf8.text]
      split
      · next chars accepted =>
          -- Groups which are standard UTF-8 at the same time have no character
          -- of four bytes.
          rw [decode?_eq_some_iff.1 accepted,
            decode_flatMap_utf8EncodeChar] at read
          rw [← read] at readable
          have basic : ∀ c ∈ chars, c.toNat < 0x10000 := fun c member =>
            Decidable.byContradiction fun beyond =>
              readable (replacement_mem_byGroups member beyond)
          rw [byGroups_eq_self_iff.2 basic] at read
          rw [read, String.ofList_toList]
      · rw [read, String.ofList_toList]

end ClassFormat.ModifiedUtf8
