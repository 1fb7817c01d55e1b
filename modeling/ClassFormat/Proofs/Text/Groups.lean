import ClassFormat.Proofs.Text.Utf8
import ClassFormat.Text.ModifiedUtf8

/-!
# Groups of bytes

The modified encoding writes a unit as a group of one to three bytes, and the
first byte of a group tells how many they are.  Reading group by group takes the
groups one after the other, and takes a byte which begins no complete group by
itself.  So where no unit read is the one for such bytes, the bytes are groups
throughout.

Nothing but the first byte of a group is looked at to find its end.  The bytes
which follow need not be continuation bytes, and a group is *continued* if they
are.  The groups which encode units are.
-/

namespace ClassFormat.ModifiedUtf8

open Text Text.Utf8

/-- One to three bytes, of which the first tells how many they are. -/
inductive Group where
  | one (a : UInt8) (led : a.toNat < 0x80)
  | two (a b : UInt8) (led : 0xc0 ≤ a.toNat ∧ a.toNat < 0xe0)
  | three (a b c : UInt8) (led : 0xe0 ≤ a.toNat ∧ a.toNat < 0xf0)
  deriving DecidableEq

namespace Group

/-- The bytes of a group. -/
def bytes : Group → List UInt8
  | one a _ => [a]
  | two a b _ => [a, b]
  | three a b c _ => [a, b, c]

/-- The unit which a group stands for. -/
def unit : Group → UInt16
  | one a _ => a.toUInt16
  | two a b _ => unit2 a b
  | three a b c _ => unit3 a b c

/-- All bytes but the first are continuation bytes. -/
def Continued (group : Group) : Prop :=
  ∀ byte ∈ group.bytes.tail, isContinuation byte = true

instance : DecidablePred Continued := fun group =>
  inferInstanceAs
    (Decidable (∀ byte ∈ group.bytes.tail, isContinuation byte = true))

end Group

/-! ## One step of reading -/

theorem unitsOnto_of_one (done : List UInt16) {a : UInt8}
    (below : a.toNat < 0x80) (rest : List UInt8) :
    unitsOnto done (a :: rest) = unitsOnto (a.toUInt16 :: done) rest := by
  have one : a < 0x80 := UInt8.lt_iff_toNat_lt.2 below
  rw [unitsOnto.eq_def]
  exact if_pos one

theorem unitsOnto_of_two (done : List UInt16) {a : UInt8}
    (above : 0xc0 ≤ a.toNat) (below : a.toNat < 0xe0) (b : UInt8)
    (rest : List UInt8) :
    unitsOnto done (a :: b :: rest) = unitsOnto (unit2 a b :: done) rest := by
  have notOne : ¬a < 0x80 := not_lt_of_le_toNat (Nat.le_trans (by decide) above)
  have two : 0xc0 ≤ a ∧ a < 0xe0 :=
    ⟨UInt8.le_iff_toNat_le.2 above, UInt8.lt_iff_toNat_lt.2 below⟩
  rw [unitsOnto.eq_def]
  exact (if_neg notOne).trans (if_pos two)

theorem unitsOnto_of_three (done : List UInt16) {a : UInt8}
    (above : 0xe0 ≤ a.toNat) (below : a.toNat < 0xf0) (b c : UInt8)
    (rest : List UInt8) :
    unitsOnto done (a :: b :: c :: rest) =
      unitsOnto (unit3 a b c :: done) rest := by
  have notOne : ¬a < 0x80 := not_lt_of_le_toNat (Nat.le_trans (by decide) above)
  have notTwo : ¬(0xc0 ≤ a ∧ a < 0xe0) := fun two =>
    absurd two.2 (not_lt_of_le_toNat above)
  have three : 0xe0 ≤ a ∧ a < 0xf0 :=
    ⟨UInt8.le_iff_toNat_le.2 above, UInt8.lt_iff_toNat_lt.2 below⟩
  rw [unitsOnto.eq_def]
  exact (if_neg notOne).trans ((if_neg notTwo).trans (if_pos three))

/-- Continuation bytes and those from `0xf0` on begin no group. -/
theorem unitsOnto_of_stray (done : List UInt16) {a : UInt8}
    (stray : isContinuation a = true ∨ 0xf0 ≤ a.toNat) (rest : List UInt8) :
    unitsOnto done (a :: rest) = unitsOnto (unreadable :: done) rest := by
  rw [isContinuation_iff] at stray
  have notOne : ¬a < 0x80 := not_lt_of_le_toNat (show 0x80 ≤ a.toNat by omega)
  have notTwo : ¬(0xc0 ≤ a ∧ a < 0xe0) := by
    rw [UInt8.le_iff_toNat_le, UInt8.lt_iff_toNat_lt]
    show ¬(0xc0 ≤ a.toNat ∧ a.toNat < 0xe0)
    omega
  have notThree : ¬(0xe0 ≤ a ∧ a < 0xf0) := by
    rw [UInt8.le_iff_toNat_le, UInt8.lt_iff_toNat_lt]
    show ¬(0xe0 ≤ a.toNat ∧ a.toNat < 0xf0)
    omega
  rw [unitsOnto.eq_def]
  exact (if_neg notOne).trans ((if_neg notTwo).trans (if_neg notThree))

/-- The first byte of two is all that is left of them. -/
theorem unitsOnto_of_half (done : List UInt16) {a : UInt8}
    (above : 0xc0 ≤ a.toNat) (below : a.toNat < 0xe0) :
    unitsOnto done [a] = unitsOnto (unreadable :: done) [] := by
  have notOne : ¬a < 0x80 := not_lt_of_le_toNat (Nat.le_trans (by decide) above)
  have two : 0xc0 ≤ a ∧ a < 0xe0 :=
    ⟨UInt8.le_iff_toNat_le.2 above, UInt8.lt_iff_toNat_lt.2 below⟩
  rw [unitsOnto.eq_def]
  exact (if_neg notOne).trans (if_pos two)

/-- Of three bytes the first one or two are left. -/
theorem unitsOnto_of_part (done : List UInt16) {a : UInt8}
    (above : 0xe0 ≤ a.toNat) (below : a.toNat < 0xf0) {rest : List UInt8}
    (short : rest.length < 2) :
    unitsOnto done (a :: rest) = unitsOnto (unreadable :: done) rest := by
  have notOne : ¬a < 0x80 := not_lt_of_le_toNat (Nat.le_trans (by decide) above)
  have notTwo : ¬(0xc0 ≤ a ∧ a < 0xe0) := fun two =>
    absurd two.2 (not_lt_of_le_toNat above)
  have three : 0xe0 ≤ a ∧ a < 0xf0 :=
    ⟨UInt8.le_iff_toNat_le.2 above, UInt8.lt_iff_toNat_lt.2 below⟩
  rw [unitsOnto.eq_def]
  match rest, short with
  | [], _ => exact (if_neg notOne).trans ((if_neg notTwo).trans (if_pos three))
  | [b], _ => exact (if_neg notOne).trans ((if_neg notTwo).trans (if_pos three))

/-- Reading takes a group as its unit, whatever follows. -/
theorem unitsOnto_bytes_append (done : List UInt16) (group : Group)
    (rest : List UInt8) :
    unitsOnto done (group.bytes ++ rest) =
      unitsOnto (group.unit :: done) rest := by
  cases group with
  | one a led => exact unitsOnto_of_one done led rest
  | two a b led => exact unitsOnto_of_two done led.1 led.2 b rest
  | three a b c led => exact unitsOnto_of_three done led.1 led.2 b c rest

/-- A byte which begins no complete group is taken by itself. -/
def Stray (a : UInt8) (rest : List UInt8) : Prop :=
  ∀ done, unitsOnto done (a :: rest) = unitsOnto (unreadable :: done) rest

/-- A group stands at the front, or else a byte which begins none. -/
theorem exists_group_or_stray (a : UInt8) (rest : List UInt8) :
    (∃ (group : Group) (others : List UInt8),
        a :: rest = group.bytes ++ others) ∨
      Stray a rest := by
  rcases Nat.lt_or_ge a.toNat 0x80 with one | notOne
  · exact .inl ⟨.one a one, rest, rfl⟩
  rcases Nat.lt_or_ge a.toNat 0xc0 with continues | notTwo
  · exact .inr fun done =>
      unitsOnto_of_stray done
        (.inl (isContinuation_iff.2 ⟨notOne, continues⟩)) rest
  rcases Nat.lt_or_ge a.toNat 0xe0 with two | notThree
  · cases rest with
    | nil => exact .inr fun done => unitsOnto_of_half done notTwo two
    | cons b others => exact .inl ⟨.two a b ⟨notTwo, two⟩, others, rfl⟩
  rcases Nat.lt_or_ge a.toNat 0xf0 with three | beyond
  · match rest with
    | [] =>
        exact .inr fun done =>
          unitsOnto_of_part done notThree three Nat.zero_lt_two
    | [b] =>
        exact .inr fun done =>
          unitsOnto_of_part done notThree three Nat.one_lt_two
    | b :: c :: others =>
        exact .inl ⟨.three a b c ⟨notThree, three⟩, others, rfl⟩
  · exact .inr fun done => unitsOnto_of_stray done (.inr beyond) rest

/-! ## Reading many groups -/

theorem Group.length_pos (group : Group) : 0 < group.bytes.length := by
  cases group <;> exact Nat.succ_pos _

/--
Induction along the reading: a group at a time, or a byte which begins none.
-/
theorem groupInduction {motive : List UInt8 → Prop} (nil : motive [])
    (group : ∀ (group : Group) (rest : List UInt8), motive rest →
      motive (group.bytes ++ rest))
    (stray : ∀ (a : UInt8) (rest : List UInt8), Stray a rest → motive rest →
      motive (a :: rest))
    (bytes : List UInt8) : motive bytes :=
  match bytes with
  | [] => nil
  | a :: rest => by
    rcases exists_group_or_stray a rest with ⟨first, others, front⟩ | alone
    · have shorter : others.length < rest.length + 1 := by
        have lengths := congrArg List.length front
        rw [List.length_cons, List.length_append] at lengths
        have := first.length_pos
        omega
      rw [front]
      exact group first others (groupInduction nil group stray others)
    · exact stray a rest alone (groupInduction nil group stray rest)
termination_by bytes.length

/-- What is read is put after what was read before. -/
theorem unitsOnto_eq_append (done : List UInt16) (bytes : List UInt8) :
    unitsOnto done bytes = done.reverse ++ units bytes := by
  induction bytes using groupInduction generalizing done with
  | nil => exact (List.append_nil _).symm
  | group group rest hypothesis =>
      rw [units, unitsOnto_bytes_append, unitsOnto_bytes_append, hypothesis,
        hypothesis [group.unit]]
      simp
  | stray a rest alone hypothesis =>
      rw [units, alone, alone, hypothesis, hypothesis [unreadable]]
      simp

theorem units_bytes_append (group : Group) (rest : List UInt8) :
    units (group.bytes ++ rest) = group.unit :: units rest := by
  rw [units, unitsOnto_bytes_append, unitsOnto_eq_append]
  rfl

theorem units_of_stray {a : UInt8} {rest : List UInt8} (alone : Stray a rest) :
    units (a :: rest) = unreadable :: units rest := by
  rw [units, alone, unitsOnto_eq_append]
  rfl

/-- Groups are read as their units. -/
theorem units_flatMap_bytes (groups : List Group) :
    units (groups.flatMap Group.bytes) = groups.map Group.unit := by
  induction groups with
  | nil => rfl
  | cons group groups hypothesis =>
      rw [List.flatMap_cons, units_bytes_append, hypothesis, List.map_cons]

/-- Where every unit can be read there are groups throughout. -/
theorem exists_groups_of_units {bytes : List UInt8}
    (readable : unreadable ∉ units bytes) :
    ∃ groups : List Group, bytes = groups.flatMap Group.bytes := by
  induction bytes using groupInduction with
  | nil => exact ⟨[], rfl⟩
  | group group rest hypothesis =>
      rw [units_bytes_append] at readable
      rcases hypothesis (List.not_mem_of_not_mem_cons readable) with
        ⟨groups, same⟩
      exact ⟨group :: groups, by rw [List.flatMap_cons, same]⟩
  | stray a rest alone hypothesis =>
      rw [units_of_stray alone] at readable
      exact absurd List.mem_cons_self readable

/-- The first byte of a group tells where the group ends. -/
theorem Group.eq_of_append_eq {first second : Group} {rest others : List UInt8}
    (same : first.bytes ++ rest = second.bytes ++ others) :
    first = second ∧ rest = others := by
  cases first <;> cases second <;> cases same <;> try omega
  all_goals exact ⟨rfl, rfl⟩

/-! ## Groups of encoded units -/

theorem encodeUnit_of_one {unit : UInt16} (nonzero : 0 < unit.toNat)
    (below : unit.toNat < 0x80) :
    encodeUnit unit = [UInt8.ofNat unit.toNat] :=
  if_pos ⟨nonzero, below⟩

theorem encodeUnit_of_two {unit : UInt16}
    (outside : ¬(0 < unit.toNat ∧ unit.toNat < 0x80))
    (below : unit.toNat < 0x800) :
    encodeUnit unit =
      [UInt8.ofNat (0xc0 + unit.toNat / 64),
        UInt8.ofNat (0x80 + unit.toNat % 64)] :=
  (if_neg outside).trans (if_pos below)

theorem encodeUnit_of_three {unit : UInt16} (above : 0x800 ≤ unit.toNat) :
    encodeUnit unit =
      [UInt8.ofNat (0xe0 + unit.toNat / 4096),
        UInt8.ofNat (0x80 + unit.toNat / 64 % 64),
        UInt8.ofNat (0x80 + unit.toNat % 64)] := by
  have outside : ¬(0 < unit.toNat ∧ unit.toNat < 0x80) := by omega
  exact (if_neg outside).trans (if_neg (Nat.not_lt.2 above))

/-- A unit is encoded as a group which stands for it. -/
theorem exists_group_of_encodeUnit (unit : UInt16) :
    ∃ group : Group, group.bytes = encodeUnit unit ∧ group.unit = unit ∧
      group.Continued := by
  have bound : unit.toNat < 0x10000 := unit.toNat_lt
  have continues (bits : Nat) :=
    isContinuation_ofNat (Nat.mod_lt bits (by decide : 64 > 0))
  by_cases one : 0 < unit.toNat ∧ unit.toNat < 0x80
  · have lead := toNat_ofNat_of_lt (show unit.toNat < 0x100 by omega)
    refine ⟨.one (UInt8.ofNat unit.toNat) (by omega),
      (encodeUnit_of_one one.1 one.2).symm, ?_, nofun⟩
    exact UInt16.toNat_inj.1 ((UInt8.toNat_toUInt16 _).trans lead)
  rcases Nat.lt_or_ge unit.toNat 0x800 with two | notTwo
  · have lead :=
      toNat_ofNat_of_lt (show 0xc0 + unit.toNat / 64 < 0x100 by omega)
    have second :=
      toNat_ofNat_of_lt (show 0x80 + unit.toNat % 64 < 0x100 by omega)
    have code : (0xc0 + unit.toNat / 64) % 32 * 64 +
        (0x80 + unit.toNat % 64) % 64 =
        unit.toNat := by omega
    refine ⟨.two _ _ (by omega), (encodeUnit_of_two one two).symm, ?_, ?_⟩
    · rw [Group.unit, unit2, lead, second, code]
      exact UInt16.ofNat_toNat
    · exact List.forall_mem_singleton.2 (continues unit.toNat).1
  · have lead :=
      toNat_ofNat_of_lt (show 0xe0 + unit.toNat / 4096 < 0x100 by omega)
    have second :=
      toNat_ofNat_of_lt (show 0x80 + unit.toNat / 64 % 64 < 0x100 by omega)
    have third :=
      toNat_ofNat_of_lt (show 0x80 + unit.toNat % 64 < 0x100 by omega)
    have code :
        (0xe0 + unit.toNat / 4096) % 16 * 4096 +
            (0x80 + unit.toNat / 64 % 64) % 64 * 64 +
            (0x80 + unit.toNat % 64) % 64 =
          unit.toNat := by omega
    refine ⟨.three _ _ _ (by omega), (encodeUnit_of_three notTwo).symm, ?_, ?_⟩
    · rw [Group.unit, unit3, lead, second, third, code]
      exact UInt16.ofNat_toNat
    · exact List.forall_mem_cons.2
        ⟨(continues _).1, List.forall_mem_singleton.2 (continues _).1⟩

end ClassFormat.ModifiedUtf8
