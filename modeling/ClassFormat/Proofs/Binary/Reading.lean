import ClassFormat.Binary.Decoder
import ClassFormat.Proofs.Binary.Output

/-!
# Reading what was written

Two relations tie decoders to encodings, one for each direction.

An encoding *spans* an input up to a rest if it comes out in full as the bytes
before the rest: this is what is known of a value after it was read.

A decoder *takes* some bytes for a value if it finds the value whatever follows
the bytes, leaves what follows alone, and stops early on everything that lacks
the end of the bytes.  It *reads back* an encoding as a value if it takes the
bytes of the encoding for it, unless the encoding was cut short: this is what is
known of a value before it is written.

Both relations are closed under sequence, so a decoder which reads its fields
one after another needs one step for each field.
-/

namespace ClassFormat

instance decidableEqExcept {ε α : Type} [DecidableEq ε] [DecidableEq α] :
    DecidableEq (Except ε α)
  | .ok first, .ok second => decidable_of_iff (first = second) (by simp)
  | .error first, .error second => decidable_of_iff (first = second) (by simp)
  | .ok _, .error _ => isFalse nofun
  | .error _, .ok _ => isFalse nofun

/-- An encoding which comes out as the bytes of an input before a rest. -/
def Encoding.Spans (encoding : Encoding) (input rest : List UInt8) : Prop :=
  ∃ taken, encoding = .ofBytes taken ∧ input = taken ++ rest

namespace Encoding.Spans

theorem empty (input : List UInt8) : Encoding.empty.Spans input input :=
  ⟨[], rfl, rfl⟩

theorem append
    {first second : Encoding} {input between rest : List UInt8}
    (front : first.Spans input between) (back : second.Spans between rest) :
    (first ++ second).Spans input rest := by
  rcases front with ⟨frontBytes, rfl, rfl⟩
  rcases back with ⟨backBytes, rfl, rfl⟩
  exact ⟨frontBytes ++ backBytes, rfl,
    (List.append_assoc frontBytes backBytes rest).symm⟩

theorem length_le
    {encoding : Encoding} {input rest : List UInt8}
    (spans : encoding.Spans input rest) :
    rest.length ≤ input.length := by
  rcases spans with ⟨taken, -, rfl⟩
  exact List.suffix_append taken rest |>.length_le

/-- With nothing left, the encoding is all of the input. -/
theorem eq_ofBytes {encoding : Encoding} {input : List UInt8}
    (spans : encoding.Spans input []) :
    encoding = .ofBytes input := by
  rcases spans with ⟨taken, whole, rfl⟩
  rwa [List.append_nil]

end Encoding.Spans

namespace Decoder

variable {α β γ : Type}

theorem exists_of_map_eq_ok
    {ε : Type} {result : Except ε α} {change : α → β} {value : β}
    (given : result.map change = .ok value) :
    ∃ found, result = .ok found ∧ change found = value := by
  cases result with
  | error fault => cases given
  | ok found =>
      cases given
      exact ⟨found, rfl, rfl⟩

/-- A decoder which finds a value in some bytes and needs all of them for it. -/
structure Takes (decode : Decoder α) (taken : List UInt8) (value : α) :
    Prop where
  whole : ∀ more, decode (taken ++ more) = .ok (value, more)
  early : ∀ cut missing, cut ++ missing = taken → missing ≠ [] →
    decode cut = .error .early

/--
A decoder which takes the bytes of an encoding for a value, if the encoding has
all of them.
-/
def ReadsBack (decode : Decoder α) (encoding : Encoding) (value : α) : Prop :=
  ∀ taken, encoding = .ofBytes taken → Takes decode taken value

/-- A value which is there already. -/
def done (value : α) : Decoder α :=
  fun input => .ok (value, input)

/--
A decoder and the one which it is followed by, given what the first one found.
-/
def andThen (first : Decoder α) (next : α → Decoder β) :
    Decoder β := fun input => do
  let (found, rest) ← first input
  next found rest

/-- Bytes which are all taken are as good as all there is. -/
theorem Takes.sealed
    {decode : Decoder α} {taken : List UInt8} {value : α}
    (takes : Takes decode taken value)
    (more : List UInt8) :
    Decoder.sealed decode (taken ++ more) = .ok (value, more) := by
  rw [Decoder.sealed, takes.whole]
  rfl

/--
Nothing which is taken for a value begins something else which is taken for one.
-/
theorem Takes.eq_of_prefix
    {decode : Decoder α} {short long : List UInt8} {first second : α}
    (takesShort : Takes decode short first)
    (takesLong : Takes decode long second)
    (front : short <+: long) : short = long ∧ first = second := by
  rcases front with ⟨missing, rfl⟩
  have read := takesLong.whole []
  rw [List.append_nil, takesShort.whole missing] at read
  cases read
  exact ⟨(List.append_nil short).symm, rfl⟩

theorem Takes.done (value : α) : Takes (done value) [] value where
  whole := fun _ => rfl
  early := by
    intro cut missing joined present
    exact absurd (List.append_eq_nil_iff.1 joined).2 present

/-- Bytes which are taken one part after the other are taken together. -/
theorem Takes.andThen
    {first : Decoder α} {next : α → Decoder β} {front back : List UInt8}
    {head : α} {value : β}
    (takesFront : Takes first front head)
    (takesBack : Takes (next head) back value) :
    Takes (first.andThen next) (front ++ back) value where
  whole := by
    intro more
    simp only [Decoder.andThen]
    rw [List.append_assoc, takesFront.whole]
    exact takesBack.whole more
  early := by
    intro cut missing joined present
    simp only [Decoder.andThen]
    rcases List.append_eq_append_iff.1 joined with
      ⟨lacking, frontEq, rfl⟩ | ⟨begun, rfl, backEq⟩
    · by_cases complete : lacking = []
      · -- The cut falls between the parts, so the second one is missing as a
        -- whole.
        subst complete
        have found := takesFront.whole []
        rw [frontEq, List.append_nil, List.append_nil] at found
        rw [found]
        exact takesBack.early [] back rfl present
      · rw [takesFront.early cut lacking frontEq.symm complete]
        rfl
    · rw [takesFront.whole]
      exact takesBack.early begun missing backEq.symm present

theorem ReadsBack.done (value : α) : ReadsBack (done value) .empty value := by
  intro taken whole
  have nothing : [] = taken := Encoding.ofBytes_inj.1 whole
  subst nothing
  exact Takes.done value

theorem ReadsBack.andThen
    {first : Decoder α} {next : α → Decoder β} {front back : Encoding}
    {head : α} {value : β}
    (readsFront : ReadsBack first front head)
    (readsNext : ReadsBack (next head) back value) :
    ReadsBack (first.andThen next) (front ++ back) value := by
  intro taken whole
  rcases Encoding.append_eq_ofBytes_iff.1 whole with
    ⟨frontBytes, backBytes, frontWhole, backWhole, rfl⟩
  exact (readsFront frontBytes frontWhole).andThen
    (readsNext backBytes backWhole)

/-- A value which is made of what one decoder finds. -/
theorem ReadsBack.one
    {first : Decoder α} {encoding : Encoding} {found : α} {decode : Decoder β}
    (reads : ReadsBack first encoding found) (make : α → β)
    (shape : decode = first.andThen fun found => Decoder.done (make found)) :
    ReadsBack decode encoding (make found) := by
  rw [shape, ← Encoding.append_empty encoding]
  exact reads.andThen (ReadsBack.done (make found))

/-- A value which is made of what two decoders find one after the other. -/
theorem ReadsBack.two
    {first : Decoder α} {second : Decoder β} {front back : Encoding} {head : α}
    {tail : β}
    {decode : Decoder γ} (readsFront : ReadsBack first front head)
    (readsBack : ReadsBack second back tail) (make : α → β → γ)
    (shape : decode = first.andThen fun head =>
      second.andThen fun tail => Decoder.done (make head tail)) :
    ReadsBack decode (front ++ back) (make head tail) := by
  rw [shape]
  exact readsFront.andThen (readsBack.one (make head) rfl)

/-! ## Numbers -/

theorem spans_u8 {input rest : List UInt8} {n : UInt8}
    (read : u8 input = .ok (n, rest)) :
    (Encoding.u8 n).Spans input rest := by
  cases input with
  | nil => cases read
  | cons a others =>
      cases read
      exact ⟨[n], rfl, rfl⟩

theorem readsBack_u8 (n : UInt8) : ReadsBack u8 (.u8 n) n := by
  intro taken whole
  have written : [n] = taken := Encoding.ofBytes_inj.1 whole
  subst written
  constructor
  · intro more
    rfl
  · intro cut missing joined present
    cases cut with
    | nil => rfl
    | cons a others => simp_all

theorem bytes16_joined (a b : UInt8) :
    Encoding.bytes16 (a.toNat * 256 + b.toNat).toUInt16 = [a, b] := by
  have small : a.toNat * 256 + b.toNat < 65536 := by
    have := a.toNat_lt
    have := b.toNat_lt
    omega
  have high : (a.toNat * 256 + b.toNat) / 256 = a.toNat := by
    have := b.toNat_lt
    omega
  have low : (a.toNat * 256 + b.toNat) % 256 = b.toNat := by
    have := b.toNat_lt
    omega
  simp [Encoding.bytes16, Nat.mod_eq_of_lt small, high, low]

theorem spans_u16 {input rest : List UInt8} {n : UInt16}
    (read : u16 input = .ok (n, rest)) :
    (Encoding.u16 n).Spans input rest := by
  match input with
  | [] => cases read
  | [_] => cases read
  | a :: b :: others =>
      cases read
      exact ⟨[a, b], congrArg Encoding.ofBytes (bytes16_joined a b), rfl⟩

theorem u16_bytes16 (n : UInt16) (more : List UInt8) :
    u16 (Encoding.bytes16 n ++ more) = .ok (n, more) := by
  have small := n.toNat_lt
  have high : n.toNat / 256 % 256 = n.toNat / 256 := by omega
  have joined : n.toNat / 256 * 256 + n.toNat % 256 = n.toNat := by omega
  simp [Encoding.bytes16, u16, high, joined]

theorem readsBack_u16 (n : UInt16) : ReadsBack u16 (.u16 n) n := by
  intro taken whole
  have written : Encoding.bytes16 n = taken := Encoding.ofBytes_inj.1 whole
  subst written
  constructor
  · exact u16_bytes16 n
  · intro cut missing joined present
    match cut with
    | [] => rfl
    | [_] => rfl
    | _ :: _ :: _ => simp_all [Encoding.bytes16]

theorem bytes32_joined (a b c d : UInt8) :
    Encoding.bytes32
        (a.toNat * 16777216 + b.toNat * 65536 + c.toNat * 256 +
          d.toNat).toUInt32 =
      [a, b, c, d] := by
  have := a.toNat_lt
  have := b.toNat_lt
  have := c.toNat_lt
  have := d.toNat_lt
  generalize sum : a.toNat * 16777216 + b.toNat * 65536 + c.toNat * 256 +
    d.toNat = n
  have small : n < 4294967296 := by omega
  have first : n / 16777216 = a.toNat := by omega
  have second : n / 65536 % 256 = b.toNat := by omega
  have third : n / 256 % 256 = c.toNat := by omega
  have fourth : n % 256 = d.toNat := by omega
  simp [Encoding.bytes32, Nat.mod_eq_of_lt small, first, second, third, fourth]

theorem spans_u32 {input rest : List UInt8} {n : UInt32}
    (read : u32 input = .ok (n, rest)) :
    (Encoding.u32 n).Spans input rest := by
  match input with
  | [] => cases read
  | [_] => cases read
  | [_, _] => cases read
  | [_, _, _] => cases read
  | a :: b :: c :: d :: others =>
      cases read
      exact ⟨[a, b, c, d], congrArg Encoding.ofBytes (bytes32_joined a b c d),
        rfl⟩

theorem u32_bytes32 (n : UInt32) (more : List UInt8) :
    u32 (Encoding.bytes32 n ++ more) = .ok (n, more) := by
  have small := n.toNat_lt
  have high : n.toNat / 16777216 % 256 = n.toNat / 16777216 := by omega
  have joined :
      n.toNat / 16777216 * 16777216 + n.toNat / 65536 % 256 * 65536 +
        n.toNat / 256 % 256 * 256 + n.toNat % 256 = n.toNat := by omega
  simp [Encoding.bytes32, u32, high, joined]

theorem readsBack_u32 (n : UInt32) : ReadsBack u32 (.u32 n) n := by
  intro taken whole
  have written : Encoding.bytes32 n = taken := Encoding.ofBytes_inj.1 whole
  subst written
  constructor
  · exact u32_bytes32 n
  · intro cut missing joined present
    match cut with
    | [] => rfl
    | [_] => rfl
    | [_, _] => rfl
    | [_, _, _] => rfl
    | _ :: _ :: _ :: _ :: _ => simp_all [Encoding.bytes32]

/-! ## Counts, lengths and bytes -/

/-- What follows a count is read with the number which was counted. -/
theorem readsBack_count16_andThen
    {what : Measure} {count : Nat} {next : UInt16 → Decoder β} {back : Encoding}
    {value : β}
    (reads : count.toUInt16.toNat = count →
      ReadsBack (next count.toUInt16) back value) :
    ReadsBack (u16.andThen next) (.count16 what count ++ back) value := by
  intro taken whole
  rcases Encoding.append_eq_ofBytes_iff.1 whole with
    ⟨countBytes, backBytes, countWhole, backWhole, rfl⟩
  rcases Encoding.count16_eq_ofBytes_iff.1 countWhole with ⟨fits, rfl⟩
  have same : count.toUInt16.toNat = count := UInt16.toNat_ofNat_of_lt' fits
  exact (readsBack_u16 count.toUInt16 _ rfl).andThen
    (reads same backBytes backWhole)

/-- What follows a length is read with the number of bytes. -/
theorem readsBack_length32_andThen
    {what : Measure} {length : Nat} {next : UInt32 → Decoder β}
    {back : Encoding} {value : β}
    (reads : length.toUInt32.toNat = length →
      ReadsBack (next length.toUInt32) back value) :
    ReadsBack (u32.andThen next) (.length32 what length ++ back) value := by
  intro taken whole
  rcases Encoding.append_eq_ofBytes_iff.1 whole with
    ⟨lengthBytes, backBytes, lengthWhole, backWhole, rfl⟩
  rcases Encoding.length32_eq_ofBytes_iff.1 lengthWhole with ⟨fits, rfl⟩
  have same : length.toUInt32.toNat = length := UInt32.toNat_ofNat_of_lt' fits
  exact (readsBack_u32 length.toUInt32 _ rfl).andThen
    (reads same backBytes backWhole)

theorem spans_bytes
    {count : Nat} {input rest taken : List UInt8}
    (read : bytes count input = .ok (taken, rest)) :
    taken.length = count ∧ (Encoding.ofBytes taken).Spans input rest := by
  simp only [bytes] at read
  split at read
  · next enough =>
      cases read
      exact ⟨enough, _, rfl, (List.take_append_drop count input).symm⟩
  · cases read

theorem readsBack_bytes (taken : List UInt8) :
    ReadsBack (bytes taken.length) (.ofBytes taken) taken := by
  intro written whole
  have same : taken = written := Encoding.ofBytes_inj.1 whole
  subst same
  constructor
  · intro more
    simp [bytes]
  · intro cut missing joined present
    have shorter : cut.length < taken.length := by
      rw [← joined, List.length_append]
      have := List.length_pos_iff.2 present
      omega
    have short : (cut.take taken.length).length ≠ taken.length := by
      rw [List.length_take]
      omega
    exact if_neg short

/-! ## Several values of one sort -/

theorem manyOnto_succ (decode : Decoder α) (count : Nat) (before : List α) :
    manyOnto decode (count + 1) before =
      decode.andThen fun value => manyOnto decode count (value :: before) := by
  funext input
  simp only [manyOnto, andThen]
  cases decode input <;> rfl

/--
Values whose encodings are read back one by one are read back one after another.
-/
theorem readsBack_manyOnto
    {decode : Decoder α} {encode : α → Encoding} {values : List α}
    (reads : ∀ value ∈ values, ReadsBack decode (encode value) value)
    (before : List α) :
    ReadsBack (manyOnto decode values.length before)
      (.concat (values.map encode))
      (before.reverse ++ values) := by
  induction values generalizing before with
  | nil =>
      rw [List.append_nil]
      exact ReadsBack.done before.reverse
  | cons value others hypothesis =>
      rw [List.length_cons, manyOnto_succ, List.map_cons, Encoding.concat_cons]
      apply (reads value List.mem_cons_self).andThen
      have inOrder : before.reverse ++ value :: others =
          (value :: before).reverse ++ others := by
        simp
      rw [inOrder]
      exact hypothesis
        (fun other member => reads other (List.mem_cons_of_mem value member))
        (value :: before)

/-- Values are read back behind their count. -/
theorem readsBack_counted
    {decode : Decoder α} {encode : α → Encoding} {values : List α}
    (what : Measure)
    (reads : ∀ value ∈ values, ReadsBack decode (encode value) value) :
    ReadsBack (counted decode) (.counted what encode values) values := by
  show ReadsBack (u16.andThen fun count => many count.toNat decode) _ _
  apply readsBack_count16_andThen
  intro same
  rw [same]
  exact readsBack_manyOnto reads []

/--
What is known of each value that was read is known of all of them, read one
after another.  The values are those of an input which is no longer than the
whole.
-/
theorem spans_manyOnto
    {decode : Decoder α} {encode : α → Encoding} {legal : α → Prop}
    {count : Nat} {before values : List α} {input rest : List UInt8}
    (each : ∀ {part left : List UInt8} {value : α}, part.length ≤ input.length →
      decode part = .ok (value, left) →
        (encode value).Spans part left ∧ legal value)
    (read : manyOnto decode count before input = .ok (values, rest)) :
    ∃ found, values = before.reverse ++ found ∧ found.length = count ∧
      (Encoding.concat (found.map encode)).Spans input rest ∧
        ∀ value ∈ found, legal value := by
  induction count generalizing before input with
  | zero =>
      cases read
      exact ⟨[], (List.append_nil _).symm, rfl, Encoding.Spans.empty _, nofun⟩
  | succ count hypothesis =>
      rw [manyOnto_succ] at read
      rcases bind_eq_ok read with ⟨⟨value, left⟩, readValue, readOthers⟩
      rcases each (Nat.le_refl _) readValue with ⟨spansValue, legalValue⟩
      have shorter : left.length ≤ input.length := spansValue.length_le
      rcases hypothesis (fun bound => each (Nat.le_trans bound shorter))
        readOthers with ⟨found, rfl, rfl, spansOthers, legalOthers⟩
      refine ⟨value :: found, ?_, rfl, spansValue.append spansOthers, ?_⟩
      · simp
      · exact List.forall_mem_cons.2 ⟨legalValue, legalOthers⟩

/-- Counted values which were read are put out again behind the same count. -/
theorem spans_counted
    {decode : Decoder α} {encode : α → Encoding} {legal : α → Prop}
    (what : Measure)
    {values : List α} {input rest : List UInt8}
    (each : ∀ {part left : List UInt8} {value : α}, part.length < input.length →
      decode part = .ok (value, left) →
        (encode value).Spans part left ∧ legal value)
    (read : counted decode input = .ok (values, rest)) :
    (Encoding.counted what encode values).Spans input rest ∧
      ∀ value ∈ values, legal value := by
  rcases bind_eq_ok read with ⟨⟨count, afterCount⟩, readCount, readValues⟩
  have shorter := length_of_u16 readCount
  rcases spans_manyOnto (fun bound => each (by omega)) readValues with
    ⟨found, rfl, length, spans, legalFound⟩
  refine ⟨?_, legalFound⟩
  rw [Encoding.counted, length, Encoding.count16_toNat]
  exact (spans_u16 readCount).append spans

end Decoder

end ClassFormat
