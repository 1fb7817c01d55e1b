import ClassFormat.Proofs.Binary.Reading

/-!
# What decoders find at fault

A decoder which is put together from others finds at fault what they do.  A sort
of faults is said to be that of a decoder if everything which the decoder ever
finds at fault is of the sort; this is closed under sequence, so that a decoder
which reads its fields one after another needs one step for each field.

That the bytes end early is no fault, and numbers and bytes as they are have no
other way to fail.
-/

namespace ClassFormat.Decoder

variable {α β : Type} {sort : FormatFault → Prop}

theorem bind_eq_error {ε : Type} {first : Except ε α} {next : α → Except ε β}
    {fault : ε} (given : (first >>= next) = .error fault) :
    first = .error fault ∨
      ∃ value, first = .ok value ∧ next value = .error fault := by
  cases first with
  | error refusal =>
      cases given
      exact Or.inl rfl
  | ok value => exact Or.inr ⟨value, rfl, given⟩

theorem eq_error_of_mapError {ε δ : Type} {result : Except ε α}
    {change : ε → δ} {fault : δ}
    (given : result.mapError change = .error fault) :
    ∃ cause, result = .error cause ∧ change cause = fault := by
  cases result with
  | error cause =>
      cases given
      exact ⟨cause, rfl, rfl⟩
  | ok value => cases given

theorem eq_error_of_map {ε : Type} {result : Except ε α} {change : α → β}
    {fault : ε} (given : result.map change = .error fault) :
    result = .error fault := by
  cases result with
  | error cause =>
      cases given
      rfl
  | ok value => cases given

/-- What one decoder leaves is given to the next one. -/
theorem andThen_eq_ok {first : Decoder α} {next : α → Decoder β}
    {input rest : List UInt8} {value : β}
    (read : first.andThen next input = .ok (value, rest)) :
    ∃ head between, first input = .ok (head, between) ∧
      next head between = .ok (value, rest) := by
  rcases bind_eq_ok read with ⟨⟨head, between⟩, readHead, readNext⟩
  exact ⟨head, between, readHead, readNext⟩

/-- A decoder which finds faults of one sort only. -/
def FaultsIn (sort : FormatFault → Prop) (decode : Decoder α) : Prop :=
  ∀ input fault, decode input = .error (.fault fault) → sort fault

/-- A decoder whose faults are of no sort finds none. -/
theorem FaultsIn.never {decode : Decoder α} {input : List UInt8}
    {fault : FormatFault} (none : FaultsIn (fun _ => False) decode) :
    decode input ≠ .error (.fault fault) := by
  intro stopped
  exact none input fault stopped

theorem FaultsIn.done (value : α) : FaultsIn sort (done value) := by
  intro input fault stopped
  cases stopped

theorem FaultsIn.andThen {first : Decoder α} {next : α → Decoder β}
    (ofFirst : FaultsIn sort first)
    (ofNext : ∀ value, FaultsIn sort (next value)) :
    FaultsIn sort (first.andThen next) := by
  intro input fault stopped
  rcases bind_eq_error stopped with refused | ⟨⟨value, rest⟩, -, refused⟩
  · exact ofFirst input fault refused
  · exact ofNext value rest fault refused

/-- A value which is made of what one decoder finds. -/
theorem FaultsIn.one {first : Decoder α} {decode : Decoder β}
    (ofFirst : FaultsIn sort first) (make : α → β)
    (shape : decode = first.andThen fun found => Decoder.done (make found)) :
    FaultsIn sort decode := by
  rw [shape]
  exact ofFirst.andThen fun found => FaultsIn.done (make found)

/-- A check of what was read, which takes no bytes. -/
theorem FaultsIn.check {checked : Except FormatFault α} {next : α → Decoder β}
    (ofCheck : ∀ fault, checked = .error fault → sort fault)
    (ofNext : ∀ value, FaultsIn sort (next value)) :
    FaultsIn sort (fun input =>
      checked.mapError .fault >>= fun value => next value input) := by
  intro input fault stopped
  rcases bind_eq_error stopped with refused | ⟨value, -, refused⟩
  · rcases eq_error_of_mapError refused with ⟨cause, given, same⟩
    cases same
    exact ofCheck _ given
  · exact ofNext value input fault refused

theorem FaultsIn.u8 : FaultsIn sort u8 := by
  intro input fault stopped
  simp only [Decoder.u8] at stopped
  split at stopped <;> cases stopped

theorem FaultsIn.u16 : FaultsIn sort u16 := by
  intro input fault stopped
  simp only [Decoder.u16] at stopped
  split at stopped <;> cases stopped

theorem FaultsIn.u32 : FaultsIn sort u32 := by
  intro input fault stopped
  simp only [Decoder.u32] at stopped
  split at stopped <;> cases stopped

theorem FaultsIn.bytes (count : Nat) : FaultsIn sort (bytes count) := by
  intro input fault stopped
  simp only [Decoder.bytes] at stopped
  split at stopped <;> cases stopped

/--
One of several values which are read one after another is at fault.  It is read
from an input which is no longer than the whole.
-/
theorem exists_of_manyOnto_eq_error {decode : Decoder α} {count : Nat}
    {before : List α} {input : List UInt8} {stop : Stop}
    (shorter : ∀ {part left : List UInt8} {value : α},
      decode part = .ok (value, left) → left.length ≤ part.length)
    (stopped : manyOnto decode count before input = .error stop) :
    ∃ part, part.length ≤ input.length ∧ decode part = .error stop := by
  induction count generalizing before input with
  | zero => cases stopped
  | succ count hypothesis =>
      rw [manyOnto_succ] at stopped
      rcases bind_eq_error stopped with refused | ⟨⟨value, left⟩, read, refused⟩
      · exact ⟨input, Nat.le_refl _, refused⟩
      · rcases hypothesis refused with ⟨part, bound, refusal⟩
        exact ⟨part, Nat.le_trans bound (shorter read), refusal⟩

theorem FaultsIn.manyOnto {decode : Decoder α} (each : FaultsIn sort decode)
    (count : Nat) (before : List α) :
    FaultsIn sort (manyOnto decode count before) := by
  induction count generalizing before with
  | zero => exact FaultsIn.done before.reverse
  | succ count hypothesis =>
      rw [manyOnto_succ]
      exact each.andThen fun value => hypothesis (value :: before)

theorem FaultsIn.counted {decode : Decoder α} (each : FaultsIn sort decode) :
    FaultsIn sort (counted decode) := by
  show FaultsIn sort (Decoder.u16.andThen fun count => many count.toNat decode)
  exact FaultsIn.u16.andThen fun count => each.manyOnto count.toNat []

/-- Where the bytes are all there is, they may lack something besides. -/
theorem eq_error_of_sealed {decode : Decoder α} {input : List UInt8}
    {fault : FormatFault} (refused : sealed decode input = .error fault) :
    fault = .truncated ∨ decode input = .error (.fault fault) := by
  rcases eq_error_of_mapError refused with ⟨early | cause, stopped, same⟩
  · exact Or.inl same.symm
  · cases same
    exact Or.inr stopped

theorem sealed_done (value : α) (input : List UInt8) :
    sealed (done value) input = .ok (value, input) := by
  rfl

/-- Bytes which are all there is are so for each of two decoders in a row. -/
theorem sealed_andThen (first : Decoder α) (next : α → Decoder β)
    (input : List UInt8) :
    sealed (first.andThen next) input =
      (sealed first input >>= fun (value, rest) =>
        sealed (next value) rest) := by
  simp only [sealed, andThen]
  cases first input <;> rfl

end ClassFormat.Decoder
