import ClassFormat.Proofs.Attribute.Faults
import ClassFormat.Proofs.CompiledClass.RoundTrip
import ClassFormat.Proofs.Pool.Straddling

/-!
# What classes are found at fault for

A class is read in three parts: a magic number and a version, the pool, and what
comes after the pool.  Each part has its own faults, and so the fault which is
reported for a class tells in which part it was found.

Two of the faults are about lengths.  A record whose attribute is understood has
to be as long as what it holds: if it is longer, the two lengths are reported,
and if it is shorter, it ends early even where more bytes follow it.  And the
constants have to take as many indices as are declared for the pool.
-/

namespace ClassFormat

open Decoder

theorem Pool.refusal_of_className {pool : Pool} {index : UInt16}
    {fault : FormatFault} (refused : pool.className index = .error fault) :
    pool.Refusal fault := by
  rcases bind_eq_error refused with refused | ⟨name, -, refused⟩
  · simp only [classRef] at refused
    split at refused
    · cases refused
    · next other =>
        cases refused
        exact .noClass other
  · rcases bind_eq_error refused with refused | ⟨path, -, finished⟩
    · exact refusal_of_text refused
    · cases finished

theorem Pool.refusal_of_methodType {pool : Pool} {index : UInt16}
    {fault : FormatFault} (refused : pool.methodType index = .error fault) :
    pool.Refusal fault := by
  rcases bind_eq_error refused with refused | ⟨text, -, refused⟩
  · exact refusal_of_text refused
  · rcases eq_error_of_mapError refused with ⟨cause, unread, rfl⟩
    simp only [MethodType.parse] at unread
    split at unread
    · cases unread
    · next reason _ =>
        cases unread
        exact .methodType text reason

theorem Field.faultsIn_decode (pool : Pool) :
    FaultsIn pool.Refusal (decode pool) := by
  show FaultsIn pool.Refusal
    (u16.andThen fun flags =>
      u16.andThen fun name =>
      u16.andThen fun descriptor =>
      (Attributes.decode pool).andThen fun attributes =>
      done (Field.mk ⟨flags⟩ name descriptor attributes))
  exact .andThen .u16 fun _ => .andThen .u16 fun _ => .andThen .u16 fun _ =>
    .andThen (Attributes.faultsIn_decode pool) fun _ => .done _

theorem Method.refusal_of_make {pool : Pool} {flags : Flags .method}
    {name descriptor : UInt16} {attributes : Attributes} {fault : FormatFault}
    (refused : make pool flags name descriptor attributes = .error fault) :
    pool.Refusal fault := by
  rcases bind_eq_error refused with refused | ⟨types, -, finished⟩
  · exact Pool.refusal_of_methodType refused
  · cases finished

theorem Method.faultsIn_decode (pool : Pool) :
    FaultsIn pool.Refusal (decode pool) := by
  show FaultsIn pool.Refusal
    (u16.andThen fun flags =>
      u16.andThen fun name =>
      u16.andThen fun descriptor =>
      (Attributes.decode pool).andThen fun attributes input => do
        let method ← (make pool ⟨flags⟩ name descriptor attributes).mapError
          .fault
        return (method, input))
  exact .andThen .u16 fun _ => .andThen .u16 fun _ => .andThen .u16 fun _ =>
    .andThen (Attributes.faultsIn_decode pool) fun _ =>
      .check (fun _ refused => refusal_of_make refused) fun method =>
        .done method

/--
If not all results of a list of computations are there, one of them is a fault.
-/
theorem exists_of_mapM_eq_error {ε α β : Type} {compute : α → Except ε β}
    {inputs : List α} {fault : ε}
    (refused : inputs.mapM compute = .error fault) :
    ∃ input ∈ inputs, compute input = .error fault := by
  induction inputs with
  | nil => cases refused
  | cons input others hypothesis =>
      rw [List.mapM_cons] at refused
      rcases bind_eq_error refused with refused | ⟨first, -, refused⟩
      · exact ⟨input, List.mem_cons_self, refused⟩
      · rcases bind_eq_error refused with refused | ⟨rest, -, finished⟩
        · rcases hypothesis refused with ⟨other, member, stopped⟩
          exact ⟨other, List.mem_cons_of_mem input member, stopped⟩
        · cases finished

namespace CompiledClass

theorem refusal_of_checkReferences {class_ : CompiledClass}
    {fault : FormatFault} (refused : class_.checkReferences = .error fault) :
    class_.pool.Refusal fault := by
  rcases bind_eq_error refused with refused | ⟨name, -, refused⟩
  · exact Pool.refusal_of_className refused
  · rcases bind_eq_error refused with refused | ⟨superName, -, refused⟩
    · simp only [superName?] at refused
      split at refused
      · cases refused
      · exact Pool.refusal_of_className (eq_error_of_map refused)
    · rcases bind_eq_error refused with refused | ⟨names, -, finished⟩
      · rcases exists_of_mapM_eq_error refused with ⟨interface, -, refused⟩
        exact Pool.refusal_of_className refused
      · cases finished

/-! ## The three parts of a class -/

/-- Read what comes after the pool of a class. -/
def decodeBehindPool (minor major : UInt16) (pool : Pool) :
    Decoder CompiledClass :=
  u16.andThen fun flags =>
    u16.andThen fun thisClass =>
    u16.andThen fun superClass =>
    (counted u16).andThen fun interfaces =>
    (counted (Field.decode pool)).andThen fun fields =>
    (counted (Method.decode pool)).andThen fun methods =>
    (Attributes.decode pool).andThen fun attributes input => do
      let class_ : CompiledClass := {
        major, minor, pool, flags := ⟨flags⟩, thisClass, superClass,
        interfaces, fields, methods, attributes }
      let _ ← class_.checkReferences.mapError .fault
      return (class_, input)

theorem decode_eq_andThen :
    decode = decodeMagic.andThen fun _ =>
      u16.andThen fun minor =>
      u16.andThen fun major =>
      Pool.decode.andThen fun pool => decodeBehindPool minor major pool := by
  rfl

theorem faultsIn_decodeBehindPool (minor major : UInt16) (pool : Pool) :
    FaultsIn pool.Refusal (decodeBehindPool minor major pool) := by
  refine .andThen .u16 fun flags =>
    .andThen .u16 fun thisClass => .andThen .u16 fun superClass => ?_
  refine .andThen (.counted .u16) fun interfaces => ?_
  refine .andThen (.counted (Field.faultsIn_decode pool)) fun fields => ?_
  refine .andThen (.counted (Method.faultsIn_decode pool)) fun methods => ?_
  refine .andThen (Attributes.faultsIn_decode pool) fun attributes => ?_
  exact .check (fun _ refused => refusal_of_checkReferences refused) fun _ =>
    .done _

theorem faultsIn_decodeMagic :
    FaultsIn (fun fault => ∃ found, fault = .badMagic found) decodeMagic := by
  intro input fault stopped
  rcases bind_eq_error stopped with refused | ⟨⟨found, rest⟩, -, refused⟩
  · exact absurd refused (FaultsIn.never FaultsIn.u32)
  · simp only at refused
    split at refused
    · cases refused
    · cases refused
      exact ⟨found, rfl⟩

/-- The bytes of a class which begin with the magic number and a version. -/
def headed (minor major : UInt16) (rest : List UInt8) : List UInt8 :=
  Encoding.bytes32 magic ++
    (Encoding.bytes16 minor ++ (Encoding.bytes16 major ++ rest))

theorem decode_headed (minor major : UInt16) (rest : List UInt8) :
    decode (headed minor major rest) =
      (Pool.decode.andThen fun pool => decodeBehindPool minor major pool)
        rest := by
  have takesMagic : Takes decodeMagic (Encoding.bytes32 magic) () :=
    readsBack_decodeMagic _ rfl
  rw [decode_eq_andThen, headed]
  simp only [andThen, takesMagic.whole, u16_bytes16, bind, Except.bind]

/--
What can be at fault in the bytes of a class, by the part in which it is found.
-/
inductive Refusal : List UInt8 → FormatFault → Prop where
  | early {bytes : List UInt8} : Refusal bytes .truncated
  | magic {bytes : List UInt8} (found : UInt32) :
      Refusal bytes (.badMagic found)
  | pool {minor major : UInt16} {rest : List UInt8} {fault : FormatFault}
      (stopped : Pool.decode rest = .error (.fault fault)) :
      Refusal (headed minor major rest) fault
  | behindPool {minor major : UInt16} {rest left : List UInt8}
      {pool : Pool} {fault : FormatFault}
      (read : Pool.decode rest = .ok (pool, left))
      (refused : pool.Refusal fault) :
      Refusal (headed minor major rest) fault

/-- The fault which is reported for a class is that of one of its parts. -/
theorem refusal_of_parse {bytes : List UInt8} {fault : FormatFault}
    (refused : parse bytes = .error fault) : Refusal bytes fault := by
  rcases eq_error_of_sealed (eq_error_of_map refused) with rfl | stopped
  · exact .early
  rw [decode_eq_andThen] at stopped
  rcases bind_eq_error stopped with
    atMagic | ⟨⟨⟨⟩, afterMagic⟩, readMagic, stopped⟩
  · rcases faultsIn_decodeMagic bytes fault atMagic with ⟨found, rfl⟩
    exact .magic found
  rcases bind_eq_error stopped with
    atMinor | ⟨⟨minor, afterMinor⟩, readMinor, stopped⟩
  · exact absurd atMinor (FaultsIn.never FaultsIn.u16)
  rcases bind_eq_error stopped with
    atMajor | ⟨⟨major, afterMajor⟩, readMajor, behindVersion⟩
  · exact absurd atMajor (FaultsIn.never FaultsIn.u16)
  rcases spans_decodeMagic readMagic with ⟨magicBytes, wholeMagic, rfl⟩
  rcases spans_u16 readMinor with ⟨minorBytes, wholeMinor, rfl⟩
  rcases spans_u16 readMajor with ⟨majorBytes, wholeMajor, rfl⟩
  cases Encoding.ofBytes_inj.1 wholeMagic
  cases Encoding.ofBytes_inj.1 wholeMinor
  cases Encoding.ofBytes_inj.1 wholeMajor
  rcases bind_eq_error behindVersion with
    atPool | ⟨⟨pool, afterPool⟩, readPool, behind⟩
  · exact .pool atPool
  · exact .behindPool readPool
      (faultsIn_decodeBehindPool minor major pool afterPool fault behind)

/-- A fault of the pool is that of the class. -/
theorem parse_headed_of_pool {minor major : UInt16} {rest : List UInt8}
    {fault : FormatFault} (refused : Pool.decode rest = .error (.fault fault)) :
    parse (headed minor major rest) = .error fault := by
  simp only [parse, sealed, decode_headed, andThen, refused]
  rfl

/-! ## Declared lengths of attributes -/

/--
Two lengths are reported only where a record holds more than its content needs.
-/
theorem actual_lt_declared_of_parse {bytes : List UInt8} {name : String}
    {declared actual : Nat}
    (refused : parse bytes = .error (.attributeLength name declared actual)) :
    actual < declared := by
  cases refusal_of_parse refused with
  | pool stopped =>
      rcases Pool.fault_of_decode stopped with
        ⟨tag, none⟩ | ⟨count, body, -, -, same⟩
      · cases none
      · rw [Pool.straddlingFault] at same
        split at same <;> cases same
  | behindPool _ behind =>
      cases behind with
      | attributeLength name shorter => exact shorter

/--
An attribute which is understood has to declare exactly as many bytes as it is
read from.  If it declares more, both lengths are reported; if it declares
fewer, it is truncated, although the bytes it lacks may follow.  So wherever two
lengths are reported for a class, the declared one is the greater.
-/
theorem declared_lengths_decide :
    (∀ (known : AttributeName) (pool : Pool) (index : UInt16)
        (payload : List UInt8) (attr : Attribute) (declared : UInt32)
        (stream : List UInt8) (before : List Attribute) (others : Nat),
      pool.text index = .ok known.text →
      known.reader pool index payload = .ok (attr, []) →
      declared.toNat ≤ stream.length →
      (payload <+: stream.take declared.toNat ∨
        stream.take declared.toNat <+: payload) →
      let input :=
        Encoding.bytes16 index ++ (Encoding.bytes32 declared ++ stream)
      ((∃ result, Attribute.decodeOnto pool before 1 input = .ok result) ↔
        declared.toNat = payload.length) ∧
      (declared.toNat = payload.length →
        Attribute.decodeOnto pool before (others + 1) input =
          Attribute.decodeOnto pool (attr :: before) others
            (stream.drop declared.toNat)) ∧
      (payload.length < declared.toNat →
        Attribute.decodeOnto pool before (others + 1) input =
          .error (.fault
            (.attributeLength known.text declared.toNat payload.length))) ∧
      (declared.toNat < payload.length →
        Attribute.decodeOnto pool before (others + 1) input =
          .error (.fault .truncated))) ∧
    ∀ bytes name declared actual,
      parse bytes = .error (.attributeLength name declared actual) →
        actual < declared := by
  constructor
  · intro known pool index payload attr declared stream before others called
      reads available begins
    have cut := AttributeRecord.decode_of_le index declared available
    have length : (stream.take declared.toNat).length = declared.toNat := by
      rw [List.length_take, Nat.min_eq_left available]
    have exactly (same : declared.toNat = payload.length) :=
      AttributeRecord.read_of_length_eq called reads begins (length.trans same)
    have longer (more : payload.length < declared.toNat) :=
      AttributeRecord.read_of_length_lt called reads begins (length.symm ▸ more)
    have shorter (fewer : declared.toNat < payload.length) :=
      AttributeRecord.read_of_lt_length called reads begins
        (length.symm ▸ fewer)
    rw [length] at longer
    refine ⟨⟨?_, ?_⟩, ?_, ?_, ?_⟩
    · rintro ⟨result, read⟩
      rcases Nat.lt_trichotomy declared.toNat payload.length with
        fewer | same | more
      · rw [Attribute.decodeOnto_of_refused cut (shorter fewer) before 0]
          at read
        cases read
      · exact same
      · rw [Attribute.decodeOnto_of_refused cut (longer more) before 0] at read
        cases read
    · intro same
      refine ⟨((attr :: before).reverse, stream.drop declared.toNat), ?_⟩
      rw [Attribute.decodeOnto_of_read cut (exactly same) before 0,
        Attribute.decodeOnto]
    · intro same
      exact Attribute.decodeOnto_of_read cut (exactly same) before others
    · intro more
      exact Attribute.decodeOnto_of_refused cut (longer more) before others
    · intro fewer
      exact Attribute.decodeOnto_of_refused cut (shorter fewer) before others
  · intro bytes name declared actual refused
    exact actual_lt_declared_of_parse refused

/-- The payload of the only code of the sample, with an attribute inside. -/
def samplePayload : List UInt8 :=
  [0, 0, 0, 1, 0, 0, 0, 1, 177, 0, 0, 0, 1, 0, 7, 0, 0, 0, 1, 42]

/-- The names of two tables. -/
def tablePool : Pool :=
  (Pool.empty.push (.utf8 (.ofText "InnerClasses")) (by decide)).push
    (.utf8 (.ofText "LocalVariableTable")) (by decide)

/-- The payload of a table of one inner class, a record of eight bytes. -/
def innerClassesPayload : List UInt8 :=
  [0, 1, 0, 1, 0, 2, 0, 3, 0, 9]

/-- The payload of a table of two variables, each a record of ten bytes. -/
def variablesPayload : List UInt8 :=
  [0, 2, 0, 0, 0, 1, 0, 4, 0, 5, 0, 0, 0, 1, 0, 2, 0, 6, 0, 7, 0, 1]

/--
Code with an attribute inside, and two tables, with one byte declared more and
one fewer than they are read from; and a class with such code.
-/
theorem declared_lengths_decide_sample :
    (sample.pool.text 5 = .ok AttributeName.code.text ∧
      Attribute.decodeOnto sample.pool [] 1
          (Encoding.bytes16 5 ++
            (Encoding.bytes32 21 ++ (samplePayload ++ [9]))) =
        .error (.fault (.attributeLength "Code" 21 20)) ∧
      Attribute.decodeOnto sample.pool [] 1
          (Encoding.bytes16 5 ++ (Encoding.bytes32 19 ++ samplePayload)) =
        .error (.fault .truncated)) ∧
    (tablePool.text 1 = .ok AttributeName.innerClasses.text ∧
      Attribute.decodeOnto tablePool [] 1
          (Encoding.bytes16 1 ++
            (Encoding.bytes32 11 ++ (innerClassesPayload ++ [9]))) =
        .error (.fault (.attributeLength "InnerClasses" 11 10)) ∧
      Attribute.decodeOnto tablePool [] 1
          (Encoding.bytes16 1 ++ (Encoding.bytes32 9 ++ innerClassesPayload)) =
        .error (.fault .truncated)) ∧
    (tablePool.text 2 = .ok AttributeName.localVariableTable.text ∧
      Attribute.decodeOnto tablePool [] 1
          (Encoding.bytes16 2 ++
            (Encoding.bytes32 23 ++ (variablesPayload ++ [9]))) =
        .error (.fault (.attributeLength "LocalVariableTable" 23 22)) ∧
      Attribute.decodeOnto tablePool [] 1
          (Encoding.bytes16 2 ++ (Encoding.bytes32 21 ++ variablesPayload)) =
        .error (.fault .truncated)) ∧
    parse (sampleBytes.take 63 ++
        (Encoding.bytes16 5 ++
          (Encoding.bytes32 21 ++ (samplePayload ++ [9, 0, 0])))) =
      .error (.attributeLength "Code" 21 20) ∧
    20 < 21 := by
  refine ⟨?code, ?innerClasses, ?localVariables, ?class_⟩
  case code =>
    have called : sample.pool.text 5 = .ok AttributeName.code.text := by
      decide +kernel
    have reads : AttributeName.code.reader sample.pool 5 samplePayload =
        .ok
          (.code 5
            { maxStack := 0, maxLocals := 1, instructions := [177],
              handlers := [] } [.plain 7 (.unknown [42])], []) := by
      decide +kernel
    have longer :=
      declared_lengths_decide.1 _ _ _ _ _ 21 (samplePayload ++ [9]) [] 0
        called reads (by decide) (Or.inl (by decide))
    have shorter :=
      declared_lengths_decide.1 _ _ _ _ _ 19 samplePayload [] 0
        called reads (by decide) (Or.inr (by decide))
    exact ⟨called, longer.2.2.1 (by decide), shorter.2.2.2 (by decide)⟩
  case innerClasses =>
    have called : tablePool.text 1 = .ok AttributeName.innerClasses.text := by
      decide +kernel
    have reads :
        AttributeName.innerClasses.reader tablePool 1 innerClassesPayload =
          .ok (.plain 1 (.innerClasses [⟨1, 2, 3, ⟨9⟩⟩]), []) := by
      decide +kernel
    have longer :=
      declared_lengths_decide.1 _ _ _ _ _ 11 (innerClassesPayload ++ [9]) [] 0
        called reads (by decide) (Or.inl (by decide))
    have shorter :=
      declared_lengths_decide.1 _ _ _ _ _ 9 innerClassesPayload [] 0
        called reads (by decide) (Or.inr (by decide))
    exact ⟨called, longer.2.2.1 (by decide), shorter.2.2.2 (by decide)⟩
  case localVariables =>
    have called : tablePool.text 2 =
        .ok AttributeName.localVariableTable.text := by decide +kernel
    have reads :
        AttributeName.localVariableTable.reader tablePool 2 variablesPayload =
          .ok (.plain 2
            (.localVariableTable [⟨0, 1, 4, 5, 0⟩, ⟨1, 2, 6, 7, 1⟩]), []) := by
      decide +kernel
    have longer :=
      declared_lengths_decide.1 _ _ _ _ _ 23 (variablesPayload ++ [9]) [] 0
        called reads (by decide) (Or.inl (by decide))
    have shorter :=
      declared_lengths_decide.1 _ _ _ _ _ 21 variablesPayload [] 0
        called reads (by decide) (Or.inr (by decide))
    exact ⟨called, longer.2.2.1 (by decide), shorter.2.2.2 (by decide)⟩
  case class_ =>
    have refused : parse (sampleBytes.take 63 ++
        (Encoding.bytes16 5 ++
          (Encoding.bytes32 21 ++ (samplePayload ++ [9, 0, 0])))) =
          .error (.attributeLength "Code" 21 20) := by decide +kernel
    exact ⟨refused, declared_lengths_decide.2 _ _ _ _ refused⟩

/-! ## Wide constants at the end of the pool -/

/--
What is found at fault with the number of indices is found in constants that
straddle the end.
-/
theorem exists_straddles_of_parse {bytes : List UInt8} {fault : FormatFault}
    (refused : parse bytes = .error fault)
    (counted : (∃ declared actual, fault = .poolCount declared actual) ∨
      ∃ excess, fault = .tooLarge excess) :
    ∃ minor major count body,
      bytes = headed minor major (Encoding.bytes16 count ++ body) ∧
        Pool.Straddles (count.toNat - 1) body ∧
          fault = Pool.straddlingFault count := by
  cases refusal_of_parse refused with
  | early => rcases counted with ⟨_, _, none⟩ | ⟨_, none⟩ <;> cases none
  | magic found => rcases counted with ⟨_, _, none⟩ | ⟨_, none⟩ <;> cases none
  | @pool minor major rest _ stopped =>
      rcases Pool.fault_of_decode stopped with
        ⟨tag, rfl⟩ | ⟨count, body, rfl, straddles, same⟩
      · rcases counted with ⟨_, _, none⟩ | ⟨_, none⟩ <;> cases none
      · exact ⟨minor, major, count, body, rfl, straddles, same⟩
  | behindPool _ behind =>
      rcases counted with ⟨_, _, rfl⟩ | ⟨_, rfl⟩ <;> cases behind

theorem parse_of_straddles {minor major count : UInt16} {body : List UInt8}
    (straddles : Pool.Straddles (count.toNat - 1) body) :
    parse (headed minor major (Encoding.bytes16 count ++ body)) =
      .error (Pool.straddlingFault count) :=
  parse_headed_of_pool (Pool.decode_of_straddles straddles)

/--
That the numbers of indices differ is reported exactly for constants which
straddle the end of their pool, unless as many indices are declared as a pool
can have: then the pool runs out of room first, and this is what is reported.
Nothing else is too large to be read.
-/
theorem straddling_pools_are_found_at_fault (bytes : List UInt8) :
    (∀ declared actual, parse bytes = .error (.poolCount declared actual) ↔
      ∃ minor major count body,
        bytes = headed minor major (Encoding.bytes16 count ++ body) ∧
          Pool.Straddles (count.toNat - 1) body ∧ count ≠ 65535 ∧
            declared = count.toNat - 1 ∧ actual = count.toNat) ∧
      ∀ excess, parse bytes = .error (.tooLarge excess) ↔
        ∃ minor major body,
          bytes = headed minor major (Encoding.bytes16 65535 ++ body) ∧
            Pool.Straddles 65534 body ∧ excess = ⟨.pool, 65536⟩ := by
  constructor
  · intro declared actual
    constructor
    · intro refused
      rcases exists_straddles_of_parse refused
        (Or.inl ⟨declared, actual, rfl⟩) with
        ⟨minor, major, count, body, rfl, straddles, same⟩
      rw [Pool.straddlingFault] at same
      split at same
      · cases same
      · next fewer =>
          cases same
          exact ⟨minor, major, count, body, rfl, straddles, fewer, rfl, rfl⟩
    · rintro ⟨minor, major, count, body, rfl, straddles, fewer, rfl, rfl⟩
      rw [parse_of_straddles straddles, Pool.straddlingFault, if_neg fewer]
  · intro excess
    constructor
    · intro refused
      rcases exists_straddles_of_parse refused (Or.inr ⟨excess, rfl⟩) with
        ⟨minor, major, count, body, rfl, straddles, same⟩
      rw [Pool.straddlingFault] at same
      split at same
      · next most =>
          cases same
          subst most
          exact ⟨minor, major, body, rfl, straddles, rfl⟩
      · cases same
    · rintro ⟨minor, major, body, rfl, straddles, rfl⟩
      exact parse_of_straddles straddles

/--
As many empty texts as leave one index of a pool, and then a number of eight
bytes.
-/
def crowded : List UInt8 :=
  (List.replicate 65533 [1, 0, 0]).flatten ++ [5, 0, 0, 0, 0, 0, 0, 0, 1]

theorem straddles_replicate (texts : Nat) :
    Pool.Straddles (texts + 1)
      ((List.replicate texts [1, 0, 0]).flatten ++
        [5, 0, 0, 0, 0, 0, 0, 0, 1]) := by
  induction texts with
  | zero => exact @Pool.Straddles.last (.long 0 1) _ [] rfl (Or.inl rfl)
  | succ texts hypothesis =>
      rw [List.replicate_succ, List.flatten_cons, Nat.add_comm]
      exact @Pool.Straddles.next (.utf8 ⟨[]⟩) _ _ _ rfl hypothesis

/--
Where as many indices are declared as a pool can have, constants which straddle
the end are reported as too large, although the numbers of indices differ.
-/
theorem crowded_pool_is_too_large :
    Pool.Straddles (65535 - 1) crowded ∧
      parse (headed 0 49 (Encoding.bytes16 65535 ++ crowded)) =
        .error (.tooLarge ⟨.pool, 65536⟩) ∧
      parse (headed 0 49 (Encoding.bytes16 65535 ++ crowded)) ≠
        .error (.poolCount (65535 - 1) 65535) := by
  have straddles : Pool.Straddles (65535 - 1) crowded :=
    straddles_replicate 65533
  have refused : parse (headed 0 49 (Encoding.bytes16 65535 ++ crowded)) =
      .error (.tooLarge ⟨.pool, 65536⟩) := parse_of_straddles straddles
  refine ⟨straddles, refused, ?_⟩
  rw [refused]
  nofun

end CompiledClass

end ClassFormat
