import ClassFormat.Proofs.Attribute.Faults
import ClassFormat.Proofs.Text.IllFormed

/-!
# Which attributes are understood

How the payload of a record is read depends on the text which its name is read
as, so it depends on what the bytes of the name spell.  There is no check that
these bytes are well-formed.  A known name which is spelled by groups some of
which are not continued is as good as the name itself.
-/

namespace ClassFormat

open Decoder ModifiedUtf8 Text

theorem AttributeName.replacement_not_mem_text (known : AttributeName) :
    Utf16.replacement ∉ known.text.toList := by
  cases known <;> decide +kernel

theorem Pool.text_of_utf8 {pool : Pool} {index : UInt16} {entry : ModifiedUtf8}
    (found : pool.get? index = some (.utf8 entry)) :
    pool.text index = .ok entry.text := by
  rw [text, found]

/-- An entry is read as a known name if it spells the name, and only then. -/
theorem AttributeName.text_eq_iff_spells (known : AttributeName)
    {entry : ModifiedUtf8} :
    entry.text = known.text ↔ Spells entry.bytes known.text.toList :=
  ModifiedUtf8.text_eq_iff_spells known.replacement_not_mem_text

namespace AttributeRecord

variable {pool : Pool} {record : AttributeRecord} {entry : ModifiedUtf8}

/--
A record is left to the reader of the known name which the bytes of its name
spell.
-/
theorem read_of_spells (found : pool.get? record.name = some (.utf8 entry))
    {known : AttributeName} (spelled : Spells entry.bytes known.text.toList) :
    record.read pool =
      (sealed (known.reader pool record.name) record.payload >>=
        fun (attr, left) => record.finish known attr left) := by
  have called : pool.text record.name = .ok known.text := by
    rw [Pool.text_of_utf8 found, known.text_eq_iff_spells.2 spelled]
  exact read_of_called called

/--
A record is kept as it is if the bytes of its name spell none of the known
names.
-/
theorem read_of_not_spells (found : pool.get? record.name = some (.utf8 entry))
    (none : ∀ known : AttributeName, ¬Spells entry.bytes known.text.toList) :
    record.read pool = .ok (.plain record.name (.unknown record.payload)) := by
  have unknown : AttributeName.ofText? entry.text = Option.none :=
    AttributeName.ofText?_eq_none_iff.2 fun known same =>
      none known (known.text_eq_iff_spells.1 same)
  exact read_of_unknown (Pool.text_of_utf8 found) unknown

end AttributeRecord

/--
A text without U+FFFD is read from the bytes which spell it.  All of these are
well-formed but groups which are not continued.  A record is read as the known
name which the bytes of its name spell says, wherever it stands among other
records, and is kept as it is if they spell none.
-/
theorem records_are_read_as_spelled {pool : Pool} {record : AttributeRecord}
    {entry : ModifiedUtf8}
    (found : pool.get? record.name = some (.utf8 entry)) :
    (∀ text : String, Utf16.replacement ∉ text.toList →
        (entry.text = text ↔ Spells entry.bytes text.toList)) ∧
      (Utf16.replacement ∉ entry.text.toList →
        (WellFormed entry.bytes ↔
          ∀ groups : List Group, entry.bytes = groups.flatMap Group.bytes →
            ∀ group ∈ groups, group.Continued)) ∧
      (∀ known : AttributeName, Spells entry.bytes known.text.toList →
        record.read pool =
          (sealed (known.reader pool record.name) record.payload >>=
            fun (attr, left) => record.finish known attr left)) ∧
      ((∀ known : AttributeName, ¬Spells entry.bytes known.text.toList) →
        record.read pool = .ok (.plain record.name (.unknown record.payload))) ∧
      ∀ {input rest : List UInt8},
        AttributeRecord.decode input = .ok (record, rest) →
        ∀ (before : List Attribute) (others : Nat),
          Attribute.decodeOnto pool before (others + 1) input =
            match record.read pool with
            | .ok attr => Attribute.decodeOnto pool (attr :: before) others rest
            | .error fault => .error (.fault fault) := by
  refine ⟨fun _ readable => ModifiedUtf8.text_eq_iff_spells readable, ?_,
    fun known spelled => AttributeRecord.read_of_spells found spelled,
    AttributeRecord.read_of_not_spells found, ?_⟩
  · intro readable
    exact ((ModifiedUtf8.text_eq_iff_spells readable).1 rfl).wellFormed_iff
  · intro input rest cut before others
    cases understood : record.read pool with
    | ok attr => exact Attribute.decodeOnto_of_read cut understood before others
    | error fault =>
        exact Attribute.decodeOnto_of_refused cut understood before others

/--
A pool with the name of synthetic elements, of which the first group is not
continued.
-/
def Pool.misspelled : Pool :=
  empty.push
    (.utf8 ⟨[0xc1, 0x53, 0x79, 0x6e, 0x74, 0x68, 0x65, 0x74, 0x69, 0x63]⟩)
    (by decide)

/--
A mark of synthetic elements is read from a record with a misspelled name.
-/
theorem records_are_read_as_spelled_sample :
    Pool.misspelled.get? 1 =
        some (.utf8
          ⟨[0xc1, 0x53, 0x79, 0x6e, 0x74, 0x68, 0x65, 0x74, 0x69, 0x63]⟩) ∧
      AttributeRecord.decode [0, 1, 0, 0, 0, 0] = .ok (⟨1, []⟩, []) ∧
      Attribute.decodeOnto .misspelled [] 1 [0, 1, 0, 0, 0, 0] =
        .ok ([.plain 1 .synthetic], []) := by
  have found : Pool.misspelled.get? 1 =
      some (.utf8
        ⟨[0xc1, 0x53, 0x79, 0x6e, 0x74, 0x68, 0x65, 0x74, 0x69, 0x63]⟩) := by
    decide +kernel
  have cut : AttributeRecord.decode [0, 1, 0, 0, 0, 0] = .ok (⟨1, []⟩, []) := by
    decide +kernel
  rcases @records_are_read_as_spelled .misspelled ⟨1, []⟩ _ found with
    ⟨told, -, dispatched, -, placed⟩
  have spelled :=
    (told AttributeName.synthetic.text (by decide +kernel)).1
      (by decide +kernel)
  have understood := dispatched .synthetic spelled
  refine ⟨found, cut, ?_⟩
  rw [placed cut [] 0, understood]
  decide +kernel

/--
A lead byte in front of a letter is no character, but both together are read as
the letter.
-/
theorem ill_formed_bytes_are_read :
    ¬WellFormed [0xc1, 0x41] ∧ (⟨[0xc1, 0x41]⟩ : ModifiedUtf8).text = "A" ∧
      ¬WellFormed [0xc1, 0x53, 0x79, 0x6e, 0x74, 0x68, 0x65, 0x74, 0x69, 0x63] ∧
      Attribute.decodeOnto .misspelled [] 1 [0, 1, 0, 0, 0, 0] =
        .ok ([.plain 1 .synthetic], []) := by
  have detached (b : UInt8) (continues : Utf8.isContinuation b = false)
      (rest : List UInt8) :
      ¬WellFormed (0xc1 :: b :: rest) := by
    intro wellFormed
    let group : Group := .two 0xc1 b (by decide)
    have continued : group.Continued :=
      (wellFormed_bytes_append_iff.1 wellFormed).1
    have contrary := continued b List.mem_cons_self
    rw [continues] at contrary
    cases contrary
  exact ⟨detached 0x41 (by decide) [], by decide +kernel,
    detached 0x53 (by decide) _, by decide +kernel⟩

end ClassFormat
