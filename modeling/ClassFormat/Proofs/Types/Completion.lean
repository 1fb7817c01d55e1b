import Mathlib.Data.List.TakeWhile
import ClassFormat.Proofs.Binary.Faults
import ClassFormat.Proofs.Types.Descriptions

/-!
# Texts which can be completed

A method descriptor is read from left to right without looking ahead.  So what
has been read stays what it is whatever follows, and what is at fault stays at
fault, unless the only fault is that the text ends too early.  A text which ends
too early can always be completed: a bracket wants a type, the name of a class
an end, and the parameters a closing parenthesis and a result.

No descriptor is the beginning of another one.  What begins with a descriptor
and goes on is reported for what follows, and for nothing else.
-/

namespace ClassFormat

/-- The faults of a text which ends too early. -/
def MethodFault.early : List MethodFault :=
  [.noClosing, .typeEnds, .objectEnds]

namespace MethodType

/--
To read something from the front of some characters is to find it and to leave
the rest.
-/
abbrev Reader (α : Type) : Type :=
  List Char → Except MethodFault (α × List Char)

namespace Reader

variable {α β : Type}

/-- Read two things, one after the other. -/
def andThen (first : Reader α) (next : α → Reader β) : Reader β := fun chars =>
  first chars >>= fun (value, rest) => next value rest

/-- Read something and make a value of it. -/
def map (change : α → β) (read : Reader α) : Reader β := fun chars =>
  (read chars).map (Prod.map change id)

/--
A reader which does not look ahead.  More characters behind those which it is
given change nothing, unless these end too early, and then some characters
complete them.
-/
structure Steady (read : Reader α) : Prop where
  keeps : ∀ {chars rest value}, read chars = .ok (value, rest) →
    ∀ more, read (chars ++ more) = .ok (value, rest ++ more)
  insists : ∀ {chars fault}, read chars = .error fault →
    fault ∉ MethodFault.early →
    ∀ more, read (chars ++ more) = .error fault
  completes : ∀ {chars fault}, read chars = .error fault →
    fault ∈ MethodFault.early →
    ∃ more value, read (chars ++ more) = .ok (value, [])
  untrailed : ∀ {chars}, read chars ≠ .error .trailing

theorem Steady.map {read : Reader α} (steady : read.Steady) (change : α → β) :
    (read.map change).Steady where
  keeps := by
    intro chars rest value found more
    rcases Decoder.exists_of_map_eq_ok found with
      ⟨⟨inner, left⟩, foundInner, same⟩
    cases same
    rw [Reader.map, steady.keeps foundInner more]
    rfl
  insists := by
    intro chars fault failed final more
    rw [Reader.map, steady.insists (Decoder.eq_error_of_map failed) final more]
    rfl
  completes := by
    intro chars fault failed early
    rcases steady.completes (Decoder.eq_error_of_map failed) early with
      ⟨more, value, found⟩
    refine ⟨more, change value, ?_⟩
    rw [Reader.map, found]
    rfl
  untrailed := fun failed => steady.untrailed (Decoder.eq_error_of_map failed)

/--
One thing after the other is read without looking ahead, if the second one does
not come from nothing.
-/
theorem Steady.andThen {first : Reader α} {next : α → Reader β}
    (ofFirst : first.Steady) (ofNext : ∀ value, (next value).Steady)
    (lacking : ∀ value,
      ∃ fault ∈ MethodFault.early, next value [] = .error fault) :
    (first.andThen next).Steady where
  keeps := by
    intro chars rest value found more
    rcases Decoder.bind_eq_ok found with
      ⟨⟨head, between⟩, foundFirst, foundNext⟩
    rw [Reader.andThen, ofFirst.keeps foundFirst more]
    exact (ofNext head).keeps foundNext more
  insists := by
    intro chars fault failed final more
    rcases Decoder.bind_eq_error failed with
      failedFirst | ⟨⟨head, between⟩, foundFirst, failedNext⟩
    · rw [Reader.andThen, ofFirst.insists failedFirst final more]
      rfl
    · rw [Reader.andThen, ofFirst.keeps foundFirst more]
      exact (ofNext head).insists failedNext final more
  completes := by
    intro chars fault failed early
    rcases Decoder.bind_eq_error failed with
      failedFirst | ⟨⟨head, between⟩, foundFirst, failedNext⟩
    -- What completes the first thing leaves nothing for the second one, which
    -- is completed as well.
    · rcases ofFirst.completes failedFirst early with ⟨some_, head, foundFirst⟩
      rcases lacking head with ⟨lack, lackEarly, failedNext⟩
      rcases (ofNext head).completes failedNext lackEarly with
        ⟨others, value, foundNext⟩
      refine ⟨some_ ++ others, value, ?_⟩
      rw [← List.append_assoc, Reader.andThen, ofFirst.keeps foundFirst others]
      exact foundNext
    · rcases (ofNext head).completes failedNext early with
        ⟨more, value, foundNext⟩
      refine ⟨more, value, ?_⟩
      rw [Reader.andThen, ofFirst.keeps foundFirst more]
      exact foundNext
  untrailed := by
    intro chars failed
    rcases Decoder.bind_eq_error failed with
      failedFirst | ⟨⟨head, between⟩, -, failedNext⟩
    · exact ofFirst.untrailed failedFirst
    · exact (ofNext head).untrailed failedNext

end Reader

/-! ## Types -/

/-- Brackets are counted as before if there is something behind them already. -/
theorem brackets_append {chars : List Char}
    (named : withoutDimensions chars ≠ []) (more : List Char) :
    leadingDimensions (chars ++ more) = leadingDimensions chars ∧
      withoutDimensions (chars ++ more) = withoutDimensions chars ++ more := by
  rcases exists_dimensionMarks_append chars with
    ⟨dimensions, name, rfl, unmarked⟩
  rw [withoutDimensions_of_unmarked unmarked] at named ⊢
  rw [leadingDimensions_of_unmarked unmarked, List.append_assoc]
  have begins : (name ++ more).head? ≠ some '[' := by
    cases name with
    | nil => exact absurd rfl named
    | cons c others => exact unmarked
  exact ⟨leadingDimensions_of_unmarked begins,
    withoutDimensions_of_unmarked begins⟩

section Elements

variable {allowVoid : Bool} {dimensions : Nat} {chars : List Char}
  {fault : MethodFault}
  (failed : readElement allowVoid dimensions chars = .error fault)
include failed

theorem readElement_append_of_error (final : fault ∉ MethodFault.early)
    (more : List Char) :
    readElement allowVoid dimensions (chars ++ more) = .error fault := by
  cases chars with
  | nil =>
      cases failed
      exact absurd (by decide) final
  | cons c others =>
      simp only [readElement, List.cons_append] at failed ⊢
      split at failed
      · next misplaced => rw [if_pos misplaced, failed]
      · next placed =>
          rw [if_neg placed]
          split at failed
          · split at failed
            · cases failed
              exact absurd (by decide) final
            · cases failed
          · next other =>
              rw [if_neg other]
              split at failed
              · cases failed
              · exact failed

/--
What ends too early is nothing at all, or the name of a class without an end.
-/
theorem eq_nil_or_object_of_early (early : fault ∈ MethodFault.early) :
    chars = [] ∨ ∃ name, chars = 'L' :: name ∧ ';' ∉ name := by
  cases chars with
  | nil => exact .inl rfl
  | cons c others =>
      simp only [readElement] at failed
      split at failed
      · cases failed
        exact absurd early (by decide)
      · split at failed
        · next object =>
            split at failed
            · next ended =>
                refine .inr ⟨others, by rw [object], fun member => ?_⟩
                simpa using List.dropWhile_eq_nil_iff.1 ended ';' member
            · cases failed
        · split at failed
          · cases failed
          · cases failed
            exact absurd early (by decide)

theorem ne_trailing_of_readElement : fault ≠ .trailing := by
  rintro rfl
  simp only [readElement] at failed
  repeat' split at failed
  all_goals cases failed

end Elements

/--
A type which ends too early is a number of brackets, perhaps with the beginning
of an object.
-/
theorem exists_completed_type {chars : List Char}
    (unfinished : withoutDimensions chars = [] ∨
      ∃ name, withoutDimensions chars = 'L' :: name ∧ ';' ∉ name) :
    ∃ (more : List Char) (descriptor : Descriptor),
      chars ++ more = descriptor.chars ∧
        descriptor.element ≠ .primitive .void := by
  have whole := dimensionMarks_append_withoutDimensions chars
  rcases unfinished with bare | ⟨name, begun, unended⟩
  · rw [bare, List.append_nil] at whole
    have notVoid : Element.primitive .int ≠ .primitive .void := by decide
    refine ⟨['I'],
      ⟨leadingDimensions chars, .primitive .int, trivial, (absurd · notVoid)⟩,
      ?_, notVoid⟩
    rw [Descriptor.chars, whole]
    rfl
  · have legal : (Element.object (String.ofList (name ++ ['A']))).Legal := by
      constructor
      · simp [← String.toList_inj]
      · simpa using unended
    have notVoid : Element.object (String.ofList (name ++ ['A'])) ≠
        .primitive .void := by simp
    refine ⟨['A', ';'], ⟨leadingDimensions chars, _, legal, (absurd · notVoid)⟩,
      ?_, notVoid⟩
    calc
      chars ++ ['A', ';'] =
          dimensionMarks (leadingDimensions chars) ++ 'L' :: name ++
            ['A', ';'] := by
        rw [← begun, whole]
      _ = dimensionMarks (leadingDimensions chars) ++
          (Element.object (String.ofList (name ++ ['A']))).chars := by
        simp [Element.chars]

theorem readType_eq_error {allowVoid : Bool} {chars : List Char}
    {fault : MethodFault} (failed : readType allowVoid chars = .error fault) :
    readElement allowVoid (leadingDimensions chars) (withoutDimensions chars) =
      .error fault ∨
      fault = .invalidType ∧ ∃ element rest,
        readElement allowVoid (leadingDimensions chars)
          (withoutDimensions chars) =
            .ok (element, rest) ∧
          Descriptor.ofParts? (leadingDimensions chars) element = none := by
  simp only [readType] at failed
  split at failed
  · next refused =>
      cases failed
      exact .inl refused
  · next element rest found =>
      split at failed
      · cases failed
      · next parts =>
          cases failed
          exact .inr ⟨rfl, element, rest, found, parts⟩

theorem steady_readType (allowVoid : Bool) :
    Reader.Steady (readType allowVoid) where
  keeps := by
    intro chars rest descriptor read more
    rcases eq_append_of_readType read with ⟨rfl, allowed⟩
    rw [List.append_assoc]
    exact readType_append allowed (rest ++ more)
  insists := by
    intro chars fault failed final more
    rcases readType_eq_error failed with
      refused | ⟨rfl, element, rest, found, parts⟩
    -- Were there nothing behind the brackets, more of them could follow.
    · have named : withoutDimensions chars ≠ [] := by
        intro bare
        rw [bare] at refused
        cases refused
        exact final (by decide)
      rcases brackets_append named more with ⟨counted, left⟩
      rw [readType, counted, left,
        readElement_append_of_error refused final more]
    · have named : withoutDimensions chars ≠ [] := by
        intro bare
        rw [bare] at found
        cases found
      rcases brackets_append named more with ⟨counted, left⟩
      rcases eq_append_of_readElement found with ⟨spelled, readable⟩
      rw [readType, counted, left, spelled, List.append_assoc,
        readElement_append readable]
      simp only [parts]
  completes := by
    intro chars fault failed early
    rcases readType_eq_error failed with refused | ⟨rfl, -⟩
    · rcases exists_completed_type
        (eq_nil_or_object_of_early refused early) with
        ⟨more, descriptor, spelled, notVoid⟩
      have read :=
        readType_append
          (fun void => absurd void notVoid : Allowed allowVoid descriptor) []
      rw [List.append_nil, ← spelled] at read
      exact ⟨more, descriptor, read⟩
    · exact absurd early (by decide)
  untrailed := by
    intro chars failed
    rcases readType_eq_error failed with refused | ⟨other, -⟩
    · exact ne_trailing_of_readElement refused rfl
    · cases other

/-! ## Parameters and a result -/

theorem readParameters_of_error {done : List Descriptor} {c : Char}
    {others : List Char} {fault : MethodFault} (different : c ≠ ')')
    (failed : readType false (c :: others) = .error fault) :
    readParameters done (c :: others) = .error fault := by
  rw [readParameters, if_neg different]
  split
  · next refused =>
      rw [failed] at refused
      cases refused
      rfl
  · next found =>
      rw [failed] at found
      cases found

theorem readParameters_closing (done : List Descriptor) :
    readParameters done [')'] = .ok (done.reverse, []) :=
  readParameters_eq_ok_iff.2 ⟨[], by simp, rfl, by simp⟩

theorem steady_readParameters (done : List Descriptor) :
    Reader.Steady (readParameters done) where
  keeps := by
    intro chars rest parameters read more
    rcases readParameters_eq_ok_iff.1 read with ⟨parameters, rfl, rfl, allowed⟩
    rw [List.append_assoc, List.cons_append]
    exact readParameters_eq_ok_iff.2 ⟨parameters, rfl, rfl, allowed⟩
  insists := by
    intro chars fault failed final more
    fun_induction readParameters done chars with
    | case1 =>
        cases failed
        exact absurd (by decide) final
    | case2 => cases failed
    | case3 done c others different refusal refused =>
        cases failed
        exact readParameters_of_error different
          ((steady_readType false).insists refused final more)
    | case4 done c others different parameter rest found shorter hypothesis =>
        rcases eq_append_of_readType found with ⟨spelled, allowed⟩
        rw [spelled, List.append_assoc, readParameters_append allowed]
        exact hypothesis failed
  completes := by
    intro chars fault failed early
    fun_induction readParameters done chars with
    | case1 done => exact ⟨[')'], done.reverse, readParameters_closing done⟩
    | case2 => cases failed
    | case3 done c others different refusal refused =>
        cases failed
        rcases (steady_readType false).completes refused early with
          ⟨more, parameter, read⟩
        rcases eq_append_of_readType read with ⟨spelled, allowed⟩
        refine ⟨more ++ [')'], (parameter :: done).reverse, ?_⟩
        rw [← List.append_assoc, spelled, List.append_nil,
          readParameters_append allowed]
        exact readParameters_closing _
    | case4 done c others different parameter rest found shorter hypothesis =>
        rcases hypothesis failed with ⟨more, parameters, read⟩
        rcases eq_append_of_readType found with ⟨spelled, allowed⟩
        refine ⟨more, parameters, ?_⟩
        rw [spelled, List.append_assoc, readParameters_append allowed]
        exact read
  untrailed := by
    intro chars failed
    fun_induction readParameters done chars with
    | case1 => cases failed
    | case2 => cases failed
    | case3 done c others different refusal refused =>
        cases failed
        exact (steady_readType false).untrailed refused
    | case4 done c others different parameter rest found shorter hypothesis =>
        exact hypothesis failed

/--
Read what stands behind the opening parenthesis, and leave what stands behind
the result.
-/
def readParts : Reader MethodType :=
  Reader.andThen (readParameters []) fun parameters =>
    Reader.map (MethodType.mk parameters) (readType true)

theorem steady_readParts : readParts.Steady :=
  (steady_readParameters []).andThen
    (fun parameters => (steady_readType true).map _)
    fun _ => ⟨.typeEnds, by decide, rfl⟩

theorem readParts_eq_ok_iff {others rest : List Char} {type : MethodType} :
    readParts others = .ok (type, rest) ↔
      '(' :: others = type.chars ++ rest ∧
        ∀ parameter ∈ type.parameters, Allowed false parameter := by
  constructor
  · intro read
    rcases Decoder.bind_eq_ok read with ⟨⟨parameters, between⟩, readMany, read⟩
    rcases Decoder.exists_of_map_eq_ok read with
      ⟨⟨result, left⟩, readResult, same⟩
    cases same
    rcases readParameters_eq_ok_iff.1 readMany with ⟨more, rfl, rfl, allowed⟩
    rcases eq_append_of_readType readResult with ⟨rfl, -⟩
    exact ⟨by simp [MethodType.chars], allowed⟩
  · rintro ⟨spelled, allowed⟩
    have others_ :
        others =
          type.parameters.flatMap Descriptor.chars ++
            ')' :: (type.result.chars ++ rest) := by
      simpa [MethodType.chars] using spelled
    have readMany : readParameters [] others =
        .ok (type.parameters, type.result.chars ++ rest) :=
      readParameters_eq_ok_iff.2 ⟨type.parameters, rfl, others_, allowed⟩
    rw [readParts, Reader.andThen, readMany]
    show (readType true (type.result.chars ++ rest)).map _ = _
    rw [readType_append (fun _ => rfl)]
    rfl

theorem ofChars_cons (others : List Char) :
    ofChars ('(' :: others) =
      (readParts others >>= fun (type, rest) =>
        if rest = [] then .ok type else .error .trailing) := by
  rw [ofChars, readParts, Reader.andThen]
  cases readParameters [] others with
  | error fault => rfl
  | ok found =>
      show (readType true found.2 >>= _) =
        (Reader.map _ (readType true) found.2 >>= _)
      rw [Reader.map]
      cases readType true found.2 <;> rfl

theorem ofChars_of_unopened {chars : List Char}
    (unopened : chars.head? ≠ some '(') :
    ofChars chars = .error .noOpening := by
  rw [ofChars.eq_def]
  split
  · exact absurd rfl unopened
  · rfl

/-! ## Whole descriptors -/

variable {chars : List Char} {fault : MethodFault}

/-- A text is at fault at its beginning, in its parts or behind its result. -/
theorem ofChars_eq_error (failed : ofChars chars = .error fault) :
    (fault = .noOpening ∧ chars.head? ≠ some '(') ∨
      ∃ others, chars = '(' :: others ∧
        (readParts others = .error fault ∨
          fault = .trailing ∧
            ∃ type rest, rest ≠ [] ∧ readParts others = .ok (type, rest)) := by
  by_cases opened : chars.head? = some '('
  · rcases List.head?_eq_some_iff.1 opened with ⟨others, rfl⟩
    refine .inr ⟨others, rfl, ?_⟩
    rw [ofChars_cons] at failed
    rcases Decoder.bind_eq_error failed with
      refused | ⟨⟨type, rest⟩, read, ended⟩
    · exact .inl refused
    · simp only at ended
      split at ended
      · cases ended
      · next left =>
          cases ended
          exact .inr ⟨rfl, type, rest, left, read⟩
  · rw [ofChars_of_unopened opened] at failed
    cases failed
    exact .inl ⟨rfl, opened⟩

theorem ofChars_append_of_error (failed : ofChars chars = .error fault)
    (nonempty : chars ≠ []) (final : fault ∉ MethodFault.early)
    (more : List Char) :
    ofChars (chars ++ more) = .error fault := by
  rcases ofChars_eq_error failed with
    ⟨rfl, unopened⟩ | ⟨others, rfl, refused | trailing⟩
  · apply ofChars_of_unopened
    cases chars with
    | nil => exact absurd rfl nonempty
    | cons c others => exact unopened
  · rw [List.cons_append, ofChars_cons,
      steady_readParts.insists refused final more]
    rfl
  · rcases trailing with ⟨rfl, type, rest, left, read⟩
    rw [List.cons_append, ofChars_cons, steady_readParts.keeps read more]
    exact if_neg (List.append_ne_nil_of_left_ne_nil left more)

theorem exists_completion (failed : ofChars chars = .error fault)
    (early : fault ∈ MethodFault.early) :
    ∃ more type, ofChars (chars ++ more) = .ok type := by
  rcases ofChars_eq_error failed with
    ⟨rfl, -⟩ | ⟨others, rfl, refused | ⟨rfl, -⟩⟩
  · exact absurd early (by decide)
  · rcases steady_readParts.completes refused early with ⟨more, type, read⟩
    refine ⟨more, type, ?_⟩
    rw [List.cons_append, ofChars_cons, read]
    rfl
  · exact absurd early (by decide)

theorem exists_front_of_trailing (failed : ofChars chars = .error .trailing) :
    ∃ front more type, more ≠ [] ∧ chars = front ++ more ∧
      ofChars front = .ok type := by
  rcases ofChars_eq_error failed with
    ⟨other, -⟩ | ⟨others, rfl, refused | trailing⟩
  · cases other
  · exact absurd refused steady_readParts.untrailed
  · rcases trailing with ⟨-, type, rest, left, read⟩
    rcases readParts_eq_ok_iff.1 read with ⟨spelled, allowed⟩
    exact ⟨type.chars, rest, type, left, spelled,
      ofChars_eq_ok_iff.2 ⟨rfl, allowed⟩⟩

/-- What goes on behind a descriptor is reported, and is no descriptor. -/
theorem ofChars_append_of_ok {type : MethodType}
    (read : ofChars chars = .ok type) {more : List Char} (lacking : more ≠ []) :
    ofChars (chars ++ more) = .error .trailing := by
  rcases ofChars_eq_ok_iff.1 read with ⟨rfl, allowed⟩
  have begins : ∃ others, type.chars = '(' :: others := ⟨_, rfl⟩
  rcases begins with ⟨others, begins⟩
  have readAll : readParts (others ++ more) = .ok (type, more) :=
    readParts_eq_ok_iff.2 ⟨by rw [begins, List.cons_append], allowed⟩
  rw [begins, List.cons_append, ofChars_cons, readAll]
  exact if_neg lacking

/-- Exactly what ends too early can be completed. -/
theorem early_iff_completable (nonempty : chars ≠ []) :
    (∃ fault ∈ MethodFault.early, ofChars chars = .error fault) ↔
      ∃ more, more ≠ [] ∧ ∃ type, ofChars (chars ++ more) = .ok type := by
  constructor
  · rintro ⟨fault, early, failed⟩
    rcases exists_completion failed early with ⟨more, type, read⟩
    refine ⟨more, ?_, type, read⟩
    rintro rfl
    rw [List.append_nil, failed] at read
    cases read
  · rintro ⟨more, lacking, type, read⟩
    cases outcome : ofChars chars with
    | ok other =>
        rw [ofChars_append_of_ok outcome lacking] at read
        cases read
    | error fault =>
        refine ⟨fault, Decidable.byContradiction fun final => ?_, rfl⟩
        rw [ofChars_append_of_error outcome nonempty final more] at read
        cases read

/-- Exactly what goes on behind a descriptor is reported for what follows. -/
theorem trailing_iff_front :
    ofChars chars = .error .trailing ↔
      ∃ front more, more ≠ [] ∧ chars = front ++ more ∧
        ∃ type, ofChars front = .ok type := by
  constructor
  · intro failed
    rcases exists_front_of_trailing failed with
      ⟨front, more, type, lacking, whole, read⟩
    exact ⟨front, more, lacking, whole, type, read⟩
  · rintro ⟨front, more, lacking, rfl, type, read⟩
    exact ofChars_append_of_ok read lacking

theorem parse_eq_error_iff {text : String} :
    parse text = .error (.malformedMethodDescriptor text fault) ↔
      ofChars text.toList = .error fault := by
  rw [parse]
  cases ofChars text.toList with
  | ok type => simp
  | error reason => simp

/--
A text which is not empty is reported to end too early exactly if something can
be put behind it to make it a descriptor, and for what follows exactly if it
begins with a descriptor which is not the whole text.  Any other report is the
same for every text which begins like it.
-/
theorem reports_are_precise {text : String} (nonempty : text ≠ "") :
    ((∃ fault ∈ MethodFault.early,
        parse text = .error (.malformedMethodDescriptor text fault)) ↔
      ∃ more, more ≠ "" ∧ ∃ type, parse (text ++ more) = .ok type) ∧
    (parse text = .error (.malformedMethodDescriptor text .trailing) ↔
      ∃ front more, more ≠ "" ∧ text = front ++ more ∧
        ∃ type, parse front = .ok type) ∧
    ∀ fault ∉ MethodFault.early,
      parse text = .error (.malformedMethodDescriptor text fault) →
      ∀ more, parse (text ++ more) =
        .error (.malformedMethodDescriptor (text ++ more) fault) := by
  have some_ (more : String) : more ≠ "" ↔
      more.toList ≠ [] := not_congr String.toList_eq_nil_iff.symm
  simp only [parse_eq_error_iff, parse_eq_ok_iff, String.toList_append]
  refine ⟨?_, ?_, ?_⟩
  · rw [early_iff_completable ((some_ text).1 nonempty)]
    constructor
    · rintro ⟨more, lacking, type, read⟩
      refine ⟨String.ofList more, (some_ _).2 ?_, type, ?_⟩ <;>
        rwa [String.toList_ofList]
    · rintro ⟨more, lacking, accepted⟩
      exact ⟨more.toList, (some_ more).1 lacking, accepted⟩
  · rw [trailing_iff_front]
    constructor
    · rintro ⟨front, more, lacking, whole, type, read⟩
      refine ⟨String.ofList front, String.ofList more, (some_ _).2 ?_, ?_,
        type, ?_⟩
      · rwa [String.toList_ofList]
      · rw [← String.ofList_append, ← whole, String.ofList_toList]
      · rwa [String.toList_ofList]
    · rintro ⟨front, more, lacking, rfl, accepted⟩
      exact ⟨front.toList, more.toList, (some_ more).1 lacking,
        String.toList_append, accepted⟩
  · intro fault final failed more
    exact ofChars_append_of_error failed ((some_ text).1 nonempty)
      final more.toList

/--
An object without an end, a result behind the result, and an object without a
name.
-/
theorem reports_are_precise_sample :
    (∃ more, more ≠ "" ∧ ∃ type, parse ("([[La/B" ++ more) = .ok type) ∧
      parse "()VV" = .error (.malformedMethodDescriptor "()VV" .trailing) ∧
      ∀ more, parse ("(L;" ++ more) =
        .error (.malformedMethodDescriptor ("(L;" ++ more) .invalidType) := by
  have ends : parse "([[La/B" =
      .error (.malformedMethodDescriptor "([[La/B" .objectEnds) := by
    decide +kernel
  have nameless : parse "(L;" =
      .error (.malformedMethodDescriptor "(L;" .invalidType) := by
    decide +kernel
  have front : ∃ type, parse "()V" = .ok type :=
    ⟨⟨[], 0, .primitive .void, trivial, fun _ => rfl⟩, by decide +kernel⟩
  refine ⟨?_, ?_, ?_⟩
  · exact (reports_are_precise (by decide)).1.1 ⟨.objectEnds, by decide, ends⟩
  · exact (reports_are_precise (by decide)).2.1.2
      ⟨"()V", "V", by decide, rfl, front⟩
  · exact (reports_are_precise (by decide)).2.2 .invalidType (by decide)
      nameless

end MethodType

end ClassFormat
