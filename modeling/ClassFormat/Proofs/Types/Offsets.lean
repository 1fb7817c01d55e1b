import ClassFormat.Proofs.Types.Grammar

/-!
# Reading by offsets

A reader may also go through a text by offsets in bytes: it passes over one
type, cuts what it has passed over out of the text and has the piece read as a
field descriptor of its own.  This comes to the same as reading the types as one
goes.  In particular every cut is made between characters, however many bytes
they take, and whatever is passed over as a type is accepted as one, but for an
object without a name.
-/

namespace ClassFormat

namespace Text

/-- The number of bytes which some characters take. -/
def byteSize (chars : List Char) : Nat :=
  (String.ofList chars).utf8ByteSize

theorem byteSize_append (first second : List Char) :
    byteSize (first ++ second) = byteSize first + byteSize second := by
  rw [byteSize, String.ofList_append, String.utf8ByteSize_append]
  rfl

theorem byteSize_cons (c : Char) (others : List Char) :
    byteSize (c :: others) = c.utf8Size + byteSize others := by
  rw [← List.singleton_append, byteSize_append, byteSize,
    ← String.singleton_eq_ofList, String.utf8ByteSize_singleton]

/--
Some characters, each with the offset at which it begins, the first one at
`offset`.
-/
def located (offset : Nat) : List Char → List (Nat × Char)
  | [] => []
  | c :: others => (offset, c) :: located (offset + c.utf8Size) others

theorem map_located (offset : Nat) (chars : List Char) :
    (located offset chars).map Prod.snd = chars := by
  induction chars generalizing offset with
  | nil => rfl
  | cons c others hypothesis => rw [located, List.map_cons, hypothesis]

/--
The part of a text between two offsets in bytes.  There is none if one of them
is not at the beginning of a character, or if they are in the wrong order.
-/
def slice? (text : String) (start stop : Nat) : Option String :=
  if first : String.Pos.Raw.IsValid text ⟨start⟩ then
    if last : String.Pos.Raw.IsValid text ⟨stop⟩ then
      (text.slice? (text.pos ⟨start⟩ first) (text.pos ⟨stop⟩ last)).map
        String.Slice.copy
    else
      none
  else
    none

theorem slice?_append (front piece rest : String) :
    slice? (front ++ piece ++ rest) front.utf8ByteSize
      (front ++ piece).utf8ByteSize =
      some piece := by
  have first : String.Pos.Raw.IsValid (front ++ piece ++ rest)
      ⟨front.utf8ByteSize⟩ :=
    String.Pos.Raw.isValid_iff_exists_append.2
      ⟨front, piece ++ rest, String.append_assoc, rfl⟩
  have last : String.Pos.Raw.IsValid (front ++ piece ++ rest)
      ⟨(front ++ piece).utf8ByteSize⟩ :=
    String.Pos.Raw.isValid_iff_exists_append.2 ⟨front ++ piece, rest, rfl, rfl⟩
  have cut :
      ∃ ordered : String.pos _ _ first ≤ String.pos _ _ last,
        (String.slice _ (String.pos _ _ first) (String.pos _ _ last)
          ordered).copy = piece :=
    String.copy_slice_eq_iff_splits.2 ⟨front, rest, ⟨String.append_assoc, rfl⟩,
      ⟨rfl, rfl⟩⟩
  rcases cut with ⟨ordered, copied⟩
  rw [slice?, dif_pos first, dif_pos last, String.slice?, dif_pos ordered,
    Option.map_some, copied]

/--
What is between two things that may be left of a text can be cut out of it.
-/
theorem slice?_of_suffix
    {text : String} {piece rest : List Char}
    (suffix : piece ++ rest <:+ text.toList) :
    slice? text (text.utf8ByteSize - byteSize (piece ++ rest))
      (text.utf8ByteSize - byteSize rest) =
      some (String.ofList piece) := by
  rcases suffix with ⟨front, whole⟩
  have spelled :
      text =
        String.ofList front ++ String.ofList piece ++ String.ofList rest := by
    rw [← String.ofList_append, ← String.ofList_append, List.append_assoc,
      whole, String.ofList_toList]
  have cut :=
    slice?_append (String.ofList front) (String.ofList piece)
      (String.ofList rest)
  have size : text.utf8ByteSize =
      byteSize front + byteSize piece + byteSize rest := by
    rw [spelled, String.utf8ByteSize_append, String.utf8ByteSize_append]
    rfl
  have start : text.utf8ByteSize - byteSize (piece ++ rest) =
      (String.ofList front).utf8ByteSize := by
    change _ = byteSize front
    rw [byteSize_append]
    omega
  have stop : text.utf8ByteSize - byteSize rest =
      (String.ofList front ++ String.ofList piece).utf8ByteSize := by
    rw [String.utf8ByteSize_append]
    change _ = byteSize front + byteSize piece
    omega
  rw [start, stop]
  rwa [← spelled] at cut

/-- What is before a reader when some characters are left of a text. -/
def ahead (text : String) (left : List Char) : List (Nat × Char) :=
  located (text.utf8ByteSize - byteSize left) left

theorem ahead_cons {text : String} {c : Char} {others : List Char}
    (suffix : c :: others <:+ text.toList) :
    ahead text (c :: others) =
      (text.utf8ByteSize - byteSize (c :: others), c) :: ahead text others := by
  rcases suffix with ⟨front, whole⟩
  have size : text.utf8ByteSize = byteSize front + byteSize (c :: others) := by
    rw [← byteSize_append, whole, byteSize, String.ofList_toList]
  rw [byteSize_cons] at size
  rw [ahead, located, ahead, byteSize_cons]
  congr 2
  omega

theorem dropWhile_ahead
    {text : String} {left : List Char} (accepts : Char → Bool)
    (suffix : left <:+ text.toList) :
    (ahead text left).dropWhile (fun located => accepts located.2) =
      ahead text (left.dropWhile accepts) := by
  induction left with
  | nil => rfl
  | cons c others hypothesis =>
      rw [ahead_cons suffix, List.dropWhile_cons, List.dropWhile_cons]
      split
      · exact hypothesis ((List.suffix_cons c others).trans suffix)
      · rw [ahead_cons suffix]

theorem length_takeWhile_ahead (text : String) (left : List Char)
    (accepts : Char → Bool) :
    ((ahead text left).takeWhile (fun located => accepts located.2)).length =
      (left.takeWhile accepts).length := by
  calc
    ((ahead text left).takeWhile (fun located => accepts located.2)).length =
        (((ahead text left).map Prod.snd).takeWhile accepts).length := by
      rw [List.takeWhile_map, List.length_map]
      rfl
    _ = (left.takeWhile accepts).length := by rw [ahead, map_located]

end Text

open Text

namespace MethodType

/--
Where the first of some characters begins in a text, or where the text ends if
there is none.
-/
def position (text : String) : List (Nat × Char) → Nat
  | [] => text.utf8ByteSize
  | (offset, _) :: _ => offset

theorem position_ahead (text : String) (left : List Char) :
    position text (ahead text left) = text.utf8ByteSize - byteSize left := by
  cases left with
  | nil => rfl
  | cons c others => rfl

/-- Pass over one type. -/
def passType (allowVoid : Bool) (chars : List (Nat × Char)) :
    Except MethodFault (List (Nat × Char)) :=
  match chars.dropWhile (·.2 = '[') with
  | [] => .error .typeEnds
  | (_, c) :: others =>
    if c = 'V' ∧
      (allowVoid = false ∨ 0 < (chars.takeWhile (·.2 = '[')).length) then
      .error .misplacedVoid
    else if c = 'L' then
      match others.dropWhile (·.2 ≠ ';') with
      | [] => .error .objectEnds
      | _ :: rest => .ok rest
    else
      match Primitive.ofLetter? c with
      | some _ => .ok others
      | none => .error .noType

/--
Pass over one type, cut it out of the text and read the piece, unless it cannot
be cut out.
-/
def cutType (text : String) (allowVoid : Bool) (chars : List (Nat × Char)) :
    Option (Except MethodFault (Descriptor × List (Nat × Char))) :=
  match passType allowVoid chars with
  | .error fault => some (.error fault)
  | .ok rest =>
    match slice? text (position text chars) (position text rest) with
    | none => none
    | some piece =>
      match Descriptor.parse piece with
      | .ok descriptor => some (.ok (descriptor, rest))
      | .error _ => some (.error .invalidType)

theorem length_lt_of_passType
    {allowVoid : Bool} {chars rest : List (Nat × Char)}
    (passed : passType allowVoid chars = .ok rest) :
    rest.length < chars.length := by
  simp only [passType] at passed
  split at passed
  · cases passed
  · next place c others begins =>
    have shorter := (List.dropWhile_sublist (l := chars)
      (fun located => decide (located.2 = '['))).length_le
    rw [begins, List.length_cons] at shorter
    split at passed
    · cases passed
    · split at passed
      · split at passed
        · cases passed
        · next dropped =>
          cases passed
          have ended := (List.dropWhile_sublist (l := others)
            (fun located => decide (located.2 ≠ ';'))).length_le
          rw [dropped, List.length_cons] at ended
          omega
      · split at passed
        · cases passed
          omega
        · cases passed

theorem length_lt_of_cutType
    {text : String} {allowVoid : Bool} {chars rest : List (Nat × Char)}
    {descriptor : Descriptor}
    (cut : cutType text allowVoid chars = some (.ok (descriptor, rest))) :
    rest.length < chars.length := by
  simp only [cutType] at cut
  split at cut
  · cases cut
  · next passed =>
    split at cut
    · cases cut
    · split at cut
      · cases cut
        exact length_lt_of_passType passed
      · cases cut

/--
Cut parameters out of the text up to the closing parenthesis, as
`readParameters` reads them.
-/
def cutParameters (text : String) (done : List Descriptor)
    (chars : List (Nat × Char)) :
    Option (Except MethodFault (List Descriptor × List (Nat × Char))) :=
  match chars with
  | [] => some (.error .noClosing)
  | (place, c) :: others =>
    if c = ')' then
      some (.ok (done.reverse, others))
    else
      match cut : cutType text false ((place, c) :: others) with
      | none => none
      | some (.error fault) => some (.error fault)
      | some (.ok (parameter, rest)) =>
        have := length_lt_of_cutType cut
        cutParameters text (parameter :: done) rest
termination_by chars.length
decreasing_by assumption

/-- Read a method descriptor by cutting every type out of the text. -/
def cutMethod (text : String) : Option (Except MethodFault MethodType) :=
  match located 0 text.toList with
  | (_, '(') :: others =>
    match cutParameters text [] others with
    | none => none
    | some (.error fault) => some (.error fault)
    | some (.ok (parameters, afterParameters)) =>
      match cutType text true afterParameters with
      | none => none
      | some (.error fault) => some (.error fault)
      | some (.ok (result, rest)) =>
        if rest = [] then
          some (.ok ⟨parameters, result⟩)
        else
          some (.error .trailing)
  | _ => some (.error .noOpening)

/-- Passing over a type stops where reading an element does. -/
theorem passType_ahead
    {text : String} {left : List Char} (allowVoid : Bool)
    (suffix : left <:+ text.toList) :
    passType allowVoid (ahead text left) =
      (readElement allowVoid (leadingDimensions left)
        (withoutDimensions left)).map
        fun found => ahead text found.2 := by
  have shorter : withoutDimensions left <:+ text.toList :=
    (List.dropWhile_suffix _).trans suffix
  rw [passType, dropWhile_ahead (fun c => decide (c = '[')) suffix,
    length_takeWhile_ahead text left (fun c => decide (c = '['))]
  change
    (match ahead text (withoutDimensions left) with
      | [] => _
      | (_, c) :: others => _) = _
  cases begins : withoutDimensions left with
  | nil => rfl
  | cons c others =>
      rw [begins] at shorter
      have after : others <:+ text.toList :=
        (List.suffix_cons c others).trans shorter
      rw [ahead_cons shorter]
      simp only [readElement, dropWhile_ahead (fun c => decide (c ≠ ';')) after]
      change (if c = 'V' ∧
        (allowVoid = false ∨ 0 < leadingDimensions left) then _ else _) = _
      split
      · rfl
      · split
        · have ended : others.dropWhile (fun c => decide (c ≠ ';')) <:+
              text.toList :=
            (List.dropWhile_suffix _).trans after
          cases dropped : others.dropWhile (fun c => decide (c ≠ ';')) with
          | nil => rfl
          | cons semicolon rest =>
              rw [dropped] at ended
              rw [ahead_cons ended]
              rfl
        · cases Primitive.ofLetter? c <;> rfl

/--
A piece which is passed over as a type is a descriptor exactly if its parts go
together.
-/
theorem parse?_piece
    {allowVoid : Bool} {dimensions : Nat} {element : Element}
    (readable : Readable allowVoid dimensions element) :
    Descriptor.parse?
      (String.ofList (dimensionMarks dimensions ++ element.chars)) =
      Descriptor.ofParts? dimensions element := by
  have read : Element.ofChars? element.chars =
      if element.Legal then some element else none := by
    split
    · next legal => exact Element.ofChars?_chars legal
    · next illegal =>
      cases element with
      | primitive kind => exact absurd trivial illegal
      | object path =>
          have nameless : path = "" :=
            Decidable.byContradiction fun named => illegal ⟨named, readable⟩
          rw [nameless]
          rfl
  rcases element.exists_chars_eq_cons with ⟨c, others, begins, different⟩
  rw [begins] at read ⊢
  rw [Descriptor.parse?, String.toList_ofList, Descriptor.ofChars?,
    withoutDimensions_append different, leadingDimensions_append different,
    read]
  split
  · rfl
  · next illegal => rw [Descriptor.ofParts?, dif_neg illegal]; rfl

/-- Cutting types out of a text gives the types which are read as one goes. -/
theorem cutType_ahead
    {text : String} {left : List Char} (allowVoid : Bool)
    (suffix : left <:+ text.toList) :
    cutType text allowVoid (ahead text left) =
      some ((readType allowVoid left).map (Prod.map id (ahead text))) := by
  rw [cutType, passType_ahead allowVoid suffix, readType]
  cases read : readElement allowVoid (leadingDimensions left)
    (withoutDimensions left) with
  | error fault => rfl
  | ok found =>
      rcases found with ⟨element, rest⟩
      rcases eq_append_of_readElement read with ⟨split, readable⟩
      have whole :
          left =
            dimensionMarks (leadingDimensions left) ++ element.chars ++
              rest := by
        rw [List.append_assoc, ← split, dimensionMarks_append_withoutDimensions]
      have cut : slice? text (position text (ahead text left))
          (position text (ahead text rest)) =
          some
            (String.ofList
              (dimensionMarks (leadingDimensions left) ++ element.chars)) := by
        rw [position_ahead, position_ahead]
        rw [whole] at suffix
        have found := slice?_of_suffix suffix
        rwa [← whole] at found
      simp only [Except.map, cut, Descriptor.parse, parse?_piece readable]
      cases Descriptor.ofParts? (leadingDimensions left) element <;> rfl

theorem cutParameters_ahead
    {text : String} {left : List Char} (done : List Descriptor)
    (suffix : left <:+ text.toList) :
    cutParameters text done (ahead text left) =
      some ((readParameters done left).map (Prod.map id (ahead text))) := by
  fun_induction readParameters done left with
  | case1 =>
      rw [ahead, located, cutParameters]
      rfl
  | case2 done others =>
      rw [ahead_cons suffix, cutParameters, if_pos rfl]
      rfl
  | case3 done c others different fault failed =>
      have cut := cutType_ahead false suffix
      rw [failed] at cut
      rw [ahead_cons suffix] at cut ⊢
      rw [cutParameters, if_neg different]
      split
      · next missing => rw [cut] at missing; cases missing
      · next found => rw [cut] at found; cases found; rfl
      · next found => rw [cut] at found; cases found
  | case4 done c others different parameter rest read shorter hypothesis =>
      have cut := cutType_ahead false suffix
      have left : rest <:+ text.toList := by
        rcases eq_append_of_readType read with ⟨split, -⟩
        rw [split] at suffix
        exact (List.suffix_append _ rest).trans suffix
      rw [read] at cut
      rw [ahead_cons suffix] at cut ⊢
      rw [cutParameters, if_neg different]
      split
      · next missing => rw [cut] at missing; cases missing
      · next found => rw [cut] at found; cases found
      · next found =>
          rw [cut] at found
          cases found
          exact hypothesis left

theorem located_eq_ahead (text : String) :
    located 0 text.toList = ahead text text.toList := by
  rw [ahead, byteSize, String.ofList_toList, Nat.sub_self]

theorem ahead_eq_nil_iff (text : String) (left : List Char) :
    ahead text left = [] ↔ left = [] := by
  cases left with
  | nil => exact ⟨fun _ => rfl, fun _ => rfl⟩
  | cons c others => exact ⟨nofun, nofun⟩

/-- What is left after the parameters is the end of what they were read from. -/
theorem suffix_of_readParameters
    {done parameters : List Descriptor} {chars rest : List Char}
    (read : readParameters done chars = .ok (parameters, rest)) :
    rest <:+ chars := by
  rcases readParameters_eq_ok_iff.1 read with ⟨more, -, rfl, -⟩
  exact (List.suffix_cons ')' rest).trans (List.suffix_append _ _)

/--
Reading by offsets never cuts a character, and comes to the same as reading as
one goes.
-/
theorem cutMethod_eq (text : String) :
    cutMethod text = some (ofChars text.toList) := by
  rw [cutMethod, located_eq_ahead]
  rcases starts : text.toList with - | ⟨c, others⟩
  · rfl
  · have whole : c :: others <:+ text.toList := starts ▸ List.suffix_rfl
    have after : others <:+ text.toList :=
      (List.suffix_cons c others).trans whole
    rw [ahead_cons whole]
    by_cases opens : c = '('
    · subst opens
      show (match cutParameters text [] (ahead text others) with
        | none => none
        | some (.error fault) => _
        | some (.ok (parameters, afterParameters)) =>
          _) = some (readParameters [] others >>= _)
      rw [cutParameters_ahead [] after]
      rcases readMany : readParameters [] others with
        fault | ⟨parameters, afterParameters⟩
      · rfl
      · have left := (suffix_of_readParameters readMany).trans after
        show (match cutType text true (ahead text afterParameters) with
          | none => none
          | some (.error fault) => _
          | some (.ok (result, rest)) =>
            _) = some (readType true afterParameters >>= _)
        rw [cutType_ahead true left]
        rcases readType true afterParameters with fault | ⟨result, rest⟩
        · rfl
        · show (if ahead text rest = [] then _ else _) =
            some (if rest = [] then _ else _)
          simp only [ahead_eq_nil_iff]
          split <;> rfl
    · have notOpened : ofChars (c :: others) = .error .noOpening := by
        rw [ofChars.eq_def]
        split
        · next same => exact absurd (List.cons.inj same).1 opens
        · rfl
      rw [notOpened]
      split
      · next same => exact absurd (Prod.mk.inj (List.cons.inj same).1).2 opens
      · rfl

end MethodType

/--
Descriptors are accepted exactly, and nothing of them is lost.

A text is read as a field descriptor if and only if it is one by the grammar, is
written out as it was, and is reported itself otherwise.  It is read as a method
descriptor if and only if it consists of the descriptors of parameters, of which
none is `void`, and of a result; these are the only ones it consists of, and
they are what has been read, in order.  It is written out as it was, and is
reported itself otherwise.  All this holds whatever the characters are: no
offset at which the text is cut is inside one of them.
-/
theorem descriptors_read_exactly (text : String) :
    ((∃ written, WrittenType.ofDescriptor text = .ok written) ↔
      FieldSyntax text.toList) ∧
    (∀ written, WrittenType.ofDescriptor text = .ok written →
      written.toDescriptor = text) ∧
    (∀ fault, WrittenType.ofDescriptor text = .error fault →
      fault = .malformedDescriptor text) ∧
    ((∃ type, MethodType.parse text = .ok type) ↔
      ∃ parameters result, MethodSyntax parameters result text.toList) ∧
    (∀ type, MethodType.parse text = .ok type →
      type.text = text ∧
        ∀ parameters result, MethodSyntax parameters result text.toList ↔
          parameters = type.parameters.map Descriptor.chars ∧
            result = type.result.chars) ∧
    (∀ fault, MethodType.parse text = .error fault →
      ∃ reason, fault = .malformedMethodDescriptor text reason) ∧
    MethodType.cutMethod text = some (MethodType.ofChars text.toList) := by
  refine ⟨WrittenType.ofDescriptor_accepts_iff text, ?written, ?refused,
    MethodType.parse_accepts_iff text, ?parsed, ?reported,
    MethodType.cutMethod_eq text⟩
  case written =>
    intro written read
    rcases WrittenType.ofDescriptor_eq_ok_iff.1 read with ⟨found, rfl, same⟩
    exact (congrArg String.ofList same).trans String.ofList_toList
  case refused => exact fun fault => WrittenType.eq_malformed_of_ofDescriptor
  case parsed => exact fun type => MethodType.methodSyntax_of_parse
  case reported => exact fun fault => MethodType.exists_reason_of_parse

/--
Names which hold the characters of the grammar, and characters of several bytes.
-/
theorem descriptors_read_exactly_sample :
    let text := "(L(é)[;[[JI)[L𝄞;"
    let parameters := ["L(é)[;".toList, "[[J".toList, ['I']]
    MethodSyntax parameters "[L𝄞;".toList text.toList ∧
      ∃ type, MethodType.parse text = .ok type ∧ type.text = text ∧
        type.parameters.map Descriptor.chars = parameters := by
  intro text parameters
  have derived : MethodSyntax parameters "[L𝄞;".toList text.toList := {
    ofParameters := by
      have object : FieldSyntax "L(é)[;".toList :=
        .object 0 (by decide : "(é)[".toList ≠ []) (by decide)
      have array : FieldSyntax "[[J".toList := .primitive 2 (by decide)
      have int : FieldSyntax ['I'] := .primitive 0 (by decide)
      intro parameter member
      simp only [parameters, List.mem_cons, List.not_mem_nil,
        or_false] at member
      rcases member with rfl | rfl | rfl
      · exact ⟨object, by decide⟩
      · exact ⟨array, by decide⟩
      · exact ⟨int, by decide⟩
    ofResult := .object 1 (by decide : ['𝄞'] ≠ []) (by decide)
    spelled := by decide }
  have exact_ := descriptors_read_exactly text
  rcases exact_.2.2.2.1.2 ⟨_, _, derived⟩ with ⟨type, read⟩
  have lossless := exact_.2.2.2.2.1 type read
  exact ⟨derived, type, read, lossless.1, ((lossless.2 _ _).1 derived).1.symm⟩

end ClassFormat
