import ClassFormat.Types.Descriptor

/-!
# Method types

The parameter types and the result type of a method, and the descriptor which
spells them: the parameters between parentheses, then the result.  Only the
result may be `void`.

Reading goes through the text from left to right, so a text with several faults
is reported for the first one.
-/

namespace ClassFormat

/-- The types of a method's parameters and of its result. -/
structure MethodType where
  parameters : List Descriptor
  result : Descriptor
  deriving DecidableEq, Repr

namespace MethodType

/-- The characters of a method descriptor. -/
def chars (type : MethodType) : List Char :=
  '(' :: type.parameters.flatMap Descriptor.chars ++ ')' :: type.result.chars

/-- The text of a method descriptor. -/
def text (type : MethodType) : String :=
  String.ofList type.chars

/--
Two method types agree when their parameters and results name the same types, in
order.
-/
def sameTypes (first second : MethodType) : Bool :=
  first.parameters.length = second.parameters.length &&
    (first.parameters.zip second.parameters).all (fun (a, b) => a.sameType b) &&
    first.result.sameType second.result

/-- Read the element of a type whose array dimensions have been read. -/
def readElement (allowVoid : Bool) (dimensions : Nat) :
    List Char → Except MethodFault (Element × List Char)
  | [] => .error .typeEnds
  | c :: others =>
    if c = 'V' ∧ (allowVoid = false ∨ 0 < dimensions) then
      .error .misplacedVoid
    else if c = 'L' then
      match others.dropWhile (· ≠ ';') with
      | [] => .error .objectEnds
      | _ :: rest =>
        .ok (.object (String.ofList (others.takeWhile (· ≠ ';'))), rest)
    else
      match Primitive.ofLetter? c with
      | some kind => .ok (.primitive kind, others)
      | none => .error .noType

/-- Read one type from the front of some characters. -/
def readType (allowVoid : Bool) (chars : List Char) :
    Except MethodFault (Descriptor × List Char) :=
  match readElement allowVoid (leadingDimensions chars)
    (withoutDimensions chars) with
  | .error fault => .error fault
  | .ok (element, rest) =>
    match Descriptor.ofParts? (leadingDimensions chars) element with
    | some descriptor => .ok (descriptor, rest)
    | none => .error .invalidType

theorem length_lt_of_readElement
    {allowVoid : Bool} {dimensions : Nat} {chars rest : List Char}
    {element : Element}
    (read : readElement allowVoid dimensions chars = .ok (element, rest)) :
    rest.length < chars.length := by
  simp only [readElement] at read
  split at read
  · simp at read
  · next c others =>
    split at read
    · simp at read
    · split at read
      · split at read
        · simp at read
        · next dropped =>
          simp only [Except.ok.injEq, Prod.mk.injEq] at read
          have :=
            (List.dropWhile_sublist (l := others)
              (fun c => decide (c ≠ ';'))).length_le
          rw [dropped] at this
          simp only [List.length_cons, ← read.2] at this ⊢
          omega
      · split at read
        · simp only [Except.ok.injEq, Prod.mk.injEq] at read
          simp [← read.2]
        · simp at read

theorem length_lt_of_readType
    {allowVoid : Bool} {chars rest : List Char} {descriptor : Descriptor}
    (read : readType allowVoid chars = .ok (descriptor, rest)) :
    rest.length < chars.length := by
  simp only [readType] at read
  split at read
  · simp at read
  · next found =>
    split at read
    · simp only [Except.ok.injEq, Prod.mk.injEq] at read
      have shorter := length_lt_of_readElement found
      have :=
        (List.dropWhile_sublist (l := chars)
          (fun c => decide (c = '['))).length_le
      rw [← read.2]
      simp only [withoutDimensions] at shorter
      omega
    · simp at read

/--
Read parameters up to and including the closing parenthesis, putting them after
those already read, which are held in reverse.
-/
def readParameters (done : List Descriptor) (chars : List Char) :
    Except MethodFault (List Descriptor × List Char) :=
  match chars with
  | [] => .error .noClosing
  | c :: others =>
    if c = ')' then
      .ok (done.reverse, others)
    else
      match read : readType false (c :: others) with
      | .error fault => .error fault
      | .ok (parameter, rest) =>
        have := length_lt_of_readType read
        readParameters (parameter :: done) rest
termination_by chars.length
decreasing_by assumption

/-- Read a method descriptor from the whole of a text. -/
def ofChars : List Char → Except MethodFault MethodType
  | '(' :: others => do
    let (parameters, afterParameters) ← readParameters [] others
    let (result, rest) ← readType true afterParameters
    if rest = [] then
      .ok ⟨parameters, result⟩
    else
      .error .trailing
  | _ => .error .noOpening

/-- Read a method descriptor, or say which text is none and why. -/
def parse (text : String) : Except TypeFault MethodType :=
  match ofChars text.toList with
  | .ok type => .ok type
  | .error fault => .error (.malformedMethodDescriptor text fault)

end MethodType

end ClassFormat
