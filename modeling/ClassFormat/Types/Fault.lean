import ClassFormat.Text.Quoted

/-!
# Faults in type names

Why a text is not the name or the descriptor it should be, and why a type has no
counterpart of the kind asked for.
-/

namespace ClassFormat

open Text

/-- Why a text is not a method descriptor. -/
inductive MethodFault where
  | noOpening
  | noClosing
  | typeEnds
  | misplacedVoid
  | objectEnds
  | noType
  | invalidType
  | trailing
  deriving DecidableEq, Repr

namespace MethodFault

/-- Every fault of a method descriptor. -/
def all : List MethodFault :=
  [noOpening, noClosing, typeEnds, misplacedVoid, objectEnds, noType,
    invalidType, trailing]

/-- A fault in words, as the rest of a sentence about the descriptor. -/
def message : MethodFault → String
  | noOpening => "it does not begin its parameter list with a '('"
  | noClosing => "it does not end its parameter list with a ')'"
  | typeEnds => "the type ends prematurely"
  | misplacedVoid => "void is only allowed as the return type"
  | objectEnds => "an object type ends prematurely"
  | noType => "a type was expected, but none could be found"
  | invalidType => "it contains an invalid field type"
  | trailing => "it does not end after specifying the return type"

end MethodFault

/-- What can be wrong with the name of a type. -/
inductive TypeFault where
  | malformedDescriptor (text : String)
  | malformedMethodDescriptor (text : String) (fault : MethodFault)
  | illegalProjection (detail : String)
  | unsupportedConversion (detail : String)
  deriving DecidableEq, Repr

/-- A fault in words. -/
def TypeFault.message : TypeFault → String
  | malformedDescriptor text => "Malformed descriptor: " ++ quoted text
  | malformedMethodDescriptor text fault =>
    "Malformed method descriptor " ++ quoted text ++ ": " ++ fault.message
  | illegalProjection detail => "Illegal projection state: " ++ detail
  | unsupportedConversion detail => "Unsupported conversion: " ++ detail

end ClassFormat
