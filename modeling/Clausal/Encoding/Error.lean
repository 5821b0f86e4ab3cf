import Clausal.Literal
import Clausal.Text.Quoted

/-!
# What can go wrong with an encoding

Each failure of building, numbering or printing an encoding is one constructor, and
`message` holds its wording.
-/

namespace Clausal

inductive EncodingError where
  | zeroLiteral
  | negatedKey (literal : Literal)
  | commentLineBreak (text : String)
  | variableCapacity
  | unknownVariable (var : VariableId)
  | coordinateOutOfRange (axis : Nat) (value size : UInt64)
  | arityMismatch (expected got : Nat)
  | indexOverflow
  | unregisteredLiteral (literal : Literal)
  | duplicateKey (literal : Literal)
  | duplicateValue (value : Int32)
  | nonPositiveValue (value : Int32)
  | unknownValue (value : Int32)
  | unknownIndex (index : UInt32)
  | outsideView (index : UInt32)
  | foreignFamily (var : VariableId)
  | softClausesInCnf (count : Nat)
  deriving DecidableEq, Repr

namespace EncodingError

def message : EncodingError → String
  | zeroLiteral => "clause literal cannot be 0"
  | negatedKey literal => s!"negated literal {literal.render} cannot be used as a key"
  | commentLineBreak text => s!"comments cannot contain line breaks: {Text.quoted text}"
  | variableCapacity => s!"maximum variable count of {Clausal.variableCapacity} reached"
  | unknownVariable var => s!"variable {var.val} was never allocated"
  | coordinateOutOfRange axis value size =>
      s!"coordinate {value} on axis {axis} exceeds size {size}"
  | arityMismatch expected got => s!"expected {expected} coordinates, got {got}"
  | indexOverflow => "literal index does not fit in 32 bits"
  | unregisteredLiteral literal =>
      s!"literal {literal.render} was never registered with the encoding"
  | duplicateKey literal => s!"literal {literal.render} already has a translation"
  | duplicateValue value => s!"value {value} is already assigned to another literal"
  | nonPositiveValue value => s!"translation value must be >= 1, got {value}"
  | unknownValue value => s!"no literal is assigned to value {value}"
  | unknownIndex index => s!"index {index} has no coordinates in this family"
  | outsideView index => s!"index {index} lies outside the prefixed view"
  | foreignFamily var => s!"family of variable {var.val} belongs to a different encoding"
  | softClausesInCnf count => s!"can't emit CNF with {count} soft clauses, use WCNF instead"

end EncodingError

/-- The variable with this number, which has to be below the capacity. -/
def variableId (var : UInt8) : Except EncodingError VariableId :=
  if h : var.toNat < variableCapacity then .ok ⟨var.toNat, h⟩ else .error .variableCapacity

/-- The unlabelled positive literal of a variable and an index. -/
def Literal.ofNumbers (var : UInt8) (index : UInt32) : Except EncodingError Literal :=
  (variableId var).map fun id => .ofAtom ⟨id, index⟩

end Clausal
