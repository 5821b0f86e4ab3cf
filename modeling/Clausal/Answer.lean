import Clausal.Format
import Clausal.Formula.Evaluation
import Clausal.Text.Numeral
import Clausal.Text.Split

/-!
# Solver answers

A solver answers on lines that start with a letter and a space: `s` states the outcome, `o`
an objective value, `v` the values of the variables as one character each.  Other lines say
nothing.  Of several outcomes or values the last counts, of several objective values the
smallest; objective values are read, and required, in the weighted format only.
-/

namespace Clausal

inductive Status where
  | optimumFound
  | unsatisfiable
  | unknown
  deriving DecidableEq, Repr

namespace Status

def render : Status → String
  | optimumFound => "OPTIMUM FOUND"
  | unsatisfiable => "UNSATISFIABLE"
  | unknown => "UNKNOWN"

/-- Reads an outcome; one that is not known by name counts as unknown. -/
def ofText (text : List Char) : Status :=
  if text = optimumFound.render.toList then optimumFound
  else if text = unsatisfiable.render.toList then unsatisfiable
  else unknown

end Status

inductive AnswerError where
  | empty
  | missingStatus
  | missingCost
  | invalidCost (text : String)
  deriving DecidableEq, Repr

namespace AnswerError

def message : AnswerError → String
  | empty => "invalid solution: solver output is empty"
  | missingStatus => "invalid solution: no status line"
  | missingCost => "invalid solution: no objective line"
  | invalidCost text => s!"invalid solution: bad objective value {Text.quoted text}"

end AnswerError

/-- What a solver found: the variable `i + 1` has the value at place `i` of the assignment,
which is empty unless an optimum was found. -/
structure Answer where
  format : Format
  status : Status
  cost : UInt64
  assignment : Assignment
  deriving DecidableEq, Repr

namespace Answer

/-- What the lines read so far have said. -/
structure Readings where
  status : Option (List Char)
  values : List Char
  cost : Option UInt64

namespace Readings

def start : Readings := ⟨none, [], none⟩

/-- The smaller of an objective value and the smallest before it. -/
def withCost (r : Readings) (cost : UInt64) : Readings :=
  { r with cost := some (match r.cost with
      | some least => min least cost
      | none => cost) }

def read (format : Format) (r : Readings) : List Char → Except AnswerError Readings
  | 's' :: ' ' :: rest => .ok { r with status := some rest }
  | 'v' :: ' ' :: rest => .ok { r with values := rest }
  | 'o' :: ' ' :: rest =>
      match format with
      | .cnf => .ok r
      | .wcnf =>
          match Text.readUInt64? (Text.trim rest) with
          | some cost => .ok (r.withCost cost)
          | none => .error (.invalidCost (String.ofList (Text.trim rest)))
  | _ => .ok r

/-- Takes lines into account up to the first that cannot be read. -/
def readAll (format : Format) (r : Readings) : List (List Char) → Except AnswerError Readings
  | [] => .ok r
  | line :: rest =>
      match r.read format line with
      | .ok next => next.readAll format rest
      | .error failure => .error failure

def outcome (r : Readings) : Except AnswerError Status :=
  match r.status with
  | none => .error .missingStatus
  | some text =>
      match Text.trim text with
      | [] => .error .missingStatus
      | trimmed => .ok (.ofText trimmed)

def objective (format : Format) (r : Readings) : Except AnswerError UInt64 :=
  match format, r.cost with
  | .wcnf, none => .error .missingCost
  | _, cost => .ok (cost.getD 0)

def assignment (r : Readings) : Assignment :=
  ((r.values.filter fun c => !Text.isBlank c).map (· == '1')).toArray

end Readings

def parse (format : Format) (text : String) : Except AnswerError Answer :=
  if text.toList = [] then .error .empty
  else do
    let readings ← Readings.start.readAll format (Text.lines text.toList)
    let status ← readings.outcome
    let cost ← readings.objective format
    return {
      format, status, cost
      assignment := if status = .optimumFound then readings.assignment else #[] }

def bitChar (value : Bool) : Char := if value then '1' else '0'

def bits (assignment : Assignment) : String :=
  String.ofList (assignment.toList.map bitChar)

/-- The lines that `parse` reads back; the last is not ended. -/
def render (answer : Answer) : String :=
  let objective :=
    match answer.format with
    | .cnf => ""
    | .wcnf => s!"o {answer.cost}\n"
  s!"s {answer.status.render}\n{objective}v {bits answer.assignment}"

/-- The literals of the values from this place on, negated where the value is false. -/
def literalsFrom (n : Numbering) : Nat → List Bool → Except EncodingError (List Literal)
  | _, [] => .ok []
  | place, value :: rest => do
      let number ← Numbering.numberAt place
      let literal ← n.literalOf number
      let literals ← literalsFrom n (place + 1) rest
      return (if value then literal else literal.neg) :: literals

/-- The assignment as literals that are all true under it. -/
def literals (answer : Answer) (n : Numbering) : Except EncodingError (List Literal) :=
  literalsFrom n 0 answer.assignment.toList

def valueOf (answer : Answer) (n : Numbering) (literal : Literal) :
    Except EncodingError (Option Bool) :=
  (n.valueOf literal).map fun number =>
    answer.assignment[number.toInt.toNat - 1]?.map fun value => value != literal.negated

end Answer

end Clausal
