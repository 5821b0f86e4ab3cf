import Clausal.Path
import Clausal.Times

/-!
# Rows of a batch report

One row for each instance: how its run ended, what the solver answered, the times in
milliseconds, the objective value and the number of variables.  What is not known is left
empty.
-/

/-!
## Comma-separated fields

A field that holds a comma, a quote or a line feed is put between quotes, and its quotes are
written twice.
-/

namespace Clausal.Csv

def needsQuotes (field : List Char) : Bool :=
  field.any fun c => c = ',' || c = '"' || c = '\n'

/-- Writes every quote twice. -/
def doubleQuotes : List Char → List Char
  | [] => []
  | c :: rest => if c = '"' then '"' :: '"' :: doubleQuotes rest else c :: doubleQuotes rest

def quote (field : String) : String :=
  if needsQuotes field.toList then
    String.ofList (['"'] ++ doubleQuotes field.toList ++ ['"'])
  else field

def line (fields : List String) : String := String.intercalate "," fields

/-- A quote is written twice and all else once. -/
theorem count_doubleQuotes (c : Char) (field : List Char) :
    (doubleQuotes field).count c = (if c = '"' then 2 else 1) * field.count c := by
  induction field with
  | nil => rfl
  | cons d rest ih =>
      by_cases hd : d = '"'
      · by_cases hc : c = '"' <;> grind [doubleQuotes]
      · by_cases hc : c = d <;> grind [doubleQuotes]

theorem quote_of_plain {field : String} (h : needsQuotes field.toList = false) :
    quote field = field := by
  simp [quote, h]

end Clausal.Csv

namespace Clausal

structure BatchRow where
  path : String
  status : String
  answer : String
  format : String
  times : Times
  cost : Option UInt64
  vars : Option UInt64
  deriving DecidableEq, Repr

namespace BatchRow

def csvHeader : String := "path,status,answer,format,real_ms,user_ms,sys_ms,cost,vars"

/-- A number, or nothing. -/
def numberField (value : Option UInt64) : String :=
  match value with
  | some value => toString value
  | none => ""

/-- Only the path can need quotes. -/
def csvFields (row : BatchRow) : List String :=
  [Csv.quote row.path, row.status, row.answer, row.format, numberField row.times.real,
    numberField row.times.user, numberField row.times.sys, numberField row.cost,
    numberField row.vars]

def csvLine (row : BatchRow) : String := Csv.line row.csvFields

end BatchRow

end Clausal
