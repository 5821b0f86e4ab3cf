import Clausal.Text.Regex.Search
import Clausal.Utility.Records.Value

/-!
# Programs for records

A program says what is done before all records, with each record that fits a condition, and
after all records.
-/

namespace Clausal.Utility.Records

open Text (Octets Regex)

/-- A name, as a place in the table of all names or among the arguments of a function. -/
inductive Variable where
  | shared (index : Nat)
  | own (index : Nat)
  deriving DecidableEq, Repr

inductive Operator where
  | plus
  | minus
  | times
  | over
  | modulo
  | power
  deriving DecidableEq, Repr

inductive Relation where
  | less
  | lessEqual
  | equal
  | unequal
  | greater
  | greaterEqual
  deriving DecidableEq, Repr

inductive Builtin where
  | length
  | substr
  | index
  | split
  | sub
  | gsub
  | match_
  | sprintf
  | sin
  | cos
  | atan2
  | exp
  | log
  | sqrt
  | int
  | rand
  | srand
  | tolower
  | toupper
  | system
  | close
  | fflush
  | systime
  deriving DecidableEq, Repr

mutual

/-- What can be assigned to. -/
inductive Place where
  | name (v : Variable)
  | element (v : Variable) (keys : List Expression)
  | field (index : Expression)

inductive Expression where
  | number (x : Float)
  | text (t : Octets)
  | regex (s : Regex.Searcher)
  | place (p : Place)
  | assign (p : Place) (o : Option Operator) (value : Expression)
  /-- Adds an amount; the value is that from before or after. -/
  | step (p : Place) (isBefore : Bool) (amount : Float)
  | negate (e : Expression)
  | asNumber (e : Expression)
  | not (e : Expression)
  | calculate (o : Operator) (a b : Expression)
  | compare (r : Relation) (a b : Expression)
  | and (a b : Expression)
  | or (a b : Expression)
  | choose (condition a b : Expression)
  | fits (isNegated : Bool) (e pattern : Expression)
  | isIn (keys : List Expression) (v : Variable)
  | join (a b : Expression)
  | call (function : Nat) (arguments : List Expression)
  | builtin (b : Builtin) (arguments : List Expression)
  | readLine (source : Option (Bool × Expression)) (target : Option Place)

end

/-- Where output goes. -/
inductive Target where
  | file (name : Expression)
  | fileEnd (name : Expression)
  | command (name : Expression)

inductive Statement where
  | skip
  | expression (e : Expression)
  | print (arguments : List Expression) (target : Option Target)
  | format (arguments : List Expression) (target : Option Target)
  | choose (condition : Expression) (a b : Statement)
  | while_ (condition : Expression) (body : Statement)
  | doWhile (body : Statement) (condition : Expression)
  | for_ (start : Statement) (condition : Option Expression) (step body : Statement)
  | forIn (v : Place) (table : Variable) (body : Statement)
  | block (statements : List Statement)
  | next
  | nextFile
  | exit (status : Option Expression)
  | leave (value : Option Expression)
  | break_
  | continue_
  | delete (v : Variable) (keys : List Expression)
  | deleteAll (v : Variable)

instance : Inhabited Statement := ⟨.skip⟩

/-- When something is done with a record. -/
inductive Condition where
  | always
  | when (e : Expression)
  /-- From a record that fits to one that fits; the number tells such ranges apart. -/
  | range (index : Nat) (start stop : Expression)

structure Function where
  parameters : Nat
  body : Statement
  deriving Inhabited

structure Program where
  begins : List Statement
  items : List (Condition × Statement)
  ends : List Statement
  functions : Array Function
  names : List Octets
  ranges : Nat

def knownNames : List String :=
  ["NF", "NR", "FNR", "FS", "OFS", "ORS", "RS", "FILENAME", "SUBSEP", "RSTART", "RLENGTH",
    "CONVFMT", "OFMT", "ENVIRON", "ARGC", "ARGV"]

namespace Known

def fieldCount : Nat := 0
def recordCount : Nat := 1
def fileRecordCount : Nat := 2
def fieldSeparator : Nat := 3
def outputFieldSeparator : Nat := 4
def outputRecordSeparator : Nat := 5
def recordSeparator : Nat := 6
def fileName : Nat := 7
def keySeparator : Nat := 8
def matchStart : Nat := 9
def matchLength : Nat := 10
def conversionFormat : Nat := 11
def outputFormat : Nat := 12
def environment : Nat := 13
def argumentCount : Nat := 14
def arguments : Nat := 15

end Known

end Clausal.Utility.Records
