import Clausal.Text.Regex.Parse
import Clausal.Utility.Records.Program
import Clausal.Utility.Records.Token

/-!
# Reading programs for records

Operators are read by their strength.  What can be assigned to is assigned to wherever it stands,
if a sign for that follows.
-/

namespace Clausal.Utility.Records

open Text (Octets Regex)

/-- What is known while a program is read. -/
structure Draft where
  rest : List Lexeme
  names : List Octets
  own : List Octets
  functions : List Octets
  bodies : List (Octets × Function)
  calls : List (Octets × Nat × Nat)
  ranges : Nat
  inFunction : Bool
  inLoop : Bool
  inBlock : Bool

abbrev Reader := StateT Draft (Except Octets)

namespace Reader

def peek : Reader Lexeme := return (← get).rest.headD default

def skip : Reader Unit := modifyThe Draft fun d => { d with rest := d.rest.tail }

def complain (complaint : Octets) : Reader α := do
  throw ("line ".toList ++ shown (← peek).line ++ ": ".toList ++ complaint)

/-- Says that the next token does not belong here. -/
def unexpected : Reader α := do
  let next ← peek
  match next.token with
  | .ending => complain "syntax error at or near end of file".toList
  | _ => complain ("syntax error at or near ".toList ++ next.written)

def isSign (sign : String) : Reader Bool := do
  match (← peek).token with
  | .sign s => return s = sign
  | _ => return false

def isWord (word : String) : Reader Bool := do
  match (← peek).token with
  | .word w => return w = word
  | _ => return false

def accept (sign : String) : Reader Bool := do
  if ← isSign sign then
    skip
    return true
  else return false

def acceptWord (word : String) : Reader Bool := do
  if ← isWord word then
    skip
    return true
  else return false

def expect (sign : String) : Reader Unit := do
  let isThere ← accept sign
  if !isThere then unexpected

def closeGroup : Reader Unit := do
  let isThere ← accept ")"
  if !isThere then complain ("missing ) near ".toList ++ (← peek).written)

def skipLines : Nat → Reader Unit
  | 0 => return ()
  | rounds + 1 => do
      match (← peek).token with
      | .newline =>
          skip
          skipLines rounds
      | _ => return ()

def lineBound : Nat := 1000000

def skipEnds : Nat → Reader Unit
  | 0 => return ()
  | rounds + 1 => do
      match (← peek).token with
      | .newline | .sign ";" =>
          skip
          skipEnds rounds
      | _ => return ()

def resolve (name : Octets) : Reader Variable := do
  let d ← get
  match d.own.idxOf? name with
  | some index => return .own index
  | none =>
      match d.names.idxOf? name with
      | some index => return .shared (d.names.length - 1 - index)
      | none =>
          modifyThe Draft fun d => { d with names := name :: d.names }
          return .shared d.names.length

def functionNumber (name : Octets) : Reader Nat := do
  let d ← get
  match d.functions.idxOf? name with
  | some index => return d.functions.length - 1 - index
  | none =>
      modifyThe Draft fun d => { d with functions := name :: d.functions }
      return d.functions.length

/-! ## Expressions -/

/-- How expressions are written here: extended, with control characters by their letters. -/
def dialect : Regex.Dialect :=
  { Regex.Dialect.extended_ with hasControls := true, escapesInBrackets := true, hasShorthands := false }

/-- Whether something to work on is missing, given the sign before if that asks for something. -/
def lacksOperand : Nat → Octets → Option Char → Bool
  | 0, _, _ => false
  | rounds + 1, octets, before =>
      match octets with
      | [] => before = some '|'
      | '\\' :: _ :: rest => lacksOperand rounds rest none
      | '[' :: rest =>
          match Regex.readMembers dialect (2 * rest.length + 2) true .empty
              (if rest.head? = some '^' then rest.drop 1 else rest) with
          | .ok (_, rest) => lacksOperand rounds rest none
          | .error _ => false
      | '(' :: rest => lacksOperand rounds rest (some '(')
      | '|' :: rest => before.isSome || lacksOperand rounds rest (some '|')
      | c :: rest => before.isSome && ")*+?".toList.contains c || lacksOperand rounds rest none

def reasonOf : Regex.Fault → String
  | .openGroup => "missing ')'"
  | .openBracket | .badClass => "bad class -- [], [^] or ["
  | fault => fault.text

def searcher? (pattern : Octets) : Except Octets Regex.Searcher :=
  let failed (reason : String) : Except Octets Regex.Searcher :=
    .error ("regular expression compile failed (".toList ++ reason.toList ++ ")\n".toList ++ pattern)
  if !pattern.isEmpty && lacksOperand (pattern.length + 1) pattern (some '|') then failed "missing operand"
  else
    match Regex.parse dialect pattern with
    | .ok r => .ok (.of r false)
    | .error fault => failed (reasonOf fault)

def assignments : List (String × Option Operator) :=
  [("=", none), ("+=", some .plus), ("-=", some .minus), ("*=", some .times), ("/=", some .over),
    ("%=", some .modulo), ("^=", some .power)]

def relations : List (String × Relation) :=
  [("<", .less), ("<=", .lessEqual), ("==", .equal), ("!=", .unequal), (">", .greater),
    (">=", .greaterEqual)]

def signIn (table : List (String × α)) : Reader (Option α) := do
  match (← peek).token with
  | .sign s => return table.lookup s
  | _ => return none

def builtinOf : String → Builtin
  | "length" => .length
  | "substr" => .substr
  | "index" => .index
  | "split" => .split
  | "sub" => .sub
  | "gsub" => .gsub
  | "match" => .match_
  | "sprintf" => .sprintf
  | "sin" => .sin
  | "cos" => .cos
  | "atan2" => .atan2
  | "exp" => .exp
  | "log" => .log
  | "sqrt" => .sqrt
  | "int" => .int
  | "rand" => .rand
  | "srand" => .srand
  | "tolower" => .tolower
  | "toupper" => .toupper
  | "system" => .system
  | "close" => .close
  | "fflush" => .fflush
  | _ => .systime

/-- How many arguments a function takes at least and at most. -/
def arity : Builtin → Nat × Nat
  | .length => (0, 1)
  | .substr => (2, 3)
  | .index => (2, 2)
  | .split => (2, 3)
  | .sub | .gsub => (2, 3)
  | .match_ => (2, 2)
  | .sprintf => (1, 1000)
  | .atan2 => (2, 2)
  | .rand | .systime => (0, 0)
  | .srand | .fflush => (0, 1)
  | _ => (1, 1)

/-- What is allowed in an expression. -/
structure Setting where
  isOutput : Bool
  stopsAtIn : Bool

def Setting.free : Setting := ⟨false, false⟩

/-- Whether the next token can start an operand that is joined. -/
def startsOperand : Reader Bool := do
  match (← peek).token with
  | .number _ | .text _ | .pattern _ | .name _ | .calling _ | .builtin _ => return true
  | .sign s => return s = "(" || s = "$" || s = "!" || s = "-" || s = "+" || s = "++" || s = "--"
  | _ => return false

def listOf (item : Reader Expression) : Nat → Reader (List Expression)
  | 0 => return []
  | rounds + 1 => do
      let first ← item
      if ← accept "," then
        skipLines lineBound
        return first :: (← listOf item rounds)
      else return [first]

/-- Reads operands that an operator of some joins, from the left. -/
def chain (table : List (String × α)) (join : α → Expression → Expression → Expression)
    (operand : Reader Expression) : Nat → Expression → Reader Expression
  | 0, left => return left
  | rounds + 1, left => do
      match ← signIn table with
      | some o =>
          skip
          chain table join operand rounds (join o left (← operand))
      | none => return left

/-- Where a name that can be assigned to starts: a name, a field or an element. -/
def placeFrom (whole : Setting → Reader Expression) (fieldOperand : Reader Expression) :
    Reader (Option Place) := do
  match (← peek).token with
  | .name name =>
      skip
      if ← accept "[" then
        let keys ← listOf (whole .free) 100
        expect "]"
        return some (.element (← resolve name) keys)
      else return some (.name (← resolve name))
  | .sign "$" =>
      skip
      return some (.field (← fieldOperand))
  | _ => return none

mutual

/-- Reads an expression; the bound is on how deep it goes. -/
def whole : Nat → Setting → Reader Expression
  | 0, _ => unexpected
  | depth + 1, s => do
      let condition ← alternatives depth s
      if ← accept "?" then
        skipLines lineBound
        let a ← whole depth s
        skipLines lineBound
        expect ":"
        skipLines lineBound
        return .choose condition a (← whole depth s)
      else return condition

def alternatives : Nat → Setting → Reader Expression
  | 0, _ => unexpected
  | depth + 1, s => do
      chain [("||", ())] (fun _ => .or) (do skipLines lineBound; all depth s) lineBound (← all depth s)

def all : Nat → Setting → Reader Expression
  | 0, _ => unexpected
  | depth + 1, s => do
      chain [("&&", ())] (fun _ => .and) (do skipLines lineBound; membership depth s) lineBound
        (← membership depth s)

def membership : Nat → Setting → Reader Expression
  | 0, _ => unexpected
  | depth + 1, s => do
      let left ← fitting depth s
      if s.stopsAtIn then return left
      else memberships depth left

def memberships : Nat → Expression → Reader Expression
  | 0, left => return left
  | depth + 1, left => do
      if ← acceptWord "in" then
        match (← peek).token with
        | .name name =>
            skip
            memberships depth (.isIn [left] (← resolve name))
        | _ => unexpected
      else return left

def fitting : Nat → Setting → Reader Expression
  | 0, _ => unexpected
  | depth + 1, s => do
      chain [("~", false), ("!~", true)] .fits (comparison depth s) lineBound (← comparison depth s)

def comparison : Nat → Setting → Reader Expression
  | 0, _ => unexpected
  | depth + 1, s => do
      let left ← joined depth s
      let table := if s.isOutput then relations.filter fun r => r.1 != ">" else relations
      match ← signIn table with
      | some r =>
          skip
          return .compare r left (← joined depth s)
      | none => return left

def joined : Nat → Setting → Reader Expression
  | 0, _ => unexpected
  | depth + 1, s => do joinedMore depth s (← sum depth s)

def joinedMore : Nat → Setting → Expression → Reader Expression
  | 0, _, left => return left
  | depth + 1, s, left => do
      if ← startsOperand then joinedMore depth s (.join left (← sum depth s)) else return left

def sum : Nat → Setting → Reader Expression
  | 0, _ => unexpected
  | depth + 1, s => do
      chain [("+", Operator.plus), ("-", .minus)] .calculate (product depth s) lineBound
        (← product depth s)

def product : Nat → Setting → Reader Expression
  | 0, _ => unexpected
  | depth + 1, s => do
      chain [("*", Operator.times), ("/", .over), ("%", .modulo)] .calculate (signed depth s) lineBound
        (← signed depth s)

def signed : Nat → Setting → Reader Expression
  | 0, _ => unexpected
  | depth + 1, s => do
      if ← accept "!" then return .not (← signed depth s)
      else if ← accept "-" then return .negate (← signed depth s)
      else if ← accept "+" then return .asNumber (← signed depth s)
      else fromCommand depth (← power depth s)

/-- Reads the word for reading a record after a command. -/
def fromCommand : Nat → Expression → Reader Expression
  | 0, e => return e
  | depth + 1, e => do
      let d ← get
      let isReading := match d.rest with
        | ⟨.sign "|", _, _⟩ :: ⟨.word "getline", _, _⟩ :: _ => true
        | _ => false
      if isReading then
        skip
        skip
        fromCommand depth (.readLine (some (false, e)) (← placeFrom (whole depth) (operand depth)))
      else return e

def power : Nat → Setting → Reader Expression
  | 0, _ => unexpected
  | depth + 1, s => do
      let base ← operand depth
      match ← signIn [("^", Operator.power)] with
      | some o =>
          skip
          return .calculate o base (← exponent depth s)
      | none => return base

def exponent : Nat → Setting → Reader Expression
  | 0, _ => unexpected
  | depth + 1, s => do
      if ← accept "-" then return .negate (← exponent depth s)
      else if ← accept "+" then return .asNumber (← exponent depth s)
      else if ← accept "!" then return .not (← exponent depth s)
      else power depth s

/-- Reads the smallest part of an expression, with the signs that belong to it. -/
def operand : Nat → Reader Expression
  | 0 => unexpected
  | depth + 1 => do
      match (← peek).token with
      | .number x =>
          skip
          return .number x
      | .text t =>
          skip
          return .text t
      | .pattern t =>
          skip
          match searcher? t with
          | .ok s => return .regex s
          | .error complaint => complain complaint
      | .sign "(" =>
          skip
          let items ← listOf (whole depth .free) 1000
          closeGroup
          match items with
          | [e] => return e
          | keys =>
              if ← acceptWord "in" then
                match (← peek).token with
                | .name name =>
                    skip
                    return .isIn keys (← resolve name)
                | _ => unexpected
              else unexpected
      | .sign "++" =>
          skip
          stepped depth 1
      | .sign "--" =>
          skip
          stepped depth (-1)
      | .sign "-" =>
          skip
          return .negate (← operand depth)
      | .sign "+" =>
          skip
          return .asNumber (← operand depth)
      | .sign "!" =>
          skip
          return .not (← operand depth)
      | .word "getline" =>
          skip
          let target ← placeFrom (whole depth) (operand depth)
          if ← accept "<" then return .readLine (some (true, ← operand depth)) target
          else return .readLine none target
      | .calling name =>
          skip
          expect "("
          let line := (← peek).line
          let arguments ← arguments depth
          modifyThe Draft fun d => { d with calls := (name, arguments.length, line) :: d.calls }
          return .call (← functionNumber name) arguments
      | .builtin name =>
          skip
          let b := builtinOf name
          if ← isSign "(" then
            skip
            let arguments ← arguments depth
            let (least, most) := arity b
            if b = .length && most < arguments.length then complain "syntax error at or near ,".toList
            else if arguments.length < least || most < arguments.length then
              complain ("wrong number of arguments in call to ".toList ++ name.toList)
            else return .builtin b arguments
          else if name = "length" then return .builtin b []
          else unexpected
      | _ =>
          match ← placeFrom (whole depth) (fieldIndex depth) with
          | none => unexpected
          | some p =>
              if ← accept "++" then return .step p false 1
              else if ← accept "--" then return .step p false (-1)
              else
                match ← signIn assignments with
                | some o =>
                    skip
                    skipLines lineBound
                    return .assign p o (← whole depth .free)
                | none => return .place p

def fieldIndex : Nat → Reader Expression
  | 0 => unexpected
  | depth + 1 => do
      match (← peek).token with
      | .sign "++" =>
          skip
          stepped depth 1
      | .sign "--" =>
          skip
          stepped depth (-1)
      | .sign "-" =>
          skip
          return .negate (← fieldIndex depth)
      | .name _ | .sign "$" =>
          match ← placeFrom (whole depth) (fieldIndex depth) with
          | some p => return .place p
          | none => unexpected
      | _ => operand depth

def stepped : Nat → Float → Reader Expression
  | 0, _ => unexpected
  | depth + 1, amount => do
      let isInBrackets ← accept "("
      match ← placeFrom (whole depth) (fieldIndex depth) with
      | some p =>
          if isInBrackets then expect ")"
          return .step p true amount
      | none => unexpected

def arguments : Nat → Reader (List Expression)
  | 0 => unexpected
  | depth + 1 => do
      skipLines lineBound
      if ← accept ")" then return []
      else
        let items ← listOf (whole depth .free) 1000
        skipLines lineBound
        closeGroup
        return items

end

def depthBound : Nat := 100000

def expression : Reader Expression := whole depthBound .free

/-! ## Statements -/

def isAtEnd : Reader Bool := do
  match (← peek).token with
  | .newline | .ending | .sign ";" | .sign "\x7d" => return true
  | _ => return false

def finishStatement : Reader Unit := do
  match (← peek).token with
  | .newline | .sign ";" => skip
  | .sign "\x7d" => return ()
  | .ending => return ()
  | _ => unexpected

def target? : Reader (Option Target) := do
  let destination : Reader Expression := whole depthBound ⟨true, false⟩
  if ← accept ">" then return some (.file (← destination))
  else if ← accept ">>" then return some (.fileEnd (← destination))
  else if ← accept "|" then return some (.command (← destination))
  else return none

def printed : Reader (List Expression) := do
  let isOut : Reader Bool := do
    match (← peek).token with
    | .sign ">" | .sign ">>" | .sign "|" => return true
    | _ => isAtEnd
  if ← isOut then return []
  else
    let start ← get
    let inBrackets : Reader (Option (List Expression)) := do
      if ← accept "(" then
        let items ← listOf expression 1000
        if ← accept ")" then
          if ← isOut then return some items else return none
        else return none
      else return none
    match inBrackets.run start with
    | .ok (some items, after) =>
        modifyThe Draft fun _ => after
        return items
    | _ => listOf (whole depthBound ⟨true, false⟩) 1000

def within (isLoop : Bool) (reader : Reader α) : Reader α := do
  let before := (← get).inLoop
  modifyThe Draft fun d => { d with inLoop := isLoop || before }
  let found ← reader
  modifyThe Draft fun d => { d with inLoop := before }
  return found

/-- Reads a statement that ends with its line or a semicolon. -/
def simple : Reader Statement := do
  match (← peek).token with
  | .word "print" =>
      skip
      let items ← printed
      return .print items (← target?)
  | .word "printf" =>
      skip
      let items ← printed
      if items.isEmpty then complain "no arguments in call to printf".toList
      else return .format items (← target?)
  | .word "delete" =>
      skip
      match (← peek).token with
      | .name name =>
          skip
          let v ← resolve name
          if ← accept "[" then
            let keys ← listOf expression 100
            expect "]"
            return .delete v keys
          else return .deleteAll v
      | _ => unexpected
  | _ => return .expression (← expression)

mutual

def statement : Nat → Reader Statement
  | 0 => unexpected
  | depth + 1 => do
      match (← peek).token with
      | .sign "\x7b" =>
          skip
          let body ← block depth
          return .block body
      | .sign ";" =>
          skip
          return .skip
      | .sign ")" => complain "extra ')'".toList
      | .word "if" =>
          skip
          expect "("
          let condition ← expression
          expect ")"
          let a ← inner depth
          let before ← get
          skipEnds lineBound
          if ← acceptWord "else" then return .choose condition a (← inner depth)
          else
            modifyThe Draft fun _ => before
            return .choose condition a .skip
      | .word "while" =>
          skip
          expect "("
          let condition ← expression
          expect ")"
          if ← accept ";" then return .while_ condition .skip
          else return .while_ condition (← within true (inner depth))
      | .word "do" =>
          skip
          let body ← within true (inner depth)
          skipEnds lineBound
          if ← acceptWord "while" then
            expect "("
            let condition ← expression
            expect ")"
            finishStatement
            return .doWhile body condition
          else unexpected
      | .word "for" =>
          skip
          expect "("
          let d ← get
          match d.rest with
          | ⟨.name v, _, _⟩ :: ⟨.word "in", _, _⟩ :: ⟨.name table, _, _⟩ :: ⟨.sign ")", _, _⟩ :: rest =>
              modifyThe Draft fun d => { d with rest }
              let v ← resolve v
              let table ← resolve table
              return .forIn (.name v) table (← within true (inner depth))
          | _ =>
              let start ← if ← isSign ";" then pure .skip else simple
              expect ";"
              skipLines lineBound
              let condition ← if ← isSign ";" then pure none else pure (some (← expression))
              expect ";"
              skipLines lineBound
              let step ← if ← isSign ")" then pure .skip else simple
              expect ")"
              if ← accept ";" then return .for_ start condition step .skip
              else return .for_ start condition step (← within true (inner depth))
      | .word "next" =>
          if (← get).inBlock then
            skip
            finishStatement
            return .next
          else complain "improper use of next".toList
      | .word "nextfile" =>
          if (← get).inBlock then
            skip
            finishStatement
            return .nextFile
          else complain "improper use of nextfile".toList
      | .word "exit" =>
          skip
          let status ← if ← isAtEnd then pure none else pure (some (← expression))
          finishStatement
          return .exit status
      | .word "return" =>
          if (← get).inFunction then
            skip
            let value ← if ← isAtEnd then pure none else pure (some (← expression))
            finishStatement
            return .leave value
          else complain "return outside function body".toList
      | .word "break" =>
          if (← get).inLoop then
            skip
            finishStatement
            return .break_
          else complain "break statement outside of loop".toList
      | .word "continue" =>
          if (← get).inLoop then
            skip
            finishStatement
            return .continue_
          else complain "continue statement outside of loop".toList
      | _ =>
          let s ← simple
          finishStatement
          return s

/-- Reads a statement that belongs to another, perhaps on the next line. -/
def inner : Nat → Reader Statement
  | 0 => unexpected
  | depth + 1 => do
      skipLines lineBound
      statement depth

def block : Nat → Reader (List Statement)
  | 0 => unexpected
  | depth + 1 => do
      skipEnds lineBound
      match (← peek).token with
      | .sign "\x7d" =>
          skip
          return []
      | .ending =>
          let line := (← peek).line
          throw ("line ".toList ++ shown line ++ ": missing \x7d near end of file".toList)
      | _ =>
          let first ← statement depth
          return first :: (← block depth)

end

def body : Reader Statement := do
  skipLines lineBound
  if ← accept "\x7b" then return .block (← block depthBound) else unexpected

def parameters : Nat → Reader (List Octets)
  | 0 => return []
  | rounds + 1 => do
      skipLines lineBound
      match (← peek).token with
      | .name name =>
          skip
          skipLines lineBound
          if ← accept "," then return name :: (← parameters rounds) else return [name]
      | _ => return []

def function : Reader Unit := do
  let next ← peek
  match next.token with
  | .name name | .calling name =>
      skip
      if (← get).bodies.any fun entry => entry.1 = name then
        complain ("redefinition of ".toList ++ name)
      expect "("
      let own ← parameters 1000
      expect ")"
      let _ ← functionNumber name
      modifyThe Draft fun d => { d with own, inFunction := true, inBlock := false }
      let body ← body
      modifyThe Draft fun d =>
        { d with
          own := [], inFunction := false
          bodies := (name, ⟨own.length, body⟩) :: d.bodies }
  | _ => unexpected

def items : Nat → Program → Reader Program
  | 0, p => return p
  | rounds + 1, p => do
      skipEnds lineBound
      let inItem (reader : Reader Statement) (isRecord : Bool) : Reader Statement := do
        modifyThe Draft fun d => { d with inBlock := isRecord }
        reader
      match (← peek).token with
      | .ending => return p
      | .word "BEGIN" =>
          skip
          if !(← isSign "\x7b") then unexpected
          let s ← inItem body false
          items rounds { p with begins := s :: p.begins }
      | .word "END" =>
          skip
          if !(← isSign "\x7b") then unexpected
          let s ← inItem body false
          items rounds { p with ends := s :: p.ends }
      | .word "function" =>
          skip
          function
          items rounds p
      | .sign "\x7b" =>
          let s ← inItem body true
          items rounds { p with items := (.always, s) :: p.items }
      | .sign "\x7d" => complain "extra '\x7d'".toList
      | _ =>
          let first ← expression
          let condition ← if ← accept "," then do
              skipLines lineBound
              let last ← expression
              let index := (← get).ranges
              modifyThe Draft fun d => { d with ranges := index + 1 }
              pure (Condition.range index first last)
            else pure (Condition.when first)
          if ← isSign "\x7b" then
            let s ← inItem body true
            items rounds { p with items := (condition, s) :: p.items }
          else if ← isAtEnd then
            items rounds { p with items := (condition, .print [] none) :: p.items }
          else unexpected

end Reader

def Program.read (text : Octets) : Except Octets Program := do
  let lexemes ← Token.scanAll (text ++ ['\n'])
  let start : Draft := {
    rest := lexemes
    names := (knownNames.map String.toList).reverse
    own := [], functions := [], bodies := [], calls := [], ranges := 0, inFunction := false, inLoop := false
    inBlock := false }
  let (p, d) ← (Reader.items lexemes.length ⟨[], [], [], #[], [], 0⟩).run start
  let functions ← d.functions.reverse.mapM fun name =>
    match d.bodies.lookup name with
    | some f => .ok f
    | none =>
        .error ("line ".toList ++ shown ((lexemes.getLastD default).line) ++ ": function ".toList ++
          name ++ " never defined".toList)
  match d.calls.reverse.find? fun (name, count, _) =>
      (d.bodies.lookup name).any fun f => f.parameters < count with
  | some (name, _, line) =>
      throw ("line ".toList ++ shown line ++ ": too many arguments in call to ".toList ++ name)
  | none => pure ()
  return {
    begins := p.begins.reverse
    items := p.items.reverse
    ends := p.ends.reverse
    functions := functions.toArray
    names := d.names.reverse
    ranges := d.ranges }

end Clausal.Utility.Records
