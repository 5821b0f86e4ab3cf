import Clausal.Text.Utf8

/-!
# Shell scripts

The commands of a shell language, and the tokens that a script is cut into before its grammar
is looked at, with the faults that reading can meet.  A word is a list of pieces, because
expansion treats quoted and unquoted pieces differently; pieces can hold commands, and commands
hold words.  Commands know the line they start on, for complaints.
-/

namespace Clausal.Shell

open Text (Octets)

mutual

/-- A part of a word; the flag says whether it is quoted. -/
inductive Piece where
  | text (octets : Octets) (quoted : Bool)
  /-- Quotes were here, so the word is a field even if nothing is between them. -/
  | mark
  | parameter (name : String) (operation : Operation) (quoted : Bool)
  | command (body : Command) (quoted : Bool)
  | arithmetic (expression : List Piece) (quoted : Bool)

/-- What is done with a parameter.  A flag says whether an empty value counts as none. -/
inductive Operation where
  | value
  | length
  | fallback (orEmpty : Bool) (word : List Piece)
  | assign (orEmpty : Bool) (word : List Piece)
  | alternative (orEmpty : Bool) (word : List Piece)
  | demand (orEmpty : Bool) (word : List Piece)
  | trim (atEnd : Bool) (longest : Bool) (pattern : List Piece)
  | bad

inductive Redirect where
  | read (descriptor : Nat) (target : List Piece)
  | readWrite (descriptor : Nat) (target : List Piece)
  /-- The flag allows a file that is there even where the shell would keep it. -/
  | write (descriptor : Nat) (target : List Piece) (always : Bool)
  | append (descriptor : Nat) (target : List Piece)
  | here (descriptor : Nat) (text : List Piece)
  | duplicate (descriptor : Nat) (source : List Piece)

inductive Command where
  | simple (line : Nat) (assignments : List (String × List Piece)) (words : List (List Piece))
      (redirects : List Redirect)
  | pipeline (parts : List Command) (inBackground : Bool)
  | background (line : Nat) (body : Command) (redirects : List Redirect)
  | subshell (line : Nat) (body : Command) (redirects : List Redirect)
  | redirected (line : Nat) (body : Command) (redirects : List Redirect)
  | sequence (first second : Command)
  | both (first second : Command)
  | either (first second : Command)
  | invert (body : Command)
  | conditional (condition body : Command) (otherwise : Option Command)
  | loop (condition : Command) (wanted : Bool) (body : Command)
  | forEach (line : Nat) (name : String) (words : List (List Piece)) (body : Command)
  | choice (line : Nat) (subject : List Piece)
      (branches : List (List (List Piece) × Option Command))
  | define (name : String) (body : Command)
  | nothing

end

abbrev Word := List Piece

def allArguments : Word := [.parameter "@" .value true]

/-! ## Tokens

A word counts as a keyword only where one may stand. -/

inductive Keyword where
  | bang | case_ | do_ | done_ | elif_ | else_ | esac | fi | for_ | if_ | in_ | then_ | until_
  | while_ | open_ | close_
  deriving DecidableEq, Repr

namespace Keyword

def spellings : List (String × Keyword) :=
  [("!", bang), ("case", case_), ("do", do_), ("done", done_), ("elif", elif_),
    ("else", else_), ("esac", esac), ("fi", fi), ("for", for_), ("if", if_), ("in", in_),
    ("then", then_), ("until", until_), ("while", while_), ("\x7b", open_), ("\x7d", close_)]

def spelling (keyword : Keyword) : String :=
  ((spellings.find? fun entry => entry.2 == keyword).map Prod.fst).getD ""

def ofSpelling? (spelling : String) : Option Keyword := spellings.lookup spelling

end Keyword

inductive Operator where
  | semicolon | ampersand | andAnd | orOr | pipe | open_ | close_ | endCase
  deriving DecidableEq, Repr

namespace Operator

def spelling : Operator → String
  | semicolon => ";"
  | ampersand => "&"
  | andAnd => "&&"
  | orOr => "||"
  | pipe => "|"
  | open_ => "("
  | close_ => ")"
  | endCase => ";;"

end Operator

inductive Token where
  | end_
  | newline
  | operator (symbol : Operator)
  | keyword (name : Keyword)
  | redirect (redirect : Redirect)
  | word (word : Word)

namespace Token

def shown : Token → String
  | .end_ => "end of file"
  | .newline => "newline"
  | .operator symbol => "\"" ++ symbol.spelling ++ "\""
  | .keyword name => "\"" ++ name.spelling ++ "\""
  | .redirect _ => "redirection"
  | .word _ => "word"

end Token

structure SyntaxFault where
  line : Nat
  complaint : String

structure Replacement where
  name : String
  after : Nat
  /-- Whether the text ends with a blank, so that the next word may be a name as well. -/
  leadsOn : Bool

/-- The replacement when lines below are taken away: `below` characters were left before them,
`rest` are left after them, and `taken` are gone. -/
def Replacement.shortened (entry : Replacement) (below taken rest : Nat) : Replacement :=
  { entry with
    after := if below ≤ entry.after then entry.after - taken else min entry.after rest }

structure Reader where
  rest : Octets
  line : Nat
  skipped : Nat
  ahead : Option Token
  aliases : List (String × Octets)
  replaced : List Replacement

def Reader.of (r : Reader) (text : Octets) : Reader :=
  { r with
    rest := text
    skipped := 0
    ahead := none
    replaced := r.replaced.map fun entry => { entry with after := 0, leadsOn := false } }

abbrev Parser := StateT Reader (Except SyntaxFault)

namespace Parser

def fault (complaint : String) : Parser α := do
  throw ⟨(← get).line, "Syntax error: " ++ complaint⟩

def unexpected (token : Token) (expected : Option String) : Parser α :=
  match expected with
  | none => fault s!"{token.shown} unexpected"
  | some expected => fault s!"{token.shown} unexpected (expecting {expected})"

def joinLines (r : Reader) : Nat → Reader
  | 0 => r
  | rounds + 1 =>
      match r.rest with
      | '\\' :: '\n' :: rest => joinLines { r with rest, line := r.line + 1 } rounds
      | _ => r

def nextRaw : Parser (Option Char) := do
  let r ← get
  match r.rest with
  | [] => return none
  | '\n' :: rest =>
      set { r with rest, line := r.line + 1 + r.skipped, skipped := 0 }
      return some '\n'
  | c :: rest =>
      set { r with rest }
      return some c

def peek : Parser (Option Char) := do
  let r ← get
  match r.rest with
  | '\\' :: '\n' :: _ =>
      let r := joinLines r r.rest.length
      set r
      return r.rest.head?
  | rest => return rest.head?

def skip : Parser Unit := do
  let _ ← nextRaw

def accept (c : Char) : Parser Bool := do
  if (← peek) = some c then
    skip
    return true
  else return false

end Parser

end Clausal.Shell
