import Clausal.Shell.Token

/-!
# Reading words

Quotes, escapes and substitutions are recognized while a word is read.  Commands inside a word
are left to a reader of commands that is given.
-/

namespace Clausal.Shell

open Text (Octets)

namespace Syntax

def isNameStart (c : Char) : Bool := c.isAlpha || c = '_'

def isNameChar (c : Char) : Bool := c.isAlphanum || c = '_'

/-- Parameters whose name is one character that starts no other name. -/
def isSpecial (c : Char) : Bool := "@*#?!$-".toList.contains c

def isBreak (c : Char) : Bool := " \t\n;&|<>()".toList.contains c

def isName (text : Octets) : Bool :=
  match text with
  | [] => false
  | c :: rest => isNameStart c && rest.all isNameChar

end Syntax

open Syntax

inductive Ending where
  | blank
  | quote
  | brace
  | quotedBrace (hidden : Bool)
  | expression (depth : Nat)
  | all
  deriving DecidableEq, Repr

namespace Ending

def isQuoted : Ending → Bool
  | blank | brace => false
  | _ => true

def complaint? : Ending → Option String
  | blank | all => none
  | brace => some "Missing '\x7d'"
  | expression _ => some "Missing '))'"
  | quote | quotedBrace _ => some "Unterminated quoted string"

end Ending

structure Draft where
  pieces : List Piece
  octets : Octets
  quoted : Bool

namespace Draft

def empty : Draft := ⟨[], [], false⟩

def closed (d : Draft) : List Piece :=
  if d.octets.isEmpty then d.pieces else .text d.octets.reverse d.quoted :: d.pieces

def add (d : Draft) (c : Char) (quoted : Bool) : Draft :=
  if d.quoted = quoted then { d with octets := c :: d.octets } else ⟨d.closed, [c], quoted⟩

def addPiece (d : Draft) (piece : Piece) : Draft := ⟨piece :: d.closed, [], d.quoted⟩

def addAll (d : Draft) (octets : Octets) (quoted : Bool) : Draft :=
  octets.foldl (fun d c => d.add c quoted) d

def word (d : Draft) : Word := d.closed.reverse

end Draft

structure WordContext where
  commands : Parser Command
  closing : Parser Unit
  inHere : Bool
  isDelimiter : Bool

namespace WordContext

def readWhile (condition : Char → Bool) : Nat → Octets → Parser Octets
  | 0, taken => return taken.reverse
  | rounds + 1, taken => do
      match ← Parser.peek with
      | some c =>
          if condition c then
            Parser.skip
            readWhile condition rounds (c :: taken)
          else return taken.reverse
      | none => return taken.reverse

def readQuoted : Nat → Octets → Parser Octets
  | 0, taken => return taken.reverse
  | rounds + 1, taken => do
      match ← Parser.nextRaw with
      | none => Parser.fault "Unterminated quoted string"
      | some '\'' => return taken.reverse
      | some c => readQuoted rounds (c :: taken)

/-- Reads up to a backquote; a backslash takes away the meaning of some characters. -/
def readBackquoted (quoted : Bool) : Nat → Octets → Parser Octets
  | 0, taken => return taken.reverse
  | rounds + 1, taken => do
      let _ ← Parser.peek
      match ← Parser.nextRaw with
      | none => Parser.fault "EOF in backquote substitution"
      | some '\x60' => return taken.reverse
      | some '\\' =>
          match ← Parser.nextRaw with
          | none => Parser.fault "EOF in backquote substitution"
          | some c =>
              if c = '\\' || c = '\x60' || c = '$' || quoted && c = '"' then
                readBackquoted quoted rounds (c :: taken)
              else readBackquoted quoted rounds (c :: '\\' :: taken)
      | some c => readBackquoted quoted rounds (c :: taken)

/-- How often something is read at most: each time takes a character, apart from a token that
was read ahead and from the end. -/
def bound : Parser Nat := return (← get).rest.length + 3

def isEscaped (context : WordContext) (ending : Ending) (c : Char) : Bool :=
  if c = '\\' || c = '\x60' || c = '$' then true
  else if c = '"' then !(context.inHere && ending matches .all)
  else c = '\x7d' && ending = .quotedBrace false

/-- What is done after the name between braces, or nothing if that makes no sense; the rest
is read by a reader of words. -/
def operation (word : Ending → Parser Word) (quoted : Bool) : Parser Operation := do
  let inner : Ending := if quoted then .quotedBrace false else .brace
  let orEmpty ← Parser.accept ':'
  match ← Parser.peek with
  | some '\x7d' =>
      Parser.skip
      return if orEmpty then .bad else .value
  | some '-' =>
      Parser.skip
      return .fallback orEmpty (← word inner)
  | some '+' =>
      Parser.skip
      return .alternative orEmpty (← word inner)
  | some '=' =>
      Parser.skip
      return .assign orEmpty (← word inner)
  | some '?' =>
      Parser.skip
      return .demand orEmpty (← word inner)
  | some c =>
      if !orEmpty && (c = '%' || c = '#') then
        Parser.skip
        let longest ← Parser.accept c
        return .trim (c = '%') longest (← word .brace)
      else
        let _ ← word inner
        return .bad
  | none =>
      let _ ← word inner
      return .bad

def readName : Parser Octets := do
  match ← Parser.peek with
  | some c =>
      if c.isDigit then readWhile Char.isDigit (← bound) []
      else if isNameStart c then readWhile isNameChar (← bound) []
      else return []
  | none => return []

def braced (word : Ending → Parser Word) (quoted : Bool) : Parser Piece := do
  let parameter (name : Octets) (operation : Operation) : Piece :=
    .parameter (String.ofList name) operation quoted
  let bad : Parser Piece := do
    let _ ← word (if quoted then .quotedBrace false else .brace)
    return parameter [] .bad
  match ← readName with
  | c :: name => return parameter (c :: name) (← operation word quoted)
  | [] =>
      match ← Parser.peek with
      | some '#' =>
          Parser.skip
          match ← readName with
          | c :: name =>
              if ← Parser.accept '\x7d' then return parameter (c :: name) .length else bad
          | [] =>
              let r ← get
              match ← Parser.peek with
              | some c =>
                  if c != '\x7d' && isSpecial c then
                    Parser.skip
                    if ← Parser.accept '\x7d' then return parameter [c] .length
                    set r
              | none => pure ()
              return parameter ['#'] (← operation word quoted)
      | some c =>
          if isSpecial c then
            Parser.skip
            return parameter [c] (← operation word quoted)
          else bad
      | none => bad

def substitution (context : WordContext) (word : Ending → Parser Word) (quoted : Bool) :
    Parser (Option Piece) := do
  match ← Parser.peek with
  | some '(' =>
      Parser.skip
      if ← Parser.accept '(' then
        return some (.arithmetic (← word (.expression 0)) quoted)
      else
        let body ← context.commands
        context.closing
        return some (.command body quoted)
  | some '\x7b' =>
      Parser.skip
      return some (← braced word quoted)
  | some c =>
      if isNameStart c then
        let name ← readWhile isNameChar (← bound) []
        return some (.parameter (String.ofList name) .value quoted)
      else if c.isDigit || isSpecial c then
        Parser.skip
        return some (.parameter (String.ofList [c]) .value quoted)
      else return none
  | none => return none

def commandsIn (context : WordContext) (text : Octets) : Parser Command := do
  let r ← get
  set (r.of text)
  let body ← context.commands
  set r
  return body

/-- What quotes around a text add to a word; around all arguments they add nothing. -/
def quotes (inside : Word) : List Piece :=
  match inside with
  | [.parameter "@" .value quoted] => [.parameter "@" .value quoted]
  | inside => .mark :: inside

/-- Reads a text up to its end, which is taken away unless it belongs to what follows. -/
def read (context : WordContext) : Nat → Ending → Draft → Parser Draft
  | 0, _, d => return d
  | rounds + 1, ending, d => do
      let quoted := ending.isQuoted
      let word (ending : Ending) : Parser Word := return (← read context rounds ending .empty).word
      match ← Parser.peek with
      | none =>
          match ending.complaint? with
          | none => return d
          | some complaint => Parser.fault complaint
      | some c =>
          if ending = .blank && isBreak c then return d
          Parser.skip
          match c, ending with
          | '\\', _ =>
              match ← Parser.nextRaw with
              | none => read context rounds ending (d.add '\\' true)
              | some c =>
                  let d := if quoted && !context.isEscaped ending c then d.add '\\' true else d
                  read context rounds ending (d.add c true)
          | '\'', .blank | '\'', .brace =>
              let inside ← readQuoted (← bound) []
              read context rounds ending ((d.addPiece .mark).addAll inside true)
          | '"', .blank | '"', .brace =>
              let inside ← word .quote
              read context rounds ending ((quotes inside).foldl Draft.addPiece d)
          | '"', .quote => return d
          | '"', .quotedBrace hidden =>
              read context rounds (.quotedBrace !hidden) (if context.inHere then d else d.addPiece .mark)
          | '$', _ =>
              if context.isDelimiter then read context rounds ending (d.add c quoted)
              else
                match ← context.substitution word quoted with
                | some piece => read context rounds ending (d.addPiece piece)
                | none => read context rounds ending (d.add c quoted)
          | '\x60', _ =>
              if context.isDelimiter then read context rounds ending (d.add c quoted)
              else
                let inside ← readBackquoted quoted (← bound) []
                let body ← context.commandsIn inside
                read context rounds ending (d.addPiece (.command body quoted))
          | '\x7d', .brace => return d
          | '\x7d', .quotedBrace false => return d
          | '(', .expression depth => read context rounds (.expression (depth + 1)) (d.add c true)
          | ')', .expression 0 =>
              if ← Parser.accept ')' then return d
              else read context rounds ending (d.add c true)
          | ')', .expression (depth + 1) => read context rounds (.expression depth) (d.add c true)
          | c, _ => read context rounds ending (d.add c quoted)

def readWord (context : WordContext) (ending : Ending) : Parser Word := do
  return (← context.read (← bound) ending .empty).word

end WordContext

def plainText? : Word → Option Octets
  | [] => some []
  | [.text octets false] => some octets
  | _ => none

/-- The text of a word whose quotes are taken away. -/
def bareText (word : Word) : Octets :=
  word.flatMap fun piece =>
    match piece with
    | .text octets _ => octets
    | _ => []

def isQuotedWord (word : Word) : Bool :=
  word.any fun piece =>
    match piece with
    | .mark | .text _ true => true
    | _ => false

def assignment? (word : Word) : Option (String × Word) :=
  match word with
  | .text octets false :: rest =>
      let (name, value) := octets.span fun c => c != '='
      match value with
      | '=' :: value =>
          if isName name then
            some (String.ofList name, if value.isEmpty then rest else .text value false :: rest)
          else none
      | _ => none
  | _ => none

end Clausal.Shell
