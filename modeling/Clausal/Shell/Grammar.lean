import Clausal.Shell.Word

/-!
# Reading commands

A script is read one complete command at a time, because what a command does can change how
the rest is read, and because the commands before a fault are still carried out.  Here-documents
are taken from the lines below the one that asks for them.
-/

namespace Clausal.Shell

open Text (Octets)

open Syntax WordContext

namespace Grammar

/-! ## Tokens -/

def skipBlanks : Nat → Parser Unit
  | 0 => return
  | rounds + 1 => do
      match ← Parser.peek with
      | some ' ' | some '\t' =>
          Parser.skip
          skipBlanks rounds
      | some '#' => modify fun r => { r with rest := r.rest.dropWhile (· != '\n') }
      | _ => return

def readOperator : Parser (Option Operator) := do
  match ← Parser.peek with
  | some '&' =>
      Parser.skip
      return some (if ← Parser.accept '&' then .andAnd else .ampersand)
  | some '|' =>
      Parser.skip
      return some (if ← Parser.accept '|' then .orOr else .pipe)
  | some ';' =>
      Parser.skip
      return some (if ← Parser.accept ';' then .endCase else .semicolon)
  | some '(' =>
      Parser.skip
      return some .open_
  | some ')' =>
      Parser.skip
      return some .close_
  | _ => return none

def readTarget (context : WordContext) : Parser Word := do
  skipBlanks (← bound)
  match ← readOperator with
  | some operator => Parser.unexpected (.operator operator) none
  | none =>
      match ← Parser.peek with
      | none => Parser.unexpected .end_ none
      | some '\n' => Parser.unexpected .newline none
      | some '<' | some '>' => Parser.unexpected (.redirect (.here 0 [])) none
      | some _ => context.readWord .blank

/-- Where a place on a line is. -/
inductive LinePlace where
  | gap
  | word
  | quoted (quote : Char)
  | comment
  deriving DecidableEq, Repr

def lineLength : Octets → Nat → LinePlace → Nat
  | [], taken, _ => taken
  | '\n' :: _, taken, .gap => taken
  | '\n' :: _, taken, .word => taken
  | '\n' :: _, taken, .comment => taken
  | _ :: rest, taken, .comment => lineLength rest (taken + 1) .comment
  | '#' :: rest, taken, .gap => lineLength rest (taken + 1) .comment
  | '\\' :: _ :: rest, taken, .quoted quote => lineLength rest (taken + 2) (.quoted quote)
  | '\\' :: _ :: rest, taken, _ => lineLength rest (taken + 2) .word
  | c :: rest, taken, .quoted quote =>
      lineLength rest (taken + 1) (if c = quote then .word else .quoted quote)
  | c :: rest, taken, _ =>
      lineLength rest (taken + 1)
        (if c = '\'' || c = '"' then .quoted c else if isBreak c then .gap else .word)

def hidesEnd (line : Octets) : Bool :=
  (line.reverse.takeWhile (· = '\\')).length % 2 = 1

/-- The lines up to the one that ends a here-document, what comes after it, and how many lines
were passed. -/
def takeHere (delimiter : Octets) (strips joins : Bool) :
    Nat → Bool → Octets → Octets → Nat → Octets × Octets × Nat
  | 0, _, text, taken, count => (taken, text, count)
  | rounds + 1, continues, text, taken, count =>
      match text with
      | [] => (taken, [], count)
      | text =>
          let (line, rest) := text.span (· != '\n')
          let line := if strips && !continues then line.dropWhile (· = '\t') else line
          if line = delimiter && !continues then (taken, rest.tail, count + 1)
          else
            takeHere delimiter strips joins rounds
              (joins && hidesEnd line && (continues || line != ['\\'])) rest.tail
              (taken ++ line ++ (if rest.isEmpty then [] else ['\n'])) (count + 1)

def readHere (context : WordContext) (descriptor : Nat) (strips : Bool) : Parser Redirect := do
  let delimiter ← readTarget { context with isDelimiter := true }
  let quoted := isQuotedWord delimiter
  let r ← get
  let length := lineLength r.rest 0 .gap
  let (line, below) := r.rest.splitAt length
  let (text, rest, count) :=
    takeHere (bareText delimiter) strips (!quoted) (below.length + 1) false below.tail [] 0
  let kept := if below.isEmpty then [] else '\n' :: rest
  set { r with
    rest := line ++ kept
    skipped := r.skipped + count
    replaced := r.replaced.map fun (entry : Replacement) =>
      entry.shortened below.length (below.length - kept.length) rest.length }
  if quoted then return .here descriptor [.text text true]
  else
    let r ← get
    set (r.of text)
    let word ← { context with inHere := true }.readWord .all
    set r
    return .here descriptor word

def readRedirect (context : WordContext) (descriptor? : Option Nat) : Parser Redirect := do
  if ← Parser.accept '>' then
    let descriptor := descriptor?.getD 1
    if ← Parser.accept '>' then return .append descriptor (← readTarget context)
    else if ← Parser.accept '|' then return .write descriptor (← readTarget context) true
    else if ← Parser.accept '&' then return .duplicate descriptor (← readTarget context)
    else return .write descriptor (← readTarget context) false
  else
    Parser.skip
    let descriptor := descriptor?.getD 0
    if ← Parser.accept '<' then
      let strips ← Parser.accept '-'
      readHere context descriptor strips
    else if ← Parser.accept '&' then return .duplicate descriptor (← readTarget context)
    else if ← Parser.accept '>' then return .readWrite descriptor (← readTarget context)
    else return .read descriptor (← readTarget context)

def readToken (context : WordContext) : Parser Token := do
  skipBlanks (← bound)
  match ← readOperator with
  | some operator => return .operator operator
  | none =>
      match ← Parser.peek with
      | none => return .end_
      | some '\n' =>
          Parser.skip
          return .newline
      | some _ =>
          let word ← context.readWord .blank
          let next ← Parser.peek
          if next = some '<' || next = some '>' then
            match word with
            | [] => return .redirect (← readRedirect context none)
            | [.text [c] false] =>
                if c.isDigit then
                  return .redirect (← readRedirect context (some (c.toNat - '0'.toNat)))
                else return .word word
            | word => return .word word
          else return .word word

/-- Where a token stands, which decides what words can mean. -/
structure Place where
  skipsNewlines : Bool
  hasKeywords : Bool
  hasAliases : Bool

namespace Place

def argument : Place := ⟨false, false, false⟩

def command : Place := ⟨false, true, true⟩

def laterCommand : Place := ⟨true, true, true⟩

end Place

/-- The text that a word stands for, unless the word comes from that text. -/
def alias? (r : Reader) (name : Octets) : Option Octets := do
  let text ← r.aliases.lookup (String.ofList name)
  if r.replaced.any fun entry => entry.name == String.ofList name then none else some text

/-- Reads a token, and tells whether the text of a name that leads on has come to its end. -/
def tokenLedOn (context : WordContext) : Parser (Token × Bool) := do
  let r ← get
  match r.ahead, r.replaced with
  | some found, _ =>
      set { r with ahead := none }
      return (found, false)
  | none, [] => return (← readToken context, false)
  | none, replaced =>
      let before := r.rest.length
      set { r with replaced := replaced.filter fun (entry : Replacement) => decide (entry.after < before) }
      let found ← readToken context
      let r ← get
      let left := r.rest.length
      let (inside, ended) := r.replaced.partition fun entry => decide (entry.after < left)
      set { r with
        replaced := inside ++ ended.filter fun (entry : Replacement) => decide (entry.after = left) }
      return (found, ended.any Replacement.leadsOn)

def token (context : WordContext) : Nat → Place → Parser Token
  | 0, _ => return .end_
  | rounds + 1, place => do
      let (found, ledOn) ← tokenLedOn context
      match found with
      | .newline => if place.skipsNewlines then token context rounds place else return .newline
      | .word word =>
          match plainText? word with
          | none => return .word word
          | some text =>
              let keyword := if place.hasKeywords then Keyword.ofSpelling? (String.ofList text) else none
              match keyword with
              | some keyword => return .keyword keyword
              | none =>
                  let r ← get
                  match if place.hasAliases || ledOn then alias? r text else none with
                  | none => return .word word
                  | some [] => token context rounds { place with hasAliases := true }
                  | some value =>
                      let leadsOn := value.getLast?.any fun c => c = ' ' || c = '\t'
                      set { r with
                        rest := value ++ r.rest
                        replaced := ⟨String.ofList text, r.rest.length, leadsOn⟩ :: r.replaced }
                      token context rounds { place with hasAliases := true }
      | found => return found

def putBack (found : Token) : Parser Unit := modify fun r => { r with ahead := some found }

/-- How often words are replaced by aliases and lines are passed over in a row. -/
def tokenBound : Nat := 1000000

def next (context : WordContext) (place : Place) : Parser Token := token context tokenBound place

/-! ## Commands -/

/-- Readers of what stands inside the command that is being read. -/
structure Inner where
  context : WordContext
  body : Parser Command
  branch : Parser (Option Command)
  command : Parser Command

def expect (inner : Inner) (keyword : Keyword) (place : Place) : Parser Unit := do
  match ← next inner.context place with
  | .keyword found =>
      if found = keyword then return
      else Parser.unexpected (.keyword found) (some (Token.keyword keyword).shown)
  | found => Parser.unexpected found (some (Token.keyword keyword).shown)

def readConditional (inner : Inner) : Nat → Parser Command
  | 0 => Parser.fault "too many branches"
  | rounds + 1 => do
      let condition ← inner.body
      expect inner .then_ .argument
      let body ← inner.body
      match ← next inner.context .argument with
      | .keyword .elif_ => return .conditional condition body (some (← readConditional inner rounds))
      | .keyword .else_ =>
          let otherwise ← inner.body
          expect inner .fi .argument
          return .conditional condition body (some otherwise)
      | found =>
          putBack found
          expect inner .fi .argument
          return .conditional condition body none

def readWords (inner : Inner) : Nat → List Word → Parser (List Word)
  | 0, words => return words.reverse
  | rounds + 1, words => do
      match ← next inner.context .argument with
      | .word word => readWords inner rounds (word :: words)
      | .newline | .operator .semicolon => return words.reverse
      | found => Parser.unexpected found none

def readFor (inner : Inner) (line : Nat) : Parser Command := do
  match ← next inner.context .argument with
  | .word word =>
      let name := (plainText? word).getD []
      if !isName name then Parser.fault "Bad for loop variable"
      else
        let words ← match ← next inner.context .laterCommand with
          | .keyword .in_ => readWords inner (← bound) []
          | .operator .semicolon => pure [allArguments]
          | found => do
              putBack found
              pure [allArguments]
        expect inner .do_ .laterCommand
        let body ← inner.body
        expect inner .done_ .argument
        return .forEach line (String.ofList name) words body
  | _ => Parser.fault "Bad for loop variable"

def readPatterns (inner : Inner) : Nat → List Word → Parser (List Word)
  | 0, patterns => return patterns.reverse
  | rounds + 1, patterns => do
      match ← next inner.context .argument with
      | .operator .pipe =>
          match ← next inner.context .argument with
          | .word word => readPatterns inner rounds (word :: patterns)
          | found => Parser.unexpected found none
      | .operator .close_ => return patterns.reverse
      | found => Parser.unexpected found (some "\")\"")

def tokenWord? : Token → Option Word
  | .word word => some word
  | .keyword keyword => some [.text keyword.spelling.toList false]
  | _ => none

def readBranches (inner : Inner) :
    Nat → List (List Word × Option Command) → Parser (List (List Word × Option Command))
  | 0, branches => return branches.reverse
  | rounds + 1, branches => do
      match ← next inner.context ⟨true, true, false⟩ with
      | .keyword .esac => return branches.reverse
      | found =>
          let first ← match found with
            | .operator .open_ => next inner.context .argument
            | found => pure found
          match tokenWord? first with
          | none => Parser.unexpected first none
          | some word =>
              let patterns ← readPatterns inner (← bound) [word]
              let body ← inner.branch
              let branches := (patterns, body) :: branches
              match ← next inner.context ⟨true, true, false⟩ with
              | .keyword .esac => return branches.reverse
              | .operator .endCase => readBranches inner rounds branches
              | found => Parser.unexpected found (some "\";;\"")

def readChoice (inner : Inner) (line : Nat) : Parser Command := do
  match ← next inner.context .argument with
  | .word subject =>
      expect inner .in_ .laterCommand
      return .choice line subject (← readBranches inner (← bound) [])
  | found => Parser.unexpected found (some "word")

def readRedirects (inner : Inner) : Nat → List Redirect → Parser (List Redirect)
  | 0, redirects => return redirects.reverse
  | rounds + 1, redirects => do
      match ← next inner.context .command with
      | .redirect redirect => readRedirects inner rounds (redirect :: redirects)
      | found =>
          putBack found
          return redirects.reverse

def reservedNames : List String :=
  [".", ":", "break", "continue", "eval", "exec", "exit", "export", "readonly", "return", "set",
    "shift", "times", "trap", "unset"]

/-- A simple command as far as it was read, the last parts first. -/
structure SimpleDraft where
  assignments : List (String × Word)
  words : List Word
  redirects : List Redirect

def readFunction (inner : Inner) (word : Word) : Parser Command := do
  match ← next inner.context .argument with
  | .operator .close_ =>
      let name := (plainText? word).getD []
      if !isName name || reservedNames.contains (String.ofList name) then
        Parser.fault "Bad function name"
      else
        let first ← next inner.context .laterCommand
        putBack first
        return .define (String.ofList name) (← inner.command)
  | found => Parser.unexpected found (some "\")\"")

def readSimple (inner : Inner) (line : Nat) : Nat → SimpleDraft → Parser Command
  | 0, _ => Parser.fault "command too long"
  | rounds + 1, draft => do
      let found ← next inner.context ⟨false, false, draft.words.isEmpty⟩
      match found, draft with
      | .redirect redirect, draft =>
          readSimple inner line rounds { draft with redirects := redirect :: draft.redirects }
      | .word word, ⟨assignments, [], redirects⟩ =>
          match assignment? word with
          | some assignment =>
              readSimple inner line rounds ⟨assignment :: assignments, [], redirects⟩
          | none => readSimple inner line rounds ⟨assignments, [word], redirects⟩
      | .word word, draft =>
          readSimple inner line rounds { draft with words := word :: draft.words }
      | .operator .open_, ⟨[], [word], []⟩ => readFunction inner word
      | found, draft =>
          putBack found
          return .simple line draft.assignments.reverse draft.words.reverse
            draft.redirects.reverse

/-- Puts redirections around a command; those of a subshell are replaced. -/
def redirectCommand (line : Nat) (command : Command) (redirects : List Redirect) : Command :=
  match command, redirects with
  | command, [] => command
  | .subshell line body _, redirects => .subshell line body redirects
  | command, redirects => .redirected line command redirects

def readCommand (inner : Inner) : Parser Command := do
  let found ← next inner.context .command
  let line := (← get).line
  let withRedirects (command : Command) : Parser Command := do
    return redirectCommand line command (← readRedirects inner (← bound) [])
  match found with
  | .keyword .if_ => withRedirects (← readConditional inner (← bound))
  | .keyword .while_ =>
      let condition ← inner.body
      expect inner .do_ .argument
      let body ← inner.body
      expect inner .done_ .argument
      withRedirects (.loop condition true body)
  | .keyword .until_ =>
      let condition ← inner.body
      expect inner .do_ .argument
      let body ← inner.body
      expect inner .done_ .argument
      withRedirects (.loop condition false body)
  | .keyword .for_ => withRedirects (← readFor inner line)
  | .keyword .case_ => withRedirects (← readChoice inner line)
  | .keyword .open_ =>
      let body ← inner.body
      expect inner .close_ .argument
      withRedirects body
  | .operator .open_ =>
      let body ← inner.body
      match ← next inner.context .argument with
      | .operator .close_ => withRedirects (.subshell line body [])
      | found => Parser.unexpected found (some "\")\"")
  | .word word =>
      putBack (.word word)
      readSimple inner line (← bound) ⟨[], [], []⟩
  | .redirect redirect =>
      putBack (.redirect redirect)
      readSimple inner line (← bound) ⟨[], [], []⟩
  | found => Parser.unexpected found none

def readPiped (inner : Inner) : Nat → List Command → Parser (List Command)
  | 0, commands => return commands.reverse
  | rounds + 1, commands => do
      match ← next inner.context .argument with
      | .operator .pipe =>
          let found ← next inner.context .laterCommand
          putBack found
          readPiped inner rounds ((← inner.command) :: commands)
      | found =>
          putBack found
          return commands.reverse

def readPipeline (inner : Inner) (place : Place) : Parser Command := do
  let first ← next inner.context place
  let inverts := first matches .keyword .bang
  if !inverts then putBack first
  let command ← inner.command
  let body := match ← readPiped inner (← bound) [command] with
    | [command] => command
    | commands => Command.pipeline commands false
  return if inverts then .invert body else body

def readJoined (inner : Inner) : Nat → Command → Parser Command
  | 0, first => return first
  | rounds + 1, first => do
      match ← next inner.context .argument with
      | .operator .andAnd =>
          readJoined inner rounds (.both first (← readPipeline inner .laterCommand))
      | .operator .orOr =>
          readJoined inner rounds (.either first (← readPipeline inner .laterCommand))
      | found =>
          putBack found
          return first

def inBackground (line : Nat) : Command → Command
  | .pipeline parts _ => .pipeline parts true
  | .redirected line body redirects => .background line body redirects
  | command => .background line command []

/-- Which lists are being read. -/
inductive ListKind where
  | line
  | body
  | branch
  deriving DecidableEq, Repr

def endsList : Token → Bool
  | .end_ => true
  | .operator .close_ | .operator .endCase => true
  | .keyword keyword =>
      [Keyword.do_, .done_, .elif_, .else_, .esac, .fi, .then_, .close_].contains keyword
  | _ => false

def follow (commands : Option Command) (command : Command) : Option Command :=
  match commands with
  | none => some command
  | some first => some (.sequence first command)

def readList (inner : Inner) (kind : ListKind) :
    Nat → Option Command → Parser (Option Command)
  | 0, commands => return commands
  | rounds + 1, commands => do
      let found ← next inner.context ⟨kind != .line, true, true⟩
      let line := (← get).line
      match found with
      | .newline => return some (commands.getD .nothing)
      | .end_ =>
          putBack .end_
          if kind = .body && commands.isNone then Parser.unexpected .end_ none
          else return commands
      | found =>
          putBack found
          if (kind = .branch || kind = .body && commands.isSome) && endsList found then
            return commands
          let first ← readPipeline inner .command
          let command ← readJoined inner (← bound) first
          match ← next inner.context .argument with
          | .operator .ampersand =>
              readList inner kind rounds (follow commands (inBackground line command))
          | .operator .semicolon => readList inner kind rounds (follow commands command)
          | .newline =>
              putBack .newline
              readList inner kind rounds (follow commands command)
          | .end_ =>
              putBack .end_
              readList inner kind rounds (follow commands command)
          | found =>
              if kind = .line then Parser.unexpected found none
              else
                putBack found
                return follow commands command

def readInner (inner : Unit → Inner) (kind : ListKind) : Parser (Option Command) := fun r =>
  readList (inner ()) kind (r.rest.length + 1) none r

def readClosing (inner : Unit → Inner) : Parser Unit := fun r =>
  (do
    match ← next (inner ()).context .laterCommand with
    | .operator .close_ => return
    | found => Parser.unexpected found (some "\")\"") : Parser Unit) r

def innerOf : Nat → Unit → Inner
  | 0, _ =>
      let deep {α : Type} : Parser α := Parser.fault "too deeply nested"
      ⟨⟨deep, deep, false, false⟩, deep, deep, deep⟩
  | depth + 1, _ =>
      let inner := innerOf depth
      { context := ⟨return (← readInner inner .branch).getD .nothing, readClosing inner, false, false⟩
        body := do
          match ← readInner inner .body with
          | some command => return command
          | none => Parser.unexpected .end_ none
        branch := readInner inner .branch
        command := fun r => readCommand (inner ()) r }

def depthBound : Nat := 1000

end Grammar

/-- Reads the next complete command; there is none at the end. -/
def Reader.nextCommand? (r : Reader) : Except SyntaxFault (Option Command × Reader) :=
  Grammar.readInner (Grammar.innerOf Grammar.depthBound) .line r

def Reader.ofScript (script : Octets) (line : Nat) : Reader :=
  { rest := script, line, skipped := 0, ahead := none, aliases := [], replaced := [] }

def readSubstitutions? (text : Octets) : Option Word :=
  let context := { (Grammar.innerOf Grammar.depthBound ()).context with inHere := true }
  match (context.readWord .all).run (.ofScript text 1) with
  | .ok (word, _) => some word
  | .error _ => none

end Clausal.Shell
