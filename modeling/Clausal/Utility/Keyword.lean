import Clausal.Utility.Basic

/-!
# Keywords

Some options take one of a few words.  A word can be cut short as long as what it means stays
clear, and words in a group mean the same.
-/

namespace Clausal.Utility

open Machine (Action)
open Text (Octets)

/-- A text in single quotes; quotes in it and other special bytes are escaped. -/
def escapedQuote (octets : Octets) : Octets :=
  '\'' :: octets.flatMap (fun c =>
    if c = '\'' || c = '\\' then ['\\', c] else if isPlain c then [c] else escapeByte c) ++ ['\'']

/-- The words that the value of an option can be. -/
structure Keyword where
  subject : String
  groups : List (List String)
  deriving DecidableEq, Repr

namespace Keyword

def entries (k : Keyword) : List (String × Nat) :=
  k.groups.zipIdx.flatMap fun (words, number) => words.map fun word => (word, number)

def number? (k : Keyword) (word : Octets) : Except String Nat :=
  match k.entries.find? fun entry => entry.1.toList = word with
  | some (_, number) => .ok number
  | none =>
      match k.entries.filter fun entry => word.isPrefixOf entry.1.toList with
      | [] => .error "invalid"
      | (_, number) :: others =>
          if others.all fun other => other.2 = number then .ok number else .error "ambiguous"

def listed (k : Keyword) : Octets :=
  "Valid arguments are:".toList ++ (k.groups.flatMap fun words =>
    "\n  - ".toList ++ ", ".toList.intercalate (words.map fun word => escapedQuote word.toList)) ++
  ['\n']

/-- Reads a word; if it makes no sense, says what would. -/
def read (k : Keyword) (name : String) (word : Octets) : Action (Option Nat) := do
  match k.number? word with
  | .ok number => return some number
  | .error what =>
      complain name ((what ++ " argument ").toList ++ escapedQuote word ++ " for ".toList ++
        escapedQuote k.subject.toList)
      report k.listed
      let _ ← suggestHelp name 1
      return none

end Keyword

end Clausal.Utility

/-!
## Ways to quote

Names can be written as they are, as a shell reads them, or with escapes.  Some ways quote only
the names that would be misread.
-/

namespace Clausal.Utility

open Text (Octets)

inductive QuotingStyle where
  | literal
  | shell
  | shellAlways
  | shellEscape
  | shellEscapeAlways
  | doubled
  | doubledIfNeeded
  | escape
  | single
  deriving DecidableEq, Repr

namespace QuotingStyle

def all : List QuotingStyle :=
  [literal, shell, shellAlways, shellEscape, shellEscapeAlways, doubled, doubledIfNeeded, escape,
    single, doubled]

def keyword (subject : String) : Keyword :=
  ⟨subject, [["literal"], ["shell"], ["shell-always"], ["shell-escape"],
    ["shell-escape-always"], ["c"], ["c-maybe"], ["escape"], ["locale"], ["clocale"]]⟩

def asksShell (extra : List Char) (octets : Octets) : Bool :=
  octets.isEmpty || octets = ['\x7b'] || octets = ['\x7d'] ||
    octets.head?.any (fun c => c = '#' || c = '~') ||
    octets.any fun c =>
      !isPlain c || " !\"$&'()*;<=>?[\\^\x60|".toList.contains c || extra.contains c

def shellQuoted (octets : Octets) : Octets :=
  if !octets.contains '\'' then '\'' :: octets ++ ['\'']
  else if octets.all isPlain && !staysSingle octets then '"' :: octets ++ ['"']
  else '\'' :: octets.flatMap (fun c => if c = '\'' then "'\\''".toList else [c]) ++ ['\'']

def escaped (quote? : Option Char) (extra : List Char) (octets : Octets) : Octets :=
  octets.flatMap fun c =>
    if c = '\\' || some c = quote? || extra.contains c then ['\\', c]
    else if isPlain c then [c] else escapeByte c

def write (s : QuotingStyle) (extra : List Char) (octets : Octets) : Octets :=
  match s with
  | literal => octets
  | shell => if asksShell extra octets then shellQuoted octets else octets
  | shellAlways => shellQuoted octets
  | shellEscape => if asksShell extra octets then quoted octets else octets
  | shellEscapeAlways => quoted octets
  | doubled => '"' :: escaped (some '"') extra octets ++ ['"']
  | doubledIfNeeded =>
      let body := escaped (some '"') extra octets
      if body = octets && !octets.isEmpty then octets else '"' :: body ++ ['"']
  | escape => escaped none extra octets
  | single => '\'' :: escaped (some '\'') extra octets ++ ['\'']

/-- Whether quotes are written only where they are needed, so that names are put in line with
each other. -/
def isOptional : QuotingStyle → Bool
  | shell | shellEscape | doubledIfNeeded => true
  | _ => false

def isRaw : QuotingStyle → Bool
  | literal | shell | shellAlways => true
  | _ => false

theorem write_literal (extra : List Char) (octets : Octets) :
    literal.write extra octets = octets := rfl

end QuotingStyle

end Clausal.Utility
