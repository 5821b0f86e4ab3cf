import Clausal.Text.Utf8
import Clausal.Text.Numeral
import Clausal.Utility.Records.Value

/-!
# Tokens of programs for records

A slash starts an expression to be searched for unless a value stands before it.
-/

namespace Clausal.Utility.Records

open Text (Octets)

inductive Token where
  | number (x : Float)
  | text (t : Octets)
  | pattern (t : Octets)
  | name (n : Octets)
  | calling (n : Octets)
  | word (w : String)
  | builtin (name : String)
  | sign (s : String)
  | newline
  | ending
  deriving Inhabited

structure Lexeme where
  token : Token
  line : Nat
  written : Octets
  deriving Inhabited

namespace Token

def words : List String :=
  ["BEGIN", "END", "function", "if", "else", "while", "do", "for", "in", "break", "continue",
    "next", "nextfile", "exit", "return", "delete", "getline", "print", "printf"]

def builtins : List String :=
  ["length", "substr", "index", "split", "sub", "gsub", "match", "sprintf", "sin", "cos", "atan2",
    "exp", "log", "sqrt", "int", "rand", "srand", "tolower", "toupper", "system", "close", "fflush",
    "systime"]

def signs : List String :=
  ["&&", "||", "++", "--", "+=", "-=", "*=", "/=", "%=", "^=", "==", "<=", ">=", "!=",
    "!~", ">>", "\x7b", "\x7d", "(", ")", "[", "]", ";", ",", "+", "-", "*", "/", "%", "^", "!", ">",
    "<", "|", "?", ":", "~", "$", "="]

/-- Whether a value can end with the token, so that a slash after it divides. -/
def endsValue : Token → Bool
  | number _ | text _ | pattern _ | name _ | builtin _ => true
  | sign s => s = ")" || s = "]" || s = "$" || s = "++" || s = "--"
  | _ => false

def isNameStart (c : Char) : Bool := c.isAlpha || c = '_'

def isNameChar (c : Char) : Bool := c.isAlphanum || c = '_'

def letterEscape? : Char → Option Char
  | '"' => some '"'
  | '\\' => some '\\'
  | 'n' => some '\n'
  | 't' => some '\t'
  | 'r' => some '\r'
  | 'a' => some '\x07'
  | 'b' => some '\x08'
  | 'f' => some '\x0c'
  | 'v' => some '\x0b'
  | _ => none

def digitsValue (base : Nat) (digits : Octets) : Nat :=
  digits.foldl (fun n c =>
    base * n + (if c.isDigit then c.toNat - '0'.toNat else c.toLower.toNat - 'a'.toNat + 10)) 0

/-- A text with its escapes replaced; one that is unknown stands for itself. -/
def unescape : Nat → Octets → Octets
  | 0, _ => []
  | rounds + 1, octets =>
      match octets with
      | [] => []
      | '\\' :: '\n' :: rest => unescape rounds rest
      | '\\' :: c :: rest =>
          match letterEscape? c with
          | some d => d :: unescape rounds rest
          | none =>
              let octal := ((c :: rest).take 3).takeWhile fun d => '0' ≤ d && d ≤ '7'
              let isHex (d : Char) : Bool := d.isDigit || 'a' ≤ d.toLower && d.toLower ≤ 'f'
              let hex := (rest.take 2).takeWhile isHex
              if !octal.isEmpty then
                Char.ofNat (digitsValue 8 octal % 256) ::
                  unescape rounds ((c :: rest).drop octal.length)
              else if c = 'x' && !hex.isEmpty then
                Char.ofNat (digitsValue 16 hex) :: unescape rounds (rest.drop hex.length)
              else '\\' :: c :: unescape rounds rest
      | c :: rest => c :: unescape rounds rest

def unescaped (octets : Octets) : Octets := unescape (octets.length + 1) octets

/-- The inside of a quoted text, and what follows; nothing if it does not end on its line. -/
def quotedText : Octets → Octets → Option (Octets × Octets)
  | '\\' :: c :: rest, inside => quotedText rest (c :: '\\' :: inside)
  | '\n' :: _, _ => none
  | '"' :: rest, inside => some (inside.reverse, rest)
  | c :: rest, inside => quotedText rest (c :: inside)
  | [], _ => none

inductive Enclosure where
  | outside
  | bracket
  | className
  deriving DecidableEq, Repr

/-- The inside of a pattern, and what follows; nothing if it does not end on its line.  A slash
between brackets belongs to it. -/
def slashedText : Octets → Enclosure → Octets → Option (Octets × Octets)
  | '\\' :: '\n' :: _, _, _ => none
  | '\\' :: c :: rest, e, inside => slashedText rest e (c :: '\\' :: inside)
  | '\n' :: _, _, _ => none
  | '[' :: '^' :: ']' :: rest, .outside, inside =>
      slashedText rest .bracket (']' :: '^' :: '[' :: inside)
  | '[' :: ']' :: rest, .outside, inside => slashedText rest .bracket (']' :: '[' :: inside)
  | '[' :: ':' :: rest, .bracket, inside => slashedText rest .className (':' :: '[' :: inside)
  | ':' :: ']' :: rest, .className, inside => slashedText rest .bracket (']' :: ':' :: inside)
  | c :: rest, e, inside =>
      if c = '/' && e = .outside then some (inside.reverse, rest)
      else
        let e := match c, e with
          | '[', .outside => .bracket
          | ']', .bracket => .outside
          | _, e => e
        slashedText rest e (c :: inside)
  | [], _, _ => none

def withoutSlashEscapes : Octets → Octets
  | '\\' :: '/' :: rest => '/' :: withoutSlashEscapes rest
  | '\\' :: c :: rest => '\\' :: c :: withoutSlashEscapes rest
  | c :: rest => c :: withoutSlashEscapes rest
  | [] => []

def shownStart (octets : Octets) : Octets := (octets.takeWhile (· != '\n')).take 10

def scan : Nat → Octets → Nat → Bool → List Lexeme → Except Octets (List Lexeme)
  | 0, _, _, _, found => .ok found.reverse
  | rounds + 1, octets, line, afterValue, found =>
      let goWith (token : Token) (written rest : Octets) : Except Octets (List Lexeme) :=
        scan rounds rest line token.endsValue (⟨token, line, written⟩ :: found)
      let problem (complaint : Octets) : Except Octets (List Lexeme) :=
        .error ("line ".toList ++ shown line ++ ": ".toList ++ complaint)
      match octets with
      | [] => .ok (⟨.ending, line, "end of file".toList⟩ :: found).reverse
      | '\n' :: rest => scan rounds rest (line + 1) false (⟨.newline, line, "end of line".toList⟩ :: found)
      | '\\' :: '\n' :: rest => scan rounds rest (line + 1) afterValue found
      | '\\' :: '\r' :: '\n' :: rest => scan rounds rest (line + 1) afterValue found
      | '#' :: rest => scan rounds (rest.dropWhile (· != '\n')) line afterValue found
      | '"' :: rest =>
          match quotedText rest [] with
          | some (inside, rest) => goWith (.text (unescaped inside)) ('"' :: inside ++ ['"']) rest
          | none => problem ("runaway string constant \"".toList ++ shownStart rest ++ " ...".toList)
      | c :: rest =>
          if c = ' ' || c = '\t' || c = '\r' then scan rounds rest line afterValue found
          else if c = '/' && !afterValue then
            match slashedText rest .outside [] with
            | some (inside, rest) =>
                goWith (.pattern (withoutSlashEscapes inside)) ('/' :: inside ++ ['/']) rest
            | none =>
                problem ("runaway regular expression /".toList ++
                  shownStart (withoutSlashEscapes rest) ++ " ...".toList)
          else if isNameStart c then
            let (letters, rest) := (c :: rest).span isNameChar
            let key := String.ofList letters
            if words.contains key then goWith (.word key) letters rest
            else if builtins.contains key then goWith (.builtin key) letters rest
            else if rest.head? = some '(' then goWith (.calling letters) letters rest
            else goWith (.name letters) letters rest
          else if c.isDigit || c = '.' && rest.head?.any Char.isDigit then
            match readNumber? (c :: rest) with
            | some (x, after) =>
                goWith (.number x) ((c :: rest).take ((c :: rest).length - after.length)) after
            | none => problem ("unexpected character '".toList ++ [c, '\''])
          else
            match signs.find? fun s => s.toList.isPrefixOf (c :: rest) with
            | some s => goWith (.sign s) s.toList ((c :: rest).drop s.length)
            | none => .error (shown line ++ ": unexpected character '".toList ++ [c, '\''])

def scanAll (octets : Octets) : Except Octets (List Lexeme) :=
  scan (octets.length + 2) octets 1 false []

end Token

end Clausal.Utility.Records
