import Clausal.Machine.Account
import Clausal.Shell.Arithmetic
import Clausal.Shell.Field
import Clausal.Shell.Session

/-!
# Expanding words

Values, the output of commands and the results of expressions take the place of the pieces
that ask for them.  How to get the output of a command is given.
-/

namespace Clausal.Shell

open Text (Octets)

/-- Where a tilde can stand for the home folder. -/
inductive Tilde where
  | nowhere
  | atStart
  | inValue
  deriving DecidableEq, Repr

structure Style where
  splits : Bool
  loose : Bool
  tilde : Tilde
  deriving DecidableEq, Repr

namespace Style

def argument : Style := ⟨true, false, .atStart⟩

def whole : Style := ⟨false, false, .atStart⟩

def value : Style := ⟨false, false, .inValue⟩

def plain : Style := ⟨false, false, .nowhere⟩

def inner (style : Style) (quoted : Bool) : Style :=
  { style with loose := !quoted, tilde := if style.tilde = .inValue then .inValue else .atStart }

end Style

namespace Expansion

/-! ## Tildes -/

/-- The home folder and the text after a tilde that stands for it; a user's name after the
tilde says whose home is meant. -/
def home? (s : Session) (inValue isLast : Bool) (text : Octets) : Option (Octets × Octets) :=
  match text with
  | '~' :: rest =>
      let (name, after) := rest.span fun c => !(c = '/' || inValue && c = ':')
      if after.isEmpty && !isLast then none
      else if name.isEmpty then (s.value? "HOME").map fun home => (home, after)
      else (Machine.Account.named? name).map fun account => (account.home.toList, after)
  | _ => none

/-- The stretches of a value, given those characters of the current one that were passed,
newest first. -/
def valueStretches (s : Session) (region : Region) (isLast : Bool) :
    Nat → Bool → Octets → Octets → List Stretch
  | 0, _, _, _ => []
  | rounds + 1, mayStart, passed, text =>
      let plain : Stretch := ⟨region, Glyph.ofOctets passed.reverse false⟩
      match text with
      | [] => [plain]
      | c :: rest =>
          match if mayStart then home? s true isLast (c :: rest) else none with
          | some (home, rest) =>
              plain :: ⟨.nowhere, Glyph.ofOctets home true⟩ ::
                valueStretches s region isLast rounds false [] rest
          | none => valueStretches s region isLast rounds (c = ':') (c :: passed) rest

def textStretches (s : Session) (style : Style) (isFirst isLast : Bool) (text : Octets) :
    List Stretch :=
  let region : Region := if style.loose then .atSeparators else .nowhere
  if style.tilde = .nowhere || !text.contains '~' then [⟨region, Glyph.ofOctets text false⟩]
  else if style.tilde = .inValue then
    valueStretches s region isLast (text.length + 1) isFirst [] text
  else
    match if isFirst then home? s false isLast text else none with
    | some (home, rest) =>
        [⟨.nowhere, Glyph.ofOctets home true⟩, ⟨region, Glyph.ofOctets rest false⟩]
    | none => [⟨region, Glyph.ofOctets text false⟩]

/-! ## Parameters -/

def shown (number : Nat) : Octets := Nat.toDigits 10 number

def joinedArguments (s : Session) (style : Style) (isStar quoted : Bool) : Octets :=
  let first : Octets :=
    match s.binding? "IFS" with
    | some ⟨some (c :: _), _, _⟩ => [c]
    | some ⟨some [], _, _⟩ => []
    | _ => [' ']
  let hasSeparators :=
    match s.binding? "IFS" with
    | some ⟨some _, _, _⟩ => true
    | _ => false
  let separator :=
    if !style.splits || quoted && isStar then first
    else if quoted || hasSeparators then ['\x00']
    else [' ']
  separator.intercalate s.arguments

def value? (s : Session) (style : Style) (name : String) (quoted : Bool) : Option Octets :=
  match name.toList with
  | ['@'] => some (joinedArguments s style false quoted)
  | ['*'] => some (joinedArguments s style true quoted)
  | ['#'] => some (shown s.arguments.length)
  | ['?'] => some (shown s.status)
  | ['-'] => some s.options.letters
  | ['$'] => some (shown s.id)
  | ['!'] => s.lastJob.map shown
  | ['0'] => some s.name
  | c :: _ =>
      if c.isDigit then
        match Text.readDigits? name.toList with
        | some 0 => some s.name
        | some (index + 1) => s.arguments[index]?
        | none => none
      else
        s.value? name
  | [] => none

def isVariable (name : String) : Bool := Syntax.isName name.toList

def valueStretch (s : Session) (name : String) (value : Octets) (quoted : Bool) : Stretch :=
  if !quoted then ⟨.atSeparators, Glyph.ofOctets value false⟩
  else if name = "@" && !s.arguments.isEmpty then ⟨.atZeros, Glyph.ofOctets value true⟩
  else ⟨.nowhere, Glyph.ofOctets value true⟩

def insertedStretch (text : Octets) (quoted : Bool) : Stretch :=
  ⟨if quoted then .nowhere else .atSeparators, Glyph.ofOctets text quoted⟩

def unset (name : String) (complaint : Octets) : Work α :=
  Work.fault (name.toList ++ ": ".toList ++ complaint)

def trimStart (parts : List PatternPart) (longest : Bool) (text : Octets) : Octets :=
  let lengths := List.range (text.length + 1)
  let lengths := if longest then lengths.reverse else lengths
  match lengths.find? fun length => matchesPattern parts (text.take length) with
  | some length => text.drop length
  | none => text

def trimEnd (parts : List PatternPart) (longest : Bool) (text : Octets) : Octets :=
  let lengths := List.range (text.length + 1)
  let lengths := if longest then lengths else lengths.reverse
  match lengths.find? fun length => matchesPattern parts (text.drop length) with
  | some length => text.take length
  | none => text

/-! ## Expressions -/

def evaluate (text : Octets) : Work Octets := do
  let s ← Work.get
  let lookup (name : String) : Octets := (value? s .plain name true).getD []
  let (result, assigned) := Arithmetic.evaluate lookup text
  assigned.forM fun (name, value) => Work.assign name value
  match result with
  | .ok value => return Arithmetic.shown value
  | .error (.badNumber text) => Work.badNumber text
  | .error (.complaint complaint) =>
      Work.fault ("arithmetic expression: ".toList ++ complaint.toList ++ ": \"".toList ++ text ++
        ['"'])

/-! ## Words -/

def octetsOf (stretches : List Stretch) : Octets :=
  stretches.flatMap fun stretch => Glyph.toOctets stretch.glyphs

variable (substitute : Command → Work Octets)

mutual

/-- Expands the pieces of a word; the flag says whether they are its first. -/
def pieces (style : Style) (isFirst : Bool) : List Piece → Work (List Stretch)
  | [] => return []
  | .text octets false :: rest => do
      let s ← Work.get
      let stretches := textStretches s style isFirst rest.isEmpty octets
      match rest with
      | [] => return stretches
      | rest => return stretches ++ (← pieces style false rest)
  | piece :: rest => do
      let stretches ← onePiece style piece
      return stretches ++ (← pieces style false rest)

def onePiece (style : Style) : Piece → Work (List Stretch)
  | .text octets quoted => return [⟨.nowhere, Glyph.ofOctets octets quoted⟩]
  | .mark => return [⟨.nowhere, [.mark]⟩]
  | .parameter name operation quoted => parameter style name quoted operation
  | .command body quoted => do
      return [insertedStretch (← substitute body) quoted]
  | .arithmetic expression quoted => do
      let text := octetsOf (← pieces .plain true expression)
      return [insertedStretch (← evaluate text) quoted]

def parameter (style : Style) (name : String) (quoted : Bool) : Operation → Work (List Stretch)
  | .value => do
      let s ← Work.get
      match value? s style name quoted with
      | some value => return [valueStretch s name value quoted]
      | none =>
          if s.options.refusesUnset then unset name "parameter not set".toList
          else return [valueStretch s name [] quoted]
  | .length => do
      let s ← Work.get
      match value? s style name quoted with
      | some value => return [insertedStretch (shown value.length) quoted]
      | none =>
          if s.options.refusesUnset then unset name "parameter not set".toList
          else return [insertedStretch ['0'] quoted]
  | .fallback orEmpty word => do
      let s ← Work.get
      match value? s style name quoted with
      | some value =>
          if orEmpty && value.isEmpty then pieces (style.inner quoted) true word
          else return [valueStretch s name value quoted]
      | none => pieces (style.inner quoted) true word
  | .alternative orEmpty word => do
      let s ← Work.get
      match value? s style name quoted with
      | some value =>
          if orEmpty && value.isEmpty then return [valueStretch s name [] quoted]
          else pieces (style.inner quoted) true word
      | none => return [valueStretch s name [] quoted]
  | .assign orEmpty word => do
      let s ← Work.get
      let old := value? s style name quoted
      if old.isNone || orEmpty && (old.any List.isEmpty) then
        let value := octetsOf (← pieces .whole true word)
        if isVariable name then Work.assign name value
        else Work.fault (name.toList ++ ": bad variable name".toList)
        let s ← Work.get
        return [valueStretch s name value quoted]
      else return [valueStretch s name (old.getD []) quoted]
  | .demand orEmpty word => do
      let s ← Work.get
      match value? s style name quoted with
      | some value =>
          if orEmpty && value.isEmpty then
            unset name (complaint orEmpty word (octetsOf (← pieces .whole true word)))
          else return [valueStretch s name value quoted]
      | none => unset name (complaint orEmpty word (octetsOf (← pieces .whole true word)))
  | .trim atEnd longest pattern => do
      let s ← Work.get
      match value? s style name quoted with
      | none =>
          if s.options.refusesUnset then unset name "parameter not set".toList
          else return [valueStretch s name [] quoted]
      | some value =>
          let stretches ← pieces .whole true pattern
          let parts := Pattern.read (Glyph.toPattern (stretches.flatMap Stretch.glyphs))
          let value := if atEnd then trimEnd parts longest value else trimStart parts longest value
          return [valueStretch s name value quoted]
  | .bad => Work.fault "Bad substitution".toList
where
  /-- What is said about a parameter without a value, unless a word says it. -/
  complaint (orEmpty : Bool) (word : List Piece) (text : Octets) : Octets :=
    if !word.isEmpty then text
    else "parameter not set".toList ++ (if orEmpty then " or null".toList else [])

end

/-! ## Fields -/

/-- The fields of stretches; fields with pattern signs become names. -/
def fieldsOf (stretches : List Stretch) : Work (List Octets) := do
  let s ← Work.get
  let fields := Field.split s.separators none stretches
  let mayMatch (field : List Glyph) : Bool := Field.mayMatch (Glyph.toPattern field)
  if s.options.keepsPatterns || !fields.any mayMatch then return fields.map Glyph.toOctets
  else
    let files ← Work.files
    return fields.flatMap fun field =>
      if mayMatch field then Field.names files field else [Glyph.toOctets field]

def isLiteral (text : Octets) : Bool :=
  text.head? != some '~' && !Field.mayMatch (text.map fun c => (c, false))

def fields (word : Word) : Work (List Octets) := do
  match word with
  | [.text octets quoted] =>
      if quoted || isLiteral octets then return [octets]
      else fieldsOf (← pieces substitute .argument true word)
  | word => fieldsOf (← pieces substitute .argument true word)

def single (style : Style) (word : Word) : Work Octets := do
  return octetsOf (← pieces substitute style true word)

def pattern (word : Word) : Work (List PatternPart) := do
  let stretches ← pieces substitute .whole true word
  return Pattern.read (Glyph.toPattern (stretches.flatMap Stretch.glyphs))

def hereText (word : Word) : Work Octets := single substitute .plain word

end Expansion

end Clausal.Shell
