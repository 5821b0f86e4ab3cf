import Clausal.Text.ByteClass
import Clausal.Utility.Basic

/-!
# Translating characters

A set is written as characters, ranges and named classes.  The characters of one set become
those of another at the same places, or are deleted, or repeats of them are squeezed into one.
-/

namespace Clausal.Utility

open Machine (Action Task)
open Text (Octets)

namespace Translation

/-- A character as written, and whether a backslash took away what it means. -/
structure Sign where
  char : Char
  isBare : Bool
  deriving DecidableEq, Repr

namespace Sign

def isMark (s : Sign) (c : Char) : Bool := s.isBare && s.char = c

end Sign

def control? : Char → Option Char
  | 'a' => some '\x07'
  | 'b' => some '\x08'
  | 'f' => some '\x0c'
  | 'n' => some '\n'
  | 'r' => some '\r'
  | 't' => some '\t'
  | 'v' => some '\x0b'
  | '\\' => some '\\'
  | _ => none

def isOctal (c : Char) : Bool := '0' ≤ c && c ≤ '7'

def octalValue (digits : Octets) : Nat :=
  digits.foldl (fun value c => 8 * value + (c.toNat - '0'.toNat)) 0

def readSigns : Nat → Octets → List Sign × List String
  | 0, _ => ([], [])
  | rounds + 1, octets =>
      match octets with
      | [] => ([], [])
      | ['\\'] =>
          ([⟨'\\', true⟩], ["warning: an unescaped backslash at end of string is not portable"])
      | '\\' :: c :: rest =>
          if isOctal c then
            let digits := (c :: rest).takeWhile isOctal |>.take 3
            let isTooBig := 255 < octalValue digits
            let used := if isTooBig then digits.take 2 else digits
            let (signs, warnings) := readSigns rounds ((c :: rest).drop used.length)
            let warning :=
              "warning: the ambiguous octal escape \\" ++ String.ofList digits ++
                " is being\n\tinterpreted as the 2-byte sequence \\0" ++ String.ofList used ++
                ", " ++ String.ofList (digits.drop 2)
            (⟨Char.ofNat (octalValue used), false⟩ :: signs,
              if isTooBig then warning :: warnings else warnings)
          else
            let (signs, warnings) := readSigns rounds rest
            (⟨(control? c).getD c, false⟩ :: signs, warnings)
      | c :: rest =>
          let (signs, warnings) := readSigns rounds rest
          (⟨c, true⟩ :: signs, warnings)

inductive Element where
  | char (c : Char)
  | range (first last : Char)
  | class_ (name : String) (members : Octets)
  | same (c : Char)
  /-- So many times; as often as needed if there is no number. -/
  | repeated (c : Char) (count : Nat)
  deriving DecidableEq, Repr

def allChars : Octets := (List.range 256).map Char.ofNat

namespace Element

def members : Element → Octets
  | char c => [c]
  | range first last =>
      (List.range (last.toNat + 1 - first.toNat)).map fun n => Char.ofNat (first.toNat + n)
  | class_ _ members => members
  | same c => [c]
  | repeated c count => List.replicate count c

def isClass : Element → Bool
  | class_ .. => true
  | _ => false

def isCase : Element → Bool
  | class_ name _ => name = "upper" || name = "lower"
  | _ => false

def isOpen : Element → Bool
  | repeated _ 0 => true
  | _ => false

end Element

def charsOf (signs : List Sign) : Octets := signs.map Sign.char

def isRepeatEnd : List Sign → Bool
  | star :: rest =>
      star.isMark '*' &&
        ((rest.dropWhile fun s => s.isBare && s.char.isDigit).head?.any fun s => s.isMark ']')
  | [] => false

def readDelimited (delimiter : Char) : List Sign → List Sign → Option (List Sign × List Sign)
  | taken, a :: b :: rest =>
      if a.isMark delimiter && b.isMark ']' then some (taken.reverse, rest)
      else readDelimited delimiter (a :: taken) (b :: rest)
  | _, _ => none

def shownChar (c : Char) : Octets := if isPlain c then [c] else escapeByte c

def readRepeat? : List Sign → Except Octets (Option (Element × List Sign))
  | c :: star :: rest =>
      if !star.isMark '*' then .ok none
      else
        let (digits, after) := rest.span fun s => s.isBare && s.char != ']'
        match after with
        | close :: after =>
            if !close.isMark ']' then .ok none
            else
              let text := charsOf digits
              let value? :=
                if text.head? = some '0' then
                  if text.all isOctal then some (octalValue text) else none
                else if text.isEmpty then some 0 else Text.readDigits? text
              match value? with
              | some count => .ok (some (.repeated c.char count, after))
              | none =>
                  .error ("invalid repeat count ".toList ++ quoted text ++
                    " in [c*n] construct".toList)
        | [] => .ok none
  | _ => .ok none

/-- A class, an equivalence or a repeat in brackets; the bracket was read. -/
def readBracket? (rest : List Sign) : Except Octets (Option (Element × List Sign)) := do
  let delimiter? := rest.head?.bind fun s =>
    if s.isMark ':' then some ':' else if s.isMark '=' then some '=' else none
  match delimiter?.bind fun d => (readDelimited d [] (rest.drop 1)).map fun found => (d, found) with
  | none => readRepeat? rest
  | some (delimiter, inside, after) =>
      let name := charsOf inside
      let isRepeat := isRepeatEnd (rest.drop 1)
      if delimiter = ':' then
        if name.isEmpty then throw "missing character class name '[::]'".toList
        else
          match Text.classMember? (String.ofList name) with
          | some isMember =>
              return some (.class_ (String.ofList name) (allChars.filter isMember), after)
          | none =>
              if isRepeat then readRepeat? rest
              else throw ("invalid character class ".toList ++ quoted name)
      else
        match name with
        | [] => throw "missing equivalence class character '[==]'".toList
        | [c] => return some (.same c, after)
        | name =>
            if isRepeat then readRepeat? rest
            else throw (name ++ ": equivalence class operand must be a single character".toList)

def readElements : Nat → List Sign → Except Octets (List Element)
  | 0, _ => return []
  | rounds + 1, signs => do
      match signs with
      | a :: b :: c :: rest =>
          let bracketed ← if a.isMark '[' then readBracket? (b :: c :: rest) else pure none
          match bracketed with
          | some (element, after) => return element :: (← readElements rounds after)
          | none =>
              if b.isMark '-' then
                if c.char < a.char then
                  throw ("range-endpoints of '".toList ++ shownChar a.char ++ '-' ::
                    shownChar c.char ++ "' are in reverse collating sequence order".toList)
                else return .range a.char c.char :: (← readElements rounds rest)
              else return .char a.char :: (← readElements rounds (b :: c :: rest))
      | signs => return signs.map fun s => .char s.char

def lengthOf (elements : List Element) : Nat :=
  elements.foldl (fun size element => size + element.members.length) 0

def membersOf (elements : List Element) : Octets := elements.flatMap Element.members

def fillTo (length : Nat) (elements : List Element) : List Element :=
  let missing := length - lengthOf elements
  elements.map fun
    | .repeated c 0 => .repeated c missing
    | element => element

def caseStarts (elements : List Element) : List Nat :=
  (elements.foldl (fun (size, starts) element =>
    (size + element.members.length, if element.isCase then size :: starts else starts))
    (0, ([] : List Nat))).2

/-- What is asked for. -/
structure Request where
  complements : Bool
  deletes : Bool
  squeezes : Bool
  truncates : Bool
  deriving DecidableEq, Repr

def checkTarget (r : Request) (source : List Element) (members : Octets)
    (target : List Element) : Except Octets Octets := do
  if 1 < (target.filter Element.isOpen).length then
    throw "only one [c*] repeat construct may appear in string2".toList
  let filled := fillTo members.length target
  if r.deletes then
    if target.any Element.isOpen then
      throw "the [c*] construct may appear in string2 only when translating".toList
    return membersOf target
  if target.any fun element => element matches .same _ then
    throw "[=c=] expressions may not appear in string2 when translating".toList
  if target.any fun element => element.isClass && !element.isCase then
    throw ("when translating, the only character classes that may appear in\n" ++
      "string2 are 'upper' and 'lower'").toList
  let starts := caseStarts source
  if !r.complements && (caseStarts filled).any fun start => !starts.contains start then
    throw "misaligned [:upper:] and/or [:lower:] construct".toList
  let image := membersOf filled
  let image ←
    if image.length < members.length && !r.truncates then
      match image.getLast?, filled.getLast? with
      | none, _ => throw "when not truncating set1, string2 must be non-empty".toList
      | some last, some element =>
          if element.isClass then
            throw ("when translating with string1 longer than string2,\n" ++
              "the latter string must not end with a character class").toList
          else pure (image ++ List.replicate (members.length - image.length) last)
      | some _, none => pure image
    else pure image
  if r.complements && source.any Element.isClass &&
      !(image.length = members.length && image.all fun c => image.head? = some c) then
    throw ("when translating with complemented character classes,\n" ++
      "string2 must map all characters in the domain to one").toList
  return image

/-- What each character becomes; the last of its places counts. -/
def imageTable (members image : Octets) : Array Char :=
  (members.zip image).foldl (fun table (c, d) => table.setIfInBounds c.toNat d) allChars.toArray

/-- How characters are passed on: those of one set are left out, the rest is replaced, and of
neighbours in another set only the first stays. -/
structure Plan where
  dropped : Text.ByteSet
  image : Array Char
  squeezed : Text.ByteSet

/-- Passes on a piece, given the character before it; what is written comes last first. -/
def Plan.apply (p : Plan) : Option Char → Octets → Octets → Option Char × Octets
  | before, written, [] => (before, written)
  | before, written, c :: rest =>
      if p.dropped.has c then p.apply before written rest
      else
        let d := p.image.getD c.toNat c
        if before = some d && p.squeezed.has d then p.apply before written rest
        else p.apply (some d) (d :: written) rest

def setOf (members : Octets) : Text.ByteSet :=
  ⟨members.foldl (fun table c => table.setIfInBounds c.toNat true) (Array.replicate 256 false)⟩

def plan (r : Request) (first : List Element) (second : Option (List Element)) :
    Except Octets Plan := do
  if first.any Element.isOpen then
    throw "the [c*] repeat construct may not appear in string1".toList
  let listed := membersOf first
  let listedSet := setOf listed
  let members := if r.complements then allChars.filter fun c => !listedSet.has c else listed
  let nothing := Text.ByteSet.empty
  match second with
  | none =>
      if r.deletes then return ⟨setOf members, allChars.toArray, nothing⟩
      else return ⟨nothing, allChars.toArray, setOf members⟩
  | some second =>
      let image ← checkTarget r first members second
      if r.deletes then return ⟨setOf members, allChars.toArray, setOf image⟩
      else
        return ⟨nothing, imageTable members image, if r.squeezes then setOf image else nothing⟩

end Translation

def trSwitches : List Switch :=
  [.flag "c" "complement", .flag "C" "", .flag "d" "delete", .flag "s" "squeeze-repeats",
    .flag "t" "truncate-set1"]

def tr : Tool := fun arguments _ => do
  match Arguments.readFront trSwitches arguments with
  | .error wrong => misuse "tr" wrong.complaint 1
  | .ok a =>
      let r : Translation.Request := ⟨a.hasAny ["c", "C"], a.has "d", a.has "s", a.has "t"⟩
      let least := if r.deletes == r.squeezes then 2 else 1
      let most := if r.deletes && !r.squeezes then 1 else 2
      let refuse (complaint : Octets) (note : String) : Action Nat := do
        complain "tr" complaint
        if note != "" then report (note ++ "\n").toList
        suggestHelp "tr" 1
      match a.operands with
      | [] => misuse "tr" "missing operand".toList 1
      | first :: more =>
          if a.operands.length < least then
            refuse ("missing operand after ".toList ++ quoted first)
              (if r.squeezes then
                "Two strings must be given when both deleting and squeezing repeats."
              else "Two strings must be given when translating.")
          else if most < a.operands.length then
            refuse ("extra operand ".toList ++ quoted (a.operands.getD most []))
              (if a.operands.length = 2 then
                "Only one string may be given when deleting without squeezing repeats."
              else "")
          else work r first more.head?
where
  readSet (octets : Octets) : Action (Except Octets (List Translation.Element)) := do
    let (signs, warnings) := Translation.readSigns (octets.length + 1) octets
    warnings.forM fun warning => complain "tr" warning.toList
    return Translation.readElements (signs.length + 1) signs
  work (r : Translation.Request) (first : Octets) (second : Option Octets) : Action Nat := do
    let source ← readSet first
    let target ← match source, second with
      | .ok _, some second => (fun found => found.map some) <$> readSet second
      | _, _ => pure (.ok none)
    match do Translation.plan r (← source) (← target) with
    | .error complaint => fail "tr" complaint 1
    | .ok plan =>
        let filter : Filter (Option Char) := {
          piece := fun before octets =>
            let (before, written) := plan.apply before [] octets
            (before, written.reverse)
          isDone := fun _ => false }
        filter.run "tr" [] none fun _ => []

end Clausal.Utility
