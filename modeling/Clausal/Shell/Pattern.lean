import Clausal.Text.ByteClass

/-!
# Shell patterns

A pattern is matched against a whole text: a star stands for any characters, a question mark
for one, brackets for one of a set.  Characters that are flagged as quoted stand for
themselves, and so does a character after a backslash.
-/

namespace Clausal.Shell

open Text (Octets classMember?)

inductive SetPart where
  | range (low high : Char)
  | named (name : String)
  deriving DecidableEq, Repr

def SetPart.admits (part : SetPart) (c : Char) : Bool :=
  match part with
  | range low high => low ≤ c && c ≤ high
  | named name =>
      match classMember? name with
      | some isMember => isMember c
      | none => false

inductive PatternPart where
  | exactly (c : Char)
  | anyOne
  | anyMany
  | oneOf (negated : Bool) (set : List SetPart)
  deriving DecidableEq, Repr

namespace PatternPart

def admits (part : PatternPart) (c : Char) : Bool :=
  match part with
  | exactly d => c = d
  | anyOne => true
  | anyMany => false
  | oneOf negated set => (set.any fun part => part.admits c) != negated

end PatternPart

/-- The text itself and what is left of it after each character. -/
def suffixes : Octets → List Octets
  | [] => [[]]
  | c :: rest => (c :: rest) :: suffixes rest

def matchesPattern : List PatternPart → Octets → Bool
  | [], text => text.isEmpty
  | [.anyMany], _ => true
  | .anyMany :: parts, text => (suffixes text).any (matchesPattern parts)
  | part :: parts, c :: text => part.admits c && matchesPattern parts text
  | _ :: _, [] => false

namespace Pattern

abbrev Source := List (Char × Bool)

/-- Reads the name of a set of characters and the bracket that ends it. -/
def readClass? (text : Source) : Option (String × Source) :=
  match text with
  | (':', false) :: rest =>
      let (name, rest) := rest.span fun c => c.1.isAlpha
      match rest with
      | (':', false) :: (']', false) :: rest =>
          let name := String.ofList (name.map Prod.fst)
          if (classMember? name).isSome then some (name, rest) else none
      | _ => none
  | _ => none

def readMember? (text : Source) : Option (Char × Source) :=
  match text with
  | ('\\', false) :: (c, _) :: rest => some (c, rest)
  | (c, _) :: rest => some (c, rest)
  | [] => none

/-- Reads a set up to the bracket that ends it; the first character cannot end it. -/
def readSet : Nat → Bool → List SetPart → Source → Option (List SetPart × Source)
  | 0, _, _, _ => none
  | rounds + 1, isFirst, set, text =>
      match text with
      | [] => none
      | (']', false) :: rest =>
          if isFirst then readMember rounds set ']' rest else some (set.reverse, rest)
      | ('[', false) :: rest =>
          match readClass? rest with
          | some (name, rest) => readSet rounds false (.named name :: set) rest
          | none => readMember rounds set '[' rest
      | text =>
          match readMember? text with
          | some (c, rest) => readMember rounds set c rest
          | none => none
where
  readMember (rounds : Nat) (set : List SetPart) (c : Char) (rest : Source) :
      Option (List SetPart × Source) :=
    match rest with
    | ('-', false) :: (']', false) :: _ => readSet rounds false (.range c c :: set) rest
    | ('-', false) :: bound =>
        match readMember? bound with
        | some (high, rest) => readSet rounds false (.range c high :: set) rest
        | none => none
    | rest => readSet rounds false (.range c c :: set) rest

def parts : Nat → Source → List PatternPart
  | 0, _ => []
  | rounds + 1, text =>
      match text with
      | [] => []
      | ('*', false) :: rest => .anyMany :: parts rounds rest
      | ('?', false) :: rest => .anyOne :: parts rounds rest
      | ('\\', false) :: (c, _) :: rest => .exactly c :: parts rounds rest
      | ('[', false) :: rest =>
          let (negated, inside) :=
            match rest with
            | ('!', false) :: rest => (true, rest)
            | rest => (false, rest)
          match readSet (inside.length + 1) true [] inside with
          | some (set, rest) => .oneOf negated set :: parts rounds rest
          | none => .exactly '[' :: parts rounds rest
      | (c, _) :: rest => .exactly c :: parts rounds rest

def read (text : Source) : List PatternPart := parts text.length text

def isProper (text : Source) : Bool :=
  text.any fun c => c = ('*', false) || c = ('?', false) || c = ('[', false)

end Pattern

end Clausal.Shell
