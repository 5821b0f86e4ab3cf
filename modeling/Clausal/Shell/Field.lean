import Clausal.FileSystem
import Clausal.Shell.Pattern

/-!
# Fields

What a word expands to is cut into fields at separators, though only in those stretches where
values were put in, and then a field with pattern signs is replaced by the names that it
matches.
-/

namespace Clausal.Shell

open Text (Octets)

inductive Glyph where
  | mark
  | char (c : Char) (quoted : Bool)
  deriving DecidableEq, Repr

namespace Glyph

def ofOctets (octets : Octets) (quoted : Bool) : List Glyph := octets.map fun c => .char c quoted

def toOctets (glyphs : List Glyph) : Octets :=
  glyphs.filterMap fun glyph =>
    match glyph with
    | .mark => none
    | .char c _ => some c

def toPattern (glyphs : List Glyph) : Pattern.Source :=
  glyphs.filterMap fun glyph =>
    match glyph with
    | .mark => none
    | .char c quoted => some (c, quoted)

end Glyph

inductive Region where
  | nowhere
  | atSeparators
  | atZeros
  deriving DecidableEq, Repr

structure Stretch where
  region : Region
  glyphs : List Glyph
  deriving DecidableEq, Repr

namespace Field

def isBlank (c : Char) : Bool := c = ' ' || c = '\t' || c = '\n'

/-- A cut that is under way: the finished fields, the one that is being built, both newest
first, and how it goes on. -/
structure Cut where
  fields : List (List Glyph)
  current : List Glyph
  afterBlank : Bool
  remaining : Option Nat
  keeps : Option Nat

namespace Cut

def finishField (cut : Cut) : Cut := { cut with fields := cut.current :: cut.fields, current := [] }

/-- Takes a character of the last field, which is cut only at its end. -/
def addLast (cut : Cut) (glyph : Glyph) (separates blank : Bool) : Cut :=
  let current := glyph :: cut.current
  if separates && blank then
    { cut with current, keeps := some (cut.keeps.getD cut.current.length) }
  else
    { cut with
      current
      keeps := if separates && cut.afterBlank then cut.keeps else none
      afterBlank := false }

def addPlain (cut : Cut) (glyph : Glyph) : Cut :=
  { cut with current := glyph :: cut.current, afterBlank := false }

def addSeparator (cut : Cut) (glyph : Glyph) (blank mayJoin : Bool) : Cut :=
  let cut := { cut with afterBlank := if mayJoin then blank else cut.afterBlank }
  if cut.current.isEmpty && cut.afterBlank then { cut with afterBlank := false }
  else
    match cut.remaining with
    | some (count + 2) => { cut.finishField with remaining := some (count + 1) }
    | some _ =>
        { cut with
          remaining := some 0, keeps := some cut.current.length, current := glyph :: cut.current }
    | none => cut.finishField

def add (separators : Octets) (atZeros mayJoin : Bool) (cut : Cut) (glyph : Glyph) : Cut :=
  match glyph with
  | .mark => cut.addPlain .mark
  | .char c quoted =>
      let isZero := c = '\x00'
      let separates := isZero || !atZeros && separators.contains c
      let blank := separates && (isZero || isBlank c)
      match cut.remaining with
      | some 0 => cut.addLast (.char c quoted) separates blank
      | _ =>
          if cut.afterBlank then
            if separates then
              if blank then { cut with current := [] }
              else { cut with current := [], afterBlank := false }
            else cut.addPlain (.char c quoted)
          else if separates then cut.addSeparator (.char c quoted) blank mayJoin
          else cut.addPlain (.char c quoted)

/-- Takes a stretch; the flag says whether the one before was cut at zeros. -/
def addStretch (separators : Octets) (cut : Cut × Bool) (stretch : Stretch) : Cut × Bool :=
  match stretch.region with
  | .nowhere => ({ cut.1 with current := stretch.glyphs.reverse ++ cut.1.current }, cut.2)
  | region =>
      let atZeros := decide (region = .atZeros)
      let mayJoin := !(cut.2 || atZeros)
      (stretch.glyphs.foldl (add separators atZeros mayJoin) { cut.1 with afterBlank := false },
        atZeros)

end Cut

def split (separators : Octets) (bound : Option Nat) (stretches : List Stretch) :
    List (List Glyph) :=
  let (cut, atZeros) :=
    stretches.foldl (Cut.addStretch separators) (⟨[], [], false, bound, none⟩, false)
  let last :=
    match cut.keeps with
    | some count => cut.current.drop (cut.current.length - count)
    | none => cut.current
  let fields := if last.isEmpty && !atZeros then cut.fields else last :: cut.fields
  (fields.map List.reverse).reverse

/-! ## Names -/

def components (pattern : Pattern.Source) : List Pattern.Source :=
  Text.split (fun c => c.1 = '/') pattern

def namesIn (files : FileSystem) (folder : Octets) : List Octets :=
  match files.names ⟨if folder.isEmpty then ['.'] else folder⟩ with
  | .ok names => ['.'] :: ['.', '.'] :: names
  | .error _ => []

def matching (files : FileSystem) : Octets → List Pattern.Source → List Octets
  | before, [] => if (files.getEntry ⟨before⟩).isOk then [before] else []
  | before, component :: rest =>
      let go (name : Octets) : List Octets :=
        matching files (before ++ name ++ (if rest.isEmpty then [] else ['/'])) rest
      if Pattern.isProper component then
        let parts := Pattern.read component
        let startsWithDot := component.head?.any fun c => c.1 = '.'
        let names := (namesIn files before).filter fun name =>
          (startsWithDot || name.head? != some '.') && matchesPattern parts name
        names.flatMap go
      else
        go (component.map Prod.fst)

/-- Whether a pattern can match other names than itself: an opened bracket needs a closing
one. -/
def mayMatch : Pattern.Source → Bool
  | [] => false
  | (c, quoted) :: rest =>
      if quoted then mayMatch rest
      else if c = '*' || c = '?' then true
      else if c = '[' && rest.any (· = (']', false)) then true
      else mayMatch rest

def names (files : FileSystem) (field : List Glyph) : List Octets :=
  let pattern := Glyph.toPattern field
  match (matching files [] (components pattern)).mergeSort Octets.le with
  | [] => [Glyph.toOctets field]
  | names => names

end Field

end Clausal.Shell
