import Clausal.Format
import Clausal.Text.Utf8
import Clausal.Text.Split

/-!
# Paths

A path is kept as written, as bytes.  Its components leave out empty parts and the dots that
say nothing, which is every dot but a leading one; paths are ordered by their components.
-/

namespace Clausal

open Text (Octets)

/-- The name of an entry in a folder. -/
abbrev Name := Octets

structure Path where
  octets : Octets
  deriving DecidableEq, Repr

namespace Path

def ofString (text : String) : Path := ⟨Octets.ofString text⟩

/-- The path as text, in which malformed parts are marked. -/
def shown (path : Path) : String := Octets.toText path.octets

inductive Component where
  | root
  | here
  | parent
  | name (name : Name)
  deriving DecidableEq, Repr

namespace Component

def rank : Component → Nat
  | root => 0
  | here => 1
  | parent => 2
  | name _ => 3

def lt : Component → Component → Bool
  | name a, name b => decide (a < b)
  | a, b => decide (a.rank < b.rank)

end Component

def isAbsolute (path : Path) : Bool := path.octets.head? == some '/'

def parts (path : Path) : List Octets := Text.split (· = '/') path.octets

/-- What a part stands for after the first; empty parts and dots stand for nothing. -/
def laterComponent? (part : Octets) : Option Component :=
  if part = [] ∨ part = ['.'] then none
  else if part = ['.', '.'] then some .parent
  else some (.name part)

def components (path : Path) : List Component :=
  match path.parts with
  | [] => []
  | first :: rest =>
      let start :=
        if path.isAbsolute then [.root]
        else if first = ['.'] then [.here]
        else (laterComponent? first).toList
      start ++ rest.filterMap laterComponent?

/-- Whether the first list of components comes before the second, or is its beginning. -/
def componentsLe : List Component → List Component → Bool
  | [], _ => true
  | _ :: _, [] => false
  | a :: as, b :: bs => if a = b then componentsLe as bs else a.lt b

def le (a b : Path) : Bool := componentsLe a.components b.components

/-- A second path that is absolute stands for itself. -/
def join (base path : Path) : Path :=
  if path.isAbsolute then path
  else if base.octets = [] ∨ base.octets.getLast? = some '/' then ⟨base.octets ++ path.octets⟩
  else ⟨base.octets ++ '/' :: path.octets⟩

/-- The last component, if it is a name. -/
def fileName? (path : Path) : Option Name :=
  match path.components.getLast? with
  | some (.name name) => some name
  | _ => none

/-- What follows the last dot of a name, unless that dot starts the name. -/
def extensionOf? (name : Name) : Option Octets :=
  match Text.splitOnce? (· = '.') name.reverse with
  | some (after, before) => if before = [] then none else some after.reverse
  | none => none

def extension? (path : Path) : Option Octets := path.fileName?.bind extensionOf?

def format? (path : Path) : Option Format :=
  path.extension?.bind fun ending => Format.ofExtension? (Octets.toText ending)

/-- Whether a directory stands before the last component. -/
def hasParent (path : Path) : Bool := decide (2 ≤ path.components.length)

/-- The path without slashes at its end, unless there is nothing else. -/
def withoutSlashes (path : Path) : Path :=
  let bare := (path.octets.reverse.dropWhile (· = '/')).reverse
  if bare = [] then path else ⟨bare⟩

theorem componentsLe_refl (cs : List Component) : componentsLe cs cs = true := by
  induction cs with
  | nil => rfl
  | cons c cs ih => simp [componentsLe, ih]

theorem le_refl (path : Path) : path.le path = true := componentsLe_refl _

theorem join_absolute {path : Path} (h : path.isAbsolute = true) (base : Path) :
    base.join path = path := by
  simp [join, h]

end Path

end Clausal
