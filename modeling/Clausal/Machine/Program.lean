import Clausal.Machine.Account
import Clausal.Machine.Task

/-!
# Programs

The machine's own programs are files that start with a mark and their name.  Other programs
are scripts, whose first line says which program reads them.
-/

namespace Clausal.Machine

open Text (Octets)

abbrev Load := String → List Octets → Environment → Option Task

def programMark : List UInt8 := [0x7f, 0x45, 0x4c, 0x46, 2, 1, 1, 0, 0x20]

def programBody (name : String) : FileBody :=
  .ofBytes (programMark ++ Text.encode name).toArray 0o755

def firstLineLimit : Nat := 256

/-- The words of the first line of a script after its mark.  A zero byte ends a word; a line
that is too long is cut, unless that would cut the program's name. -/
def interpreter? (contents : List UInt8) : Option (Octets × List Octets) :=
  match contents.take firstLineLimit with
  | 0x23 :: 0x21 :: rest =>
      let isGap (c : Char) : Bool := c = ' ' || c = '\t'
      let seen := Text.Octets.ofBytes rest
      let line :=
        if seen.contains '\n' then
          (((seen.takeWhile (· != '\n')).reverse).dropWhile isGap).reverse.dropWhile isGap
        else (seen.take (firstLineLimit - 3)).dropWhile isGap
      let (program, rest) := line.span fun c => !isGap c && c != '\x00'
      let isCut := !seen.contains '\n' && firstLineLimit ≤ contents.length && rest.isEmpty
      let argument := if rest.head? = some '\x00' then [] else
        (rest.dropWhile isGap).takeWhile (· != '\x00')
      if isCut || program.isEmpty && seen.contains '\n' && rest.isEmpty then none
      else some (program, if argument.isEmpty then [] else [argument])
  | _ => none

/-- A machine's own program and the arguments it is given, its name first. -/
structure Program where
  name : String
  arguments : List Octets

namespace Program

/-- The program at a path; a script leads to the program that reads it. -/
def find (files : FileSystem) : Nat → Path → List Octets → Except FileError Program
  | 0, _, _ => .error .tooManyLinks
  | depth + 1, path, arguments => do
      match ← files.get path with
      | .folder .. | .link _ => throw .notAllowed
      | .file id =>
          let body := files.body id
          if !body.isExecutable || !body.isPlain then throw .notAllowed
          let start := (body.bytes.extract 0 firstLineLimit.succ).toList
          if start.take programMark.length = programMark then
            return ⟨Text.decodeLossy (start.drop programMark.length), arguments⟩
          match interpreter? start with
          | none => throw .notProgram
          | some (interpreter, extra) =>
              if interpreter.isEmpty then throw .notAllowed
              find files depth ⟨interpreter⟩
                (interpreter :: extra ++ path.octets :: arguments.tail)

def scriptDepth : Nat := 6

def folders : List (List String) := [["bin"], ["usr", "bin"]]

def searchPath : String := "/usr/local/sbin:/usr/local/bin:/usr/sbin:/usr/bin:/sbin:/bin"

def namesOf (parts : List String) : List Name := parts.map Text.Octets.ofString

def devices : List (String × Device) :=
  [("null", .null), ("zero", .zeros), ("full", .full), ("random", .random),
    ("urandom", .random)]

/-- Folders that are there from the start, with the bits that say who may use them. -/
def plainFolders : List (List String × Nat) :=
  [(["tmp"], 0o1777), (["root"], 0o700), (["home"], 0o755), (["var"], 0o755),
    (["proc"], 0o555), (["proc", "self"], 0o555), (["sbin"], 0o755)]

def plainFiles : List (List String × String) :=
  [(["etc", "passwd"], Account.userTable),
    (["etc", "group"], Account.groupTable),
    (["etc", "hostname"], "localhost\n"),
    (["etc", "hosts"], "127.0.0.1\tlocalhost\n"),
    (["proc", "self", "comm"], ""),
    (["proc", "self", "cmdline"], "")]

def install (names : List String) (files : FileSystem) : FileSystem :=
  let files := folders.foldl (fun files folder =>
    names.foldl (fun files name =>
      files.placeFile (namesOf (folder ++ [name])) (programBody name)) files) files
  let files := devices.foldl (fun files (name, device) =>
    files.placeFile (namesOf ["dev", name]) ⟨.device device, .plain 0o666 0⟩) files
  let files := plainFolders.foldl (fun files (folder, mode) =>
    files.place (namesOf folder) (.folder (.plain mode files.moment) [])) files
  plainFiles.foldl (fun files (place, text) =>
    files.placeFile (namesOf place) (.ofBytes (Text.encode text).toArray 0o644)) files

def search (files : FileSystem) (folders : Octets) (name : Octets) : Except FileError Path :=
  let paths := (Text.split (· = ':') folders).map fun folder =>
    if folder.isEmpty then (⟨name⟩ : Path) else ⟨folder ++ '/' :: name⟩
  match paths.find? files.isProgram with
  | some path => .ok path
  | none =>
      if paths.any files.contains then .error .notAllowed else .error .notFound

end Program

end Clausal.Machine
