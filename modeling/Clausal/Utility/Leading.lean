import Clausal.Utility.Properties

/-!
# Where paths lead

Utilities that say what a path stands for when links are replaced.
-/

namespace Clausal.Utility

open Machine (Action Task)
open Text (Octets)

/-- How much of a path has to be there. -/
inductive Presence where
  | all | allButLast | none
  deriving DecidableEq, Repr

def canonical (fs : FileSystem) (presence : Presence) (path : Octets) :
    Except FileError (List Name) :=
  match presence with
  | .all => do
      let place ← fs.follow ⟨path⟩
      if (fs.node? place).isSome then return place else throw .notFound
  | .allButLast => fs.follow (Path.withoutSlashes ⟨path⟩)
  | .none =>
      match fs.follow ⟨path⟩ with
      | .ok place => .ok place
      | .error failure =>
          if path.isEmpty then .error failure
          else .ok (go (if (⟨path⟩ : Path).isAbsolute then [] else fs.here) (Path.parts ⟨path⟩))
where
  go (place : List Name) : List Octets → List Name
    | [] => place
    | part :: rest =>
        if part.isEmpty || part = ['.'] then go place rest
        else if part = ['.', '.'] then go place.dropLast rest
        else
          let next := place ++ [part]
          match fs.follow ⟨'/' :: ['/'].intercalate next⟩ with
          | .ok found => go found rest
          | .error _ => go next rest

def absolute (place : List Name) : Octets := '/' :: ['/'].intercalate place

/-- How much has to be there, by the last of the options. -/
def presence? (a : Arguments) : Option Presence :=
  (a.last? ["e", "f", "m", "E"]).map fun
    | "e" => .all
    | "m" => .none
    | _ => .allButLast

def readlink : Tool := fun arguments _ =>
  withArguments "readlink"
      [.flag "f" "canonicalize", .flag "e" "canonicalize-existing",
        .flag "m" "canonicalize-missing", .flag "n" "no-newline", .flag "q" "quiet",
        .flag "s" "silent", .flag "v" "verbose", .flag "z" "zero"] 1
      arguments fun a =>
    withOperands "readlink" 1 a do
      if a.has "n" && 1 < a.operands.length then
        complain "readlink" "ignoring --no-newline with multiple arguments".toList
      forEachOperand a.operands fun operand => do
        let fs ← files
        let result : Except FileError Octets :=
          match presence? a with
          | some presence => (canonical fs presence operand).map absolute
          | none => do
              match ← fs.getEntry ⟨operand⟩ with
              | .link target => return target.octets
              | _ => throw .invalid
        match result with
        | .ok found =>
            let ending := if a.has "n" && a.operands.length = 1 then []
              else if a.has "z" then ['\x00'] else ['\n']
            return (← emit "readlink" (found ++ ending)) = 0
        | .error failure =>
            if a.has "v" then complainOf "readlink" operand (.file failure)
            return false

def realpath : Tool := fun arguments _ =>
  withArguments "realpath"
      [.flag "e" "canonicalize-existing", .flag "m" "canonicalize-missing", .flag "E" "canonicalize",
        .flag "q" "quiet", .flag "s" "strip", .flag "s" "no-symlinks", .flag "z" "zero",
        .flag "L" "logical", .flag "P" "physical", .setting "to" "relative-to",
        .setting "base" "relative-base"] 1
      arguments fun a =>
    withOperands "realpath" 1 a do
      let presence := (presence? a).getD .allButLast
      let fs ← files
      let base? := ((a.value? "to").or (a.value? "base")).map (canonical fs presence)
      match base? with
      | some (.error failure) =>
          fail "realpath" (withReason (((a.value? "to").or (a.value? "base")).getD [])
            (.file failure)) 1
      | _ =>
          forEachOperand a.operands fun operand => do
            match (if a.has "s" then plainPlace fs operand else canonical fs presence operand) with
            | .error failure =>
                if !a.has "q" then complainOf "realpath" operand (.file failure)
                return false
            | .ok place =>
                let written := match base? with
                  | some (.ok base) =>
                      if a.has "base" && !a.has "to" && !base.isPrefixOf place then absolute place
                      else relativePath base place
                  | _ => absolute place
                return (← emit "realpath" (written ++ [if a.has "z" then '\x00' else '\n'])) = 0
where
  plainPlace (fs : FileSystem) (path : Octets) : Except FileError (List Name) :=
    if path.isEmpty then .error .notFound
    else
      let start := if (⟨path⟩ : Path).isAbsolute then [] else fs.here
      .ok ((Path.parts ⟨path⟩).foldl (fun place part =>
        if part.isEmpty || part = ['.'] then place
        else if part = ['.', '.'] then place.dropLast
        else place ++ [part]) start)

def pwd : Tool := fun arguments environment =>
  withArguments "pwd" [.flag "L" "logical", .flag "P" "physical"] 1 arguments fun a => do
    let fs ← files
    let logical? := (environment.lookup "PWD").filter fun path =>
      a.last? ["L", "P"] = some "L" && path.head? = some '/' &&
        (fs.follow ⟨path⟩).toOption = some fs.here
    emit "pwd" (logical?.getD (absolute fs.here) ++ ['\n'])

end Clausal.Utility
