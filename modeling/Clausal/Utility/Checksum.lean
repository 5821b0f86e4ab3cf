import Clausal.Text.Digest
import Clausal.Utility.Basic

/-!
# Checksums

Utilities that show the digests of files, and compare them with digests that were written
down.
-/

namespace Clausal.Utility

open Machine (Action Task)
open Text (Octets)

/-- A digest that a utility shows. -/
structure Checksum where
  tag : String
  digest : Array UInt8 → List UInt8
  digits : Nat

namespace Checksum

def all : List (String × Checksum) :=
  [("md5", ⟨"MD5", Text.Digest.md5, 32⟩), ("sha1", ⟨"SHA1", Text.Digest.sha1, 40⟩),
    ("sha224", ⟨"SHA224", Text.Digest.sha224, 56⟩), ("sha256", ⟨"SHA256", Text.Digest.sha256, 64⟩),
    ("sha384", ⟨"SHA384", Text.Digest.sha384, 96⟩), ("sha512", ⟨"SHA512", Text.Digest.sha512, 128⟩)]

def hexDigit (n : Nat) : Char := Char.ofNat (if n < 10 then '0'.toNat + n else 'a'.toNat + n - 10)

def of (c : Checksum) (octets : Octets) : Octets :=
  (c.digest (Text.Octets.toBytes octets).toArray).flatMap fun byte =>
    [hexDigit (byte.toNat / 16), hexDigit (byte.toNat % 16)]

/-- A name in which the characters that would end a line are escaped. -/
def escaped (file : Octets) : Octets :=
  file.flatMap fun c =>
    if c = '\\' then ['\\', '\\'] else if c = '\n' then ['\\', 'n']
    else if c = '\r' then ['\\', 'r'] else [c]

def unescaped : Octets → Octets
  | '\\' :: 'n' :: rest => '\n' :: unescaped rest
  | '\\' :: 'r' :: rest => '\r' :: unescaped rest
  | '\\' :: c :: rest => c :: unescaped rest
  | c :: rest => c :: unescaped rest
  | [] => []

def line (c : Checksum) (isTagged isBinary endsZero : Bool) (file digits : Octets) : Octets :=
  let name := if endsZero then file else escaped file
  let mark : Octets := if name = file then [] else ['\\']
  let body := if isTagged then c.tag.toList ++ " (".toList ++ name ++ ") = ".toList ++ digits
    else digits ++ [' ', if isBinary then '*' else ' '] ++ name
  mark ++ body ++ [if endsZero then '\x00' else '\n']

/-! ## Comparing -/

def readLine? (c : Checksum) (written : Octets) : Option (Octets × Octets) :=
  let written := written.dropWhile fun d => d = ' ' || d = '\t'
  let (hasEscapes, written) := match written with
    | '\\' :: rest => (true, rest)
    | written => (false, written)
  let isHex (d : Char) : Bool := d.isDigit || 'a' ≤ d && d ≤ 'f' || 'A' ≤ d && d ≤ 'F'
  let name (octets : Octets) : Octets := if hasEscapes then unescaped octets else octets
  let opening := c.tag.toList ++ " (".toList
  if opening.isPrefixOf written then
    let closing := ") = ".toList
    let (digits, before) := ((written.drop opening.length).reverse).span isHex
    if digits.length = c.digits && closing.reverse.isPrefixOf before then
      some (digits.reverse, name ((before.drop closing.length).reverse))
    else none
  else
    let (digits, rest) := written.span isHex
    match rest with
    | ' ' :: d :: file =>
        if digits.length != c.digits || file.isEmpty then none
        else if d = ' ' || d = '*' then some (digits, name file) else some (digits, name (d :: file))
    | _ => none

/-- What comparing came to so far. -/
structure Tally where
  good : Nat
  malformed : Nat
  unread : Nat
  different : Nat
  out : Outlet

def plural (n : Nat) (one many : String) : Octets :=
  "WARNING: ".toList ++ shown n ++ [' '] ++ (if n = 1 then one else many).toList

def compareLine (c : Checksum) (tool : String) (a : Arguments) (list : Octets)
    (t : Tally × Nat) (written : Octets) : Action (Tally × Nat) := do
  let (t, number) := (t.1, t.2 + 1)
  if written.isEmpty || written.head? = some '#' then return (t, number)
  else
    match c.readLine? written with
    | none =>
        let out ← t.out.flush
        if a.has "w" then
          complain tool (list ++ ": ".toList ++ shown number ++ ": improperly formatted ".toList ++
            c.tag.toList ++ " checksum line".toList)
        return ({ t with out, malformed := t.malformed + 1 }, number)
    | some (digits, file) =>
        let say (out : Outlet) (verdict : String) : Action Outlet :=
          if a.has "status" then pure out
          else
            let name := escaped file
            out.put ((if name = file then [] else ['\\']) ++ name ++ ": ".toList ++
              verdict.toList ++ ['\n'])
        match ← fileContents file with
        | .error failure =>
            if a.has "missing" && failure = .file .notFound then return (t, number)
            else
              let out ← t.out.flush
              complainOf tool file failure
              return ({ t with out := ← say out "FAILED open or read", unread := t.unread + 1 }, number)
        | .ok octets =>
            if c.of octets = digits.map Char.toLower then
              let out ← if a.has "quiet" then pure t.out else say t.out "OK"
              return ({ t with out, good := t.good + 1 }, number)
            else
              return ({ t with out := ← say t.out "FAILED", different := t.different + 1 }, number)

def compareList (c : Checksum) (tool : String) (a : Arguments) (file : Octets) : Action Bool := do
  let list : Octets := if file = ['-'] then "'standard input'".toList else shownName file
  match ← fileContents file with
  | .error failure =>
      complainOf tool file failure
      return false
  | .ok octets =>
      let (t, _) ← (lines octets).foldlM (c.compareLine tool a list) (⟨0, 0, 0, 0, .empty⟩, 0)
      let _ ← t.out.flush
      if t.good + t.unread + t.different = 0 && !(a.has "missing" && t.malformed = 0) then
        complain tool (list ++ ": no properly formatted checksum lines found".toList)
        return false
      else
        if !a.has "status" then
          if t.malformed != 0 then
            complain tool (plural t.malformed "line is improperly formatted"
              "lines are improperly formatted")
          if t.unread != 0 then
            complain tool (plural t.unread "listed file could not be read"
              "listed files could not be read")
          if t.different != 0 then
            complain tool (plural t.different "computed checksum did NOT match"
              "computed checksums did NOT match")
          if a.has "missing" && t.good + t.different + t.unread = 0 then
            complain tool (list ++ ": no file was verified".toList)
        return t.unread = 0 && t.different = 0 && !(a.has "strict" && t.malformed != 0) &&
          t.good + t.different != 0

def switches : List Switch :=
  [.flag "b" "binary", .flag "t" "text", .flag "c" "check", .flag "z" "zero", .flag "tag" "tag",
    .flag "untagged" "untagged", .flag "missing" "ignore-missing", .flag "quiet" "quiet",
    .flag "status" "status", .flag "strict" "strict", .flag "w" "warn"]

def run (c : Checksum) (tool : String) (a : Arguments) (isTagged : Bool) : Action Nat := do
  if a.has "c" then
    let results ← (inputs a.operands).mapM (c.compareList tool a)
    return if results.all id then 0 else 1
  else
    let (out, isFine) ← (inputs a.operands).foldlM (fun (out, isFine) file => do
      match ← fileContents file with
      | .error failure =>
          let out ← out.flush
          complainOf tool file failure
          return (out, false)
      | .ok octets =>
          let isBinary := a.last? ["b", "t"] = some "b"
          let out ← out.put (c.line isTagged isBinary (a.has "z") file (c.of octets))
          return (out, isFine)) (Outlet.empty, true)
    out.finish tool (if isFine then 0 else 1)

end Checksum

def checksum (name key : String) : Tool := fun arguments _ =>
  withArguments name Checksum.switches 1 arguments fun a =>
    match Checksum.all.lookup key with
    | some c => c.run name a (a.has "tag")
    | none => return 1

/-- How the short sums are shown. -/
inductive ShortSum where
  | remainder
  | turned
  | plain
  deriving DecidableEq, Repr

namespace ShortSum

def text (s : ShortSum) (octets : Octets) : Octets :=
  let bytes := (Text.Octets.toBytes octets).toArray
  let blocks (size : Nat) : Nat := (bytes.size + size - 1) / size
  match s with
  | .remainder => shown (Text.Digest.remainder bytes).toNat ++ ' ' :: shown bytes.size
  | .turned =>
      let digits := shown (Text.Digest.turnedSum bytes)
      List.replicate (5 - digits.length) '0' ++ digits ++ ' ' :: padLeft 5 (shown (blocks 1024))
  | .plain => shown (Text.Digest.plainSum bytes) ++ ' ' :: shown (blocks 512)

def run (s : ShortSum) (tool : String) (files : List Octets) : Action Nat := do
  let (out, isFine) ← (inputs files).foldlM (fun (out, isFine) file => do
    match ← fileContents file with
    | .error failure =>
        let out ← out.flush
        complainOf tool file failure
        return (out, false)
    | .ok octets =>
        let name := if files.isEmpty then [] else ' ' :: file
        let out ← out.put (s.text octets ++ name ++ ['\n'])
        return (out, isFine)) (Outlet.empty, true)
  out.finish tool (if isFine then 0 else 1)

end ShortSum

def sum : Tool := fun arguments _ =>
  withArguments "sum" [.flag "r" "", .flag "s" "sysv"] 1 arguments fun a =>
    (if a.last? ["r", "s"] = some "s" then ShortSum.plain else .turned).run "sum" a.operands

def cksum : Tool := fun arguments _ =>
  withArguments "cksum" (.setting "a" "algorithm" :: Checksum.switches) 1 arguments fun a =>
    match a.value? "a" with
    | none => ShortSum.remainder.run "cksum" a.operands
    | some value =>
        match text value with
        | "crc" => ShortSum.remainder.run "cksum" a.operands
        | "bsd" => ShortSum.turned.run "cksum" a.operands
        | "sysv" => ShortSum.plain.run "cksum" a.operands
        | name =>
            match Checksum.all.lookup name with
            | some c => c.run "cksum" a (!a.has "untagged")
            | none => do
                complain "cksum" ("invalid argument ".toList ++ quoted value ++
                  " for '--algorithm'\nValid arguments are:".toList)
                report ((["bsd", "sysv", "crc"] ++ Checksum.all.map Prod.fst ++ ["blake2b", "sm3"]).flatMap
                  fun name => s!"  - '{name}'\n".toList)
                suggestHelp "cksum" 1

end Clausal.Utility
