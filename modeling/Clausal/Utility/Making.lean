import Clausal.Utility.Tree

/-!
# Special and temporary files

Utilities that make pipes and devices with names, and files whose names are made up.
-/

namespace Clausal.Utility

open Machine (Action Environment Task)
open Text (Octets)

/-! ## Special files -/

def makeSpecialFile (name : String) (mode : Option (List Mode.Change)) (content : Content)
    (file : Octets) : Action Bool := do
  match ← changeFiles fun files => files.makeSpecial ⟨file⟩ content 0o666 with
  | .ok () =>
      mode.forM fun changes => setMode file changes 0o666
      return true
  | .error failure =>
      if name = "mkfifo" then refuse name "cannot create fifo" file failure
      else
        complainOf name file (.file failure)
        return false

def specialSwitches : List Switch :=
  [.setting "m" "mode", .flag "Z" "", .choice "Z" "context"]

def mkfifo : Tool := fun arguments _ =>
  withArguments "mkfifo" specialSwitches 1 arguments fun a =>
    withOperands "mkfifo" 1 a do
      warnOfContext "mkfifo" a
      match ← chosenMode "mkfifo" a with
      | .error () => return 1
      | .ok mode => forEachOperand a.operands (makeSpecialFile "mkfifo" mode .pipe)

/-- A number of a device, in any base that can be written. -/
def deviceNumber? (octets : Octets) : Option Nat :=
  match octets with
  | '0' :: 'x' :: digits | '0' :: 'X' :: digits =>
      if digits.isEmpty then none else digits.foldlM (fun n c =>
        if c.isDigit then some (n * 16 + (c.toNat - '0'.toNat))
        else if 'a' ≤ c.toLower && c.toLower ≤ 'f' then
          some (n * 16 + (c.toLower.toNat - 'a'.toNat + 10))
        else none) 0
  | '0' :: digits =>
      digits.foldlM (fun n c =>
        if '0' ≤ c && c ≤ '7' then some (n * 8 + (c.toNat - '0'.toNat)) else none) 0
  | octets => Text.readDigits? octets

def deviceOf (major minor : Nat) : Device :=
  match major, minor with
  | 1, 5 => .zeros
  | 1, 7 => .full
  | 1, 8 | 1, 9 => .random
  | _, _ => .null

/-- Says what is wrong with operands, with a remark after it. -/
def misuseWith (name : String) (complaint : Octets) (remark : Option String) : Action Nat := do
  complain name complaint
  remark.forM fun remark => report (remark.toList ++ ['\n'])
  suggestHelp name 1

def mknod : Tool := fun arguments _ =>
  withArguments "mknod" specialSwitches 1 arguments fun a => do
    match ← chosenMode "mknod" a with
    | .error () => return 1
    | .ok mode =>
        let operands := a.operands
        let isPipe := (operands.getD 1 []).head? = some 'p'
        let expected := if operands.isEmpty || isPipe then 2 else 4
        match operands.drop expected, operands with
        | extra :: rest, _ =>
            misuseWith "mknod" ("extra operand ".toList ++ quoted extra)
              (if expected = 2 && rest.length = 1 then
                some "Fifos do not have major and minor device numbers." else none)
        | [], [] => misuse "mknod" "missing operand".toList 1
        | [], operands =>
            if operands.length < expected then
              misuseWith "mknod" ("missing operand after ".toList ++
                  quoted (operands.getLast?.getD []))
                (if expected = 4 && operands.length = 2 then
                  some "Special files require major and minor device numbers." else none)
            else
              warnOfContext "mknod" a
              let file := operands.headD []
              let kind := operands.getD 1 []
              let (major, minor) := (operands.getD 2 [], operands.getD 3 [])
              match kind.head?, deviceNumber? major, deviceNumber? minor with
              | some 'p', _, _ => forEachOperand [file] (makeSpecialFile "mknod" mode .pipe)
              | some c, major?, minor? =>
                  if c != 'b' && c != 'c' && c != 'u' then
                    misuse "mknod" ("invalid device type ".toList ++ quoted kind) 1
                  else
                    match major?, minor? with
                    | none, _ =>
                        fail "mknod" ("invalid major device number ".toList ++ quoted major) 1
                    | _, none =>
                        fail "mknod" ("invalid minor device number ".toList ++ quoted minor) 1
                    | some major, some minor =>
                        forEachOperand [file]
                          (makeSpecialFile "mknod" mode (.device (deviceOf major minor)))
              | none, _, _ => misuse "mknod" ("invalid device type ".toList ++ quoted kind) 1

/-! ## Temporary files -/

def nameSigns : Array Char :=
  "ABCDEFGHIJKLMNOPQRSTUVWXYZabcdefghijklmnopqrstuvwxyz0123456789".toList.toArray

def madeUp : Nat → Nat → Octets
  | 0, _ => []
  | count + 1, seed =>
      let next := (seed * 6364136223846793005 + 1442695040888963407) % 18446744073709551616
      nameSigns.getD (next / 4294967296 % 62) 'X' :: madeUp count next

/-- A name of which some letters are made up. -/
structure Template where
  start : Octets
  ending : Octets
  deriving DecidableEq, Repr

namespace Template

def marks (t : Template) : Nat := (t.start.reverse.takeWhile (· = 'X')).length

def text (t : Template) : Octets := t.start ++ t.ending

def fill (t : Template) (seed : Nat) : Octets :=
  t.start.take (t.start.length - t.marks) ++ madeUp t.marks seed ++ t.ending

def complaint (what : String) (octets : Octets) (why : String) : Octets :=
  what.toList ++ escapedQuote octets ++ why.toList

def read (given : Octets) (suffix : Option Octets) : Except Octets Template := do
  let t : Template ←
    match suffix with
    | some suffix =>
        if given.getLast? = some 'X' then pure ⟨given, suffix⟩
        else throw (complaint "with --suffix, template " given " must end in X")
    | none =>
        let after := (given.reverse.takeWhile (· != 'X')).reverse
        if after.length = given.length then pure ⟨given, []⟩
        else pure ⟨given.take (given.length - after.length), after⟩
  if t.ending.contains '/' then
    throw (complaint "invalid suffix " t.ending ", contains directory separator")
  else if t.marks < 3 then throw (complaint "too few X's in template " t.text "")
  else return t

/-- Puts a template below the folder that options and exported names say. -/
def below (t : Template) (a : Arguments) (environment : Environment) : Except Octets Template :=
  let named? := (a.values "p").getLast?.filter fun folder => !folder.isEmpty
  let exported? := (environment.lookup "TMPDIR").filter fun folder => !folder.isEmpty
  let into (folder : Octets) : Template := { t with start := entryOf folder t.start }
  if a.has "t" then
    if t.start.contains '/' then
      .error (complaint "invalid template, " t.text ", contains directory separator")
    else .ok (into ((exported?.or named?).getD "/tmp".toList))
  else if t.start.head? = some '/' then
    .error (complaint "invalid template, " t.text "; with --tmpdir, it may not be absolute")
  else .ok (into ((named?.or exported?).getD "/tmp".toList))

end Template

def mktempSwitches : List Switch :=
  [.flag "d" "directory", .flag "q" "quiet", .flag "u" "dry-run", .setting "suffix" "suffix",
    .setting "p" "", .choice "p" "tmpdir", .flag "t" "", .flag "V" ""]

def mktemp : Tool := fun arguments environment =>
  withArguments "mktemp" mktempSwitches 1 arguments fun a => do
    match a.operands with
    | _ :: _ :: _ => misuse "mktemp" "too many templates".toList 1
    | operands =>
        let template := do
          let t ← Template.read (operands.headD "tmp.XXXXXXXXXX".toList) (a.value? "suffix")
          if operands.isEmpty || a.hasAny ["p", "t"] then t.below a environment else pure t
        match template with
        | .error complaint => fail "mktemp" complaint 1
        | .ok t => attempt a t 64
where
  attempt (a : Arguments) (t : Template) : Nat → Action Nat
    | 0 => return 1
    | rounds + 1 => do
        let fs ← files
        let (self, _) ← (Task.identify : Action _)
        let place := t.fill (self * 1000003 + fs.moment.toNat + rounds)
        match fs.getEntry ⟨place⟩ with
        | .ok _ => attempt a t rounds
        | .error found =>
            let what := if a.has "d" then "directory" else "file"
            let made ← if a.has "u" then
                pure (if found = .notFound then .ok () else .error found)
              else if a.has "d" then makeFolder place (Mode.without 0o700 fs.mask)
              else do
                match ← (Task.openFile ⟨place⟩ .create : Action _) with
                | .ok descriptor =>
                    Task.close descriptor
                    setMode place [] (Mode.without 0o600 fs.mask)
                    pure (.ok ())
                | .error (.file failure) => pure (.error failure)
                | .error _ => pure (.error .notFound)
            match made with
            | .ok () => emit "mktemp" (place ++ ['\n'])
            | .error failure =>
                if a.has "q" then return 1
                else
                  fail "mktemp" (withReason (s!"failed to create {what} via template ".toList ++
                    escapedQuote t.text) (.file failure)) 1

end Clausal.Utility
