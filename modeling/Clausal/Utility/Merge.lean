import Clausal.Utility.Basic

/-!
# Utilities for two sorted files

They go through two files side by side and tell what is in one of them or in both.
-/

namespace Clausal.Utility

open Machine (Action Descriptor Environment Failure Task)
open Text (Octets)

/-! ## Common lines -/

inductive Side where
  | first
  | second
  | both
  deriving DecidableEq, Repr

inductive Told (α : Type) where
  | row (a : α)
  | disorder (file : Nat)

/-- The lines of two files in order, each with its side.  Once a line had no partner, files
that are not sorted are noticed, each once. -/
def mergeLines (checks always : Bool) :
    Nat → Bool → Bool → Bool → Octets → Octets → List Octets → List Octets →
      List (Told (Side × Octets)) → List (Told (Side × Octets))
  | 0, _, _, _, _, _, _, _, told => told.reverse
  | rounds + 1, unpaired, noted₁, noted₂, last₁, last₂, first, second, told =>
      let go := mergeLines checks always rounds
      let wrong (last : Octets) (rest : List Octets) : Bool :=
        checks && (always || unpaired) && rest.head?.any fun line => decide (line < last)
      match first, second with
      | [], [] => told.reverse
      | a :: rest, [] =>
          let told := .row (.first, a) :: told
          let isWrong := !noted₁ && checks && rest.head?.any fun line => decide (line < a)
          go true (noted₁ || isWrong) noted₂ a last₂ rest []
            (if isWrong then .disorder 1 :: told else told)
      | [], b :: rest =>
          let told := .row (.second, b) :: told
          let isWrong := !noted₂ && checks && rest.head?.any fun line => decide (line < b)
          go true noted₁ (noted₂ || isWrong) last₁ b [] rest
            (if isWrong then .disorder 2 :: told else told)
      | a :: as, b :: bs =>
          if a = b then
            let told := .row (.both, a) :: told
            let isWrong₁ := !noted₁ && wrong a as
            let isWrong₂ := !noted₂ && wrong b bs
            let told := if isWrong₁ then .disorder 1 :: told else told
            let told := if isWrong₂ then .disorder 2 :: told else told
            go unpaired (noted₁ || isWrong₁) (noted₂ || isWrong₂) a b as bs told
          else if a < b then
            let told := .row (.first, a) :: told
            let isWrong := !noted₁ && checks && as.head?.any fun line => decide (line < a)
            go true (noted₁ || isWrong) noted₂ a last₂ as second
              (if isWrong then .disorder 1 :: told else told)
          else
            let told := .row (.second, b) :: told
            let isWrong := !noted₂ && checks && bs.head?.any fun line => decide (line < b)
            go true noted₁ (noted₂ || isWrong) last₁ b first bs
              (if isWrong then .disorder 2 :: told else told)

/-- Reads two files; a dash can stand for one of them. -/
def readBoth (name : String) (ending : Char) (a : Arguments)
    (work : List Octets → List Octets → Action Nat) : Action Nat := do
  match a.operands with
  | [first, second] =>
      match ← contents name first with
      | none => return 1
      | some one =>
          match ← contents name second with
          | none => return 1
          | some two =>
              work ((linesWithEnds ending one).map Prod.fst) ((linesWithEnds ending two).map Prod.fst)
  | [] => misuse name "missing operand".toList 1
  | [only] => misuse name ("missing operand after ".toList ++ quoted only) 1
  | _ :: _ :: third :: _ => extraOperand name third 1

def tell (name : String) (write : α → Octets) (complaint : Nat → Octets) (stops : Bool) :
    List (Told α) → Outlet → Action (Outlet × Bool)
  | [], o => return (o, true)
  | .row a :: rest, o => do tell name write complaint stops rest (← o.put (write a))
  | .disorder file :: rest, o => do
      let o ← o.flush
      complain name (complaint file)
      if stops then return (o, false)
      else return ((← tell name write complaint stops rest o).1, false)

def comm : Tool := fun arguments _ =>
  withArguments "comm"
      [.flag "1" "", .flag "2" "", .flag "3" "", .flag "check-order" "check-order",
        .flag "nocheck-order" "nocheck-order", .setting "output-delimiter" "output-delimiter",
        .flag "total" "total", .flag "z" "zero-terminated"] 1 arguments fun a => do
    let ending := if a.has "z" then '\x00' else '\n'
    let delimiter := (a.value? "output-delimiter").getD ['\t']
    readBoth "comm" ending a fun first second => do
      let always := a.has "check-order"
      let told := mergeLines (!a.has "nocheck-order") always (first.length + second.length + 1)
        false false false [] [] first second []
      let write (row : Side × Octets) : Octets :=
        let skipped (key : String) : Octets := if a.has key then [] else delimiter
        match row.1 with
        | .first => if a.has "1" then [] else row.2 ++ [ending]
        | .second => if a.has "2" then [] else skipped "1" ++ row.2 ++ [ending]
        | .both => if a.has "3" then [] else skipped "1" ++ skipped "2" ++ row.2 ++ [ending]
      let (o, isFine) ← tell "comm" write
        (fun file => s!"file {file} is not in sorted order".toList) always told .empty
      let count (side : Side) : Nat := told.countP fun
        | .row row => row.1 == side
        | .disorder _ => false
      let o ← if a.has "total" && (isFine || !always) then
          o.put (shown (count .first) ++ delimiter ++ shown (count .second) ++ delimiter ++
            shown (count .both) ++ delimiter ++ "total".toList ++ [ending])
        else pure o
      let o ← o.flush
      if !isFine && !always then complain "comm" "input is not in sorted order".toList
      o.finish "comm" (if isFine then 0 else 1)

/-! ## Joining -/

/-- What a joined line shows: the field that both have, or a field of one of them. -/
inductive JoinItem where
  | key
  | field (file number : Nat)
  deriving DecidableEq, Repr

structure Joining where
  keys : Nat × Nat
  separator : Option Char
  foldsCase : Bool
  items : Option (List JoinItem)
  isAuto : Bool
  filler : Octets
  ending : Char

namespace Joining

def fields (j : Joining) (line : Octets) : List Octets :=
  match j.separator with
  | some c => Text.split (· = c) line
  | none =>
      (Text.split (fun c => c = ' ' || c = '\t') line).filter fun field => !field.isEmpty

def key (j : Joining) (file : Nat) (fields : List Octets) : Octets :=
  (fields[(if file = 1 then j.keys.1 else j.keys.2) - 1]?).getD []

def folded (j : Joining) (key : Octets) : Octets :=
  if j.foldsCase then key.map Char.toLower else key

def others (j : Joining) (file : Nat) (fields : List Octets) : List Octets :=
  fields.eraseIdx ((if file = 1 then j.keys.1 else j.keys.2) - 1)

def row (j : Joining) (sizes : Nat × Nat) (first second : Option (List Octets)) : Octets :=
  let separator := j.separator.getD ' '
  let key := match first, second with
    | some fields, _ => j.key 1 fields
    | none, some fields => j.key 2 fields
    | none, none => []
  let filled (octets : Octets) : Octets := if octets.isEmpty then j.filler else octets
  let item : JoinItem → Octets
    | .key => filled key
    | .field 1 number => filled (((first.getD [])[number - 1]?).getD [])
    | .field _ number => filled (((second.getD [])[number - 1]?).getD [])
  let shown : List Octets :=
    match j.items with
    | some items => items.map item
    | none =>
        let rest (file size : Nat) (fields : Option (List Octets)) : List Octets :=
          if j.isAuto then
            (List.range (size - 1)).map fun index =>
              filled (((j.others file (fields.getD []))[index]?).getD [])
          else ((fields.map (j.others file)).getD []).map filled
        filled key :: rest 1 sizes.1 first ++ rest 2 sizes.2 second
  [separator].intercalate shown ++ [j.ending]

end Joining

/-- Which lines without a partner are shown, and whether those with one are. -/
structure JoinShown where
  unpaired₁ : Bool
  unpaired₂ : Bool
  paired : Bool

def joinSides (j : Joining) (s : JoinShown) (sizes : Nat × Nat) :
    Nat → List (List Octets) → List (List Octets) → List Octets → List Octets
  | 0, _, _, rows => rows.reverse
  | rounds + 1, first, second, rows =>
      let alone₁ (fields : List Octets) : List Octets :=
        if s.unpaired₁ then j.row sizes (some fields) none :: rows else rows
      let alone₂ (fields : List Octets) : List Octets :=
        if s.unpaired₂ then j.row sizes none (some fields) :: rows else rows
      match first, second with
      | [], [] => rows.reverse
      | a :: as, [] => joinSides j s sizes rounds as [] (alone₁ a)
      | [], b :: bs => joinSides j s sizes rounds [] bs (alone₂ b)
      | a :: as, b :: bs =>
          let x := j.folded (j.key 1 a)
          let y := j.folded (j.key 2 b)
          if x < y then joinSides j s sizes rounds as (b :: bs) (alone₁ a)
          else if y < x then joinSides j s sizes rounds (a :: as) bs (alone₂ b)
          else
            let (these, first) := (a :: as).span fun fields => j.folded (j.key 1 fields) = x
            let (those, second) := (b :: bs).span fun fields => j.folded (j.key 2 fields) = y
            let found := if s.paired then
                these.flatMap fun a => those.map fun b => j.row sizes (some a) (some b)
              else []
            joinSides j s sizes rounds first second (found.reverse ++ rows)

def disorder? (lt : Octets → Octets → Bool) : Nat → List (Octets × Octets) → Option (Nat × Octets)
  | number, (key, _) :: (next, line) :: rest =>
      if lt next key then some (number + 1, line)
      else disorder? lt (number + 1) ((next, line) :: rest)
  | _, _ => none

def joinItems? (octets : Octets) : Option (List JoinItem) :=
  ((Text.split (fun c => c = ',' || c = ' ') octets).filter fun part => !part.isEmpty).mapM fun part =>
    match part with
    | ['0'] => some .key
    | '1' :: '.' :: digits => (Text.readDigits? digits).map (.field 1)
    | '2' :: '.' :: digits => (Text.readDigits? digits).map (.field 2)
    | _ => none

def join : Tool := fun arguments _ =>
  withArguments "join"
      [.setting "a" "", .setting "e" "", .setting "1" "", .setting "2" "",
        .setting "j" "", .setting "o" "", .setting "t" "", .setting "v" "",
        .flag "i" "ignore-case", .flag "check-order" "check-order",
        .flag "nocheck-order" "nocheck-order", .flag "header" "header",
        .flag "z" "zero-terminated"] 1 arguments fun a => do
    let files := a.values "a" ++ a.values "v"
    let number (key : String) : Except Octets Nat :=
      match a.value? key with
      | none => .ok 1
      | some text =>
          match Text.readDigits? text with
          | some (n + 1) => .ok (n + 1)
          | _ => .error ("invalid field number: ".toList ++ quoted text)
    let request : Except Octets (Nat × Nat × Option Char) := do
      if let some file := files.find? fun file => file != ['1'] && file != ['2'] then
        throw ("invalid field number: ".toList ++ quoted file)
      let both ← number "j"
      let one ← if a.has "1" then number "1" else pure both
      let two ← if a.has "2" then number "2" else pure both
      let separator ← match a.value? "t" with
        | none => pure none
        | some [c] => pure (some c)
        | some [] => pure (some '\x00')
        | some ['\\', '0'] => pure (some '\x00')
        | some text => throw ("multi-character tab ".toList ++ quoted text)
      return (one, two, separator)
    match request with
    | .error complaint => fail "join" complaint 1
    | .ok (one, two, separator) =>
        let ending := if a.has "z" then '\x00' else '\n'
        let format := a.value? "o"
        let isAuto := format = some "auto".toList
        let j : Joining := {
          keys := (one, two), separator, foldsCase := a.has "i"
          items := if isAuto then none else format.bind joinItems?
          isAuto, filler := (a.value? "e").getD [], ending }
        readBoth "join" ending a fun first second => do
          let fields₁ := first.map j.fields
          let fields₂ := second.map j.fields
          let sizes := ((fields₁.headD []).length, (fields₂.headD []).length)
          let has (key : String) (file : Char) : Bool := (a.values key).contains [file]
          let s : JoinShown := {
            unpaired₁ := has "a" '1' || has "v" '1', unpaired₂ := has "a" '2' || has "v" '2'
            paired := !a.has "v" }
          let hasHeader := a.has "header"
          let heading := if hasHeader && !(fields₁.isEmpty && fields₂.isEmpty) then
              [j.row sizes fields₁.head? fields₂.head?] else []
          let skipped := if hasHeader then 1 else 0
          let rows := joinSides j s sizes (first.length + second.length + 1) (fields₁.drop skipped)
            (fields₂.drop skipped) []
          let isUnpaired := !(joinSides j ⟨true, true, false⟩ sizes
            (first.length + second.length + 1) (fields₁.drop skipped) (fields₂.drop skipped) []).isEmpty
          let checks := !a.has "nocheck-order" && (a.has "check-order" || isUnpaired)
          let lt (x y : Octets) : Bool := decide (j.folded x < j.folded y)
          let keyed (file : Nat) (fields : List (List Octets)) (lines : List Octets) :
              List (Octets × Octets) := ((fields.map (j.key file)).zip lines).drop skipped
          let start := if hasHeader then 2 else 1
          let wrong₁ := if checks then disorder? lt start (keyed 1 fields₁ first) else none
          let wrong₂ := if checks then disorder? lt start (keyed 2 fields₂ second) else none
          let say (file : Octets) (found : Option (Nat × Octets)) : Action Unit := do
            if let some (number, line) := found then
              complain "join" (file ++ ':' :: shown number ++ ": is not sorted: ".toList ++ line)
          say (a.operands.headD []) wrong₁
          say (a.operands.getLastD []) wrong₂
          let isWrong := wrong₁.isSome || wrong₂.isSome
          if isWrong && a.has "check-order" then return 1
          else
            let status ← emit "join" (heading ++ rows).flatten
            if isWrong then fail "join" "input is not in sorted order".toList 1
            else return status

end Clausal.Utility
