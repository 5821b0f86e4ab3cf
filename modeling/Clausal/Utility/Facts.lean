import Clausal.Shell.Printf
import Clausal.Utility.Entry

/-!
# Facts by a format

A utility that shows what is known of files, by a format in which letters stand for facts.
-/

namespace Clausal.Utility

open Machine (Account)
open Text (Octets)

namespace Facts

def item (fs : FileSystem) (e : Entry) (letter : Char) (isAlternate : Bool) : Octets :=
  let attributes := e.attributes fs
  let moment := Moment.ofNanoseconds attributes.changed
  let full := moment.format 40 "%Y-%m-%d %H:%M:%S.%N %z".toList
  let hex (n : Nat) : Octets := Nat.toDigits 16 n
  match letter with
  | 'n' => e.name
  | 's' => shown (e.size fs)
  | 'F' => (e.kind fs).toList
  | 'a' => (if isAlternate && attributes.mode != 0 then ['0'] else []) ++
      Mode.shownOctal attributes.mode
  | 'A' => e.modeText fs
  | 'h' => shown (e.linkCount fs)
  | 'u' => shown attributes.owner
  | 'g' => shown attributes.group
  | 'U' => ((Account.numbered? attributes.owner).map Account.name).getD "UNKNOWN" |>.toList
  | 'G' => (Account.groupName? attributes.group).getD "UNKNOWN" |>.toList
  | 'f' => (if isAlternate then "0x".toList else []) ++ hex (e.kindBits fs + attributes.mode)
  | 'i' => shown e.number
  | 'X' | 'Y' | 'Z' => (toString moment.seconds).toList
  | 'x' | 'y' | 'z' => full
  | 'W' => ['0']
  | 'w' => ['-']
  | 'b' => shown (e.blocks fs)
  | 'B' => "512".toList
  | 'o' => "4096".toList
  | 'm' => ['/']
  | 'd' => "64".toList
  | 'D' => "40".toList
  | 't' => if e.letter fs = 'c' then ['1'] else ['0']
  | 'T' => if e.letter fs = 'c' then ['3'] else ['0']
  | 'C' => ['?']
  | '%' => ['%']
  | _ => ['?']

/-- A fact with a precision: numbers get so many digits, moments so many after the point, and
texts are cut. -/
def precise (fs : FileSystem) (e : Entry) (letter : Char) (count? : Option Nat)
    (value : Octets) : Octets :=
  if "XYZ".toList.contains letter then
    let moment := Moment.ofNanoseconds (e.attributes fs).changed
    let digits := shown moment.nanoseconds
    let count := count?.getD 9
    let all := List.replicate (9 - digits.length) '0' ++ digits ++ List.replicate (count - 9) '0'
    if count = 0 then value else value ++ '.' :: all.take count
  else if "shugibBodtTaf".toList.contains letter then
    List.replicate (count?.getD 0 - value.length) '0' ++ value
  else value.take (count?.getD 0)

def fill (fs : FileSystem) (e : Entry) (escapes quotesNames : Bool) : Nat → Octets → Octets
  | 0, _ => []
  | rounds + 1, octets =>
      match octets with
      | [] => []
      | '%' :: rest =>
          let (flags, rest) := rest.span fun c => "-0#+ ".toList.contains c
          let (width, rest) := rest.span Char.isDigit
          let (precision, rest) := match rest with
            | '.' :: rest =>
                let (digits, rest) := rest.span Char.isDigit
                (some (Text.readDigits? digits), rest)
            | rest => (none, rest)
          match rest with
          | [] => ['%']
          | letter :: rest =>
              let width := (Text.readDigits? width).getD 0
              let shaped (value : Octets) : Octets :=
                let value := match precision with
                  | some count => precise fs e letter count value
                  | none => value
                let value := if "XYZ".toList.contains letter && value.head? != some '-' then
                    if flags.contains '+' then '+' :: value
                    else if flags.contains ' ' then ' ' :: value else value
                  else value
                if flags.contains '-' then padRight width value
                else if flags.contains '0' then
                  List.replicate (width - value.length) '0' ++ value
                else padLeft width value
              let value :=
                if letter = 'N' then
                  let named (name : Octets) : Octets :=
                    shaped (if quotesNames then quoted name else name)
                  named e.name ++ (match e.target? with
                    | some target => " -> ".toList ++ named target
                    | none => [])
                else shaped (item fs e letter (flags.contains '#'))
              value ++ fill fs e escapes quotesNames rounds rest
      | '\\' :: c :: rest =>
          if escapes then
            let (escaped, rest) := Shell.Printf.readEscape (c :: rest)
            escaped :: fill fs e escapes quotesNames rounds rest
          else '\\' :: fill fs e escapes quotesNames rounds (c :: rest)
      | c :: rest => c :: fill fs e escapes quotesNames rounds rest

/-- Whether names are put in quotes: only where a format asks for them in the plainest way. -/
def asksForQuotedNames : Octets → Bool
  | [] => false
  | c :: rest => "%N".toList.isPrefixOf (c :: rest) || asksForQuotedNames rest

def standard (isLink : Bool) : String :=
  (if isLink then "  File: %N\n" else "  File: %n\n") ++
    "  Size: %-10s\tBlocks: %-10b IO Block: %-6o %F\n" ++
    "Device: 0,64\tInode: %-11i Links: %h\n" ++
    "Access: (%04a/%10.10A)  Uid: (%5u/%8U)   Gid: (%5g/%8G)\n" ++
    "Access: %x\nModify: %y\nChange: %z\n Birth: %w\n"

end Facts

def stat : Tool := fun arguments _ =>
  withArguments "stat"
      [.setting "c" "format", .setting "printf" "printf", .flag "L" "dereference",
        .flag "t" "terse", .flag "f" "file-system", .setting "cached" "cached"] 1
      arguments fun a =>
    withOperands "stat" 1 a <| forEachOperand a.operands fun operand => do
      let fs ← files
      match entry? fs (a.has "L") operand with
      | .error failure =>
          complain "stat" ("cannot statx ".toList ++ quoted operand ++ ": ".toList ++
            failure.reason.toList)
          return false
      | .ok e =>
          let written := match a.value? "printf", a.value? "c" with
            | some format, _ =>
                Facts.fill fs e true (Facts.asksForQuotedNames format) (format.length + 1) format
            | none, some format =>
                Facts.fill fs e false (Facts.asksForQuotedNames format) (format.length + 1) format ++
                  ['\n']
            | none, none =>
                let format := if a.has "t" then
                    "%n %s %b %f %u %g %D %i %h %t %T %X %Y %Z %W %o\n".toList
                  else (Facts.standard e.target?.isSome).toList
                Facts.fill fs e false true (format.length + 1) format
          return (← emit "stat" written) = 0

end Clausal.Utility
