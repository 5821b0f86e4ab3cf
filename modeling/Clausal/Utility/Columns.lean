import Clausal.Text.Regex.Parse
import Clausal.Text.Regex.Search
import Clausal.Utility.Basic

/-!
# Utilities for columns

They pick, join, number, fold and align parts of lines.
-/

namespace Clausal.Utility

open Machine (Action Descriptor Environment Failure Task)
open Text (Octets)

/-! ## Picking parts -/

/-- A range of positions from 1; an end can be open. -/
structure Span where
  first : Nat
  last : Option Nat
  deriving DecidableEq, Repr

namespace Span

def has (span : Span) (position : Nat) : Bool :=
  span.first ≤ position && span.last.all (position ≤ ·)

/-- Reads a range; the word says what is counted. -/
def read (what : String) (octets : Octets) : Except Octets Span :=
  let (first, rest) := octets.span Char.isDigit
  let invalid : Except Octets Span :=
    .error (s!"invalid {what} value ".toList ++ quoted octets)
  let zero : Octets := if what = "field" then "fields are numbered from 1".toList
    else "byte/character positions are numbered from 1".toList
  match Text.readDigits? first, rest with
  | some 0, _ => .error zero
  | some first, [] => .ok ⟨first, some first⟩
  | first, '-' :: last =>
      match Text.readDigits? last with
      | some last =>
          if last < first.getD 1 then .error "invalid decreasing range".toList
          else .ok ⟨first.getD 1, some last⟩
      | none =>
          if !last.isEmpty then invalid
          else if first.isNone then .error "invalid range with no endpoint: -".toList
          else .ok ⟨first.getD 1, none⟩
  | _, _ => invalid

def readAll (what : String) (octets : Octets) : Except Octets (List Span) :=
  (Text.split (fun c => c = ',' || c = ' ' || c = '\t') octets).mapM (read what)

end Span

structure Selection where
  spans : List Span
  isComplement : Bool

namespace Selection

def has (s : Selection) (position : Nat) : Bool :=
  (s.spans.any fun span => span.has position) != s.isComplement

def startsAt (s : Selection) (position : Nat) : Bool :=
  if s.isComplement then s.has position && !s.has (position - 1)
  else
    (s.spans.any fun span => span.first = position) &&
      !(s.spans.any fun span => decide (span.first < position) && span.has position)

end Selection

/-- Those whose positions are wanted. -/
def pick (isWanted : Nat → Bool) : Nat → List α → List α → List α
  | _, kept, [] => kept.reverse
  | position, kept, a :: rest =>
      pick isWanted (position + 1) (if isWanted position then a :: kept else kept) rest

def pickBytes (s : Selection) (delimiter : Octets) : Nat → Octets → Octets → Octets
  | _, kept, [] => kept.reverse
  | position, kept, c :: rest =>
      if s.has position then
        let between := if !kept.isEmpty && s.startsAt position then delimiter.reverse else []
        pickBytes s delimiter (position + 1) (c :: (between ++ kept)) rest
      else pickBytes s delimiter (position + 1) kept rest

def cut : Tool := fun arguments _ =>
  withArguments "cut"
      [.setting "b" "bytes", .setting "c" "characters", .setting "d" "delimiter",
        .setting "f" "fields", .flag "n" "", .flag "s" "only-delimited",
        .flag "complement" "complement", .setting "output-delimiter" "output-delimiter",
        .flag "z" "zero-terminated"] 1 arguments fun a => do
    let lists := a.options.filter fun option => ["b", "c", "f"].contains option.1
    let refuse (complaint : String) : Action Nat := misuse "cut" complaint.toList 1
    let delimiter := a.value? "d"
    match lists with
    | [] => refuse "you must specify a list of bytes, characters, or fields"
    | _ :: _ :: _ => refuse "only one list may be specified"
    | [(kind, list)] =>
        if delimiter.any fun d => 1 < d.length then
          refuse "the delimiter must be a single character"
        else if kind != "f" && delimiter.isSome then
          refuse "an input delimiter may be specified only when operating on fields"
        else if kind != "f" && a.has "s" then
          refuse "suppressing non-delimited lines makes sense\n\tonly when operating on fields"
        else
          match Span.readAll (if kind = "f" then "field" else "byte/character position") list with
          | .error complaint => misuse "cut" complaint 1
          | .ok spans =>
              let s : Selection := ⟨spans, a.has "complement"⟩
              let ending := if a.has "z" then '\x00' else '\n'
              let separator := match delimiter with
                | some (c :: _) => c
                | some [] => '\x00'
                | none => '\t'
              let joint := (a.value? "output-delimiter").getD [separator]
              let between := (a.value? "output-delimiter").getD []
              let change (line : Octets) : Option Octets :=
                if kind != "f" then some (pickBytes s between 1 [] line)
                else if !line.contains separator then (if a.has "s" then none else some line)
                else
                  some (joint.intercalate
                    (pick s.has 1 [] (Text.split (· = separator) line)))
              let f : Filter Octets := ⟨fun start octets =>
                let (finished, start) := cutLines ending start octets
                (start, unlinesWith ending (finished.filterMap change)), fun _ => false⟩
              f.run "cut" a.operands [] fun start =>
                if start.isEmpty then []
                else ((change start.reverse).map fun line => line ++ [ending]).getD []

/-! ## Side by side -/

/-- The delimiters that are used in turn; an escaped zero stands for none. -/
def delimiters : Octets → List Octets
  | [] => []
  | ['\\'] => [['\\']]
  | '\\' :: c :: rest =>
      let delimiter : Octets :=
        match c with
        | 'n' => ['\n']
        | 't' => ['\t']
        | '0' => []
        | 'b' => ['\x08']
        | 'f' => ['\x0c']
        | 'r' => ['\r']
        | 'v' => ['\x0b']
        | c => [c]
      delimiter :: delimiters rest
  | c :: rest => [c] :: delimiters rest

def joinInTurn (all : List Octets) : List Octets → List Octets → Octets
  | _, [] => []
  | _, [last] => last
  | [], first :: rest =>
      match all with
      | [] => first ++ joinInTurn all [] rest
      | d :: others => first ++ d ++ joinInTurn all others rest
  | d :: others, first :: rest => first ++ d ++ joinInTurn all others rest

def joinLines (all : List Octets) : List Octets → List Octets → List Octets → List Octets
  | _, pieces, [] => pieces
  | _, pieces, [last] => last :: pieces
  | [], pieces, first :: rest =>
      match all with
      | [] => joinLines all [] (first :: pieces) rest
      | d :: others => joinLines all others (d :: first :: pieces) rest
  | d :: others, pieces, first :: rest => joinLines all others (d :: first :: pieces) rest

/-- Takes a line from each column; the flag says whether there was any. -/
def takeRow : List Nat → Array Intake → Action (List Octets × Bool × Array Intake)
  | [], intakes => return ([], false, intakes)
  | column :: rest, intakes => do
      match intakes[column]? with
      | none => takeRow rest intakes
      | some intake =>
          let (line?, intake) ← intake.next roundBound
          let intakes := intakes.setIfInBounds column intake
          let (more, found, intakes) ← takeRow rest intakes
          return (((line?.map Prod.fst).getD []) :: more, found || line?.isSome, intakes)

def pasteRows (columns : List Nat) (between : List Octets) (ending : Char) :
    Nat → Array Intake → Outlet → Action Outlet
  | 0, _, o => return o
  | rounds + 1, intakes, o => do
      let (row, found, intakes) ← takeRow columns intakes
      if !found then return o
      else
        let o ← o.put (joinInTurn between between row ++ [ending])
        pasteRows columns between ending rounds intakes o

/-- Opens files; all standard inputs are one. -/
def openColumns (name : String) : List Octets → List (Octets × Nat) → Array Descriptor →
    Action (Option (List Nat × Array Descriptor))
  | [], columns, opened => return some (columns.reverse.map Prod.snd, opened)
  | file :: rest, columns, opened => do
      match columns.find? fun entry => entry.1 = file && file = ['-'] with
      | some (_, column) => openColumns name rest ((file, column) :: columns) opened
      | none =>
          match ← openInput file with
          | .error failure =>
              complainOf name file failure
              return none
          | .ok descriptor =>
              openColumns name rest ((file, opened.size) :: columns) (opened.push descriptor)

def paste : Tool := fun arguments _ =>
  withArguments "paste"
      [.setting "d" "delimiters", .flag "s" "serial", .flag "z" "zero-terminated"] 1
      arguments fun a => do
    let ending := if a.has "z" then '\x00' else '\n'
    let between := delimiters ((a.value? "d").getD ['\t'])
    let between := if between.isEmpty then [[]] else between
    if a.has "s" then
      let results ← (inputs a.operands).mapM fun file => do
        match ← contents "paste" file with
        | none => return 1
        | some octets =>
            let all := (linesWithEnds ending octets).map Prod.fst
            emit "paste" (Outlet.joined ([ending] :: joinLines between between [] all))
      return results.foldl max 0
    else
      match ← openColumns "paste" (inputs a.operands) [] #[] with
      | none => return 1
      | some (columns, opened) =>
          let intakes := opened.map fun descriptor => Intake.of descriptor ending
          let o ← pasteRows columns between ending roundBound intakes .empty
          o.finish "paste" 0

/-! ## Line numbers -/

inductive Numbering where
  | all
  | full
  | none
  | matching (searcher : Text.Regex.Searcher)

structure NumberStyle where
  header : Numbering
  body : Numbering
  footer : Numbering
  delimiter : Octets
  step : Int
  joinBlank : Nat
  goesOn : Bool
  separator : Octets
  start : Int
  width : Nat
  alignment : String

structure NumberState where
  number : Int
  section_ : Nat
  blanks : Nat

namespace NumberStyle

def numberText (style : NumberStyle) (number : Int) : Octets :=
  let digits := (toString number.natAbs).toList
  let text := if number < 0 then '-' :: digits else digits
  match style.alignment with
  | "ln" => padRight style.width text
  | "rz" =>
      (if number < 0 then ['-'] else []) ++
        List.replicate (style.width - text.length) '0' ++ digits
  | _ => padLeft style.width text

def numbering (style : NumberStyle) (section_ : Nat) : Numbering :=
  match section_ with
  | 0 => style.header
  | 1 => style.body
  | _ => style.footer

def line (style : NumberStyle) (s : NumberState) (line : Octets) (_ : Bool) :
    NumberState × Octets :=
  let d := style.delimiter
  if !d.isEmpty && line = d ++ d ++ d then
    (⟨if style.goesOn then s.number else style.start, 0, 0⟩, ['\n'])
  else if !d.isEmpty && line = d ++ d then
    (⟨if style.goesOn then s.number else style.start, 1, 0⟩, ['\n'])
  else if !d.isEmpty && line = d then
    (⟨if style.goesOn then s.number else style.start, 2, 0⟩, ['\n'])
  else
    let blanks := if line.isEmpty then s.blanks + 1 else 0
    let isNumbered :=
      match style.numbering s.section_ with
      | .all => !line.isEmpty || style.joinBlank ≤ 1 || blanks = style.joinBlank
      | .full => !line.isEmpty
      | .none => false
      | .matching searcher => searcher.matches? line
    let blanks := if blanks = style.joinBlank then 0 else blanks
    if isNumbered then
      (⟨s.number + style.step, s.section_, blanks⟩,
        style.numberText s.number ++ style.separator ++ line ++ ['\n'])
    else
      (⟨s.number, s.section_, blanks⟩,
        List.replicate (style.width + style.separator.length) ' ' ++ line ++ ['\n'])

end NumberStyle

def numbering? (octets : Octets) : Option Numbering :=
  match octets with
  | ['a'] => some .all
  | ['t'] => some .full
  | ['n'] => some .none
  | 'p' :: text =>
      match Text.Regex.parse .basic text with
      | .ok r => some (.matching (.of r false))
      | .error _ => none
  | _ => none

def int? (octets : Octets) : Option Int :=
  match octets with
  | '-' :: rest => (Text.readDigits? rest).map fun n => -(n : Int)
  | '+' :: rest => (Text.readDigits? rest).map fun n => (n : Int)
  | rest => (Text.readDigits? rest).map fun n => (n : Int)

def nl : Tool := fun arguments _ =>
  withArguments "nl"
      [.setting "b" "body-numbering", .setting "d" "section-delimiter",
        .setting "f" "footer-numbering", .setting "h" "header-numbering",
        .setting "i" "line-increment", .setting "l" "join-blank-lines",
        .setting "n" "number-format", .flag "p" "no-renumber",
        .setting "s" "number-separator", .setting "v" "starting-line-number",
        .setting "w" "number-width"] 1 arguments fun a => do
    let given (key fallback : String) : Octets := (a.value? key).getD fallback.toList
    let refuse (what : String) (key fallback : String) (more : String) : Action Nat :=
      fail "nl" ((what ++ ": ").toList ++ quoted (given key fallback) ++ more.toList) 1
    let outOfRange := ": Numerical result out of range"
    match numbering? (given "h" "n"), numbering? (given "b" "t"), numbering? (given "f" "n") with
    | some header, some body, some footer =>
        let delimiter := given "d" "\\:"
        let delimiter := if delimiter.length = 1 then delimiter ++ [':'] else delimiter
        match int? (given "i" "1"), Text.readDigits? (given "l" "1"), int? (given "v" "1"),
            Text.readDigits? (given "w" "6") with
        | some step, some joinBlank, some start, some width =>
            if width = 0 then refuse "invalid line number field width" "w" "6" outOfRange
            else if joinBlank = 0 then
              refuse "invalid line number of blank lines" "l" "1" outOfRange
            else
              let alignment := String.ofList (given "n" "rn")
              if !(["ln", "rn", "rz"].contains alignment) then
                misuse "nl" ("invalid line numbering format: ".toList ++ quoted (given "n" "rn")) 1
              else
                let style : NumberStyle := {
                  header, body, footer, delimiter, step, joinBlank, goesOn := a.has "p"
                  separator := given "s" "\t", start, width, alignment }
                Filter.runLines "nl" a.operands style.line ⟨start, 1, 0⟩
        | none, _, _, _ => refuse "invalid line number increment" "i" "1" ""
        | _, none, _, _ => refuse "invalid line number of blank lines" "l" "1" ""
        | _, _, none, _ => refuse "invalid starting line number" "v" "1" ""
        | _, _, _, none => refuse "invalid line number field width" "w" "6" ""
    | none, _, _ => misuse "nl" ("invalid header numbering style: ".toList ++ quoted (given "h" "n")) 1
    | _, none, _ => misuse "nl" ("invalid body numbering style: ".toList ++ quoted (given "b" "t")) 1
    | _, _, none => misuse "nl" ("invalid footer numbering style: ".toList ++ quoted (given "f" "n")) 1

/-! ## Folding -/

def columnAfter (countsBytes : Bool) (column : Nat) (c : Char) : Nat :=
  if countsBytes then column + 1
  else
    match c with
    | '\x08' => column - 1
    | '\r' => 0
    | '\t' => column + 8 - column % 8
    | _ => column + 1

/-- Cuts a line into pieces that are not too wide, the last first; `current` is the piece that
is being built, in reverse. -/
def foldLine (countsBytes atBlanks : Bool) (width : Nat) :
    Nat → Octets → Nat → List Octets → Octets → List Octets
  | 0, current, _, pieces, _ => current.reverse :: pieces
  | _ + 1, current, _, pieces, [] => current.reverse :: pieces
  | rounds + 1, current, column, pieces, c :: rest =>
      let next := columnAfter countsBytes column c
      if next ≤ width then
        foldLine countsBytes atBlanks width rounds (c :: current) next pieces rest
      else
        let isBlank (c : Char) : Bool := c = ' ' || c = '\t'
        let (tail, front) := current.span fun c => !isBlank c
        if atBlanks && !front.isEmpty then
          let column := tail.reverse.foldl (columnAfter countsBytes) 0
          foldLine countsBytes atBlanks width rounds tail column (front.reverse :: pieces) (c :: rest)
        else if current.isEmpty then
          foldLine countsBytes atBlanks width rounds [c] next pieces rest
        else
          foldLine countsBytes atBlanks width rounds [] 0 (current.reverse :: pieces) (c :: rest)

def fold : Tool := fun arguments _ =>
  withArguments "fold"
      [.flag "b" "bytes", .flag "s" "spaces", .setting "w" "width"] 1 (old arguments) fun a => do
    let text := (a.value? "w").getD "80".toList
    match Text.readDigits? text with
    | none => fail "fold" ("invalid number of columns: ".toList ++ quoted text) 1
    | some 0 =>
        fail "fold" ("invalid number of columns: ".toList ++ quoted text ++
          ": Numerical result out of range".toList) 1
    | some width =>
        Filter.runLines "fold" a.operands (fun _ line ended =>
          let pieces := foldLine (a.has "b") (a.has "s") width (3 * line.length + 3) [] 0 [] line
          ((), ['\n'].intercalate pieces.reverse ++ (if ended then ['\n'] else []))) ()
where
  old (arguments : List Octets) : List Octets :=
    arguments.map fun argument =>
      match argument with
      | '-' :: c :: digits =>
          if (c :: digits).all Char.isDigit then '-' :: 'w' :: c :: digits else argument
      | argument => argument

/-! ## Tabs -/

/-- Where tabs lead: to given columns first, and then to multiples of a size, from the last of
those columns on if that is asked for. -/
structure TabStops where
  columns : List Nat
  size : Nat
  fromLast : Bool

namespace TabStops

def next (t : TabStops) (column : Nat) : Nat × Bool :=
  match t.columns.find? (column < ·) with
  | some stop => (stop, true)
  | none =>
      if t.size = 0 then (column + 1, false)
      else
        let base := if t.fromLast then t.columns.getLast?.getD 0 else 0
        (column + (t.size - (column - base) % t.size), true)

def read (octets : Octets) : Except Octets TabStops := do
  let parts := (Text.split (fun c => c = ',' || c = ' ') octets).filter fun part => !part.isEmpty
  let (fixed, ending) := parts.span fun part => part.head? != some '/' && part.head? != some '+'
  let numbers ← fixed.mapM fun part =>
    match Text.readDigits? part with
    | some 0 => .error "tab size cannot be 0".toList
    | some n => .ok n
    | none =>
        .error ("tab size contains invalid character(s): ".toList ++
          quoted (part.dropWhile Char.isDigit))
  if !(numbers.zip numbers.tail).all fun pair => pair.1 < pair.2 then
    throw "tab sizes must be ascending".toList
  match ending.head? with
  | some (sign :: digits) => return ⟨numbers, (Text.readDigits? digits).getD 0, sign = '+'⟩
  | _ =>
      match numbers with
      | [] => return ⟨[], 8, false⟩
      | [size] => return ⟨[], size, false⟩
      | numbers => return ⟨numbers, 0, false⟩

end TabStops

def expandLine (t : TabStops) (onlyFirst : Bool) : Nat → Bool → Octets → Octets → Octets
  | _, _, written, [] => written.reverse
  | column, converts, written, c :: rest =>
      if c = '\t' && converts then
        let (stop, _) := t.next column
        expandLine t onlyFirst stop converts (List.replicate (stop - column) ' ' ++ written) rest
      else
        let column := if c = '\x08' then column - 1 else if c = '\t' then column else column + 1
        let converts := converts && (!onlyFirst || c = ' ' || c = '\t')
        expandLine t onlyFirst column converts (c :: written) rest

def oldTabs (arguments : List Octets) : List Octets :=
  arguments.map fun argument =>
    match argument with
    | '-' :: c :: rest =>
        if (c :: rest).all (fun c => c.isDigit || c = ',') then '-' :: 't' :: c :: rest else argument
    | argument => argument

def expand : Tool := fun arguments _ =>
  withArguments "expand" [.flag "i" "initial", .setting "t" "tabs"] 1 (oldTabs arguments) fun a => do
    match TabStops.read (((a.values "t").intersperse [',']).flatten) with
    | .error complaint => fail "expand" complaint 1
    | .ok t =>
        Filter.runLines "expand" a.operands (fun _ line ended =>
          ((), expandLine t (a.has "i") 0 true [] line ++ (if ended then ['\n'] else []))) ()

structure TabState where
  column : Nat
  converts : Bool
  pending : Octets
  isSingle : Bool
  wasBlank : Bool
  written : Octets

namespace TabState

def settle (s : TabState) : TabState :=
  if s.pending.isEmpty then s
  else
    let pending := if 1 < s.pending.length && s.isSingle then s.pending.dropLast ++ ['\t'] else s.pending
    { s with written := pending ++ s.written, pending := [], isSingle := false }

def add (t : TabStops) (wholeLine : Bool) (s : TabState) (c : Char) : TabState :=
  if !s.converts then { s with written := c :: s.written }
  else
    let isBlank := c = ' ' || c = '\t'
    if isBlank then
      let (stop, isStop) := t.next s.column
      if !isStop then { s.settle with converts := false, written := c :: s.settle.written }
      else if c = '\t' then
        let pending := if s.pending.isEmpty then [] else s.pending.dropLast ++ ['\t']
        let pending := if s.isSingle then pending.drop (pending.length - 1) else []
        let s := { s with column := stop, pending }.settle
        { s with wasBlank := true, written := '\t' :: s.written }
      else
        let column := s.column + 1
        if s.wasBlank && column = stop then
          let pending := if s.isSingle then ['\t'] else []
          let s := { s with column, pending }.settle
          { s with wasBlank := true, written := '\t' :: s.written }
        else
          { s with
            column, pending := c :: s.pending, wasBlank := true
            isSingle := s.isSingle || column = stop }
    else
      let s := s.settle
      { s with
        column := if c = '\x08' then s.column - 1 else s.column + 1
        wasBlank := false, converts := wholeLine, written := c :: s.written }

end TabState

def unexpand : Tool := fun arguments _ =>
  withArguments "unexpand"
      [.flag "a" "all", .flag "first-only" "first-only", .setting "t" "tabs"] 1
      (oldTabs arguments) fun a => do
    match TabStops.read (((a.values "t").intersperse [',']).flatten) with
    | .error complaint => fail "unexpand" complaint 1
    | .ok t =>
        let wholeLine := (a.has "a" || a.has "t") && !a.has "first-only"
        Filter.runLines "unexpand" a.operands (fun _ line ended =>
          let s := (line.foldl (TabState.add t wholeLine) ⟨0, true, [], false, true, []⟩).settle
          ((), s.written.reverse ++ (if ended then ['\n'] else []))) ()

end Clausal.Utility
