import Clausal.Shell.Pattern
import Clausal.Text.Version
import Clausal.Utility.Entry
import Clausal.Utility.Keyword
import Clausal.Utility.Scale

/-!
# Listing

A utility that lists what is in folders: in one column or many, in some order, with marks for
kinds of files and with what is known of each.
-/

namespace Clausal.Utility

open Machine (Account Action Environment)
open Text (Octets)

namespace Listing

/-! ## What is asked for -/

inductive Layout where
  | long | commas | across | down | single
  deriving DecidableEq, Repr

inductive Ordering where
  | name | none | time | size | ending | version | width
  deriving DecidableEq, Repr

/-- Which files are marked by their kinds. -/
inductive Mark where
  | nothing
  | folders
  | kinds
  | all
  deriving DecidableEq, Repr

/-- Which names that start with a dot are shown. -/
inductive Hidden where
  | nothing
  | most
  | all
  deriving DecidableEq, Repr

inductive Through where
  | nothing
  | folders
  | operands
  | all
  deriving DecidableEq, Repr

structure Request where
  layout : Layout
  ordering : Option Ordering
  isReversed : Bool
  foldersFirst : Bool
  hidden : Hidden
  through : Option Through
  mark : Mark
  quoting : Option QuotingStyle
  hidesControls : Bool
  showsNumber : Bool
  showsBlocks : Bool
  showsContext : Bool
  hidesOwner : Bool
  hidesGroup : Bool
  showsAuthor : Bool
  isNumeric : Bool
  blockScale : Option Scale
  sizeScale : Option Scale
  countsKilobytes : Bool
  width : Option Nat
  tab : Nat
  ending : Char
  timeStyle : Option Octets
  choosesTime : Bool
  ignored : List Octets
  /-- Patterns of names that are left out unless hidden names are shown. -/
  concealed : List Octets
  isRecursive : Bool
  namesFolders : Bool
  deriving DecidableEq, Repr

def Request.start : Request where
  layout := .single
  ordering := none
  isReversed := false
  foldersFirst := false
  hidden := .nothing
  through := none
  mark := .nothing
  quoting := none
  hidesControls := false
  showsNumber := false
  showsBlocks := false
  showsContext := false
  hidesOwner := false
  hidesGroup := false
  showsAuthor := false
  isNumeric := false
  blockScale := none
  sizeScale := none
  countsKilobytes := false
  width := none
  tab := 8
  ending := '\n'
  timeStyle := none
  choosesTime := false
  ignored := []
  concealed := []
  isRecursive := false
  namesFolders := false

def switches : List Switch :=
  [.flag "a" "all", .flag "b" "escape", .flag "c" "", .flag "d" "directory", .flag "f" "",
    .flag "g" "", .flag "h" "human-readable", .flag "i" "inode", .flag "k" "kibibytes",
    .flag "l" "", .flag "m" "", .flag "n" "numeric-uid-gid", .flag "o" "", .flag "p" "",
    .flag "q" "hide-control-chars", .flag "r" "reverse", .flag "s" "size", .flag "t" "",
    .flag "u" "", .flag "v" "", .setting "w" "width", .flag "x" "", .flag "A" "almost-all",
    .flag "B" "ignore-backups", .flag "C" "", .flag "D" "dired", .flag "F" "",
    .choice "classify" "classify", .flag "G" "no-group", .flag "H" "dereference-command-line",
    .setting "I" "ignore", .flag "L" "dereference", .flag "N" "literal", .flag "Q" "quote-name",
    .flag "R" "recursive", .flag "S" "", .setting "T" "tabsize", .flag "U" "", .flag "X" "",
    .flag "Z" "context", .flag "1" "", .flag "author" "author",
    .flag "folders" "dereference-command-line-symlink-to-dir", .flag "type" "file-type",
    .setting "format" "format", .flag "full" "full-time",
    .flag "first" "group-directories-first", .setting "hide" "hide",
    .choice "hyperlink" "hyperlink", .setting "indicator" "indicator-style",
    .setting "quoting" "quoting-style", .flag "si" "si", .setting "sort" "sort",
    .setting "time" "time", .setting "style" "time-style", .choice "color" "color",
    .setting "block" "block-size", .flag "zero" "zero", .flag "controls" "show-control-chars"]

def whenKeyword (subject : String) : Keyword :=
  ⟨subject, [["always", "yes", "force"], ["never", "no", "none"], ["auto", "tty", "if-tty"]]⟩

def formatKeyword : Keyword :=
  ⟨"--format", [["verbose", "long"], ["commas"], ["horizontal", "across"], ["vertical"],
    ["single-column"]]⟩

def sortKeyword : Keyword :=
  ⟨"--sort", [["none"], ["time"], ["size"], ["extension"], ["version"], ["width"]]⟩

def markKeyword : Keyword :=
  ⟨"--indicator-style", [["none"], ["slash"], ["file-type"], ["classify"]]⟩

def timeKeyword : Keyword :=
  ⟨"--time", [["atime", "access", "use"], ["ctime", "status"], ["mtime", "modification"],
    ["birth", "creation"]]⟩

def Request.addLetter (r : Request) (letter : String) : Request :=
  match letter with
  | "a" => { r with hidden := .all }
  | "A" => { r with hidden := .most }
  | "b" => { r with quoting := some .escape }
  | "c" | "u" => { r with choosesTime := true }
  | "d" => { r with namesFolders := true }
  | "f" =>
      { r with
        hidden := .all, ordering := some .none, showsBlocks := false
        layout := if r.layout = .long then .single else r.layout }
  | "g" => { r with layout := .long, hidesOwner := true }
  | "h" => { r with blockScale := some (.byLetter 1024), sizeScale := some (.byLetter 1024) }
  | "si" => { r with blockScale := some (.byLetter 1000), sizeScale := some (.byLetter 1000) }
  | "i" => { r with showsNumber := true }
  | "k" => { r with countsKilobytes := true }
  | "l" => { r with layout := .long }
  | "m" => { r with layout := .commas }
  | "n" => { r with layout := .long, isNumeric := true }
  | "o" => { r with layout := .long, hidesGroup := true }
  | "p" => { r with mark := .folders }
  | "q" => { r with hidesControls := true }
  | "controls" => { r with hidesControls := false }
  | "r" => { r with isReversed := true }
  | "s" => { r with showsBlocks := true }
  | "t" => { r with ordering := some .time }
  | "v" => { r with ordering := some .version }
  | "x" => { r with layout := .across }
  | "B" => { r with ignored := r.ignored ++ ["*~".toList, ".*~".toList] }
  | "C" => { r with layout := .down }
  | "F" => { r with mark := .all }
  | "type" => { r with mark := .kinds }
  | "G" => { r with hidesGroup := true }
  | "H" => { r with through := some .operands }
  | "L" => { r with through := some .all }
  | "folders" => { r with through := some .folders }
  | "N" => { r with quoting := some .literal }
  | "Q" => { r with quoting := some .doubled }
  | "R" => { r with isRecursive := true }
  | "S" => { r with ordering := some .size }
  | "U" => { r with ordering := some .none }
  | "X" => { r with ordering := some .ending }
  | "Z" => { r with showsContext := true }
  | "1" => { r with layout := if r.layout = .long then .long else .single }
  | "author" => { r with showsAuthor := true }
  | "full" => { r with layout := .long, timeStyle := some "full-iso".toList }
  | "first" => { r with foldersFirst := true }
  | "zero" =>
      { r with
        ending := '\x00', hidesControls := false, quoting := some .literal
        layout := if r.layout = .long then .long else .single }
  | _ => r

/-- Takes note of an option; nothing if it makes no sense. -/
def Request.add (r : Request) (option : String × Octets) : Action (Option Request) := do
  let chosen (keyword : Keyword) (use : Nat → Request) : Action (Option Request) := do
    return (← keyword.read "ls" option.2).map use
  let stop (complaint : Octets) : Action (Option Request) := do
    complain "ls" complaint
    return none
  match option with
  | ("w", value) =>
      match Scale.number? value with
      | (some width, []) =>
          return some { r with width := some (if Scale.numberBound ≤ width then 0 else width) }
      | _ => stop ("invalid line width: ".toList ++ quoted value)
  | ("T", value) =>
      match Scale.number? value with
      | (some tab, []) => return some { r with tab }
      | _ => stop ("invalid tab size: ".toList ++ quoted value)
  | ("I", pattern) => return some { r with ignored := r.ignored ++ [pattern] }
  | ("hide", pattern) => return some { r with concealed := r.concealed ++ [pattern] }
  | ("classify", []) => return some { r with mark := .all }
  | ("classify", _) =>
      chosen (whenKeyword "--classify") fun n => if n = 0 then { r with mark := .all } else r
  | ("color", _ :: _) => chosen (whenKeyword "--color") fun _ => r
  | ("hyperlink", _ :: _) => chosen (whenKeyword "--hyperlink") fun _ => r
  | ("format", _) =>
      chosen formatKeyword fun n =>
        { r with layout := [Layout.long, .commas, .across, .down, .single].getD n .single }
  | ("sort", _) =>
      chosen sortKeyword fun n =>
        { r with ordering := [Ordering.none, .time, .size, .ending, .version, .width][n]? }
  | ("indicator", _) =>
      chosen markKeyword fun n =>
        { r with mark := [Mark.nothing, .folders, .kinds, .all].getD n .nothing }
  | ("time", _) => chosen timeKeyword fun _ => { r with choosesTime := true }
  | ("quoting", _) =>
      chosen (QuotingStyle.keyword "--quoting-style") fun n =>
        { r with quoting := QuotingStyle.all[n]? }
  | ("style", value) => return some { r with timeStyle := some value }
  | ("block", value) =>
      match Scale.read value with
      | .ok scale => return some { r with blockScale := some scale, sizeScale := some scale }
      | .error misfit => stop (Scale.Misfit.complaint "--block-size" value misfit)
  | (letter, _) => return some (r.addLetter letter)

/-- How old dates and recent dates are written. -/
structure DateFormats where
  old : Octets
  recent : Octets
  deriving DecidableEq, Repr

def DateFormats.plain : DateFormats := ⟨"%b %e  %Y".toList, "%b %e %H:%M".toList⟩

/-- The date of a change; it is recent for half a year. -/
def DateFormats.write (fs : FileSystem) (formats : DateFormats) (changed : Int) : Octets :=
  let halfYear : Int := 15778476000000000
  let isRecent := fs.moment - halfYear < changed && changed ≤ fs.moment
  (Moment.ofNanoseconds changed).format 40 (if isRecent then formats.recent else formats.old)

def DateFormats.read (word : Octets) : Action (Option DateFormats) := do
  let both (format : String) : Action (Option DateFormats) :=
    return some ⟨format.toList, format.toList⟩
  match word with
  | '+' :: format =>
      match Text.split (· = '\n') format with
      | [format] => return some ⟨format, format⟩
      | [old, recent] => return some ⟨old, recent⟩
      | _ =>
          complain "ls" ("invalid time style format ".toList ++ quoted format)
          return none
  | word =>
      if "posix-".toList.isPrefixOf word then return some .plain
      else
        let styles : Keyword := ⟨"", [["full-iso"], ["long-iso"], ["iso"], ["locale"]]⟩
        match styles.number? word with
        | .ok 0 => both "%Y-%m-%d %H:%M:%S.%N %z"
        | .ok 1 => both "%Y-%m-%d %H:%M"
        | .ok 2 => return some ⟨"%Y-%m-%d ".toList, "%m-%d %H:%M".toList⟩
        | .ok _ => return some .plain
        | .error what =>
            complain "ls" ((what ++ " argument ").toList ++ escapedQuote word ++
              " for 'time style'".toList)
            report ("Valid arguments are:\n  - [posix-]full-iso\n  - [posix-]long-iso\n" ++
              "  - [posix-]iso\n  - [posix-]locale\n" ++
              "  - +FORMAT (e.g., +%H:%M) for a 'date'-style format\n").toList
            let _ ← suggestHelp "ls" 2
            return none

/-! ## What is listed -/

structure Item where
  entry : Entry
  isKnown : Bool
  target : Option Entry
  /-- A folder whose entries are listed in its stead. -/
  opens : Bool

namespace Item

def isFolder (i : Item) : Bool := i.entry.node.isFolder

def leadsToFolder (i : Item) : Bool :=
  i.isFolder || i.target.any fun e => e.node.isFolder

def markOf (fs : FileSystem) (mark : Mark) (isKnown : Bool) (e : Entry) : Octets :=
  if mark = .nothing then []
  else
    match e.letter fs with
    | 'd' => ['/']
    | '-' => if isKnown && mark = .all && (e.attributes fs).mode &&& 0o111 != 0 then ['*'] else []
    | 'l' => if mark = .folders then [] else ['@']
    | 'p' => if mark = .folders then [] else ['|']
    | _ => []

end Item

namespace Request

def looksThrough (r : Request) : Through :=
  r.through.getD (if r.namesFolders || r.mark = .all || r.layout = .long then .nothing
    else .folders)

def item (r : Request) (fs : FileSystem) (isOperand : Bool) (path name : Octets) :
    Except FileError Item := do
  let plain : Except FileError Entry := entry? fs false path
  let followed : Except FileError Entry := entry? fs true path
  let entry ← match r.looksThrough, isOperand with
    | .all, _ | .operands, true => followed
    | .folders, true =>
        match followed with
        | .ok e => if e.node.isFolder then .ok e else plain
        | .error .notFound | .error .tooManyLinks => plain
        | .error failure => .error failure
    | _, _ => plain
  let asksTarget := r.foldersFirst || r.mark = .kinds || r.mark = .all
  let target? := if asksTarget && entry.target?.isSome then followed.toOption else none
  return ⟨{ entry with name }, true, target?, isOperand && entry.node.isFolder && !r.namesFolders⟩

/-- Whether a name fits a pattern; a dot at its start has to be written. -/
def matching (name pattern : Octets) : Bool :=
  !(name.head? = some '.' && pattern.head? != some '.' && pattern.take 2 != ['\\', '.']) &&
    Shell.matchesPattern (Shell.Pattern.read (pattern.map fun c => (c, false))) name

def isIgnored (r : Request) (name : Octets) : Bool :=
  let isDots := name = ['.'] || name = ['.', '.']
  (r.hidden != .all && name.head? = some '.' && (r.hidden = .nothing || isDots)) ||
    (r.hidden = .nothing && r.concealed.any (matching name)) || r.ignored.any (matching name)

/-! ## Order -/

def endingOf (name : Octets) : Octets :=
  if name.contains '.' then '.' :: (name.reverse.takeWhile (· != '.')).reverse else []

def isSpecialInNames (r : Request) : List Char :=
  (if r.quoting = some .escape then [' '] else []) ++
    (match r.mark with
    | .kinds => "*=>@|".toList
    | .all => "=>@|".toList
    | _ => [])

def writeName (r : Request) (name : Octets) : Octets :=
  let style := r.quoting.getD .literal
  let written := style.write r.isSpecialInNames name
  if r.hidesControls && style.isRaw then written.map fun c => if isPlain c then c else '?'
  else written

def le (r : Request) (fs : FileSystem) (ordering : Ordering) (x y : Item) : Bool :=
  let (a, b) := (x.entry, y.entry)
  let byName := Octets.le a.name b.name
  let by_ (before after : Bool) : Bool := before || (!after && byName)
  match ordering with
  | .time =>
      let (first, second) := ((a.attributes fs).changed, (b.attributes fs).changed)
      by_ (decide (second < first)) (decide (first < second))
  | .size => by_ (decide (b.size fs < a.size fs)) (decide (a.size fs < b.size fs))
  | .ending =>
      let (first, second) := (endingOf a.name, endingOf b.name)
      by_ (decide (first < second)) (decide (second < first))
  | .version => (Text.Version.compare? a.name b.name).getD byName
  | .width =>
      let (first, second) := ((r.writeName a.name).length, (r.writeName b.name).length)
      by_ (decide (first < second)) (decide (second < first))
  | _ => byName

def sorted (r : Request) (fs : FileSystem) (items : List Item) : List Item :=
  let ordering := r.ordering.getD (if r.layout != .long && r.choosesTime then .time else .name)
  if ordering = .none then items
  else
    let items := items.mergeSort (r.le fs ordering)
    let items := if r.isReversed then items.reverse else items
    if r.foldersFirst then
      items.filter Item.leadsToFolder ++ items.filter fun i => !i.leadsToFolder
    else items

/-! ## Columns -/

/-- The widths that columns get from all items, those that are not shown included. -/
structure Widths where
  number : Nat
  blocks : Nat
  links : Nat
  owner : Nat
  group : Nat
  major : Nat
  minor : Nat
  size : Nat

def blockText (r : Request) (blocks : Nat) : Octets :=
  (r.blockScale.getD (.byBlock 1024 [])).write (blocks * 512)

def sizeText (r : Request) (size : Nat) : Octets :=
  (r.sizeScale.getD (.byBlock 1 [])).write size

def numberText (i : Item) : Octets := if i.isKnown then shown i.entry.number else ['?']

def blocksText (r : Request) (fs : FileSystem) (i : Item) : Octets :=
  if i.isKnown then r.blockText (i.entry.blocks fs) else ['?']

def ownerText (r : Request) (number : Nat) (name : Octets) : Octets × Bool :=
  if r.isNumeric || name = shown number then (shown number, true) else (name, false)

def userText (r : Request) (fs : FileSystem) (i : Item) : Octets × Bool :=
  let number := (i.entry.attributes fs).owner
  if i.isKnown then r.ownerText number (Account.shownUser number) else (['?'], false)

def groupText (r : Request) (fs : FileSystem) (i : Item) : Octets × Bool :=
  let number := (i.entry.attributes fs).group
  if i.isKnown then r.ownerText number (Account.shownGroup number) else (['?'], false)

def widthsOf (r : Request) (fs : FileSystem) (items : List Item) : Widths :=
  let most (text : Item → Octets) : Nat := items.foldl (fun width i => max width (text i).length) 0
  let known := items.filter Item.isKnown
  let devices := known.filterMap fun i => i.entry.deviceNumbers? fs
  let mostOf (texts : List Octets) : Nat := texts.foldl (fun width t => max width t.length) 0
  let major := mostOf (devices.map fun d => shown d.1)
  let minor := mostOf (devices.map fun d => shown d.2)
  let sizes := mostOf ((known.filter fun i => (i.entry.deviceNumbers? fs).isNone).map fun i =>
    r.sizeText (i.entry.size fs))
  { number := most numberText
    blocks := most (r.blocksText fs)
    links := mostOf (known.map fun i => shown (i.entry.linkCount fs))
    owner := most fun i => (r.userText fs i).1
    group := most fun i => (r.groupText fs i).1
    major
    minor
    size := max sizes (if devices.isEmpty then 0 else major + 2 + minor) }

/-- The names of a list as they are written; where quotes are optional, names without them are
put in line with the others. -/
def writtenNames (r : Request) (items : List Item) : List Octets :=
  let style := r.quoting.getD .literal
  let names := items.map fun i => (i.entry.name, r.writeName i.entry.name)
  let asks (name : Octets) : Bool := style.write r.isSpecialInNames name != name
  let isAligned := style.isOptional && (r.layout = .long ||
    (r.layout = .down || r.layout = .across) && r.width != some 0) &&
    names.any fun (name, _) => asks name
  names.map fun (name, written) => if isAligned && !asks name then ' ' :: written else written

def margin (r : Request) (fs : FileSystem) (w : Widths) (i : Item) : Octets :=
  let fill (width : Nat) (text : Octets) : Octets :=
    if r.layout = .commas then text else padLeft width text
  (if r.showsNumber then fill w.number (numberText i) ++ [' '] else []) ++
    (if r.showsBlocks then fill w.blocks (r.blocksText fs i) ++ [' '] else [])

def dateText (fs : FileSystem) (formats : DateFormats) (i : Item) : Octets :=
  if i.isKnown then formats.write fs (i.entry.attributes fs).changed
  else padLeft ((Moment.mk 0 0).format 40 formats.old).length ['?']

def longRow (r : Request) (fs : FileSystem) (formats : DateFormats) (w : Widths) (name : Octets)
    (i : Item) : Octets :=
  let e := i.entry
  let mode := if i.isKnown then e.modeText fs else e.letter fs :: List.replicate 9 '?'
  let person (width : Nat) (text : Octets × Bool) : Octets :=
    (if text.2 then padLeft width text.1 else padRight width text.1) ++ [' ']
  let size := match i.isKnown, e.deviceNumbers? fs with
    | true, some (major, minor) =>
        let blanks := w.size - (w.major + 2 + w.minor)
        padLeft (w.major + blanks) (shown major) ++ ", ".toList ++ padLeft w.minor (shown minor)
    | true, none => padLeft w.size (r.sizeText (e.size fs))
    | false, _ => padLeft w.size ['?']
  let target := match i.isKnown, e.target? with
    | true, some target =>
        " -> ".toList ++ r.writeName target ++
          (match i.target with
          | some e => Item.markOf fs r.mark true e
          | none => [])
    | _, _ => Item.markOf fs r.mark i.isKnown e
  r.margin fs w i ++ mode ++ ' ' ::
    padLeft w.links (if i.isKnown then shown (e.linkCount fs) else ['?']) ++ ' ' ::
    (if r.hidesOwner then [] else person w.owner (r.userText fs i)) ++
    (if r.hidesGroup then [] else person w.group (r.groupText fs i)) ++
    (if r.showsAuthor then person w.owner (r.userText fs i) else []) ++
    (if r.showsContext then "? ".toList else []) ++
    size ++ ' ' :: dateText fs formats i ++ ' ' :: name ++ target

def indent (tab : Nat) : Nat → Nat → Nat → Octets
  | 0, _, _ => []
  | rounds + 1, here, there =>
      if there ≤ here then []
      else if tab != 0 && (here + 1) / tab < there / tab then
        '\t' :: indent tab rounds ((here / tab + 1) * tab) there
      else ' ' :: indent tab rounds (here + 1) there

def columnWidths (acrossRows : Bool) (count : Nat) (cells : List Nat) : List Nat :=
  let height := (cells.length + count - 1) / count
  let placed := cells.mapIdx fun index width =>
    ((if acrossRows then index % count else index / height), width)
  (List.range count).map fun column =>
    let own := (placed.filter fun p => p.1 = column).map fun (_, width) =>
      width + (if column + 1 = count then 0 else 2)
    own.foldl max 3

def inColumns (acrossRows : Bool) (tab width : Nat) (cells : List Octets) : List Octets :=
  let sizes := cells.map List.length
  let fits (count : Nat) : Bool :=
    let widths := columnWidths acrossRows count sizes
    let sum := widths.foldl (· + ·) 0
    sum < width || sum = 3 * count
  let most := min cells.length ((width + 2) / 3)
  let count := ((List.range most).map fun n => most - n).find? fits |>.getD 1
  let widths := columnWidths acrossRows count sizes
  let height := (cells.length + count - 1) / count
  (List.range height).map fun row =>
    let picked := (List.range count).filterMap fun column =>
      cells[if acrossRows then row * count + column else column * height + row]?
    line picked widths 0 0
where
  line : List Octets → List Nat → Nat → Nat → Octets
    | [], _, _, _ => []
    | [cell], _, here, start => indent tab (start + 1) here start ++ cell
    | cell :: more, widths, here, start =>
        indent tab (start + 1) here start ++ cell ++
          line more widths.tail (start + cell.length) (start + widths.headD 0)

def separated (separator ending : Char) (width : Nat) (cells : List Octets) : Octets :=
  go 0 cells
where
  go (here : Nat) : List Octets → Octets
    | [] => []
    | [cell] => cell
    | cell :: next :: rest =>
        let here := here + cell.length
        if width = 0 || here + next.length + 2 < width then
          cell ++ separator :: ' ' :: go (here + 2) (next :: rest)
        else cell ++ separator :: ending :: go 0 (next :: rest)

/-- Items as they are written; the widths of columns come from `all`. -/
def lay (r : Request) (fs : FileSystem) (formats : DateFormats) (all items : List Item) :
    Octets :=
  if items.isEmpty then []
  else
    let w := r.widthsOf fs all
    let names := r.writtenNames items
    let named := items.zip names
    if r.layout = .long then
      unlinesWith r.ending (named.map fun (i, name) => r.longRow fs formats w name i)
    else
      let cells := named.map fun (i, name) =>
        r.margin fs w i ++ (if r.showsContext then "? ".toList else []) ++ name ++
          Item.markOf fs r.mark i.isKnown i.entry
      let width := r.width.getD 80
      match r.layout, width with
      | .commas, width => separated ',' r.ending width cells ++ [r.ending]
      | .across, 0 | .down, 0 => separated ' ' r.ending 0 cells ++ [r.ending]
      | .across, width => unlinesWith r.ending (inColumns true r.tab width cells)
      | .down, width => unlinesWith r.ending (inColumns false r.tab width cells)
      | _, _ => unlinesWith r.ending cells

/-! ## Folders -/

def within (r : Request) (fs : FileSystem) (path : Octets) (folder : Entry) :
    List (Except FileError Item × Item) :=
  match folder.node with
  | .folder _ entries =>
      let above := folder.place.dropLast
      let dots : List (Name × List Name × Node) :=
        [(['.'], folder.place, folder.node),
          (['.', '.'], above, (fs.node? above).getD folder.node)]
      let all := dots ++ entries.map fun (name, node) => (name, folder.place ++ [name], node)
      let found := all.filter fun (name, _) => !r.isIgnored name
      found.map fun (name, place, node) =>
        let plain : Item := ⟨⟨name, place, node⟩, false, none, false⟩
        if node.isFolder then (.ok { plain with isKnown := true }, plain)
        else (r.item fs false (entryOf path name) name, plain)
  | _ => []

def deepestListed : Nat := 400

/-- What is written for a folder, for those below it if that is asked for, and the status.
Complaints come at once; what is written comes at the end. -/
def list (r : Request) (fs : FileSystem) (formats : DateFormats) (isTitled : Bool) :
    Nat → List (List Name) → Octets → Entry → Action (List Octets × Nat)
  | 0, _, _, _ => return ([], 0)
  | depth + 1, above, path, folder => do
      if above.contains folder.place then
        complain "ls" (shownName path ++ ": not listing already-listed directory".toList)
        return ([], 2)
      let found := r.within fs path folder
      let _ ← found.mapM fun
        | (.error failure, plain) => do
            let _ ← refuse "ls" "cannot access" (entryOf path plain.entry.name) failure
          | _ => pure ()
      let status := if found.all fun (result, _) => result.isOk then 0 else 1
      let items := r.sorted fs (found.map fun (result, plain) => result.toOption.getD plain)
      let total := items.foldl (fun sum i => sum + if i.isKnown then i.entry.blocks fs else 0) 0
      let style := r.quoting.getD .literal
      let title := if isTitled then
          style.write (':' :: r.isSpecialInNames.filter (· = ' ')) path ++ [':', '\n']
        else []
      let sum := if r.layout = .long || r.showsBlocks then
          "total ".toList ++ r.blockText total ++ [r.ending]
        else []
      let own := title ++ sum ++ r.lay fs formats items items
      if !r.isRecursive then return ([own], status)
      else
        let inner := items.filter fun i =>
          i.isFolder && i.entry.name != ['.'] && i.entry.name != ['.', '.']
        let below ← inner.mapM fun i =>
          list r fs formats true depth (folder.place :: above) (entryOf path i.entry.name) i.entry
        return (own :: below.flatMap Prod.fst,
          below.foldl (fun status result => max status result.2) status)

end Request

def Request.settle (r : Request) (environment : Environment) : Action Request := do
  let width ← match r.width, environment.lookup "COLUMNS" with
    | some width, _ => pure (some width)
    | none, some (c :: value) =>
        if r.layout = .long || r.layout = .single then pure none
        else
          match Scale.number? (c :: value) with
          | (some width, []) => pure (some width)
          | _ =>
              complain "ls" ("ignoring invalid width in environment variable COLUMNS: ".toList ++
                quoted (c :: value))
              pure none
    | none, _ => pure none
  let quoting ← match r.quoting, environment.lookup "QUOTING_STYLE" with
    | some style, _ => pure (some style)
    | none, none => pure none
    | none, some word =>
        match (QuotingStyle.keyword "").number? word with
        | .ok number => pure QuotingStyle.all[number]?
        | .error _ =>
            complain "ls" ("ignoring invalid value of environment variable QUOTING_STYLE: ".toList ++
              quoted word)
            pure none
  let asked := Scale.asked? environment ["LS_BLOCK_SIZE", "BLOCK_SIZE"]
  let blockScale := r.blockScale.or
    (if r.countsKilobytes then none else asked.or (Scale.asked? environment ["BLOCKSIZE"]))
  let sizeScale := r.sizeScale.or (if r.blockScale.isSome then none else asked)
  let timeStyle := r.timeStyle.or (environment.lookup "TIME_STYLE")
  return { r with width, quoting, blockScale, sizeScale, timeStyle }

def listAll (r : Request) (formats : DateFormats) (operands : List Octets) : Action Nat := do
  let fs ← files
  let found ← (if operands.isEmpty && r.namesFolders then [['.']] else operands).mapM
    fun operand => do
      match r.item fs true operand operand with
      | .ok item => return some item
      | .error failure =>
          let _ ← refuse "ls" "cannot access" operand failure
          return none
  let items := r.sorted fs (found.filterMap id)
  let current? : List Item := if operands.isEmpty && !r.namesFolders then
      match entry? fs true ['.'] with
      | .ok e => [⟨{ e with name := ['.'] }, true, none, true⟩]
      | .error _ => []
    else []
  let plain := items.filter fun i => !i.opens
  let folders := items.filter Item.opens ++ current?
  let isTitled := r.isRecursive || 1 < operands.length || !plain.isEmpty
  let results ← folders.mapM fun i =>
    r.list fs formats isTitled Request.deepestListed [] i.entry.name i.entry
  let blocks := (if plain.isEmpty then [] else [r.lay fs formats items plain]) ++
    results.flatMap Prod.fst
  let status := results.foldl (fun status result => max status result.2)
    (if found.all Option.isSome then 0 else 2)
  emitWith "ls" (['\n'].intercalate blocks) status

end Listing

def lister (name : String) (start : Listing.Request) : Tool := fun arguments environment =>
  withArguments name Listing.switches 2 arguments fun a => do
    match ← readOptions Listing.Request.add a.options start with
    | none => return 2
    | some r =>
        let r ← r.settle environment
        let formats? ← if r.layout = .long then
            match r.timeStyle with
            | some word => Listing.DateFormats.read word
            | none => pure (some Listing.DateFormats.plain)
          else pure (some Listing.DateFormats.plain)
        match formats? with
        | none => return 2
        | some formats => Listing.listAll r formats a.operands

def ls : Tool := lister "ls" .start

def dir : Tool :=
  lister "dir" { Listing.Request.start with layout := .down, quoting := some .escape }

def vdir : Tool :=
  lister "vdir" { Listing.Request.start with layout := .long, quoting := some .escape }

end Clausal.Utility
