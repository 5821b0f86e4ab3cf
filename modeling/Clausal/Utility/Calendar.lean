import Clausal.Text.Floating
import Clausal.Utility.Basic

/-!
# Time

Pauses, and the date.  Days are counted from the start of the calendar year 1970; there are no
time zones.
-/

namespace Clausal.Utility

open Machine (Action Task)
open Text (Octets)

/-! ## Pauses -/

/-- The nanoseconds of a number with an optional unit of time; none for no end. -/
def span? (octets : Octets) : Option (Option Nat) :=
  let octets := octets.dropWhile fun c => c = ' ' || c = '\t' || c = '\n'
  let octets := if octets.head? = some '+' then octets.tail else octets
  let factor? (unit : Octets) : Option Nat :=
    match unit with
    | [] | ['s'] => some 1
    | ['m'] => some 60
    | ['h'] => some 3600
    | ['d'] => some 86400
    | _ => none
  match Text.Magnitude.read? octets with
  | some (.infinite, unit) => (factor? unit).map fun _ => none
  | some (.finite mantissa exponent, unit) =>
      (factor? unit).map fun factor =>
        let (n, d) := Text.Magnitude.fraction mantissa exponent
        some ((n * factor * 1000000000 + d - 1) / d)
  | _ => none

def longSpan : Nat := 1000000000000000000000000

def sleepFor : Nat → Action Nat
  | 0 => return 0
  | rounds + 1 => do
      Task.sleep longSpan
      sleepFor rounds

def sleep : Tool := fun arguments _ =>
  withArguments "sleep" [] 1 arguments fun a => do
    if a.operands.isEmpty then misuse "sleep" "missing operand".toList 1
    else
      let bad := a.operands.filter fun operand => (span? operand).isNone
      bad.forM fun operand => complain "sleep" ("invalid time interval ".toList ++ quoted operand)
      if !bad.isEmpty then suggestHelp "sleep" 1
      else
        let spans := a.operands.map fun operand => (span? operand).getD none
        if spans.any Option.isNone then sleepFor roundBound
        else
          Task.sleep (spans.foldl (fun total span => total + span.getD 0) 0)
          return 0

/-! ## Dates -/

structure Date where
  year : Int
  month : Nat
  day : Nat
  deriving DecidableEq, Repr

namespace Date

def isLeap (year : Int) : Bool :=
  year % 4 = 0 && (year % 100 != 0 || year % 400 = 0)

def daysBefore (year : Int) (month : Nat) : Nat :=
  let days := #[0, 31, 59, 90, 120, 151, 181, 212, 243, 273, 304, 334].getD (month - 1) 0
  if 2 < month && isLeap year then days + 1 else days

def daysToYear (year : Int) : Int :=
  let y := year - 1
  365 * (year - 1970) + (y / 4 - 492) - (y / 100 - 19) + (y / 400 - 4)

def toDays (d : Date) : Int := daysToYear d.year + daysBefore d.year d.month + d.day - 1

def ofDays (days : Int) : Date :=
  let guess := if days < 0 then 1969 + days / 365 else 1970 + days / 366
  let year := later 1200 guess
  let rest := (days - daysToYear year).toNat
  let month := ((List.range 12).filter fun m => daysBefore year (m + 1) ≤ rest).length
  ⟨year, month, rest - daysBefore year month + 1⟩
where
  later : Nat → Int → Int
    | 0, year => year
    | rounds + 1, year => if daysToYear (year + 1) ≤ days then later rounds (year + 1) else year

end Date

def weekdays : List String :=
  ["Sunday", "Monday", "Tuesday", "Wednesday", "Thursday", "Friday", "Saturday"]

def monthNames : List String :=
  ["January", "February", "March", "April", "May", "June", "July", "August", "September",
    "October", "November", "December"]

/-- A moment in seconds from the start of 1970, and the nanoseconds after that. -/
structure Moment where
  seconds : Int
  nanoseconds : Nat
  deriving DecidableEq, Repr

namespace Moment

def ofNanoseconds (n : Int) : Moment := ⟨n / 1000000000, (n % 1000000000).toNat⟩

def date (m : Moment) : Date := .ofDays (m.seconds / 86400)

def secondOfDay (m : Moment) : Nat := (m.seconds % 86400).toNat

def weekday (m : Moment) : Nat := ((m.seconds / 86400 + 4) % 7).toNat

def dayOfYear (m : Moment) : Nat := Date.daysBefore m.date.year m.date.month + m.date.day - 1

/-- The week of the year by the rule that a week belongs to the year of its Thursday. -/
def week (m : Moment) : Int × Nat :=
  let days := m.seconds / 86400
  let thursday := days + 3 - (((m.weekday + 6) % 7 : Nat) : Int)
  let year := (Date.ofDays thursday).year
  (year, ((thursday - Date.daysToYear year) / 7).toNat + 1)

def digits (width n : Nat) : Octets :=
  let text := shown n
  List.replicate (width - text.length) '0' ++ text

def name (names : List String) (index : Nat) : Octets := (names.getD index "").toList

def yearText (year : Int) : Octets := if year < 0 then '-' :: digits 3 year.natAbs else digits 4 year.natAbs

/-- What one letter of a format stands for; some stand for a format again. -/
def item (m : Moment) (letter : Char) : Octets ⊕ String :=
  let d := m.date
  let second := m.secondOfDay
  let hour := second / 3600
  let half := if hour % 12 = 0 then 12 else hour % 12
  match letter with
  | '%' => .inl ['%']
  | 'n' => .inl ['\n']
  | 't' => .inl ['\t']
  | 'Y' => .inl (yearText d.year)
  | 'C' => .inl (digits 2 (d.year / 100).toNat)
  | 'y' => .inl (digits 2 (d.year % 100).toNat)
  | 'm' => .inl (digits 2 d.month)
  | 'd' => .inl (digits 2 d.day)
  | 'e' => .inl (padLeft 2 (shown d.day))
  | 'j' => .inl (digits 3 (m.dayOfYear + 1))
  | 'H' => .inl (digits 2 hour)
  | 'k' => .inl (padLeft 2 (shown hour))
  | 'I' => .inl (digits 2 half)
  | 'l' => .inl (padLeft 2 (shown half))
  | 'M' => .inl (digits 2 (second / 60 % 60))
  | 'S' => .inl (digits 2 (second % 60))
  | 'N' => .inl (digits 9 m.nanoseconds)
  | 's' => .inl (toString m.seconds).toList
  | 'p' => .inl (if hour < 12 then "AM" else "PM").toList
  | 'P' => .inl (if hour < 12 then "am" else "pm").toList
  | 'a' => .inl ((name weekdays m.weekday).take 3)
  | 'A' => .inl (name weekdays m.weekday)
  | 'b' | 'h' => .inl ((name monthNames (d.month - 1)).take 3)
  | 'B' => .inl (name monthNames (d.month - 1))
  | 'u' => .inl (shown ((m.weekday + 6) % 7 + 1))
  | 'w' => .inl (shown m.weekday)
  | 'q' => .inl (shown ((d.month + 2) / 3))
  | 'U' => .inl (digits 2 ((m.dayOfYear + 7 - m.weekday) / 7))
  | 'W' => .inl (digits 2 ((m.dayOfYear + 7 - (m.weekday + 6) % 7) / 7))
  | 'V' => .inl (digits 2 m.week.2)
  | 'G' => .inl (yearText m.week.1)
  | 'g' => .inl (digits 2 (m.week.1 % 100).toNat)
  | 'z' => .inl "+0000".toList
  | 'Z' => .inl "UTC".toList
  | 'F' => .inr "%Y-%m-%d"
  | 'D' | 'x' => .inr "%m/%d/%y"
  | 'T' | 'X' => .inr "%H:%M:%S"
  | 'R' => .inr "%H:%M"
  | 'r' => .inr "%I:%M:%S %p"
  | 'c' => .inr "%a %b %e %H:%M:%S %Y"
  | letter => .inl ['%', letter]

def refill (flag : Option Char) (width : Option Nat) (octets : Octets) : Octets :=
  let isNumber := octets.all fun c => c.isDigit || c = ' '
  let bare := octets.dropWhile fun c => c = '0' || c = ' '
  let bare := if bare.isEmpty then octets.drop (octets.length - 1) else bare
  let size := width.getD octets.length
  let octets := match flag with
    | some '-' => if isNumber then bare else octets
    | some '_' => if isNumber then padLeft size bare else octets
    | some '0' => if isNumber then List.replicate (size - bare.length) '0' ++ bare else octets
    | some '^' => octets.map Char.toUpper
    | some '#' => octets.map fun c => if c.isUpper then c.toLower else c.toUpper
    | _ => octets
  match width with
  | some width =>
      List.replicate (width - octets.length) (if isNumber && flag != some '_' then '0' else ' ') ++
        octets
  | none => octets

def format (m : Moment) : Nat → Octets → Octets
  | 0, _ => []
  | rounds + 1, octets =>
      match octets with
      | '%' :: rest =>
          let (flags, more) := rest.span fun c => "-_0^#".toList.contains c
          let (width, more) := more.span Char.isDigit
          let colons := (more.takeWhile (· = ':')).length
          match more.drop colons with
          | 'z' :: more =>
              let zone := if colons = 1 then "+00:00" else if colons = 2 then "+00:00:00" else
                if colons = 3 then "+00" else "+0000"
              zone.toList ++ format m rounds more
          | letter :: more =>
              let written := match m.item letter with
                | .inl octets =>
                    if letter = 'N' && width != [] then
                      octets.take ((Text.readDigits? width).getD 9)
                    else refill flags.getLast? (Text.readDigits? width) octets
                | .inr inner => refill flags.getLast? (Text.readDigits? width)
                    (format m rounds inner.toList)
              written ++ format m rounds more
          | [] => ['%']
      | c :: rest => c :: format m rounds rest
      | [] => []

/-! ## Reading -/

def readField (width : Nat) (octets : Octets) : Option (Nat × Octets) :=
  let digits := octets.take width
  if digits.length = width && digits.all Char.isDigit then
    (Text.readDigits? digits).map fun n => (n, octets.drop width)
  else none

/-- The second of the day that a text such as `12:30:15` says. -/
def readClock (octets : Octets) : Option (Nat × Nat) :=
  match readField 2 octets with
  | some (hour, ':' :: rest) =>
      match readField 2 rest with
      | some (minute, []) => if hour < 24 && minute < 60 then some (hour * 3600 + minute * 60, 0) else none
      | some (minute, ':' :: rest) =>
          match readField 2 rest with
          | some (second, after) =>
              let fraction := match after with
                | '.' :: digits =>
                    if digits.all Char.isDigit then
                      Text.readDigits? ((digits ++ List.replicate 9 '0').take 9)
                    else none
                | [] => some 0
                | _ => none
              if hour < 24 && minute < 60 && second < 61 then
                fraction.map fun n => (hour * 3600 + minute * 60 + second, n)
              else none
          | none => none
      | _ => none
  | _ => none

def readDays (octets : Octets) : Option Int :=
  match readField 4 octets with
  | some (year, '-' :: rest) =>
      match readField 2 rest with
      | some (month, '-' :: rest) =>
          match readField 2 rest with
          | some (day, []) =>
              let date : Date := ⟨year, month, day⟩
              if 1 ≤ month && month ≤ 12 && 1 ≤ day && Date.ofDays date.toDays = date then
                some date.toDays
              else none
          | _ => none
      | _ => none
  | _ => none

/-- What was read of a text that says a moment. -/
structure Reading where
  days : Option Int
  clock : Option (Nat × Nat)
  zone : Int
  weekday : Option Nat
  moreMonths : Int
  moreDays : Int
  moreSeconds : Int
  deriving DecidableEq, Repr

namespace Reading

def none : Reading := ⟨.none, .none, 0, .none, 0, 0, 0⟩

def add? (r : Reading) (count : Int) (unit : Octets) : Option Reading :=
  let unit := if unit.getLast? = some 's' && unit.length > 2 then unit.dropLast else unit
  let inDays (n : Int) : Option Reading := some { r with moreDays := r.moreDays + n * count }
  let inSeconds (n : Int) : Option Reading := some { r with moreSeconds := r.moreSeconds + n * count }
  let inMonths (n : Int) : Option Reading := some { r with moreMonths := r.moreMonths + n * count }
  match String.ofList unit with
  | "year" => inMonths 12
  | "month" => inMonths 1
  | "fortnight" => inDays 14
  | "week" => inDays 7
  | "day" => inDays 1
  | "hour" => inSeconds 3600
  | "minute" | "min" => inSeconds 60
  | "second" | "sec" => inSeconds 1
  | _ => .none

/-- The number of a name in a list, be it cut to three letters. -/
def named? (names : List String) (word : Octets) : Option Nat :=
  names.findIdx? fun name =>
    let name := name.toList.map Char.toLower
    word = name || word.length = 3 && word.isPrefixOf name

/-- A whole number with an optional sign, and the letters after it. -/
def counted? (word : Octets) : Option (Int × Octets) :=
  let (isNegative, rest) := match word with
    | '-' :: rest => (true, rest)
    | '+' :: rest => (false, rest)
    | rest => (false, rest)
  let (digits, letters) := rest.span Char.isDigit
  (Text.readDigits? digits).map fun (n : Nat) => (if isNegative then -(n : Int) else n, letters)

def zone? (word : Octets) : Option Int :=
  match word with
  | sign :: rest =>
      let digits := rest.filter (· != ':')
      let value : Option Int := match digits.length, Text.readDigits? digits with
        | 2, some n => some (n * 3600)
        | 4, some n => some ((n / 100 * 3600 + n % 100 * 60 : Nat))
        | _, _ => .none
      if sign = '+' then value else if sign = '-' then value.map fun (n : Int) => -n else .none
  | [] => .none

/-- The clock of a word, with a zone that may follow it at once. -/
def clock? (word : Octets) : Option ((Nat × Nat) × Int) :=
  let bare := if word.getLast? = some 'z' then word.dropLast else word
  let (time, zone) := bare.span fun c => c != '+' && c != '-'
  match readClock time, zone with
  | some clock, [] => some (clock, 0)
  | some clock, zone => (zone? zone).map fun shift => (clock, shift)
  | .none, _ => .none

def withDate (r : Reading) (year : Int) (month day : Nat) : Option Reading :=
  let date : Date := ⟨year, month, day⟩
  if Date.ofDays date.toDays = date then some { r with days := some date.toDays } else .none

def readWords (now : Date) : Nat → List Octets → Reading → Option Reading
  | 0, _, _ => .none
  | rounds + 1, words, r =>
      let go := readWords now rounds
      let signed (count : Int) (unit : Octets) (rest : List Octets) : Option Reading :=
        match rest with
        | word :: more =>
            if word = "ago".toList then (r.add? (-count) unit).bind (go more)
            else (r.add? count unit).bind (go rest)
        | [] => r.add? count unit
      match words with
      | [] => some r
      | word :: rest =>
          if ["now", "today", "utc", "gmt", "z"].contains (String.ofList word) then go rest r
          else if word = "yesterday".toList then go rest { r with moreDays := r.moreDays - 1 }
          else if word = "tomorrow".toList then go rest { r with moreDays := r.moreDays + 1 }
          else if word = "noon".toList then go rest { r with clock := some (43200, 0) }
          else if word = "midnight".toList then go rest { r with clock := some (0, 0) }
          else
            match readDays word, clock? word, named? weekdays word, named? monthNames word with
            | some days, _, _, _ => go rest { r with days := some days }
            | .none, some (clock, zone), _, _ =>
                match rest with
                | next :: more =>
                    match zone? next with
                    | some shift => go more { r with clock := some clock, zone := shift }
                    | .none =>
                        if next = "pm".toList then
                          go more { r with clock := some (clock.1 % 43200 + 43200, clock.2), zone }
                        else if next = "am".toList then
                          go more { r with clock := some (clock.1 % 43200, clock.2), zone }
                        else go rest { r with clock := some clock, zone }
                | [] => some { r with clock := some clock, zone }
            | .none, .none, some weekday, _ => go rest { r with weekday := some weekday }
            | .none, .none, .none, some month =>
                match rest with
                | day :: more =>
                    match counted? (day.filter (· != ',')), more with
                    | some (day, []), [] => r.withDate now.year (month + 1) day.toNat
                    | some (day, []), year :: last =>
                        match year.length == 4, Text.readDigits? year with
                        | true, some year => (r.withDate year (month + 1) day.toNat).bind (go last)
                        | _, _ => (r.withDate now.year (month + 1) day.toNat).bind (go more)
                    | _, _ => .none
                | [] => .none
            | .none, .none, .none, .none =>
                match counted? word, rest with
                | some (count, []), unit :: more =>
                    match named? monthNames unit, more with
                    | some month, year :: last =>
                        match year.length == 4, Text.readDigits? year with
                        | true, some year => (r.withDate year (month + 1) count.toNat).bind (go last)
                        | _, _ => (r.withDate now.year (month + 1) count.toNat).bind (go more)
                    | some month, [] => r.withDate now.year (month + 1) count.toNat
                    | .none, _ =>
                        if unit = "pm".toList || unit = "am".toList then
                          let hour := count.toNat % 12 + if unit = "pm".toList then 12 else 0
                          if 1 ≤ count && count ≤ 12 then
                            go more { r with clock := some (hour * 3600, 0) }
                          else .none
                        else signed count unit more
                | some (count, []), [] =>
                    if word.length = 8 then
                      r.withDate (count / 10000) (count / 100 % 100).toNat (count % 100).toNat
                    else .none
                | some (count, letters), rest =>
                    if letters = "pm".toList || letters = "am".toList then
                      let hour := count.toNat % 12 + if letters = "pm".toList then 12 else 0
                      go rest { r with clock := some (hour * 3600, 0) }
                    else signed count letters rest
                | .none, unit :: more =>
                    match String.ofList word with
                    | "next" => signed 1 unit more
                    | "last" => signed (-1) unit more
                    | "this" => signed 0 unit more
                    | _ => signed 1 word rest
                | .none, [] => signed 1 word []

def moment (now : Moment) (r : Reading) : Moment :=
  let today := now.seconds / 86400
  let isDated := r.days.isSome || r.clock.isSome || r.weekday.isSome
  let start := r.days.getD today
  let start := match r.weekday, r.days with
    | some weekday, .none =>
        let current := ((today + 4) % 7).toNat
        start + ((weekday + 7 - current) % 7 : Nat)
    | _, _ => start
  let date := Date.ofDays start
  let months := date.year * 12 + (date.month : Int) - 1 + r.moreMonths
  let shifted : Int := if r.moreMonths = 0 then start else
    (⟨months / 12, (months % 12).toNat + 1, date.day⟩ : Date).toDays
  let (second, n) : Nat × Nat :=
    match r.clock with
    | some clock => clock
    | .none => if isDated then (0, 0) else (now.secondOfDay, now.nanoseconds)
  ⟨(shifted + r.moreDays) * 86400 + second - r.zone + r.moreSeconds, n⟩

end Reading

def read? (now : Moment) (octets : Octets) : Option Moment :=
  let isSpace (c : Char) : Bool := c = ' ' || c = '\t' || c = '\n'
  let words := (Text.split isSpace octets).filter fun word => !word.isEmpty
  match words with
  | [] => some ⟨now.seconds / 86400 * 86400, 0⟩
  | ['@' :: digits] =>
      let (isNegative, digits) := match digits with
        | '-' :: digits => (true, digits)
        | digits => (false, digits)
      let (whole, rest) := digits.span Char.isDigit
      let fraction? := match rest with
        | [] => some 0
        | '.' :: more => if more.all Char.isDigit then
            Text.readDigits? ((more ++ List.replicate 9 '0').take 9) else none
        | _ => none
      match Text.readDigits? whole, fraction? with
      | some n, some fraction => some ⟨if isNegative then -(n : Int) else n, fraction⟩
      | _, _ => none
  | words =>
      let words := words.flatMap fun word =>
        if (readField 4 word).isSome then Text.split (· = 't') (word.map Char.toLower)
        else [word.map Char.toLower]
      (Reading.readWords now.date (words.length + 1) words .none).map (Reading.moment now)

end Moment

def dateSwitches : List Switch :=
  [.setting "d" "date", .flag "u" "utc", .flag "u" "universal", .choice "I" "iso-8601",
    .flag "R" "rfc-email", .setting "rfc" "rfc-3339", .setting "r" "reference",
    .setting "s" "set", .setting "f" "file"]

def dateFormat (a : Arguments) : String :=
  if a.has "R" then "%a, %d %b %Y %H:%M:%S %z"
  else if a.has "I" then
    match text ((a.value? "I").getD []) with
    | "hours" => "%Y-%m-%dT%H%:z"
    | "minutes" => "%Y-%m-%dT%H:%M%:z"
    | "seconds" => "%Y-%m-%dT%H:%M:%S%:z"
    | "ns" => "%Y-%m-%dT%H:%M:%S,%N%:z"
    | _ => "%Y-%m-%d"
  else match a.value? "rfc" with
    | some value =>
        if value = "date".toList then "%Y-%m-%d"
        else if value = "ns".toList then "%Y-%m-%d %H:%M:%S.%N%:z"
        else "%Y-%m-%d %H:%M:%S%:z"
    | none => "%a %b %e %H:%M:%S %Z %Y"

def date : Tool := fun arguments _ =>
  withArguments "date" dateSwitches 1 arguments fun a => do
    let files ← (Task.browse (fun files => files) : Action FileSystem)
    let now := Moment.ofNanoseconds files.moment
    let changed? : Option (Except FileError Moment) := (a.value? "r").map fun file => do
      match files.node? (← files.follow ⟨file⟩) with
      | some (.file id) => return .ofNanoseconds (files.body id).attributes.changed
      | some (.folder attributes _) => return .ofNanoseconds attributes.changed
      | _ => throw .notFound
    match changed?, a.value? "d" with
    | some (.error failure), _ =>
        fail "date" (withReason (a.value? "r" |>.getD []) (.file failure)) 1
    | some (.ok moment), _ => write a moment
    | none, some value =>
        match Moment.read? now value with
        | some moment => write a moment
        | none => fail "date" ("invalid date ".toList ++ quoted value) 1
    | none, none => write a now
where
  write (a : Arguments) (moment : Moment) : Action Nat :=
    match a.operands with
    | [] =>
        let format := (dateFormat a).toList
        emit "date" (moment.format (format.length + 9) format ++ ['\n'])
    | ['+' :: format] => emit "date" (moment.format (format.length + 9) format ++ ['\n'])
    | operand :: [] => fail "date" ("invalid date ".toList ++ quoted operand) 1
    | _ :: extra :: _ => extraOperand "date" extra 1

end Clausal.Utility
