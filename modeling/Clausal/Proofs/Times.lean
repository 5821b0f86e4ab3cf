import Mathlib.Algebra.Order.Floor.Semifield
import Mathlib.Data.Rat.Floor
import Mathlib.Tactic.Positivity
import Mathlib.Tactic.Ring
import Clausal.Proofs.Outcome
import Clausal.Proofs.Text.Numeral
import Clausal.Times
import Clausal.Word

/-!
# Times read exactly

A number of seconds is read as its milliseconds, rounded down, whenever these have 64 bits, and
nothing else is read.  Of a report each label keeps the last time that a line gives for it, whatever
the other lines say.
-/

namespace Clausal

namespace Text

/-! ## Values of digits -/

theorem digitsValue_lt {digits : List Char} (h : AllDigits digits) :
    digitsValue digits < 10 ^ digits.length := by
  induction digits with
  | nil => exact Nat.one_pos
  | cons c rest ih =>
      rw [AllDigits, List.forall_mem_cons] at h
      have hlast := ih h.2
      have hfirst : c.toNat - '0'.toNat < 10 := by
        have hcode := toNat_of_isNumeralChar (c := c) (by simp [isNumeralChar, h.1])
        have hzero : '0'.toNat = 48 := rfl
        omega
      rw [digitsValue, Nat.ofDigitChars_cons, Nat.ofDigitChars_eq_ofDigitChars_zero,
        List.length_cons, Nat.pow_succ, Nat.mul_zero, Nat.zero_add]
      calc 10 ^ rest.length * (c.toNat - '0'.toNat) + digitsValue rest
          < 10 ^ rest.length * (c.toNat - '0'.toNat) + 10 ^ rest.length :=
            Nat.add_lt_add_left hlast _
        _ = 10 ^ rest.length * (c.toNat - '0'.toNat + 1) := (Nat.mul_succ _ _).symm
        _ ≤ 10 ^ rest.length * 10 := Nat.mul_le_mul_left _ hfirst

theorem digitsValue_append (front back : List Char) :
    digitsValue (front ++ back) = 10 ^ back.length * digitsValue front + digitsValue back := by
  rw [digitsValue, Nat.ofDigitChars_append, Nat.ofDigitChars_eq_ofDigitChars_zero]
  rfl

end Text

namespace Times

open Text

/-! ## Numbers of seconds -/

def fractionValue (digits : List Char) : ℚ := digitsValue digits / 10 ^ digits.length

/-- A whole number, perhaps with a point and more digits behind it, or a point with digits only
behind it. -/
inductive Seconds : List Char → ℚ → Prop
  | whole {front : List Char} {n : Nat} (numeral : Unsigned front n) : Seconds front n
  | pointed {front back : List Char} {n : Nat} (numeral : Unsigned front n)
      (digits : AllDigits back) : Seconds (front ++ '.' :: back) (n + fractionValue back)
  | fraction {back : List Char} (nonempty : back ≠ []) (digits : AllDigits back) :
      Seconds ('.' :: back) (fractionValue back)

def sides (text : List Char) : List Char × List Char :=
  (splitOnce? (· = '.') text).getD (text, [])

/-- The value of what stands before the point, where nothing counts as zero. -/
def FrontValue (front : List Char) (n : Nat) : Prop := front = [] ∧ n = 0 ∨ Unsigned front n

theorem isPoint_eq_false {text : List Char} (h : '.' ∉ text) :
    ∀ c ∈ text, decide (c = '.') = false := fun _ hc => decide_eq_false fun heq => h (heq ▸ hc)

theorem sides_of_not_mem {text : List Char} (h : '.' ∉ text) : sides text = (text, []) := by
  rw [sides, splitOnce?_of_not_mem (isPoint_eq_false h), Option.getD_none]

theorem sides_append_cons {front : List Char} (h : '.' ∉ front) (back : List Char) :
    sides (front ++ '.' :: back) = (front, back) := by
  rw [sides, splitOnce?_append_cons (isPoint_eq_false h) (decide_eq_true rfl), Option.getD_some]

theorem seconds_iff {text : List Char} {value : ℚ} :
    Seconds text value ↔
      ((sides text).1 ≠ [] ∨ (sides text).2 ≠ []) ∧ AllDigits (sides text).2 ∧
        ∃ n, FrontValue (sides text).1 n ∧ value = n + fractionValue (sides text).2 := by
  have hnone : fractionValue [] = 0 := by simp [fractionValue, digitsValue]
  constructor
  · intro h
    cases h with
    | whole numeral =>
        rw [sides_of_not_mem numeral.point_not_mem, hnone]
        exact ⟨.inl numeral.ne_nil, allDigits_nil, _, .inr numeral, (add_zero _).symm⟩
    | pointed numeral digits =>
        rw [sides_append_cons numeral.point_not_mem]
        exact ⟨.inl numeral.ne_nil, digits, _, .inr numeral, rfl⟩
    | @fraction back nonempty digits =>
        have hsides : sides ('.' :: back) = ([], back) := sides_append_cons List.not_mem_nil back
        rw [hsides]
        exact ⟨.inr nonempty, digits, 0, .inl ⟨rfl, rfl⟩, by simp⟩
  · rintro ⟨nonempty, digits, n, hfront, rfl⟩
    cases hsplit : splitOnce? (· = '.') text with
    | none =>
        have hsides : sides text = (text, []) := by rw [sides, hsplit, Option.getD_none]
        rw [hsides] at nonempty hfront ⊢
        obtain ⟨hempty, -⟩ | numeral := hfront
        · exact absurd hempty (nonempty.resolve_right (· rfl))
        · rw [hnone, add_zero]
          exact .whole numeral
    | some parts =>
        obtain ⟨front, back⟩ := parts
        have hsides : sides text = (front, back) := by rw [sides, hsplit, Option.getD_some]
        rw [hsides] at nonempty digits hfront ⊢
        obtain ⟨point, hpoint, rfl⟩ := eq_of_splitOnce? hsplit
        obtain rfl := of_decide_eq_true hpoint
        obtain ⟨hempty, rfl⟩ | numeral := hfront
        · simp only at hempty
          subst hempty
          rw [Nat.cast_zero, zero_add]
          exact .fraction (nonempty.resolve_left (· rfl)) digits
        · exact .pointed numeral digits

/-! ## Milliseconds -/

theorem getD_digit? {c : Char} (h : c.isDigit = true) :
    (digit? c).getD 0 = digitsValue [c] := by
  rw [digit?_of_isDigit h, Option.getD_some, digitsValue, Nat.ofDigitChars_cons,
    Nat.ofDigitChars_nil, Nat.mul_zero, Nat.zero_add]

/-- Three digits suffice for whole milliseconds; with fewer, the missing ones are zeros. -/
theorem fractionMilliseconds_eq {digits : List Char} (h : AllDigits digits) :
    fractionMilliseconds digits = 1000 * digitsValue digits / 10 ^ digits.length := by
  have hone (c : Char) (rest : List Char) :
      digitsValue (c :: rest) = 10 ^ rest.length * digitsValue [c] + digitsValue rest :=
    digitsValue_append [c] rest
  match digits with
  | [] => rfl
  | [a] =>
      simp only [AllDigits, List.forall_mem_cons] at h
      simp only [fractionMilliseconds, List.take, List.map, getD_digit? h.1, List.length]
      omega
  | [a, b] =>
      simp only [AllDigits, List.forall_mem_cons] at h
      rw [hone]
      simp only [fractionMilliseconds, List.take, List.map, getD_digit? h.1, getD_digit? h.2.1,
        List.length]
      omega
  | a :: b :: c :: rest =>
      simp only [AllDigits, List.forall_mem_cons] at h
      have hrest : digitsValue rest < 10 ^ rest.length := digitsValue_lt h.2.2.2
      have hpos : 0 < 10 ^ rest.length := Nat.pow_pos (by decide)
      rw [hone a, hone b, hone c]
      simp only [fractionMilliseconds, List.take, List.map, getD_digit? h.1, getD_digit? h.2.1,
        getD_digit? h.2.2.1, List.length, Nat.pow_succ]
      generalize digitsValue [a] = x, digitsValue [b] = y, digitsValue [c] = z,
        digitsValue rest = r, 10 ^ rest.length = p at *
      have hsplit : 1000 * (p * 10 * 10 * x + (p * 10 * y + (p * z + r))) =
          (p * (100 * x + 10 * y + z) + r) * 1000 := by ring
      have hscale : p * 10 * 10 * 10 = p * 1000 := by ring
      rw [hsplit, hscale, Nat.mul_div_mul_right _ _ (by decide), Nat.mul_add_div hpos,
        Nat.div_eq_of_lt hrest, Nat.add_zero]

theorem floor_seconds (n : Nat) {digits : List Char} (h : AllDigits digits) :
    ⌊1000 * ((n : ℚ) + fractionValue digits)⌋₊ = 1000 * n + fractionMilliseconds digits := by
  have hvalue : 1000 * ((n : ℚ) + fractionValue digits) =
      ((1000 * digitsValue digits : ℕ) : ℚ) / ((10 ^ digits.length : ℕ) : ℚ) +
        ((1000 * n : ℕ) : ℚ) := by
    rw [fractionValue]
    push_cast
    ring
  have hpositive : (0 : ℚ) ≤
      ((1000 * digitsValue digits : ℕ) : ℚ) / ((10 ^ digits.length : ℕ) : ℚ) := by positivity
  rw [hvalue, Nat.floor_add_natCast hpositive, Nat.floor_div_eq_div, fractionMilliseconds_eq h,
    Nat.add_comm]

theorem fractionMilliseconds_lt {digits : List Char} (h : AllDigits digits) :
    fractionMilliseconds digits < 1000 := by
  rw [fractionMilliseconds_eq h, Nat.div_lt_iff_lt_mul (Nat.pow_pos (by decide))]
  exact Nat.mul_lt_mul_of_pos_left (digitsValue_lt h) (by decide)

/-! ## Reading them -/

/-- The seconds that the side before the point is read as. -/
def frontSeconds? (front : List Char) : Option UInt64 :=
  if front = [] then some 0 else readUInt64? front

theorem frontSeconds?_eq_some_iff {front : List Char} {seconds : UInt64} :
    frontSeconds? front = some seconds ↔ FrontValue front seconds.toNat := by
  unfold frontSeconds? FrontValue
  split
  · rename_i hempty
    have hnone : ¬ Unsigned front seconds.toNat := fun h => h.ne_nil hempty
    rw [Option.some.injEq, or_iff_left hnone, and_iff_right hempty, eq_comm, ← UInt64.toNat_inj]
    rfl
  · rename_i hfront
    rw [readUInt64?_eq_some_iff_unsigned, or_iff_right (fun h => hfront h.1)]

theorem milliseconds?_eq (text : List Char) :
    milliseconds? text =
      if (sides text).1 = [] ∧ (sides text).2 = [] then none
      else if !(sides text).2.all fun c => (digit? c).isSome then none
      else (frontSeconds? (sides text).1).bind fun seconds =>
        (mulChecked seconds 1000).bind fun base =>
          addChecked base (UInt64.ofNat (fractionMilliseconds (sides text).2)) := by
  have hsides : (splitOnce? (· = '.') text).getD (text, []) =
      ((sides text).1, (sides text).2) := rfl
  rw [milliseconds?, hsides, frontSeconds?]
  by_cases hfront : (sides text).1 = []
  · simp only [if_pos hfront]
    rfl
  · simp only [if_neg hfront]
    rfl

theorem all_digit?_iff (text : List Char) :
    (text.all fun c => (digit? c).isSome) = true ↔ AllDigits text := by
  simp only [List.all_eq_true, isSome_digit?, AllDigits]

/-- Read are the sides of a number of seconds whose milliseconds have 64 bits. -/
theorem milliseconds?_eq_some_iff_sides {text : List Char} {ms : UInt64} :
    milliseconds? text = some ms ↔
      ((sides text).1 ≠ [] ∨ (sides text).2 ≠ []) ∧ AllDigits (sides text).2 ∧
        ∃ n, FrontValue (sides text).1 n ∧
          1000 * n + fractionMilliseconds (sides text).2 = ms.toNat := by
  rw [milliseconds?_eq]
  by_cases hempty : (sides text).1 = [] ∧ (sides text).2 = []
  · simp [hempty]
  rw [if_neg hempty]
  rw [not_and_or, ← ne_eq, ← ne_eq] at hempty
  rw [and_iff_right hempty]
  by_cases hdigits : AllDigits (sides text).2
  case neg =>
    rw [← all_digit?_iff, Bool.not_eq_true] at hdigits
    simp [hdigits, ← all_digit?_iff]
  rw [(all_digit?_iff _).mpr hdigits, Bool.not_true, if_neg Bool.false_ne_true]
  have hpart : (UInt64.ofNat (fractionMilliseconds (sides text).2)).toNat =
      fractionMilliseconds (sides text).2 := by
    have hlt := fractionMilliseconds_lt hdigits
    exact UInt64.toNat_ofNat_of_lt' (Nat.lt_trans hlt (by decide))
  simp only [Option.bind_eq_some_iff, frontSeconds?_eq_some_iff, mulChecked_eq_some_iff,
    addChecked_eq_some_iff, hpart, and_iff_right hdigits]
  have hthousand : (1000 : UInt64).toNat = 1000 := rfl
  constructor
  · rintro ⟨seconds, hfront, base, hbase, hsum⟩
    refine ⟨seconds.toNat, hfront, ?_⟩
    rw [← hsum, ← hbase, hthousand, Nat.mul_comm]
  · rintro ⟨n, hfront, hsum⟩
    -- The sum is a word, and so are the seconds and their thousandfold.
    have hbound := ms.toNat_lt
    have hsize : UInt64.size = 2 ^ 64 := rfl
    have hseconds : (UInt64.ofNat n).toNat = n := UInt64.toNat_ofNat_of_lt' (by omega)
    have hbase : (UInt64.ofNat (1000 * n)).toNat = 1000 * n :=
      UInt64.toNat_ofNat_of_lt' (by omega)
    refine ⟨.ofNat n, by rwa [hseconds], .ofNat (1000 * n), ?_, ?_⟩
    · rw [hseconds, hbase, hthousand, Nat.mul_comm]
    · rw [hbase, hsum]

theorem milliseconds?_eq_some_iff {text : List Char} {ms : UInt64} :
    milliseconds? text = some ms ↔ ∃ value, Seconds text value ∧ ⌊1000 * value⌋₊ = ms.toNat := by
  rw [milliseconds?_eq_some_iff_sides]
  constructor
  · rintro ⟨nonempty, digits, n, hfront, hsum⟩
    refine ⟨_, seconds_iff.mpr ⟨nonempty, digits, n, hfront, rfl⟩, ?_⟩
    rw [floor_seconds n digits, hsum]
  · rintro ⟨value, hseconds, hfloor⟩
    obtain ⟨nonempty, digits, n, hfront, rfl⟩ := seconds_iff.mp hseconds
    rw [floor_seconds n digits] at hfloor
    exact ⟨nonempty, digits, n, hfront, hfloor⟩

/-! ## No step overflows -/

section

variable {m : Type → Type} [Monad m]

/-- Adds up digits, each worth a tenth of the one before it. -/
def addDigitsBy (arith : Arithmetic m) : UInt64 → UInt64 → List Char → m UInt64
  | total, _, [] => pure total
  | total, scale, c :: rest => do
      let part ← arith.mul (UInt64.ofNat ((digit? c).getD 0)) scale
      let total ← arith.add total part
      let scale ← arith.div scale 10
      addDigitsBy arith total scale rest

def millisecondsBy (text : List Char) (arith : Arithmetic m) : m (Option UInt64) :=
  if (sides text).1 = [] ∧ (sides text).2 = [] then pure none
  else if !(sides text).2.all fun c => (digit? c).isSome then pure none
  else
    match frontSeconds? (sides text).1 with
    | none => pure none
    | some seconds => do
        let part ← addDigitsBy arith 0 100 ((sides text).2.take 3)
        pure ((mulChecked seconds 1000).bind fun base => addChecked base part)

end

theorem getD_digit?_le (c : Char) : (digit? c).getD 0 ≤ 9 := by
  unfold digit?
  split
  · rename_i hbounds
    have hnine : c.toNat ≤ 57 := UInt32.le_iff_toNat_le.mp hbounds.2
    have hzero : '0'.toNat = 48 := rfl
    rw [Option.getD_some]
    omega
  · exact Nat.zero_le _

theorem addDigitsBy_exact {total scale : UInt64} {digits : List Char} (small : scale.toNat ≤ 100)
    (room : total.toNat + 900 * digits.length < UInt64.size) :
    addDigitsBy .exact total scale digits =
      some (addDigitsBy .wrapping total scale digits).run := by
  induction digits generalizing total scale with
  | nil => rfl
  | cons c rest ih =>
      have hdigit := getD_digit?_le c
      have hd : (UInt64.ofNat ((digit? c).getD 0)).toNat = (digit? c).getD 0 :=
        UInt64.toNat_ofNat_of_lt' (Nat.lt_of_le_of_lt hdigit (by decide))
      have hproduct : (digit? c).getD 0 * scale.toNat ≤ 900 :=
        Nat.le_trans (Nat.mul_le_mul hdigit small) (by decide)
      rw [List.length_cons] at room
      have hsize : UInt64.size = 2 ^ 64 := rfl
      have hpart : (UInt64.ofNat ((digit? c).getD 0) * scale).toNat =
          (digit? c).getD 0 * scale.toNat := by
        rw [UInt64.toNat_mul, hd, Nat.mod_eq_of_lt (by omega)]
      have hmul : mulChecked (.ofNat ((digit? c).getD 0)) scale =
          some (.ofNat ((digit? c).getD 0) * scale) := by
        rw [mulChecked_eq_some_iff, hpart, hd]
      have htotal : (total + UInt64.ofNat ((digit? c).getD 0) * scale).toNat =
          total.toNat + (digit? c).getD 0 * scale.toNat := by
        rw [UInt64.toNat_add, hpart, Nat.mod_eq_of_lt (by omega)]
      have hadd : addChecked total (.ofNat ((digit? c).getD 0) * scale) =
          some (total + .ofNat ((digit? c).getD 0) * scale) := by
        rw [addChecked_eq_some_iff, hpart, htotal]
      have hscale : (scale / 10).toNat ≤ 100 := by
        rw [UInt64.toNat_div]
        exact Nat.le_trans (Nat.div_le_self _ _) small
      have hroom : (total + UInt64.ofNat ((digit? c).getD 0) * scale).toNat + 900 * rest.length <
          UInt64.size := by omega
      change (mulChecked _ scale).bind (fun part => (addChecked total part).bind fun total =>
        (if (10 : UInt64) = 0 then none else some (scale / 10)).bind fun scale =>
          addDigitsBy .exact total scale rest) = _
      rw [hmul, Option.bind_some, hadd, Option.bind_some, if_neg (by decide), Option.bind_some]
      exact ih hscale hroom

theorem addDigitsBy_wrapping (digits : List Char) :
    (addDigitsBy .wrapping 0 100 (digits.take 3)).run =
      UInt64.ofNat (fractionMilliseconds digits) := by
  have hten : (100 : UInt64) / 10 = 10 := by decide
  have hone : (10 : UInt64) / 10 = 1 := by decide
  match digits with
  | [] => rfl
  | [a] =>
      change 0 + .ofNat ((digit? a).getD 0) * 100 = UInt64.ofNat (100 * (digit? a).getD 0)
      rw [UInt64.zero_add, UInt64.mul_comm, UInt64.ofNat_mul]
      rfl
  | [a, b] =>
      change 0 + .ofNat ((digit? a).getD 0) * 100 + .ofNat ((digit? b).getD 0) * (100 / 10) =
        UInt64.ofNat (100 * (digit? a).getD 0 + 10 * (digit? b).getD 0)
      simp only [hten, UInt64.zero_add, UInt64.mul_comm _ 100, UInt64.mul_comm _ 10,
        UInt64.ofNat_add, UInt64.ofNat_mul]
      rfl
  | a :: b :: c :: rest =>
      change 0 + .ofNat ((digit? a).getD 0) * 100 + .ofNat ((digit? b).getD 0) * (100 / 10) +
          .ofNat ((digit? c).getD 0) * (100 / 10 / 10) =
        UInt64.ofNat (100 * (digit? a).getD 0 + 10 * (digit? b).getD 0 + (digit? c).getD 0)
      simp only [hten, hone, UInt64.zero_add, UInt64.mul_one, UInt64.mul_comm _ 100,
        UInt64.mul_comm _ 10, UInt64.ofNat_add, UInt64.ofNat_mul]
      rfl

theorem milliseconds?_safe (text : List Char) :
    Arithmetic.Safe (millisecondsBy text) (milliseconds? text) := by
  have hexact : addDigitsBy .exact 0 100 ((sides text).2.take 3) =
      some (.ofNat (fractionMilliseconds (sides text).2)) := by
    rw [addDigitsBy_exact (by decide), addDigitsBy_wrapping]
    have hlength : ((sides text).2.take 3).length ≤ 3 := by
      rw [List.length_take]
      exact Nat.min_le_left _ _
    have hsize : UInt64.size = 2 ^ 64 := rfl
    have hzero : (0 : UInt64).toNat = 0 := rfl
    omega
  rw [milliseconds?_eq]
  unfold millisecondsBy
  split
  · exact ⟨rfl, rfl⟩
  split
  · exact ⟨rfl, rfl⟩
  cases frontSeconds? (sides text).1 with
  | none => exact ⟨rfl, rfl⟩
  | some seconds =>
      simp only [Option.bind_some]
      constructor
      · rw [← addDigitsBy_wrapping]
        rfl
      · rw [hexact]
        rfl

/-! ## Reports -/

/-- What a report gives a time for. -/
inductive Label where
  | real
  | user
  | sys
  deriving DecidableEq, Repr

def Label.text : Label → String
  | real => "real"
  | user => "user"
  | sys => "sys"

def get (times : Times) : Label → Option UInt64
  | .real => times.real
  | .user => times.user
  | .sys => times.sys

/-- The time that the line gives for the label: its first field is the label, and its second field
is readable. -/
def given? (label : Label) (line : List Char) : Option UInt64 :=
  match fields line with
  | first :: second :: _ =>
      if first = label.text.toList then milliseconds? second else none
  | _ => none

theorem given?_eq_some_iff {label : Label} {line : List Char} {time : UInt64} :
    given? label line = some time ↔
      ∃ second rest, fields line = label.text.toList :: second :: rest ∧
        milliseconds? second = some time := by
  unfold given?
  split
  · rename_i first second rest hfields
    rw [hfields]
    constructor
    · intro h
      split at h
      · rename_i hlabel
        exact ⟨second, rest, by rw [hlabel], h⟩
      · cases h
    · rintro ⟨_, _, hlist, h⟩
      cases hlist
      rwa [if_pos rfl]
  · rename_i hfew
    simp only [reduceCtorEq, false_iff]
    rintro ⟨second, rest, hfields, -⟩
    exact hfew _ _ _ hfields

theorem get_readLine_of_fields {line first second : List Char} {rest : List (List Char)}
    {time : UInt64} (hfields : fields line = first :: second :: rest)
    (htime : milliseconds? second = some time) (times : Times) (label : Label) :
    (times.readLine line).get label =
      if first = label.text.toList then some time else times.get label := by
  simp only [readLine, hfields, htime]
  by_cases hreal : first = "real".toList
  · subst hreal
    cases label <;> rfl
  by_cases huser : first = "user".toList
  · subst huser
    cases label <;> rfl
  by_cases hsys : first = "sys".toList
  · subst hsys
    cases label <;> rfl
  rw [if_neg hreal, if_neg huser, if_neg hsys]
  cases label with
  | real => exact (if_neg hreal).symm
  | user => exact (if_neg huser).symm
  | sys => exact (if_neg hsys).symm

theorem get_readLine (times : Times) (line : List Char) (label : Label) :
    (times.readLine line).get label = (given? label line).or (times.get label) := by
  match hfields : fields line with
  | [] => simp [readLine, given?, hfields]
  | [first] => simp [readLine, given?, hfields]
  | first :: second :: rest =>
      cases htime : milliseconds? second with
      | none => simp [readLine, given?, hfields, htime]
      | some time =>
          rw [get_readLine_of_fields hfields htime, given?, hfields]
          simp only [htime]
          split
          · rfl
          · rfl

theorem get_foldl (times : Times) (lines : List (List Char)) (label : Label) :
    (lines.foldl readLine times).get label =
      (lines.filterMap (given? label)).getLast?.or (times.get label) := by
  induction lines generalizing times with
  | nil => rfl
  | cons line rest ih =>
      rw [List.foldl_cons, ih, get_readLine, List.filterMap_cons]
      cases given? label line with
      | none => rw [Option.none_or]
      | some time =>
          rw [List.getLast?_cons, Option.some_or, Option.some_or]
          cases (rest.filterMap (given? label)).getLast? <;> rfl

theorem get_parse (text : String) (label : Label) :
    (parse text).get label =
      ((lines text.toList).filterMap (given? label)).getLast? := by
  rw [parse, get_foldl]
  cases label <;> exact Option.or_none

/-- A text is read exactly if it is a number of seconds whose milliseconds, rounded down, have 64
bits, and then as these; no step on the way overflows.  Of a report each label has the time of the
last line that gives one for it.  A line gives one only for the label that it starts with, and only
if what follows is readable; for other labels it changes nothing. -/
theorem times_read_exactly :
    (∀ text : List Char,
      (∀ ms, milliseconds? text = some ms ↔
        ∃ value, Seconds text value ∧ ⌊1000 * value⌋₊ = ms.toNat) ∧
      Arithmetic.Safe (millisecondsBy text) (milliseconds? text)) ∧
    (∀ label line time, given? label line = some time ↔
      ∃ second rest, fields line = label.text.toList :: second :: rest ∧
        milliseconds? second = some time) ∧
    (∀ label line, given? label line = none →
      ∀ times : Times, (times.readLine line).get label = times.get label) ∧
    ∀ text label,
      (parse text).get label = ((lines text.toList).filterMap (given? label)).getLast? := by
  refine ⟨fun text => ⟨fun ms => milliseconds?_eq_some_iff, milliseconds?_safe text⟩,
    fun label line time => given?_eq_some_iff, fun label line silent times => ?_, get_parse⟩
  rw [get_readLine, silent, Option.none_or]

/-- The largest time, the first that is too large, and a line that does not replace an earlier
one. -/
theorem report_read_exactly :
    milliseconds? "18446744073709551.6159".toList = some maxWord ∧
      milliseconds? "18446744073709551.616".toList = none ∧
      given? .real "real 1:02".toList = none ∧
      ((parse "real +1.2399\nuser .5\n").readLine "real 1:02".toList).get .real =
        some 1239 := by
  obtain ⟨-, -, hsilent, -⟩ := times_read_exactly
  have hline : given? .real "real 1:02".toList = none := by decide
  refine ⟨by decide, by decide, hline, ?_⟩
  rw [hsilent .real _ hline]
  decide

end Times

end Clausal
