import Mathlib.Logic.Basic
import Clausal.Proofs.Text.Words
import Clausal.Text.Numeral

/-!
# Numerals read back

A printed number is one word of digits, after a minus sign if it is negative, and reading it
gives the number.
-/

namespace Clausal.Text

/-- Reads digits, or digits after a minus sign. -/
def readInt? : List Char → Option Int
  | '-' :: rest => (readDigits? rest).map fun value => -(value : Int)
  | text => (readDigits? text).map Int.ofNat

/-! ## Digits -/

theorem digit?_of_isDigit {c : Char} (h : c.isDigit = true) :
    digit? c = some (c.toNat - '0'.toNat) := by
  have hbounds : '0' ≤ c ∧ c ≤ '9' := by simpa [Char.isDigit, Char.le_def] using h
  exact if_pos hbounds

theorem digitsValue?_of_isDigit {digits : List Char} (h : ∀ c ∈ digits, c.isDigit = true)
    (value : Nat) : digitsValue? value digits = some (Nat.ofDigitChars 10 digits value) := by
  induction digits generalizing value with
  | nil => rfl
  | cons c rest ih =>
      rw [List.forall_mem_cons] at h
      rw [digitsValue?, digit?_of_isDigit h.1]
      exact ih h.2 _

theorem isDigit_of_mem_toString {n : Nat} {c : Char} (h : c ∈ (toString n).toList) :
    c.isDigit = true := by
  rw [Nat.toString_eq_repr, Nat.repr_eq_ofList_toDigits, String.toList_ofList] at h
  exact Nat.isDigit_of_mem_toDigits (by decide) (by decide) h

theorem toString_ne_nil (n : Nat) : (toString n).toList ≠ [] := by
  rw [Nat.toString_eq_repr, Nat.repr_eq_ofList_toDigits, String.toList_ofList]
  exact Nat.toDigits_ne_nil

theorem readDigits?_toString (n : Nat) : readDigits? (toString n).toList = some n := by
  have hdigits : ∀ c ∈ (toString n).toList, c.isDigit = true :=
    fun c hc => isDigit_of_mem_toString hc
  have hvalue : digitsValue? 0 (toString n).toList = some n := by
    rw [digitsValue?_of_isDigit hdigits, Nat.toString_eq_repr, Nat.repr_eq_ofList_toDigits,
      String.toList_ofList, Nat.ofDigitChars_ten_toDigits]
  cases htext : (toString n).toList with
  | nil => exact absurd htext (toString_ne_nil n)
  | cons c rest =>
      rw [htext] at hvalue
      exact hvalue

/-- A digit is no plus sign. -/
theorem readUnsigned?_toString (n : Nat) : readUnsigned? (toString n).toList = some n := by
  rw [readUnsigned?.eq_def]
  split
  · rename_i rest htext
    have hplus : '+' ∈ (toString n).toList := htext ▸ List.mem_cons_self
    exact absurd (isDigit_of_mem_toString hplus) (by decide)
  · exact readDigits?_toString n

theorem readUInt64?_toString (word : UInt64) :
    readUInt64? (toString word).toList = some word :=
  readUInt64?_eq_some_iff.mpr (readUnsigned?_toString word.toNat)

/-! ## Signs -/

theorem toList_toString_negSucc (n : Nat) :
    (toString (Int.negSucc n)).toList = '-' :: (toString (n + 1)).toList := by
  simp [toString, Int.repr]

/-- What a printed number is made of. -/
def isNumeralChar (c : Char) : Bool := c = '-' || c.isDigit

theorem isNumeralChar_of_mem {i : Int} {c : Char} (h : c ∈ (toString i).toList) :
    isNumeralChar c = true := by
  cases i with
  | ofNat n =>
      have hdigit : c.isDigit = true := isDigit_of_mem_toString (n := n) h
      simp [isNumeralChar, hdigit]
  | negSucc n =>
      rw [toList_toString_negSucc, List.mem_cons] at h
      rcases h with rfl | h
      · rfl
      · simp [isNumeralChar, isDigit_of_mem_toString h]

theorem readInt?_of_isDigit {c : Char} (h : c.isDigit = true) (rest : List Char) :
    readInt? (c :: rest) = (readDigits? (c :: rest)).map Int.ofNat := by
  unfold readInt?
  split
  · rename_i htext
    cases htext
    exact absurd h (by decide)
  · rfl

theorem readInt?_toString (i : Int) : readInt? (toString i).toList = some i := by
  cases i with
  | ofNat n =>
      have hread := readDigits?_toString n
      change readInt? (toString n).toList = _
      cases htext : (toString n).toList with
      | nil => exact absurd htext (toString_ne_nil n)
      | cons c rest =>
          have hdigit : c.isDigit = true :=
            isDigit_of_mem_toString (n := n) (htext ▸ List.mem_cons_self)
          rw [readInt?_of_isDigit hdigit, ← htext, hread]
          rfl
  | negSucc n =>
      rw [toList_toString_negSucc, readInt?, readDigits?_toString]
      rfl

/-! ## Characters -/

theorem toNat_of_isNumeralChar {c : Char} (h : isNumeralChar c = true) :
    c.toNat = 45 ∨ 48 ≤ c.toNat ∧ c.toNat ≤ 57 := by
  simp only [isNumeralChar, Bool.or_eq_true, decide_eq_true_eq] at h
  rcases h with rfl | h
  · exact .inl rfl
  · simp only [Char.isDigit, Bool.and_eq_true, decide_eq_true_eq, ge_iff_le] at h
    exact .inr ⟨UInt32.le_iff_toNat_le.mp h.1, UInt32.le_iff_toNat_le.mp h.2⟩

theorem isBlank_of_isNumeralChar {c : Char} (h : isNumeralChar c = true) :
    isBlank c = false := by
  have hcode := toNat_of_isNumeralChar h
  simp only [isBlank, blankRanges, List.any_eq_false, List.mem_cons, List.not_mem_nil, or_false,
    Bool.and_eq_true, decide_eq_true_eq]
  rintro range (rfl | rfl | rfl | rfl | rfl | rfl | rfl | rfl | rfl | rfl) <;> omega

theorem isLineBreak_of_isNumeralChar {c : Char} (h : isNumeralChar c = true) :
    isLineBreak c = false := by
  have hfeed : c ≠ '\n' := fun heq => absurd (heq ▸ h) (by decide)
  have hreturn : c ≠ '\r' := fun heq => absurd (heq ▸ h) (by decide)
  simp [isLineBreak, hfeed, hreturn]

theorem toString_int_ne_nil (i : Int) : (toString i).toList ≠ [] := by
  cases i with
  | ofNat n => exact toString_ne_nil n
  | negSucc n =>
      rw [toList_toString_negSucc]
      exact List.cons_ne_nil _ _

theorem isWord_toString (i : Int) : IsWord (toString i).toList where
  nonempty := toString_int_ne_nil i
  unbroken := fun _ hc => isBlank_of_isNumeralChar (isNumeralChar_of_mem hc)

theorem isWord_toString_nat (n : Nat) : IsWord (toString n).toList := isWord_toString n

end Clausal.Text

/-!
## Texts of one line

Numerals have no line breaks, and a text put together of texts without them has none.
-/

namespace Clausal.Text

theorem hasLineBreak_append (a b : String) :
    hasLineBreak (a ++ b) = (hasLineBreak a || hasLineBreak b) := by
  simp [hasLineBreak]

theorem hasLineBreak_toString (n : Nat) : hasLineBreak (toString n) = false :=
  hasLineBreak_eq_false_iff.mpr fun _ hc =>
    isLineBreak_of_isNumeralChar (isNumeralChar_of_mem (i := n) hc)

theorem hasLineBreak_word (n : UInt64) : hasLineBreak (toString n) = false :=
  hasLineBreak_toString n.toNat

end Clausal.Text

/-!
## What numerals stand for

Digits stand for a number in base ten.  An unsigned numeral is at least one digit, after a plus sign
or not; exactly these are read, as the number that they stand for.
-/

namespace Clausal.Text

/-- Perhaps no digit at all, but nothing else. -/
def AllDigits (text : List Char) : Prop := ∀ c ∈ text, c.isDigit = true

theorem allDigits_nil : AllDigits [] := List.forall_mem_nil _

/-- The number that digits stand for. -/
def digitsValue (digits : List Char) : Nat := Nat.ofDigitChars 10 digits 0

/-- At least one digit, after a plus sign or not, and the number that it stands for. -/
inductive Unsigned : List Char → Nat → Prop
  | plain {digits : List Char} (nonempty : digits ≠ []) (all : AllDigits digits) :
      Unsigned digits (digitsValue digits)
  | plus {digits : List Char} (nonempty : digits ≠ []) (all : AllDigits digits) :
      Unsigned ('+' :: digits) (digitsValue digits)

/-! ### Reading digits -/

theorem isSome_digit? (c : Char) : (digit? c).isSome = c.isDigit := by
  rw [Bool.eq_iff_iff]
  constructor
  · intro h
    unfold digit? at h
    split at h
    · rename_i hbounds
      simpa [Char.isDigit, Char.le_def] using hbounds
    · cases h
  · intro h
    rw [digit?_of_isDigit h]
    rfl

theorem digitsValue?_eq_some_iff {digits : List Char} {value n : Nat} :
    digitsValue? value digits = some n ↔
      AllDigits digits ∧ n = Nat.ofDigitChars 10 digits value := by
  constructor
  · intro h
    induction digits generalizing value with
    | nil =>
        cases h
        exact ⟨nofun, Nat.ofDigitChars_nil.symm⟩
    | cons c rest ih =>
        rw [digitsValue?] at h
        split at h
        · rename_i d hd
          have hdigit : c.isDigit = true := by rw [← isSome_digit?, hd, Option.isSome_some]
          rw [digit?_of_isDigit hdigit, Option.some.injEq] at hd
          obtain ⟨hall, rfl⟩ := ih h
          rw [Nat.ofDigitChars_cons, hd]
          exact ⟨List.forall_mem_cons.mpr ⟨hdigit, hall⟩, rfl⟩
        · cases h
  · rintro ⟨hall, rfl⟩
    exact digitsValue?_of_isDigit hall value

theorem readDigits?_eq_some_iff {digits : List Char} {n : Nat} :
    readDigits? digits = some n ↔ digits ≠ [] ∧ AllDigits digits ∧ n = digitsValue digits := by
  cases digits with
  | nil => simp [readDigits?]
  | cons c rest =>
      rw [readDigits?, digitsValue?_eq_some_iff, digitsValue]
      exact (and_iff_right (List.cons_ne_nil c rest)).symm

/-- A digit is no plus sign. -/
theorem not_allDigits_plus (rest : List Char) : ¬ AllDigits ('+' :: rest) := fun h =>
  absurd (h '+' List.mem_cons_self) (by decide)

theorem readUnsigned?_eq_some_iff {text : List Char} {n : Nat} :
    readUnsigned? text = some n ↔ Unsigned text n := by
  constructor
  · intro h
    rw [readUnsigned?.eq_def] at h
    split at h
    · obtain ⟨nonempty, all, rfl⟩ := readDigits?_eq_some_iff.mp h
      exact .plus nonempty all
    · obtain ⟨nonempty, all, rfl⟩ := readDigits?_eq_some_iff.mp h
      exact .plain nonempty all
  · intro h
    cases h with
    | plain nonempty all =>
        rw [readUnsigned?.eq_def]
        split
        · exact absurd all (not_allDigits_plus _)
        · exact readDigits?_eq_some_iff.mpr ⟨nonempty, all, rfl⟩
    | plus nonempty all => exact readDigits?_eq_some_iff.mpr ⟨nonempty, all, rfl⟩

theorem readUInt64?_eq_some_iff_unsigned {text : List Char} {word : UInt64} :
    readUInt64? text = some word ↔ Unsigned text word.toNat :=
  readUInt64?_eq_some_iff.trans readUnsigned?_eq_some_iff

/-- Just the numerals of numbers below 2^64 are read as words. -/
theorem readUInt64?_eq_none_iff {text : List Char} :
    readUInt64? text = none ↔ ¬ ∃ n, Unsigned text n ∧ n < UInt64.size := by
  rw [← not_iff_not, not_not, ← ne_eq, Option.ne_none_iff_exists']
  simp only [readUInt64?_eq_some_iff_unsigned]
  constructor
  · rintro ⟨word, h⟩
    exact ⟨word.toNat, h, word.toNat_lt⟩
  · rintro ⟨n, h, hlt⟩
    exact ⟨UInt64.ofNat n, by rwa [UInt64.toNat_ofNat_of_lt' hlt]⟩

theorem Unsigned.unique {text : List Char} {n n' : Nat} (h : Unsigned text n)
    (h' : Unsigned text n') : n = n' :=
  Option.some.inj ((readUnsigned?_eq_some_iff.mpr h).symm.trans (readUnsigned?_eq_some_iff.mpr h'))

namespace Unsigned

variable {text : List Char} {n : Nat} (h : Unsigned text n)

include h

theorem ne_nil : text ≠ [] := by
  cases h with
  | plain nonempty all => exact nonempty
  | plus nonempty all => exact List.cons_ne_nil _ _

/-- There is no point in the numeral of a whole number. -/
theorem point_not_mem : '.' ∉ text := by
  intro hmem
  cases h with
  | plain nonempty all => exact absurd (all '.' hmem) (by decide)
  | plus nonempty all =>
      rcases List.mem_cons.mp hmem with hpoint | hmem
      · exact absurd hpoint (by decide)
      · exact absurd (all '.' hmem) (by decide)

end Unsigned

/-! ### Cutting once -/

section

variable {α : Type} {separates : α → Bool}

theorem splitOnce?_of_not_mem {xs : List α} (h : ∀ x ∈ xs, separates x = false) :
    splitOnce? separates xs = none := by
  induction xs with
  | nil => rfl
  | cons x rest ih =>
      rw [List.forall_mem_cons] at h
      rw [splitOnce?, h.1, if_neg Bool.false_ne_true, ih h.2, Option.map_none]

theorem splitOnce?_append_cons {before : List α} (h : ∀ x ∈ before, separates x = false) {x : α}
    (hx : separates x = true) (after : List α) :
    splitOnce? separates (before ++ x :: after) = some (before, after) := by
  induction before with
  | nil => rw [List.nil_append, splitOnce?, if_pos hx]
  | cons y rest ih =>
      rw [List.forall_mem_cons] at h
      rw [List.cons_append, splitOnce?, h.1, if_neg Bool.false_ne_true, ih h.2, Option.map_some]

/-- What was cut apart can be put together again. -/
theorem eq_of_splitOnce? {xs before after : List α}
    (h : splitOnce? separates xs = some (before, after)) :
    ∃ x, separates x = true ∧ xs = before ++ x :: after := by
  induction xs generalizing before with
  | nil => cases h
  | cons y rest ih =>
      rw [splitOnce?] at h
      split at h
      · rename_i hy
        cases h
        exact ⟨y, hy, rfl⟩
      · obtain ⟨parts, hparts, hpair⟩ := Option.map_eq_some_iff.mp h
        cases hpair
        obtain ⟨x, hx, rfl⟩ := ih hparts
        exact ⟨x, hx, rfl⟩

end

end Clausal.Text
