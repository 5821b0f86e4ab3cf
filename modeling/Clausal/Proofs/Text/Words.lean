import Clausal.Text.Split
import Clausal.Text.Utf8

/-!
# Cutting what was put together

Pieces without a separator are what splitting finds between separators.  So a text of lines,
each without a line break and ended by one, splits into these lines, and words that are set
apart by single spaces are the fields of their text.  The bytes of what was put together are the
bytes of its parts, one after the other.
-/

namespace Clausal.Text

section

variable {α : Type} {separates : α → Bool} {piece : List α}

/-- What stands before a separator and what follows it are split apart. -/
theorem split_append_cons {x : α} (hx : separates x = true) (before after : List α) :
    split separates (before ++ x :: after) = split separates before ++ split separates after := by
  induction before with
  | nil => simp [split, hx]
  | cons y rest ih =>
      by_cases hy : separates y = true
      · simp [split, hy, ih]
      · obtain ⟨piece, pieces, hsplit⟩ := List.exists_cons_of_ne_nil (split_ne_nil separates rest)
        simp [split, hy, ih, hsplit]

theorem split_piece (h : ∀ x ∈ piece, separates x = false) :
    split separates piece = [piece] := by
  induction piece with
  | nil => rfl
  | cons y piece ih =>
      rw [List.forall_mem_cons] at h
      simp [split, h.1, ih h.2]

theorem split_piece_cons (h : ∀ x ∈ piece, separates x = false) {x : α}
    (hx : separates x = true) (rest : List α) :
    split separates (piece ++ x :: rest) = piece :: split separates rest := by
  rw [split_append_cons hx, split_piece h, List.singleton_append]

end

/-! ## Lines -/

def isLineBreak (c : Char) : Bool := c = '\n' || c = '\r'

theorem hasLineBreak_eq_false_iff {text : String} :
    hasLineBreak text = false ↔ ∀ c ∈ text.toList, isLineBreak c = false := by
  simp [hasLineBreak, isLineBreak]

@[simp] theorem unlines_nil : unlines [] = "" := rfl

theorem unlines_cons (line : String) (rest : List String) :
    unlines (line :: rest) = line ++ "\n" ++ unlines rest := by
  rw [unlines, List.map_cons, String.join_cons, unlines]

theorem toList_unlines_cons (line : String) (rest : List String) :
    (unlines (line :: rest)).toList = line.toList ++ '\n' :: (unlines rest).toList := by
  simp [unlines_cons]

theorem split_unlines {lines : List String} (h : ∀ line ∈ lines, hasLineBreak line = false) :
    split isLineBreak (unlines lines).toList = lines.map String.toList ++ [[]] := by
  induction lines with
  | nil => rfl
  | cons line rest ih =>
      rw [List.forall_mem_cons] at h
      rw [toList_unlines_cons, split_piece_cons (hasLineBreak_eq_false_iff.mp h.1) rfl, ih h.2]
      rfl

/-! ## Words -/

/-- A text that is one field. -/
structure IsWord (text : List Char) : Prop where
  nonempty : text ≠ []
  unbroken : ∀ c ∈ text, isBlank c = false

theorem IsWord.fields_append {word : List Char} (h : IsWord word) (rest : List Char) :
    fields (word ++ ' ' :: rest) = word :: fields rest := by
  rw [fields, split_piece_cons h.unbroken (by decide)]
  exact List.filter_cons_of_pos (by simp [h.nonempty])

theorem IsWord.fields_eq {word : List Char} (h : IsWord word) : fields word = [word] := by
  rw [fields, split_piece h.unbroken]
  exact List.filter_cons_of_pos (by simp [h.nonempty])

theorem fields_flatMap_append {words : List (List Char)} (h : ∀ word ∈ words, IsWord word)
    (rest : List Char) :
    fields (words.flatMap (· ++ [' ']) ++ rest) = words ++ fields rest := by
  induction words with
  | nil => rfl
  | cons word words ih =>
      rw [List.forall_mem_cons] at h
      rw [List.flatMap_cons, List.append_assoc, List.append_assoc, List.singleton_append,
        h.1.fields_append, ih h.2, List.cons_append]

end Clausal.Text

/-!
## Lines of what was put together

A text before the first line feed is the first line, and what follows the line feed has the
other lines.  A text without a line feed is one line, ended or not, unless it is empty.
-/

namespace Clausal.Text

theorem endedLines_cons (line : List Char) {pieces : List (List Char)} (more : pieces ≠ []) :
    endedLines (line :: pieces) = dropReturn line :: endedLines pieces := by
  cases pieces with
  | nil => exact absurd rfl more
  | cons next rest => rfl

theorem dropReturn_of_not_mem {line : List Char} (h : '\r' ∉ line) : dropReturn line = line := by
  induction line with
  | nil => rfl
  | cons c rest ih =>
      rw [List.mem_cons, not_or] at h
      cases rest with
      | nil => exact if_neg (Ne.symm h.1)
      | cons d more => rw [dropReturn, ih h.2]

theorem isFeed_eq_false {line : List Char} (h : '\n' ∉ line) :
    ∀ c ∈ line, decide (c = '\n') = false := fun _ hc =>
  decide_eq_false fun heq => h (heq ▸ hc)

theorem lines_append_cons {line : List Char} (h : '\n' ∉ line) (rest : List Char) :
    lines (line ++ '\n' :: rest) = dropReturn line :: lines rest := by
  rw [lines, split_piece_cons (isFeed_eq_false h) (decide_eq_true rfl)]
  exact endedLines_cons line (split_ne_nil _ rest)

theorem lines_of_not_mem {line : List Char} (h : '\n' ∉ line) (nonempty : line ≠ []) :
    lines line = [line] := by
  rw [lines, split_piece (isFeed_eq_false h), endedLines, List.isEmpty_eq_false_iff.mpr nonempty,
    if_neg Bool.false_ne_true]

/-! ## Lines without line breaks -/

section

variable {line : List Char} (unbroken : ∀ c ∈ line, isLineBreak c = false)

include unbroken

theorem feed_not_mem : '\n' ∉ line := fun hmem => absurd (unbroken _ hmem) (by decide)

theorem return_not_mem : '\r' ∉ line := fun hmem => absurd (unbroken _ hmem) (by decide)

theorem lines_line_cons (rest : List Char) :
    lines (line ++ '\n' :: rest) = line :: lines rest := by
  rw [lines_append_cons (feed_not_mem unbroken), dropReturn_of_not_mem (return_not_mem unbroken)]

end

/-! ## Trimming -/

theorem dropWhile_isBlank_of_unbroken {text : List Char} (h : ∀ c ∈ text, isBlank c = false) :
    text.dropWhile isBlank = text := by
  cases text with
  | nil => rfl
  | cons c rest => rw [List.dropWhile_cons, h c List.mem_cons_self, if_neg Bool.false_ne_true]

theorem trim_of_unbroken {text : List Char} (h : ∀ c ∈ text, isBlank c = false) :
    trim text = text := by
  have hreverse : ∀ c ∈ text.reverse, isBlank c = false := fun c hc =>
    h c (List.mem_reverse.mp hc)
  rw [trim, dropWhile_isBlank_of_unbroken h, dropWhile_isBlank_of_unbroken hreverse,
    List.reverse_reverse]

/-! ## Bytes -/

/-- The loop puts the bytes that it still has to visit in front of those it has. -/
theorem toList_loop_eq (bytes : ByteArray) (i : Nat) (seen : List UInt8) :
    ByteArray.toList.loop bytes i seen = seen.reverse ++ bytes.data.toList.drop i := by
  fun_induction ByteArray.toList.loop bytes i seen with
  | case1 i seen h ih =>
      have hlt : i < bytes.data.toList.length := h
      rw [ih, List.reverse_cons, List.append_assoc, List.singleton_append,
        List.drop_eq_getElem_cons hlt]
      congr 2
      exact getElem!_pos bytes.data i h
  | case2 i seen h =>
      have hle : bytes.data.toList.length ≤ i := Nat.le_of_not_lt h
      rw [List.drop_eq_nil_of_le hle, List.append_nil]

theorem toList_eq_toList_data (bytes : ByteArray) : bytes.toList = bytes.data.toList := by
  rw [ByteArray.toList, toList_loop_eq]
  rfl

@[simp] theorem encode_empty : encode "" = [] := by
  rw [encode, toList_eq_toList_data]
  rfl

theorem encode_feed : encode "\n" = [10] := by
  rw [encode, toList_eq_toList_data]
  rfl

theorem encode_append (a b : String) : encode (a ++ b) = encode a ++ encode b := by
  simp only [encode, toList_eq_toList_data, String.toUTF8_eq_toByteArray,
    String.toByteArray_append, ByteArray.data_append, Array.toList_append]

theorem encode_unlines_cons (line : String) (rest : List String) :
    encode (unlines (line :: rest)) = encode line ++ encode "\n" ++ encode (unlines rest) := by
  rw [unlines_cons, encode_append, encode_append]

/-! ### ASCII -/

/-- Characters below 128 are read back from one byte each. -/
theorem decodeUnits_toBytes {text : List Char} (plain : ∀ c ∈ text, c.toNat < 0x80) :
    decodeUnits (Octets.toBytes text) = text.map some := by
  induction text with
  | nil => rw [Octets.toBytes, List.map_nil, decodeUnits, List.map_nil]
  | cons c rest ih =>
      rw [List.forall_mem_cons] at plain
      have hbyte : (UInt8.ofNat c.toNat).toNat = c.toNat := by
        rw [UInt8.toNat_ofNat', Nat.mod_eq_of_lt (by omega)]
      have hlead : lead? (UInt8.ofNat c.toNat).toNat = some (c.toNat, []) := by
        rw [hbyte, lead?, if_pos plain.1]
      have hrest := ih plain.2
      rw [Octets.toBytes] at hrest ⊢
      rw [List.map_cons, decodeUnits, hlead]
      simp only [readFollowers, Option.map_some, hrest, List.map_cons, Char.ofNat_toNat]

theorem decodeLossy_toBytes {text : String} (plain : ∀ c ∈ text.toList, c.toNat < 0x80) :
    decodeLossy (Octets.toBytes text.toList) = text := by
  have hread : text.toList.map ((·.getD replacementCharacter) ∘ some) = text.toList :=
    List.map_id _
  rw [decodeLossy, decodeUnits_toBytes plain, List.map_map, hread, String.ofList_toList]

theorem decodeLossy_toBytes_of_all {text : String}
    (plain : text.toList.all (fun c => decide (c.toNat < 0x80)) = true) :
    decodeLossy (Octets.toBytes text.toList) = text :=
  decodeLossy_toBytes fun c hc => of_decide_eq_true (List.all_eq_true.mp plain c hc)

/-- Text in which every character stands for one byte. -/
def IsAscii (text : List Char) : Prop := ∀ c ∈ text, c ≠ '\x00' ∧ c.toNat < 0x80

/-- Bytes that follow a lead byte add six bits each. -/
theorem le_of_readFollowers {least value v : Nat} (hleast : least ≤ value)
    {ranges : List ByteRange} {bytes rest : List UInt8}
    (h : readFollowers value ranges bytes = (some v, rest)) :
    ranges.foldl (fun least _ => 64 * least) least ≤ v := by
  induction ranges generalizing least value bytes with
  | nil =>
      cases h
      exact hleast
  | cons range more ih =>
      cases bytes with
      | nil => cases h
      | cons byte bytes =>
          rw [readFollowers] at h
          split at h
          · have hnext : 64 * least ≤ 64 * value + byte.toNat % 64 := by omega
            exact ih hnext h
          · cases h

/-- The first byte after a lead byte is bounded from below. -/
theorem le_of_readFollowers_cons {value v low high : Nat} {more : List ByteRange}
    {bytes rest : List UInt8} (hlow : 0x80 ≤ low) (hhigh : high < 0xc0)
    (h : readFollowers value ((low, high) :: more) bytes = (some v, rest)) :
    more.foldl (fun least _ => 64 * least) (64 * value + (low - 0x80)) ≤ v := by
  cases bytes with
  | nil => cases h
  | cons byte bytes =>
      rw [readFollowers] at h
      split at h
      · exact le_of_readFollowers (by omega) h
      · cases h

/-- More than one byte stands for no character that one byte would do for. -/
theorem le_of_lead?_cons {byte value v : Nat} {range : ByteRange} {more : List ByteRange}
    {bytes rest : List UInt8} (hlead : lead? byte = some (value, range :: more))
    (h : readFollowers value (range :: more) bytes = (some v, rest)) : 0x80 ≤ v := by
  rw [lead?] at hlead
  repeat' split at hlead
  all_goals cases hlead
  -- What is left are the kinds of lead bytes that ask for others.
  all_goals
    have hle := le_of_readFollowers_cons (by decide) (by decide) h
    simp only [List.foldl_cons, List.foldl_nil] at hle
    omega

theorem lead?_eq_some_nil {byte value : Nat} (h : lead? byte = some (value, [])) :
    value = byte := by
  rw [lead?] at h
  repeat' split at h
  all_goals cases h
  rfl

theorem toNat_ofNat_of_isValidChar {v : Nat} (h : v.isValidChar) : (Char.ofNat v).toNat = v := by
  rw [Char.ofNat, dif_pos h]
  rfl

/-- A number that is no character's stands for the character zero. -/
theorem le_toNat_ofNat {v : Nat} (h : 0x80 ≤ v) (hzero : Char.ofNat v ≠ '\x00') :
    0x80 ≤ (Char.ofNat v).toNat := by
  by_cases hvalid : v.isValidChar
  · rwa [toNat_ofNat_of_isValidChar hvalid]
  · exact absurd (dif_neg hvalid) hzero

/-- What is shown as a character of ASCII text is the one byte of this character. -/
theorem decodeUnits_cons_of_ascii {c : Char} (hzero : c ≠ '\x00') (hsmall : c.toNat < 0x80)
    {byte : UInt8} {rest : List UInt8} {more : List Char}
    (h : (decodeUnits (byte :: rest)).map (·.getD replacementCharacter) = c :: more) :
    UInt8.ofNat c.toNat = byte ∧
      (decodeUnits rest).map (·.getD replacementCharacter) = more := by
  rw [decodeUnits] at h
  cases hlead : lead? byte.toNat with
  | none =>
      rw [hlead, List.map_cons, List.cons.injEq] at h
      rw [← h.1] at hsmall
      exact absurd hsmall (by decide)
  | some lead =>
      obtain ⟨value, ranges⟩ := lead
      rw [hlead, List.map_cons, List.cons.injEq] at h
      obtain ⟨hhead, htail⟩ := h
      cases ranges with
      | nil =>
          have hvalue : c = Char.ofNat byte.toNat := by
            rw [← hhead, lead?_eq_some_nil hlead, readFollowers]
            rfl
          have hvalid : byte.toNat.isValidChar := .inl (by have := byte.toNat_lt; omega)
          rw [hvalue, toNat_ofNat_of_isValidChar hvalid, UInt8.ofNat_toNat]
          exact ⟨rfl, htail⟩
      | cons range others =>
          exfalso
          cases hread : readFollowers value (range :: others) rest with
          | mk found left =>
              rw [hread] at hhead
              cases found with
              | none =>
                  have hmark : c = replacementCharacter := hhead.symm
                  rw [hmark] at hsmall
                  exact absurd hsmall (by decide)
              | some v =>
                  have hvalue : c = Char.ofNat v := hhead.symm
                  rw [hvalue] at hzero hsmall
                  have hlarge := le_toNat_ofNat (le_of_lead?_cons hlead hread) hzero
                  exact absurd hsmall (Nat.not_lt.mpr hlarge)

/-- Only the bytes of ASCII text are shown as it. -/
theorem eq_of_decodeUnits {text : List Char} (ascii : IsAscii text) {bytes : List UInt8}
    (h : (decodeUnits bytes).map (·.getD replacementCharacter) = text) :
    bytes = Octets.toBytes text := by
  induction text generalizing bytes with
  | nil =>
      cases bytes with
      | nil => rfl
      | cons byte rest =>
          rw [decodeUnits] at h
          split at h <;> cases h
  | cons c more ih =>
      obtain ⟨⟨hzero, hsmall⟩, hmore⟩ := List.forall_mem_cons.mp ascii
      cases bytes with
      | nil => rw [decodeUnits] at h; cases h
      | cons byte rest =>
          obtain ⟨hbyte, htail⟩ := decodeUnits_cons_of_ascii hzero hsmall h
          have hrest : rest = Octets.toBytes more := ih hmore htail
          rw [hrest, ← hbyte]
          rfl

/-- Octets stand for bytes. -/
def Octets.AreBytes (octets : Octets) : Prop := ∀ c ∈ octets, c.toNat < 256

theorem Octets.toBytes_injective {octets octets' : Octets} (bytes : octets.AreBytes)
    (bytes' : octets'.AreBytes) (h : octets.toBytes = octets'.toBytes) : octets = octets' := by
  have hback (octets : Octets) (bytes : octets.AreBytes) : ofBytes octets.toBytes = octets := by
    have hchar : ∀ c ∈ octets, Char.ofNat (UInt8.ofNat c.toNat).toNat = c := fun c hc => by
      rw [UInt8.toNat_ofNat', Nat.mod_eq_of_lt (bytes c hc), Char.ofNat_toNat]
    rw [ofBytes, toBytes, List.map_map]
    exact (List.map_congr_left hchar).trans (List.map_id _)
  rw [← hback octets bytes, h, hback octets' bytes']

theorem Octets.toText_eq_iff {octets : Octets} (bytes : octets.AreBytes) {text : String}
    (ascii : IsAscii text.toList) : octets.toText = text ↔ octets = text.toList := by
  constructor
  · intro h
    have hunits := congrArg String.toList h
    rw [toText, decodeLossy, String.toList_ofList] at hunits
    exact toBytes_injective bytes (fun c hc => Nat.lt_trans (ascii c hc).2 (by decide))
      (eq_of_decodeUnits ascii hunits)
  · rintro rfl
    exact decodeLossy_toBytes fun c hc => (ascii c hc).2

end Clausal.Text
