/-
# Texts: hexadecimal, decimal and separated fields

Three small text formats with what is needed to reason about them.

* Bytes in hexadecimal. Decoding accepts digits of both cases and encoding
  prints lower case, so decoding undoes encoding, and encoding undoes decoding
  exactly on texts without upper-case letters (`encode_decode_iff`).
* Unsigned integers in decimal, read the way `str::parse` reads them.
* Fields joined by a separator that does not occur in them.
-/

import Mathlib.Data.List.Basic
import Mathlib.Tactic.Common
import Mathlib.Tactic.IntervalCases

namespace Spilman.Lib

/-! ## Bytes of a text -/

/-- The bytes of a text. -/
def utf8 (text : String) : List UInt8 := text.toUTF8.data.toList

theorem utf8_injective : Function.Injective utf8 := fun _ _ same =>
  String.toByteArray_inj.mp (ByteArray.ext (Array.toList_inj.mp same))

theorem utf8_append (first second : String) :
    utf8 (first ++ second) = utf8 first ++ utf8 second := by
  simp [utf8]

theorem utf8_eq_flatMap (text : String) :
    utf8 text = text.toList.flatMap String.utf8EncodeChar := by
  have encoded : text.toByteArray = text.toList.utf8Encode := String.utf8Encode_toList.symm
  rw [utf8, String.toUTF8, encoded]
  simp [List.utf8Encode]

theorem utf8EncodeChar_lt {c : Char} {byte : UInt8} (member : byte ∈ String.utf8EncodeChar c) :
    byte.toNat < 255 := by
  have small {n : Nat} (bound : n < 255) (same : byte = UInt8.ofNat n) : byte.toNat < 255 := by
    rw [same, UInt8.toNat_ofNat']
    omega
  dsimp only [String.utf8EncodeChar] at member
  -- one to four bytes, by the size of the character
  split_ifs at member with one two three <;>
    simp only [List.mem_cons, List.not_mem_nil, or_false] at member
  · exact small (by omega) member
  · rcases member with first | second
    · exact small (by omega) first
    · exact small (by omega) second
  · rcases member with first | second | third
    · exact small (by omega) first
    · exact small (by omega) second
    · exact small (by omega) third
  · rcases member with first | second | third | fourth
    · exact small (by omega) first
    · exact small (by omega) second
    · exact small (by omega) third
    · exact small (by omega) fourth

/-- The byte `0xff` does not occur in a text. -/
theorem notMem_utf8 (text : String) : (0xff : UInt8) ∉ utf8 text := by
  rw [utf8_eq_flatMap, List.mem_flatMap]
  rintro ⟨c, -, member⟩
  exact absurd (utf8EncodeChar_lt member) (by decide)

/-- A text that may be followed by one `0xff` is read off its bytes, and whether it is. -/
theorem utf8_marked_inj {text text' : String} {marked marked' : Bool}
    (same : utf8 text ++ (if marked then [0xff] else []) =
      utf8 text' ++ (if marked' then [0xff] else [])) : text = text' ∧ marked = marked' := by
  have clean (t : String) {marked : Bool} :
      (0xff : UInt8) ∈ utf8 t ++ (if marked then [0xff] else []) ↔ marked = true := by
    cases marked <;> simp [notMem_utf8]
  have marks : marked = marked' := by
    rw [Bool.eq_iff_iff, ← clean text, same, clean]
  subst marks
  exact ⟨utf8_injective (List.append_cancel_right same), rfl⟩

/-! ## Hexadecimal -/

namespace Hex

/-- The value of a hexadecimal digit of either case. -/
def digitValue (digit : Char) : Option Nat :=
  if 48 ≤ digit.toNat ∧ digit.toNat ≤ 57 then some (digit.toNat - 48)
  else if 97 ≤ digit.toNat ∧ digit.toNat ≤ 102 then some (digit.toNat - 87)
  else if 65 ≤ digit.toNat ∧ digit.toNat ≤ 70 then some (digit.toNat - 55)
  else none

/-- The lower-case digit of a value below sixteen. -/
def digit (value : Nat) : Char :=
  if value < 10 then Char.ofNat (48 + value) else Char.ofNat (87 + value)

/-- Two lower-case digits for each byte. -/
def encodeChars : List UInt8 → List Char
  | [] => []
  | byte :: bytes => digit (byte.toNat / 16) :: digit (byte.toNat % 16) :: encodeChars bytes

/-- A byte for each two digits. -/
def decodeChars : List Char → Option (List UInt8)
  | [] => some []
  | [_] => none
  | high :: low :: rest => do
      let high ← digitValue high
      let low ← digitValue low
      let bytes ← decodeChars rest
      return UInt8.ofNat (16 * high + low) :: bytes

/-- Bytes as a lower-case hexadecimal text. -/
def encode (bytes : List UInt8) : String := String.ofList (encodeChars bytes)

/-- The bytes a hexadecimal text stands for, if it is one. -/
def decode (text : String) : Option (List UInt8) := decodeChars text.toList

/-- A text without the upper-case digits: the form `encode` prints. -/
def IsLower (text : String) : Prop := ∀ c ∈ text.toList, ¬ (65 ≤ c.toNat ∧ c.toNat ≤ 70)

instance (text : String) : Decidable (IsLower text) :=
  inferInstanceAs (Decidable (∀ c ∈ text.toList, _))

theorem digitValue_digit {value : Nat} (small : value < 16) :
    digitValue (digit value) = some value := by
  interval_cases value <;> rfl

theorem digitValue_lt {c : Char} {value : Nat} (read : digitValue c = some value) :
    value < 16 := by
  unfold digitValue at read
  split_ifs at read <;> cases read <;> omega

/-- Printing the value of a digit gives it back unless it is upper case. -/
theorem digit_digitValue_iff {c : Char} {value : Nat} (read : digitValue c = some value) :
    digit value = c ↔ ¬ (65 ≤ c.toNat ∧ c.toNat ≤ 70) := by
  have back : Char.ofNat c.toNat = c := Char.ofNat_toNat c
  unfold digitValue at read
  split_ifs at read with decimal lower upper
  · cases read
    rw [digit, if_pos (by omega), show 48 + (c.toNat - 48) = c.toNat by omega, back]
    simp only [true_iff]
    omega
  · cases read
    rw [digit, if_neg (by omega), show 87 + (c.toNat - 87) = c.toNat by omega, back]
    simp only [true_iff]
    omega
  · cases read
    simp only [upper, and_self, not_true_eq_false, iff_false]
    -- the digit printed for it is a lower-case one
    have cases : c.toNat = 65 ∨ c.toNat = 66 ∨ c.toNat = 67 ∨ c.toNat = 68 ∨ c.toNat = 69 ∨
        c.toNat = 70 := by omega
    rcases cases with code | code | code | code | code | code <;>
      rw [← back, code] <;> decide

theorem decodeChars_encodeChars (bytes : List UInt8) :
    decodeChars (encodeChars bytes) = some bytes := by
  induction bytes with
  | nil => rfl
  | cons byte bytes ih =>
      have bound := byte.toNat_lt
      rw [encodeChars, decodeChars, digitValue_digit (by omega), digitValue_digit (by omega), ih]
      simp only [Option.pure_def, Option.bind_eq_bind, Option.bind_some, Nat.div_add_mod,
        UInt8.ofNat_toNat]

@[simp]
theorem decode_encode (bytes : List UInt8) : decode (encode bytes) = some bytes := by
  rw [decode, encode, String.toList_ofList, decodeChars_encodeChars]

theorem length_encode (bytes : List UInt8) : (encode bytes).toList.length = 2 * bytes.length := by
  rw [encode, String.toList_ofList]
  induction bytes with
  | nil => rfl
  | cons byte bytes ih => simp only [encodeChars, List.length_cons, ih]; omega

theorem encode_injective : Function.Injective encode := fun first second same => by
  have read := congrArg decode same
  simpa using read

theorem encodeChars_decodeChars_iff {text : List Char} {bytes : List UInt8}
    (read : decodeChars text = some bytes) :
    encodeChars bytes = text ↔ ∀ c ∈ text, ¬ (65 ≤ c.toNat ∧ c.toNat ≤ 70) := by
  induction text using decodeChars.induct generalizing bytes with
  | case1 =>
      cases read
      simp [encodeChars]
  | case2 => cases read
  | case3 high low rest ih =>
      simp only [decodeChars, Option.bind_eq_bind, Option.bind_eq_some_iff, Option.pure_def,
        Option.some.injEq] at read
      obtain ⟨highValue, readHigh, lowValue, readLow, tail, readTail, rfl⟩ := read
      have highBound := digitValue_lt readHigh
      have lowBound := digitValue_lt readLow
      have byte : (UInt8.ofNat (16 * highValue + lowValue)).toNat = 16 * highValue + lowValue :=
        UInt8.toNat_ofNat_of_lt' (by rw [UInt8.size]; omega)
      rw [encodeChars, byte, show (16 * highValue + lowValue) / 16 = highValue by omega,
        show (16 * highValue + lowValue) % 16 = lowValue by omega]
      simp only [List.cons.injEq, digit_digitValue_iff readHigh, digit_digitValue_iff readLow,
        ih readTail, List.forall_mem_cons]

/-- **A hexadecimal text is what its bytes print as exactly when it has no
upper-case digits.** -/
theorem encode_decode_iff {text : String} {bytes : List UInt8} (read : decode text = some bytes) :
    encode bytes = text ↔ IsLower text := by
  rw [IsLower, ← encodeChars_decodeChars_iff read, encode, ← String.toList_inj,
    String.toList_ofList]

theorem isLower_encode (bytes : List UInt8) : IsLower (encode bytes) :=
  (encode_decode_iff (decode_encode bytes)).mp rfl

end Hex

/-! ## Decimal -/

namespace Decimal

/-- Read digits onto what has been read so far, at an unsigned type of the given
number of bits. -/
def parseDigits (bits : Nat) : List Char → Nat → Except String Nat
  | [], value => .ok value
  | c :: rest, value =>
      if ¬ c.isDigit then .error "invalid digit found in string"
      else if 2 ^ bits ≤ 10 * value + (c.toNat - '0'.toNat) then
        .error "number too large to fit in target type"
      else parseDigits bits rest (10 * value + (c.toNat - '0'.toNat))

/-- `text.parse()` at an unsigned type: an optional plus sign, then at least one
digit, then nothing else. -/
def parse (bits : Nat) (text : String) : Except String Nat :=
  match text.toList with
  | [] => .error "cannot parse integer from empty string"
  | ['+'] => .error "invalid digit found in string"
  | '+' :: rest => parseDigits bits rest 0
  | digits => parseDigits bits digits 0

theorem toList_toString (value : Nat) : (toString value).toList = Nat.toDigits 10 value := by
  rw [Nat.toString_eq_ofList_toDigits, String.toList_ofList]

theorem isDigit_of_mem {value : Nat} {c : Char} (member : c ∈ (toString value).toList) :
    c.isDigit :=
  Nat.isDigit_of_mem_toDigits (by decide) (by decide) (toList_toString value ▸ member)

theorem ofDigitChars_toString (value : Nat) :
    Nat.ofDigitChars 10 (toString value).toList 0 = value := by
  rw [toList_toString]
  exact Nat.ofDigitChars_toDigits (by decide) (by decide)

theorem notMem_toString {c : Char} (other : c.isDigit = false) (value : Nat) :
    c ∉ (toString value).toList := fun member => by
  rw [isDigit_of_mem member] at other
  cases other

theorem toString_injective : Function.Injective (toString : Nat → String) :=
  fun first second same => by
    rw [← ofDigitChars_toString first, same, ofDigitChars_toString]

theorem le_ofDigitChars (digits : List Char) (value : Nat) :
    value ≤ Nat.ofDigitChars 10 digits value := by
  induction digits generalizing value with
  | nil => exact le_rfl
  | cons c rest ih =>
      rw [Nat.ofDigitChars_cons]
      exact le_trans (by omega) (ih _)

theorem parseDigits_eq_ok {bits : Nat} {digits : List Char} {value : Nat}
    (allDigits : ∀ c ∈ digits, c.isDigit)
    (fits : Nat.ofDigitChars 10 digits value < 2 ^ bits) :
    parseDigits bits digits value = .ok (Nat.ofDigitChars 10 digits value) := by
  induction digits generalizing value with
  | nil => rfl
  | cons c rest ih =>
      rw [Nat.ofDigitChars_cons] at fits ⊢
      have bound := le_ofDigitChars rest (10 * value + (c.toNat - '0'.toNat))
      rw [parseDigits, if_neg (by simpa using allDigits c List.mem_cons_self), if_neg (by omega)]
      exact ih (fun d member => allDigits d (List.mem_cons_of_mem _ member)) fits

/-- Reading back a printed number that fits. -/
theorem parse_toString {bits value : Nat} (fits : value < 2 ^ bits) :
    parse bits (toString value) = .ok value := by
  have allDigits : ∀ c ∈ (toString value).toList, c.isDigit := fun _ => isDigit_of_mem
  have noPlus : '+' ∉ (toString value).toList := fun member =>
    absurd (allDigits '+' member) (by decide)
  have read : parseDigits bits (toString value).toList 0 = .ok value := by
    rw [parseDigits_eq_ok allDigits (by rwa [ofDigitChars_toString]), ofDigitChars_toString]
  rw [parse]
  split
  · rename_i empty
    rw [toList_toString] at empty
    exact absurd empty Nat.toDigits_ne_nil
  · rename_i plus
    exact absurd (plus ▸ List.mem_cons_self) noPlus
  · rename_i plus
    exact absurd (plus ▸ List.mem_cons_self) noPlus
  · exact read

end Decimal

/-! ## Separated fields -/

theorem append_cons_inj {α : Type} {separator : α} {first second rest rest' : List α}
    (clean : separator ∉ first) (clean' : separator ∉ second)
    (same : first ++ separator :: rest = second ++ separator :: rest') :
    first = second ∧ rest = rest' := by
  induction first generalizing second with
  | nil =>
      cases second with
      | nil => simpa using same
      | cons head tail =>
          simp only [List.nil_append, List.cons_append, List.cons.injEq] at same
          exact absurd (same.1 ▸ List.mem_cons_self) clean'
  | cons head tail ih =>
      cases second with
      | nil =>
          simp only [List.nil_append, List.cons_append, List.cons.injEq] at same
          exact absurd (same.1 ▸ List.mem_cons_self) clean
      | cons head' tail' =>
          simp only [List.cons_append, List.cons.injEq] at same
          obtain ⟨tails, rests⟩ := ih (fun member => clean (List.mem_cons_of_mem _ member))
            (fun member => clean' (List.mem_cons_of_mem _ member)) same.2
          exact ⟨by rw [same.1, tails], rests⟩

theorem append_cons_inj_last {α : Type} {separator : α} {rest rest' last last' : List α}
    (clean : separator ∉ last) (clean' : separator ∉ last')
    (same : rest ++ separator :: last = rest' ++ separator :: last') :
    rest = rest' ∧ last = last' := by
  have reversed := congrArg List.reverse same
  simp only [List.reverse_append, List.reverse_cons, List.append_assoc, List.cons_append,
    List.nil_append] at reversed
  obtain ⟨lasts, rests⟩ := append_cons_inj (by simpa using clean) (by simpa using clean') reversed
  exact ⟨List.reverse_injective rests, List.reverse_injective lasts⟩

/-- Two fields without the separator are the only ones that give the joined text. -/
theorem append_cons_inj_of_clean {α : Type} [DecidableEq α] {separator : α}
    {first second first' second' : List α} (clean : separator ∉ first') (clean' : separator ∉ second')
    (same : first ++ separator :: second = first' ++ separator :: second') :
    first = first' ∧ second = second' := by
  have counts := congrArg (List.count separator) same
  simp only [List.count_append, List.count_cons_self, List.count_eq_zero_of_not_mem clean,
    List.count_eq_zero_of_not_mem clean'] at counts
  have none : separator ∉ first := List.count_eq_zero.mp (by omega)
  exact append_cons_inj none clean same

/-- Otherwise other fields give it as well, and one of them has the separator again. -/
theorem exists_other_fields {α : Type} {separator : α} {first second : List α}
    (unclean : separator ∈ first ∨ separator ∈ second) :
    ∃ first' second', first' ++ separator :: second' = first ++ separator :: second ∧
      first' ≠ first ∧ (separator ∈ first' ∨ separator ∈ second') := by
  rcases unclean with member | member
  · obtain ⟨before, after, rfl⟩ := List.append_of_mem member
    refine ⟨before, after ++ separator :: second, by simp, fun same => ?_, .inr (by simp)⟩
    have lengths := congrArg List.length same
    simp at lengths
  · obtain ⟨before, after, rfl⟩ := List.append_of_mem member
    refine ⟨first ++ separator :: before, after, by simp, fun same => ?_, .inl (by simp)⟩
    have lengths := congrArg List.length same
    simp at lengths

/-- Fields after a text, the last one first, each with the separator before it. -/
def withFields {α : Type} (separator : α) (text : List α) : List (List α) → List α
  | [] => text
  | field :: earlier => withFields separator text earlier ++ separator :: field

/-- Fields without the separator are found from the end, whatever text they follow. -/
theorem withFields_inj {α : Type} {separator : α} {text text' : List α}
    {fields fields' : List (List α)} (clean : ∀ field ∈ fields, separator ∉ field)
    (clean' : ∀ field ∈ fields', separator ∉ field) (length : fields.length = fields'.length)
    (same : withFields separator text fields = withFields separator text' fields') :
    text = text' ∧ fields = fields' := by
  induction fields generalizing fields' with
  | nil =>
      cases List.length_eq_zero_iff.mp length.symm
      exact ⟨same, rfl⟩
  | cons field fields ih =>
      cases fields' with
      | nil => cases length
      | cons field' fields' =>
          rw [List.forall_mem_cons] at clean clean'
          obtain ⟨rests, lasts⟩ := append_cons_inj_last clean.1 clean'.1 same
          obtain ⟨texts, earlier⟩ := ih clean.2 clean'.2 (Nat.succ.inj length) rests
          exact ⟨texts, by rw [lasts, earlier]⟩

/-- An end of fixed length is determined by the whole text. -/
theorem append_end_inj {before before' field field' : String}
    (length : field.toList.length = field'.toList.length)
    (same : before ++ field = before' ++ field') : field = field' := by
  have lists := congrArg String.toList same
  simp only [String.toList_append] at lists
  exact String.toList_inj.mp (List.append_inj' lists length).2

/-- A field of fixed length before a fixed end is determined by the whole text. -/
theorem append_field_inj {before before' field field' rest : String}
    (length : field.toList.length = field'.toList.length)
    (same : before ++ field ++ rest = before' ++ field' ++ rest) : field = field' := by
  have lists : (before ++ field).toList ++ rest.toList =
      (before' ++ field').toList ++ rest.toList := by
    rw [← String.toList_append, ← String.toList_append, same]
  exact append_end_inj length (String.toList_inj.mp (List.append_cancel_right lists))

end Spilman.Lib
