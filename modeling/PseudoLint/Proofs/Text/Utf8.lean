import PseudoLint.Proofs.Text.Classes
import PseudoLint.Text.Utf8

/-! # Reading and writing UTF-8

The reader takes sequences of one to four bytes off the front. They are the sequences that write a
character (`Sequence.encodeChar_eq`, `sequence_encodeChar`) and the rows of the table of well-formed
sequences (`inTable_iff`), so bytes are read as a text exactly if they are the bytes of this text
(`decode_eq_ok_iff`). An uploaded file that is no text in this sense keeps its bytes as characters.
-/

namespace PseudoLint

namespace Utf8

/-! ## Writing numbers as bytes -/

theorem ofNat_eq {number : Nat} {byte : UInt8} (same : number = byte.toNat) :
    UInt8.ofNat number = byte := by
  rw [same, UInt8.ofNat_toNat]

theorem exists_byte (number : Nat) (fits : number < 256) :
    ∃ byte : UInt8, number = byte.toNat := by
  refine ⟨UInt8.ofNat number, ?_⟩
  rw [UInt8.toNat_ofNat', Nat.mod_eq_of_lt fits]

/-- The form of two bytes of a number below 0x800. -/
def twoBytes (code : Nat) : Bytes :=
  [UInt8.ofNat (code / 64 + 0xC0), UInt8.ofNat (code % 64 + 0x80)]

/-- The form of three bytes of a number below 0x10000. -/
def threeBytes (code : Nat) : Bytes :=
  [UInt8.ofNat (code / 4096 + 0xE0), UInt8.ofNat (code / 64 % 64 + 0x80),
    UInt8.ofNat (code % 64 + 0x80)]

/-- The form of four bytes of a number below 0x200000. -/
def fourBytes (code : Nat) : Bytes :=
  [UInt8.ofNat (code / 262144 + 0xF0), UInt8.ofNat (code / 4096 % 64 + 0x80),
    UInt8.ofNat (code / 64 % 64 + 0x80), UInt8.ofNat (code % 64 + 0x80)]

/-- The bytes of a text in UTF-8. -/
def encode (text : Text) : Bytes :=
  text.flatMap String.utf8EncodeChar

/-- A character is written in the shortest form that its number has. -/
theorem encodeChar_cases (c : Char) :
    (c.toNat < 0x80 ∧ String.utf8EncodeChar c = [UInt8.ofNat c.toNat]) ∨
    (0x80 ≤ c.toNat ∧ c.toNat < 0x800 ∧ String.utf8EncodeChar c = twoBytes c.toNat) ∨
    (0x800 ≤ c.toNat ∧ c.toNat < 0x10000 ∧ (c.toNat < 0xD800 ∨ 0xDFFF < c.toNat) ∧
      String.utf8EncodeChar c = threeBytes c.toNat) ∨
    (0x10000 ≤ c.toNat ∧ c.toNat ≤ 0x10FFFF ∧ String.utf8EncodeChar c = fourBytes c.toNat) := by
  have valid : c.toNat < 0xD800 ∨ 0xDFFF < c.toNat ∧ c.toNat < 0x110000 := c.valid
  have code : c.val.toNat = c.toNat := rfl
  unfold String.utf8EncodeChar twoBytes threeBytes fourBytes
  dsimp only
  rw [code]
  split
  · exact .inl ⟨by omega, rfl⟩
  split
  · have lead : c.toNat / 64 % 0x20 = c.toNat / 64 := Nat.mod_eq_of_lt (by omega)
    rw [lead]
    exact .inr (.inl ⟨by omega, by omega, rfl⟩)
  split
  · have lead : c.toNat / 4096 % 0x10 = c.toNat / 4096 := Nat.mod_eq_of_lt (by omega)
    rw [lead]
    exact .inr (.inr (.inl ⟨by omega, by omega, by omega, rfl⟩))
  · have lead : c.toNat / 262144 % 0x08 = c.toNat / 262144 := Nat.mod_eq_of_lt (by omega)
    rw [lead]
    exact .inr (.inr (.inr ⟨by omega, by omega, rfl⟩))

/-! ## Sequences that are characters -/

/-- A sequence of bytes and the character that it is read as, one case for each branch of the
reader that succeeds. -/
inductive Sequence : Char → Bytes → Prop
  | one {a : UInt8} (ascii : a < 0x80) : Sequence (Char.ofNat a.toNat) [a]
  | two {a b : UInt8} (low : ¬ a < 0xC2) (high : a < 0xE0) (second : isContinuation b = true) :
      Sequence (assemble (a.toNat - 0xC0) [b]) [a, b]
  | three {a b c : UInt8} (low : ¬ a < 0xE0) (high : a < 0xF0)
      (second : isSecondOfThree a b = true) (third : isContinuation c = true) :
      Sequence (assemble (a.toNat - 0xE0) [b, c]) [a, b, c]
  | four {a b c d : UInt8} (low : ¬ a < 0xF0) (high : a < 0xF5)
      (second : isSecondOfFour a b = true) (third : isContinuation c = true)
      (fourth : isContinuation d = true) :
      Sequence (assemble (a.toNat - 0xF0) [b, c, d]) [a, b, c, d]

theorem isContinuation_iff {byte : UInt8} :
    isContinuation byte = true ↔ 0x80 ≤ byte.toNat ∧ byte.toNat ≤ 0xBF := by
  simp [isContinuation, UInt8.le_iff_toNat_le]

theorem isSecondWithin_iff {overlong least limited bound first second : UInt8} :
    isSecondWithin overlong least limited bound first second = true ↔
      (0x80 ≤ second.toNat ∧ second.toNat ≤ 0xBF) ∧
        (first.toNat = overlong.toNat → least.toNat ≤ second.toNat) ∧
          (first.toNat = limited.toNat → second.toNat < bound.toNat) := by
  simp [isSecondWithin, isContinuation_iff, UInt8.le_iff_toNat_le, UInt8.lt_iff_toNat_lt,
    ← UInt8.toNat_inj, and_assoc, Decidable.imp_iff_not_or]

/-- Each sequence is read as far as it goes. -/
theorem Sequence.decodeFrom_append {c : Char} {bytes : Bytes} (sequence : Sequence c bytes)
    (position : Nat) (rest : Bytes) :
    decodeFrom position (bytes ++ rest) =
      (decodeFrom (position + bytes.length) rest).map (c :: ·) := by
  rw [decodeFrom.eq_def]
  cases sequence with
  | one ascii =>
    simp only [List.cons_append, List.nil_append, ascii, ↓reduceIte, List.length_singleton]
  | two low high second =>
    have notAscii : ¬ _ < (0x80 : UInt8) := fun ascii => low (UInt8.lt_trans ascii (by decide))
    simp only [List.cons_append, List.nil_append, notAscii, low, high, second, ↓reduceIte,
      List.length_cons, List.length_nil]
  | three low high second third =>
    have notAscii : ¬ _ < (0x80 : UInt8) := fun ascii => low (UInt8.lt_trans ascii (by decide))
    have notC2 : ¬ _ < (0xC2 : UInt8) := fun less => low (UInt8.lt_trans less (by decide))
    simp only [List.cons_append, List.nil_append, notAscii, notC2, low, high, second, third,
      ↓reduceIte, List.length_cons, List.length_nil, Bool.not_true, Bool.false_eq_true]
  | four low high second third fourth =>
    have notAscii : ¬ _ < (0x80 : UInt8) := fun ascii => low (UInt8.lt_trans ascii (by decide))
    have notC2 : ¬ _ < (0xC2 : UInt8) := fun less => low (UInt8.lt_trans less (by decide))
    have notE0 : ¬ _ < (0xE0 : UInt8) := fun less => low (UInt8.lt_trans less (by decide))
    simp only [List.cons_append, List.nil_append, notAscii, notC2, notE0, low, high, second, third,
      fourth, ↓reduceIte, List.length_cons, List.length_nil, Bool.not_true, Bool.false_eq_true]

section

variable {code : Nat}

private theorem encodeChar_ofNat_cases (code : Nat) (scalar : code.isValidChar) :
    (code < 0x80 ∧ String.utf8EncodeChar (Char.ofNat code) = [UInt8.ofNat code]) ∨
    (0x80 ≤ code ∧ code < 0x800 ∧ String.utf8EncodeChar (Char.ofNat code) = twoBytes code) ∨
    (0x800 ≤ code ∧ code < 0x10000 ∧ (code < 0xD800 ∨ 0xDFFF < code) ∧
      String.utf8EncodeChar (Char.ofNat code) = threeBytes code) ∨
    (0x10000 ≤ code ∧ code ≤ 0x10FFFF ∧
      String.utf8EncodeChar (Char.ofNat code) = fourBytes code) := by
  have written := encodeChar_cases (Char.ofNat code)
  rwa [toNat_ofNat_of_isValidChar scalar] at written

theorem encodeChar_one (high : code < 0x80) :
    String.utf8EncodeChar (Char.ofNat code) = [UInt8.ofNat code] := by
  rcases encodeChar_ofNat_cases code (.inl (by omega)) with
    ⟨-, form⟩ | ⟨low, -⟩ | ⟨low, -⟩ | ⟨low, -⟩
  · exact form
  all_goals omega

theorem encodeChar_two (low : 0x80 ≤ code) (high : code < 0x800) :
    String.utf8EncodeChar (Char.ofNat code) = twoBytes code := by
  rcases encodeChar_ofNat_cases code (.inl (by omega)) with
    ⟨less, -⟩ | ⟨-, -, form⟩ | ⟨more, -⟩ | ⟨more, -⟩
  · omega
  · exact form
  all_goals omega

theorem encodeChar_three (low : 0x800 ≤ code) (high : code < 0x10000)
    (scalar : code < 0xD800 ∨ 0xDFFF < code) :
    String.utf8EncodeChar (Char.ofNat code) = threeBytes code := by
  rcases encodeChar_ofNat_cases code (scalar.imp_right fun behind => ⟨behind, by omega⟩) with
    ⟨less, -⟩ | ⟨-, less, -⟩ | ⟨-, -, -, form⟩ | ⟨more, -⟩
  · omega
  · omega
  · exact form
  · omega

theorem encodeChar_four (low : 0x10000 ≤ code) (high : code ≤ 0x10FFFF) :
    String.utf8EncodeChar (Char.ofNat code) = fourBytes code := by
  rcases encodeChar_ofNat_cases code (.inr ⟨by omega, by omega⟩) with
    ⟨less, -⟩ | ⟨-, less, -⟩ | ⟨-, less, -⟩ | ⟨-, -, form⟩
  · omega
  · omega
  · omega
  · exact form

end

/-- A sequence is how the character that it is read as is written. -/
theorem Sequence.encodeChar_eq {c : Char} {bytes : Bytes} (sequence : Sequence c bytes) :
    String.utf8EncodeChar c = bytes := by
  cases sequence with
  | one ascii => rw [encodeChar_one (UInt8.lt_iff_toNat_lt.mp ascii), UInt8.ofNat_toNat]
  | @two a b low high second =>
    simp only [UInt8.lt_iff_toNat_lt, UInt8.reduceToNat] at low high
    rw [isContinuation_iff] at second
    obtain ⟨code, payload⟩ : ∃ code, code = (a.toNat - 0xC0) * 64 + b.toNat % 64 := ⟨_, rfl⟩
    have read : assemble (a.toNat - 0xC0) [b] = Char.ofNat code := congrArg Char.ofNat payload.symm
    have lead : UInt8.ofNat (code / 64 + 0xC0) = a := ofNat_eq (by omega)
    have last : UInt8.ofNat (code % 64 + 0x80) = b := ofNat_eq (by omega)
    rw [read, encodeChar_two (by omega) (by omega), twoBytes, lead, last]
  | @three a b c low high second third =>
    simp only [UInt8.lt_iff_toNat_lt, UInt8.reduceToNat] at low high
    simp only [isSecondOfThree, isSecondWithin_iff, UInt8.reduceToNat] at second
    rw [isContinuation_iff] at third
    obtain ⟨code, payload⟩ :
        ∃ code, code = ((a.toNat - 0xE0) * 64 + b.toNat % 64) * 64 + c.toNat % 64 := ⟨_, rfl⟩
    have read : assemble (a.toNat - 0xE0) [b, c] = Char.ofNat code :=
      congrArg Char.ofNat payload.symm
    have lead : UInt8.ofNat (code / 4096 + 0xE0) = a := ofNat_eq (by omega)
    have middle : UInt8.ofNat (code / 64 % 64 + 0x80) = b := ofNat_eq (by omega)
    have last : UInt8.ofNat (code % 64 + 0x80) = c := ofNat_eq (by omega)
    rw [read, encodeChar_three (by omega) (by omega) (by omega), threeBytes, lead, middle, last]
  | @four a b c d low high second third fourth =>
    simp only [UInt8.lt_iff_toNat_lt, UInt8.reduceToNat] at low high
    simp only [isSecondOfFour, isSecondWithin_iff, UInt8.reduceToNat] at second
    rw [isContinuation_iff] at third fourth
    obtain ⟨code, payload⟩ : ∃ code, code =
        (((a.toNat - 0xF0) * 64 + b.toNat % 64) * 64 + c.toNat % 64) * 64 + d.toNat % 64 :=
      ⟨_, rfl⟩
    have read : assemble (a.toNat - 0xF0) [b, c, d] = Char.ofNat code :=
      congrArg Char.ofNat payload.symm
    have lead : UInt8.ofNat (code / 262144 + 0xF0) = a := ofNat_eq (by omega)
    have inner : UInt8.ofNat (code / 4096 % 64 + 0x80) = b := ofNat_eq (by omega)
    have middle : UInt8.ofNat (code / 64 % 64 + 0x80) = c := ofNat_eq (by omega)
    have last : UInt8.ofNat (code % 64 + 0x80) = d := ofNat_eq (by omega)
    rw [read, encodeChar_four (by omega) (by omega), fourBytes, lead, inner, middle, last]

/-- Every character is written as a sequence that is read as it. -/
theorem sequence_encodeChar (c : Char) : Sequence c (String.utf8EncodeChar c) := by
  have itself : Char.ofNat c.toNat = c := Char.ofNat_toNat c
  rcases encodeChar_cases c with ⟨high, form⟩ | ⟨low, high, form⟩ | ⟨low, high, scalar, form⟩ |
    ⟨low, high, form⟩
  · obtain ⟨a, lead⟩ := exists_byte c.toNat (by omega)
    rw [form, ofNat_eq lead, ← itself, lead]
    exact .one (UInt8.lt_iff_toNat_lt.mpr (lead ▸ high))
  · obtain ⟨a, lead⟩ := exists_byte (c.toNat / 64 + 0xC0) (by omega)
    obtain ⟨b, last⟩ := exists_byte (c.toNat % 64 + 0x80) (by omega)
    have payload : (a.toNat - 0xC0) * 64 + b.toNat % 64 = c.toNat := by omega
    have read : assemble (a.toNat - 0xC0) [b] = c := (congrArg Char.ofNat payload).trans itself
    rw [form, twoBytes, ofNat_eq lead, ofNat_eq last, ← read]
    apply Sequence.two <;>
      simp only [UInt8.lt_iff_toNat_lt, UInt8.reduceToNat, isContinuation_iff] <;> omega
  · obtain ⟨a, lead⟩ := exists_byte (c.toNat / 4096 + 0xE0) (by omega)
    obtain ⟨b, middle⟩ := exists_byte (c.toNat / 64 % 64 + 0x80) (by omega)
    obtain ⟨d, last⟩ := exists_byte (c.toNat % 64 + 0x80) (by omega)
    have payload : ((a.toNat - 0xE0) * 64 + b.toNat % 64) * 64 + d.toNat % 64 = c.toNat := by
      omega
    have read : assemble (a.toNat - 0xE0) [b, d] = c := (congrArg Char.ofNat payload).trans itself
    rw [form, threeBytes, ofNat_eq lead, ofNat_eq middle, ofNat_eq last, ← read]
    apply Sequence.three <;>
      simp only [UInt8.lt_iff_toNat_lt, UInt8.reduceToNat, isContinuation_iff,
        isSecondOfThree, isSecondWithin_iff] <;> omega
  · obtain ⟨a, lead⟩ := exists_byte (c.toNat / 262144 + 0xF0) (by omega)
    obtain ⟨b, inner⟩ := exists_byte (c.toNat / 4096 % 64 + 0x80) (by omega)
    obtain ⟨d, middle⟩ := exists_byte (c.toNat / 64 % 64 + 0x80) (by omega)
    obtain ⟨e, last⟩ := exists_byte (c.toNat % 64 + 0x80) (by omega)
    have payload : (((a.toNat - 0xF0) * 64 + b.toNat % 64) * 64 + d.toNat % 64) * 64 +
        e.toNat % 64 = c.toNat := by
      omega
    have read : assemble (a.toNat - 0xF0) [b, d, e] = c :=
      (congrArg Char.ofNat payload).trans itself
    rw [form, fourBytes, ofNat_eq lead, ofNat_eq inner, ofNat_eq middle, ofNat_eq last, ← read]
    apply Sequence.four <;>
      simp only [UInt8.lt_iff_toNat_lt, UInt8.reduceToNat, isContinuation_iff,
        isSecondOfFour, isSecondWithin_iff] <;> omega

/-! ## Texts -/

/-- What is written is read back. -/
theorem decodeFrom_encode_append (position : Nat) (text : Text) (rest : Bytes) :
    decodeFrom position (encode text ++ rest) =
      (decodeFrom (position + (encode text).length) rest).map (text ++ ·) := by
  induction text generalizing position with
  | nil => cases read : decodeFrom position rest <;> simp [encode, read, Except.map]
  | cons c others ih =>
    have written : encode (c :: others) = String.utf8EncodeChar c ++ encode others :=
      List.flatMap_cons
    rw [written, List.append_assoc, (sequence_encodeChar c).decodeFrom_append, ih,
      List.length_append, Nat.add_assoc]
    cases decodeFrom (position + ((String.utf8EncodeChar c).length + (encode others).length)) rest
      <;> rfl

theorem decode_encode (text : Text) : decode (encode text) = .ok text := by
  have read := decodeFrom_encode_append 0 text []
  rw [List.append_nil] at read
  rw [decode, read, decodeFrom]
  exact congrArg Except.ok (List.append_nil text)

private theorem encode_of_map {c : Char} {bytes rest : Bytes} {result : Except Fault Text}
    {text : Text} (sequence : Sequence c bytes) (read : result.map (c :: ·) = .ok text)
    (later : ∀ others, result = .ok others → encode others = rest) :
    encode text = bytes ++ rest := by
  cases result with
  | error fault => cases read
  | ok others =>
    cases read
    have written : encode (c :: others) = String.utf8EncodeChar c ++ encode others :=
      List.flatMap_cons
    rw [written, sequence.encodeChar_eq, later others rfl]

/-- What is read is what was written. -/
theorem encode_of_decodeFrom {position : Nat} {bytes : Bytes} {text : Text}
    (read : decodeFrom position bytes = .ok text) : encode text = bytes := by
  -- The cases that are not named are those in which bytes are refused.
  fun_induction decodeFrom position bytes generalizing text with
  | case1 =>
    cases read
    rfl
  | case2 position a rest ascii ih => exact encode_of_map (.one ascii) read fun _ => ih
  | case5 position a _ low high b rest second ih =>
    exact encode_of_map (.two low high second) read fun _ => ih
  | case10 position a _ _ low high b second c rest third ih =>
    rw [Bool.not_eq_true', Bool.not_eq_false] at second
    exact encode_of_map (.three low high second third) read fun _ => ih
  | case17 position a _ _ _ low high b second c third d rest fourth ih =>
    rw [Bool.not_eq_true', Bool.not_eq_false] at second third
    exact encode_of_map (.four low high second third fourth) read fun _ => ih
  | _ => cases read

/-- Bytes are read as the text that is written as them, and as no other. -/
theorem decode_eq_ok_iff {bytes : Bytes} {text : Text} :
    decode bytes = .ok text ↔ encode text = bytes := by
  refine ⟨encode_of_decodeFrom, ?_⟩
  rintro rfl
  exact decode_encode text

/-! ## The table of well-formed sequences -/

/-- The table of well-formed sequences: in each row, the range of each byte. -/
def wellFormedRows : List (List (Nat × Nat)) :=
  [[(0x00, 0x7F)],
    [(0xC2, 0xDF), (0x80, 0xBF)],
    [(0xE0, 0xE0), (0xA0, 0xBF), (0x80, 0xBF)],
    [(0xE1, 0xEC), (0x80, 0xBF), (0x80, 0xBF)],
    [(0xED, 0xED), (0x80, 0x9F), (0x80, 0xBF)],
    [(0xEE, 0xEF), (0x80, 0xBF), (0x80, 0xBF)],
    [(0xF0, 0xF0), (0x90, 0xBF), (0x80, 0xBF), (0x80, 0xBF)],
    [(0xF1, 0xF3), (0x80, 0xBF), (0x80, 0xBF), (0x80, 0xBF)],
    [(0xF4, 0xF4), (0x80, 0x8F), (0x80, 0xBF), (0x80, 0xBF)]]

/-- Whether each byte lies in the range that a row has for it. -/
def FitsRow : List (Nat × Nat) → Bytes → Prop
  | [], [] => True
  | range :: row, byte :: bytes =>
    (range.1 ≤ byte.toNat ∧ byte.toNat ≤ range.2) ∧ FitsRow row bytes
  | _, _ => False

/-- Whether bytes are a sequence of the table. -/
def InTable (bytes : Bytes) : Prop :=
  ∃ row ∈ wellFormedRows, FitsRow row bytes

/-- Whether bytes can be cut into sequences of the table. -/
def WellFormed (bytes : Bytes) : Prop :=
  ∃ sequences : List Bytes, bytes = sequences.flatten ∧ ∀ sequence ∈ sequences, InTable sequence

/-- What the reader asks of the bytes of one character. -/
def IsCharacter : Bytes → Prop
  | [a] => a < 0x80
  | [a, b] => ¬ a < 0xC2 ∧ a < 0xE0 ∧ isContinuation b = true
  | [a, b, c] => ¬ a < 0xE0 ∧ a < 0xF0 ∧ isSecondOfThree a b = true ∧ isContinuation c = true
  | [a, b, c, d] => ¬ a < 0xF0 ∧ a < 0xF5 ∧ isSecondOfFour a b = true ∧
      isContinuation c = true ∧ isContinuation d = true
  | _ => False

theorem isCharacter_iff {bytes : Bytes} : IsCharacter bytes ↔ ∃ c, Sequence c bytes := by
  constructor
  · intro character
    rcases bytes with _ | ⟨a, _ | ⟨b, _ | ⟨c, _ | ⟨d, _ | ⟨e, rest⟩⟩⟩⟩⟩
    · exact character.elim
    · exact ⟨_, .one character⟩
    · obtain ⟨low, high, second⟩ := character
      exact ⟨_, .two low high second⟩
    · obtain ⟨low, high, second, third⟩ := character
      exact ⟨_, .three low high second third⟩
    · obtain ⟨low, high, second, third, fourth⟩ := character
      exact ⟨_, .four low high second third fourth⟩
    · exact character.elim
  · rintro ⟨c, sequence⟩
    cases sequence with
    | one ascii => exact ascii
    | two low high second => exact ⟨low, high, second⟩
    | three low high second third => exact ⟨low, high, second, third⟩
    | four low high second third fourth => exact ⟨low, high, second, third, fourth⟩

theorem inTable_iff_isCharacter {bytes : Bytes} : InTable bytes ↔ IsCharacter bytes := by
  -- The rows of a length are the ranges of the first byte, cut where the second byte is limited.
  rcases bytes with _ | ⟨a, _ | ⟨b, _ | ⟨c, _ | ⟨d, _ | ⟨e, rest⟩⟩⟩⟩⟩ <;>
    simp only [InTable, wellFormedRows, List.mem_cons, List.not_mem_nil, or_false,
      exists_eq_or_imp, exists_eq_left, FitsRow, IsCharacter, and_true, and_false, false_or,
      UInt8.lt_iff_toNat_lt, UInt8.reduceToNat, isContinuation_iff, isSecondOfThree,
      isSecondOfFour, isSecondWithin_iff] <;>
    omega

/-- The sequences of the table are those that are read as a character. -/
theorem inTable_iff {bytes : Bytes} : InTable bytes ↔ ∃ c, Sequence c bytes :=
  inTable_iff_isCharacter.trans isCharacter_iff

/-- The well-formed bytes are those that write a text. -/
theorem wellFormed_iff {bytes : Bytes} : WellFormed bytes ↔ ∃ text, encode text = bytes := by
  constructor
  · rintro ⟨sequences, rfl, listed⟩
    induction sequences with
    | nil => exact ⟨[], rfl⟩
    | cons first rest ih =>
      obtain ⟨here, later⟩ := List.forall_mem_cons.mp listed
      obtain ⟨c, sequence⟩ := inTable_iff.mp here
      obtain ⟨text, written⟩ := ih later
      refine ⟨c :: text, ?_⟩
      rw [encode, List.flatMap_cons, sequence.encodeChar_eq, List.flatten_cons, ← written, encode]
  · rintro ⟨text, rfl⟩
    refine ⟨text.map String.utf8EncodeChar, List.flatMap_def, ?_⟩
    intro sequence member
    obtain ⟨c, -, rfl⟩ := List.mem_map.mp member
    exact inTable_iff.mpr ⟨c, sequence_encodeChar c⟩

/-! ## Ill-formed sequences -/

/-- A form of a number that is no sequence: a longer form than the number needs, the form of a
surrogate, or that of a number beyond all characters. -/
inductive IllFormed : Bytes → Prop
  | overlongTwo {code : Nat} (short : code < 0x80) : IllFormed (twoBytes code)
  | overlongThree {code : Nat} (short : code < 0x800) : IllFormed (threeBytes code)
  | overlongFour {code : Nat} (short : code < 0x10000) : IllFormed (fourBytes code)
  | surrogate {code : Nat} (low : 0xD800 ≤ code) (high : code ≤ 0xDFFF) :
      IllFormed (threeBytes code)
  | beyond {code : Nat} (high : 0x10FFFF < code) (fits : code < 0x200000) :
      IllFormed (fourBytes code)

section

variable {a b : UInt8} (position : Nat) (rest : Bytes)

private theorem refused_at_first (notAscii : ¬ a < 0x80) (outside : a < 0xC2 ∨ ¬ a < 0xF5) :
    ∃ fault, decodeFrom position (a :: rest) = .error fault := by
  rw [decodeFrom.eq_def]
  rcases outside with low | high
  · simp only [notAscii, low, ↓reduceIte, Except.error.injEq, exists_eq']
  · have notC2 : ¬ a < 0xC2 := fun less => high (UInt8.lt_trans less (by decide))
    have notE0 : ¬ a < 0xE0 := fun less => high (UInt8.lt_trans less (by decide))
    have notF0 : ¬ a < 0xF0 := fun less => high (UInt8.lt_trans less (by decide))
    simp only [notAscii, notC2, notE0, notF0, high, ↓reduceIte, Except.error.injEq, exists_eq']

private theorem refused_at_second
    (wrong : (¬ a < 0xE0 ∧ a < 0xF0 ∧ isSecondOfThree a b = false) ∨
      (¬ a < 0xF0 ∧ a < 0xF5 ∧ isSecondOfFour a b = false)) :
    ∃ fault, decodeFrom position (a :: b :: rest) = .error fault := by
  have notE0 : ¬ a < 0xE0 := by
    rcases wrong with ⟨low, -, -⟩ | ⟨low, -, -⟩
    · exact low
    · exact fun less => low (UInt8.lt_trans less (by decide))
  have notAscii : ¬ a < 0x80 := fun ascii => notE0 (UInt8.lt_trans ascii (by decide))
  have notC2 : ¬ a < 0xC2 := fun less => notE0 (UInt8.lt_trans less (by decide))
  rw [decodeFrom.eq_def]
  rcases wrong with ⟨low, high, wrong⟩ | ⟨low, high, wrong⟩ <;>
    simp only [notAscii, notC2, notE0, low, high, wrong, ↓reduceIte, Bool.not_false,
      Except.error.injEq, exists_eq']

end

private theorem refused_two {code : Nat} (short : code < 0x80) (position : Nat) (rest : Bytes) :
    ∃ fault, decodeFrom position (twoBytes code ++ rest) = .error fault := by
  obtain ⟨a, lead⟩ := exists_byte (code / 64 + 0xC0) (by omega)
  rw [twoBytes, ofNat_eq lead]
  apply refused_at_first <;>
    simp only [UInt8.lt_iff_toNat_lt, UInt8.reduceToNat] <;> omega

private theorem refused_three {code : Nat}
    (wrong : code < 0x800 ∨ (0xD800 ≤ code ∧ code ≤ 0xDFFF)) (position : Nat) (rest : Bytes) :
    ∃ fault, decodeFrom position (threeBytes code ++ rest) = .error fault := by
  obtain ⟨a, lead⟩ := exists_byte (code / 4096 + 0xE0) (by omega)
  obtain ⟨b, second⟩ := exists_byte (code / 64 % 64 + 0x80) (by omega)
  rw [threeBytes, ofNat_eq lead, ofNat_eq second]
  refine refused_at_second _ _ (.inl ?_)
  simp only [UInt8.lt_iff_toNat_lt, UInt8.reduceToNat, Bool.eq_false_iff, ne_eq, isSecondOfThree,
    isSecondWithin_iff]
  omega

private theorem refused_four {code : Nat}
    (wrong : code < 0x10000 ∨ (0x10FFFF < code ∧ code < 0x200000)) (position : Nat)
    (rest : Bytes) : ∃ fault, decodeFrom position (fourBytes code ++ rest) = .error fault := by
  obtain ⟨a, lead⟩ := exists_byte (code / 262144 + 0xF0) (by omega)
  obtain ⟨b, second⟩ := exists_byte (code / 4096 % 64 + 0x80) (by omega)
  have low : ¬ a < 0xF0 := by
    simp only [UInt8.lt_iff_toNat_lt, UInt8.reduceToNat]
    omega
  rw [fourBytes, ofNat_eq lead, ofNat_eq second]
  by_cases high : a < 0xF5
  · refine refused_at_second _ _ (.inr ⟨low, high, ?_⟩)
    simp only [UInt8.lt_iff_toNat_lt, UInt8.reduceToNat] at high
    simp only [UInt8.reduceToNat, Bool.eq_false_iff, ne_eq, isSecondOfFour, isSecondWithin_iff]
    omega
  · exact refused_at_first _ _ (fun ascii => low (UInt8.lt_trans ascii (by decide))) (.inr high)

/-- An ill-formed sequence is refused whatever follows it. -/
theorem IllFormed.refused {form : Bytes} (ill : IllFormed form) (position : Nat) (rest : Bytes) :
    ∃ fault, decodeFrom position (form ++ rest) = .error fault := by
  cases ill with
  | overlongTwo short => exact refused_two short position rest
  | overlongThree short => exact refused_three (.inl short) position rest
  | overlongFour short => exact refused_four (.inl short) position rest
  | surrogate low high => exact refused_three (.inr ⟨low, high⟩) position rest
  | beyond high fits => exact refused_four (.inr ⟨high, fits⟩) position rest

/-- Bytes with an ill-formed sequence behind a text write no text. -/
theorem IllFormed.encode_ne {form : Bytes} (ill : IllFormed form) (before : Text) (rest : Bytes)
    (text : Text) : encode text ≠ encode before ++ (form ++ rest) := by
  intro same
  obtain ⟨fault, refused⟩ := ill.refused (0 + (encode before).length) rest
  have read := decode_eq_ok_iff.mpr same
  rw [decode, decodeFrom_encode_append, refused] at read
  cases read

end Utf8

/-! ## Uploads -/

theorem map_toNat_latin1 (bytes : Bytes) :
    (latin1 bytes).map Char.toNat = bytes.map UInt8.toNat := by
  rw [latin1, List.map_map]
  apply List.map_congr_left
  intro byte _
  exact toNat_ofNat_of_isValidChar (.inl (Nat.lt_trans byte.toNat_lt (by decide)))

/-- An upload loses no byte. Either its bytes are those of the text in UTF-8, or they are those of
no text, and the text has one character for each byte, with the number of the byte. The bytes of
texts are those that the table of well-formed sequences allows; overlong forms, surrogates and
numbers beyond all characters are refused wherever a character could begin. -/
theorem decodeUpload_lossless :
    (∀ bytes, Utf8.encode (decodeUpload bytes) = bytes ∨
      ((∀ text, Utf8.encode text ≠ bytes) ∧
        (decodeUpload bytes).map Char.toNat = bytes.map UInt8.toNat)) ∧
    (∀ text, decodeUpload (Utf8.encode text) = text) ∧
    (∀ bytes, (∃ text, Utf8.encode text = bytes) ↔ Utf8.WellFormed bytes) ∧
    ∀ form, Utf8.IllFormed form → ∀ before rest text,
      Utf8.encode text ≠ Utf8.encode before ++ (form ++ rest) := by
  refine ⟨fun bytes => ?_, fun text => ?_, fun bytes => Utf8.wellFormed_iff.symm,
    fun form ill => ill.encode_ne⟩
  · unfold decodeUpload
    cases read : Utf8.decode bytes with
    | ok text => exact .inl (Utf8.decode_eq_ok_iff.mp read)
    | error fault =>
      refine .inr ⟨fun text written => ?_, map_toNat_latin1 bytes⟩
      rw [Utf8.decode_eq_ok_iff.mpr written] at read
      cases read
  · rw [decodeUpload, Utf8.decode_encode]

/-- A null character in two bytes and a surrogate are refused, and read byte by byte. -/
theorem overlong_null_and_surrogate_refused :
    Utf8.IllFormed [0xC0, 0x80] ∧ Utf8.IllFormed [0xED, 0xA0, 0x80] ∧
    (∀ text, Utf8.encode text ≠ [0x41, 0xC0, 0x80]) ∧
    (∀ text, Utf8.encode text ≠ [0xED, 0xA0, 0x80]) ∧
    (decodeUpload [0x41, 0xC0, 0x80]).map Char.toNat = [0x41, 0xC0, 0x80] := by
  have overlong : Utf8.IllFormed [0xC0, 0x80] := @Utf8.IllFormed.overlongTwo 0 (by decide)
  have surrogate : Utf8.IllFormed [0xED, 0xA0, 0x80] :=
    @Utf8.IllFormed.surrogate 0xD800 (by decide) (by decide)
  obtain ⟨lossless, -, -, refused⟩ := decodeUpload_lossless
  have first : ∀ text, Utf8.encode text ≠ [0x41, 0xC0, 0x80] := refused _ overlong "A" []
  rcases lossless [0x41, 0xC0, 0x80] with written | ⟨-, numbers⟩
  · exact absurd written (first _)
  · exact ⟨overlong, surrogate, first, refused _ surrogate [] [], numbers⟩

end PseudoLint
