import Mathlib.Data.List.Induction
import RunnerFleet.Text.Utf8

/-!
# What octets read as

The octets of a string read as its characters.  A character has one to four octets; each form is
read by its own branch of the decoder, and none of the refused forms is ever written.
-/

namespace RunnerFleet.Text.Utf8

/-! ## The four forms -/

theorem isContinuation_iff {octet : UInt8} :
    isContinuation octet = true ↔ 0x80 ≤ octet.toNat ∧ octet.toNat < 0xC0 := by
  rw [isContinuation, Bool.and_eq_true, decide_eq_true_iff, decide_eq_true_iff,
    UInt8.le_iff_toNat_le, UInt8.lt_iff_toNat_lt]
  rfl

/-- A second octet may follow a first one if no shorter form, surrogate or number beyond the last
plane starts with them. -/
theorem mayFollow_of {first second : UInt8}
    (continues : 0x80 ≤ second.toNat ∧ second.toNat < 0xC0)
    (long : first.toNat = 0xE0 → 0xA0 ≤ second.toNat)
    (paired : first.toNat = 0xED → second.toNat < 0xA0)
    (longer : first.toNat = 0xF0 → 0x90 ≤ second.toNat)
    (last : first.toNat = 0xF4 → second.toNat < 0x90) :
    mayFollow first second = true := by
  rw [mayFollow]
  simp only [Bool.and_eq_true, Bool.or_eq_true, bne_iff_ne, ne_eq, decide_eq_true_iff,
    UInt8.le_iff_toNat_le, UInt8.lt_iff_toNat_lt, ← UInt8.toNat_inj, isContinuation_iff]
  refine ⟨⟨⟨⟨continues, ?_⟩, ?_⟩, ?_⟩, ?_⟩
  · exact or_iff_not_imp_left.mpr fun same => long (Classical.not_not.mp same)
  · exact or_iff_not_imp_left.mpr fun same => paired (Classical.not_not.mp same)
  · exact or_iff_not_imp_left.mpr fun same => longer (Classical.not_not.mp same)
  · exact or_iff_not_imp_left.mpr fun same => last (Classical.not_not.mp same)

variable {first second third fourth : UInt8} (position : Nat) (rest : List UInt8)

theorem decodeFrom_one (small : first.toNat < 0x80) :
    decodeFrom position (first :: rest) =
      (Char.ofNat first.toNat :: ·) <$> decodeFrom (position + 1) rest := by
  have ascii : first < 0x80 := UInt8.lt_iff_toNat_lt.mpr small
  rw [decodeFrom.eq_def]
  exact if_pos ascii

/-- An octet that starts a form of more than one octet is no character by itself, and not
refused. -/
theorem opens_of_range (range : 0xC2 ≤ first.toNat ∧ first.toNat < 0xF5) :
    ¬ first < 0x80 ∧ (first < 0xC2 || 0xF5 ≤ first) = false := by
  have bounds :
      (0x80 : UInt8).toNat = 0x80 ∧
        (0xC2 : UInt8).toNat = 0xC2 ∧ (0xF5 : UInt8).toNat = 0xF5 :=
    ⟨rfl, rfl, rfl⟩
  rw [Bool.or_eq_false_iff, decide_eq_false_iff_not, decide_eq_false_iff_not,
    UInt8.lt_iff_toNat_lt, UInt8.lt_iff_toNat_lt, UInt8.le_iff_toNat_le]
  omega

theorem decodeFrom_two
    (range : 0xC2 ≤ first.toNat ∧ first.toNat < 0xE0)
    (continues : 0x80 ≤ second.toNat ∧ second.toNat < 0xC0) :
    decodeFrom position (first :: second :: rest) =
      (Char.ofNat (first.toNat % 32 * 64 + second.toNat % 64) :: ·)
        <$> decodeFrom (position + 2) rest := by
  rcases @opens_of_range first ⟨range.1, by omega⟩ with ⟨beyond, leading⟩
  have form : first < 0xE0 := UInt8.lt_iff_toNat_lt.mpr range.2
  rw [decodeFrom.eq_def]
  dsimp only
  rw [if_neg beyond, leading, if_neg Bool.false_ne_true, if_pos form,
    if_pos (isContinuation_iff.mpr continues)]
  rfl

theorem decodeFrom_three
    (range : 0xE0 ≤ first.toNat ∧ first.toNat < 0xF0)
    (follows : mayFollow first second = true)
    (continues : 0x80 ≤ third.toNat ∧ third.toNat < 0xC0) :
    decodeFrom position (first :: second :: third :: rest) =
      (Char.ofNat (first.toNat % 16 * 4096 + second.toNat % 64 * 64 + third.toNat % 64) :: ·)
        <$> decodeFrom (position + 3) rest := by
  rcases @opens_of_range first ⟨by omega, by omega⟩ with ⟨beyond, leading⟩
  have longer : ¬ first < 0xE0 := by
    have bound : (0xE0 : UInt8).toNat = 0xE0 := rfl
    rw [UInt8.lt_iff_toNat_lt]
    omega
  have form : first < 0xF0 := UInt8.lt_iff_toNat_lt.mpr range.2
  rw [decodeFrom.eq_def]
  dsimp only
  rw [if_neg beyond, leading, if_neg Bool.false_ne_true, if_neg longer, if_pos form, follows,
    isContinuation_iff.mpr continues]
  rfl

theorem decodeFrom_four
    (range : 0xF0 ≤ first.toNat ∧ first.toNat < 0xF5)
    (follows : mayFollow first second = true)
    (continues : 0x80 ≤ third.toNat ∧ third.toNat < 0xC0)
    (ends : 0x80 ≤ fourth.toNat ∧ fourth.toNat < 0xC0) :
    decodeFrom position (first :: second :: third :: fourth :: rest) =
      (Char.ofNat
          (first.toNat % 8 * 262144 + second.toNat % 64 * 4096 + third.toNat % 64 * 64
            + fourth.toNat % 64) :: ·)
        <$> decodeFrom (position + 4) rest := by
  rcases @opens_of_range first ⟨by omega, range.2⟩ with ⟨beyond, leading⟩
  have longer : ¬ first < 0xE0 ∧ ¬ first < 0xF0 := by
    have bounds : (0xE0 : UInt8).toNat = 0xE0 ∧ (0xF0 : UInt8).toNat = 0xF0 := ⟨rfl, rfl⟩
    rw [UInt8.lt_iff_toNat_lt, UInt8.lt_iff_toNat_lt]
    omega
  rw [decodeFrom.eq_def]
  dsimp only
  rw [if_neg beyond, leading, if_neg Bool.false_ne_true, if_neg longer.1, if_neg longer.2,
    follows, isContinuation_iff.mpr continues, isContinuation_iff.mpr ends]
  rfl

/-! ## Characters and strings -/

theorem toNat_octet {number : Nat} (small : number < 256) :
    (UInt8.ofNat number).toNat = number := by
  rw [UInt8.toNat_ofNat', Nat.mod_eq_of_lt small]

/-- The octets of a character read as that character. -/
theorem decodeFrom_char (char : Char) :
    ∃ size,
      decodeFrom position (String.utf8EncodeChar char ++ rest) =
        (char :: ·) <$> decodeFrom (position + size) rest := by
  have range : char.toNat < 0xD800 ∨ 0xDFFF < char.toNat ∧ char.toNat < 0x110000 := char.valid
  have number : char.val.toNat = char.toNat := rfl
  have same {other : Nat} (equal : other = char.toNat) : Char.ofNat other = char := by
    rw [equal, Char.ofNat_toNat]
  rw [String.utf8EncodeChar.eq_def, number]
  dsimp only
  generalize code : char.toNat = point at range same
  split
  next ascii =>
    have first := @toNat_octet point (by omega)
    refine ⟨1, ?_⟩
    rw [List.singleton_append, decodeFrom_one position rest (by omega), first, same rfl]
  · split
    next two =>
      have first := @toNat_octet (point / 64 % 32 + 192) (by omega)
      have second := @toNat_octet (point % 64 + 128) (by omega)
      refine ⟨2, ?_⟩
      rw [List.cons_append, List.singleton_append,
        decodeFrom_two position rest (by omega) (by omega), first, second, same (by omega)]
    · split
      next three =>
        have first := @toNat_octet (point / 4096 % 16 + 224) (by omega)
        have second := @toNat_octet (point / 64 % 64 + 128) (by omega)
        have third := @toNat_octet (point % 64 + 128) (by omega)
        have follows :=
          @mayFollow_of (UInt8.ofNat (point / 4096 % 16 + 224))
            (UInt8.ofNat (point / 64 % 64 + 128)) (by omega) (by omega) (by omega) (by omega)
            (by omega)
        refine ⟨3, ?_⟩
        rw [List.cons_append, List.cons_append, List.singleton_append,
          decodeFrom_three position rest (by omega) follows (by omega), first, second, third,
          same (by omega)]
      next four =>
        have first := @toNat_octet (point / 262144 % 8 + 240) (by omega)
        have second := @toNat_octet (point / 4096 % 64 + 128) (by omega)
        have third := @toNat_octet (point / 64 % 64 + 128) (by omega)
        have fourth := @toNat_octet (point % 64 + 128) (by omega)
        have follows :=
          @mayFollow_of (UInt8.ofNat (point / 262144 % 8 + 240))
            (UInt8.ofNat (point / 4096 % 64 + 128)) (by omega) (by omega) (by omega) (by omega)
            (by omega)
        refine ⟨4, ?_⟩
        rw [List.cons_append, List.cons_append, List.cons_append, List.singleton_append,
          decodeFrom_four position rest (by omega) follows (by omega) (by omega), first, second,
          third, fourth, same (by omega)]

theorem decodeFrom_chars (chars : List Char) (position : Nat) :
    decodeFrom position (chars.flatMap String.utf8EncodeChar) = .ok chars := by
  induction chars generalizing position with
  | nil => rw [List.flatMap_nil, decodeFrom.eq_def]
  | cons char others ih =>
    rcases decodeFrom_char position (others.flatMap String.utf8EncodeChar) char with
      ⟨size, reads⟩
    rw [List.flatMap_cons, reads, ih]
    rfl

theorem toList_eq_toList_data (octets : ByteArray) : octets.toList = octets.data.toList := by
  have loop (position : Nat) (read : List UInt8) :
      ByteArray.toList.loop octets position read =
        read.reverse ++ octets.data.toList.drop position := by
    fun_induction ByteArray.toList.loop octets position read with
    | case1 position read inside ih =>
      have member : position < octets.data.toList.length := inside
      have octet : octets.get! position = octets.data.toList[position] := by
        rw [ByteArray.get!, Array.getElem_toList, getElem!_pos octets.data position inside]
      rw [ih, List.reverse_cons, List.append_assoc, octet, List.singleton_append,
        ← List.drop_eq_getElem_cons member]
    | case2 position read outside =>
      have none : octets.data.toList.drop position = [] :=
        List.drop_eq_nil_of_le (Nat.le_of_not_lt outside)
      rw [none, List.append_nil]
  exact loop 0 []

/-- The octets of a string read as its characters. -/
theorem decode_encode (content : String) : decode (encode content) = .ok content.toList := by
  have octets : content.toUTF8 = (content.toList.flatMap String.utf8EncodeChar).toByteArray := by
    rw [String.toUTF8_eq_toByteArray, ← String.utf8Encode_toList]
    rfl
  rw [decode, encode, octets, toList_eq_toList_data, List.toList_data_toByteArray]
  exact decodeFrom_chars content.toList 0

end RunnerFleet.Text.Utf8
