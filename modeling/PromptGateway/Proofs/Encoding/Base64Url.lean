import PromptGateway.Proofs.Encoding.Utf8
import PromptGateway.Proofs.Text.Blank
import PromptGateway.Encoding.Base64Url

/-! # Base 64 and back

The text for some bytes holds only letters of the alphabet, none of them blank, and is decoded to
these bytes.
-/

namespace PromptGateway.Base64Url

def letter (n : Nat) : UInt8 := (symbol n).toNat.toUInt8

theorem symbol_spec : ∀ n < 64, Utf8.encodeChar (symbol n) = [letter n] ∧
    value? (letter n) = some n ∧ letter n ≠ pad ∧ Text.isBlank (symbol n) = false := by
  decide

variable {n : Nat} (offset : Nat)

theorem encodeChar_symbol (h : n < 64) : Utf8.encodeChar (symbol n) = [letter n] :=
  (symbol_spec n h).1

theorem value?_letter (h : n < 64) : value? (letter n) = some n := (symbol_spec n h).2.1

theorem letter_ne_pad (h : n < 64) : letter n ≠ pad := (symbol_spec n h).2.2.1

theorem valueAt_letter (h : n < 64) : valueAt offset (letter n) = .ok n := by
  rw [valueAt, value?_letter h]

theorem lastValues_letter (h : n < 64) (index : Nat) (rest : List UInt8) :
    lastValues offset index none (letter n :: rest) =
      (lastValues offset (index + 1) none rest).map fun (vs, padded) => (n :: vs, padded) := by
  rw [lastValues, if_neg (letter_ne_pad h)]
  simp only [valueAt_letter _ h, bind, Except.bind]
  cases lastValues offset (index + 1) none rest <;> rfl

/-- The text for some bytes consists of symbols for numbers below 64. -/
theorem exists_symbol {bytes : List UInt8} {c : Char} (hc : c ∈ encodeChars bytes) :
    ∃ n < 64, c = symbol n := by
  induction bytes using encodeChars.induct with
  | case1 => cases hc
  | case2 a =>
    have ha := a.toNat_lt
    simp only [encodeChars, List.mem_cons, List.not_mem_nil, or_false] at hc
    rcases hc with rfl | rfl <;> exact ⟨_, by omega, rfl⟩
  | case3 a b =>
    have ha := a.toNat_lt
    have hb := b.toNat_lt
    simp only [encodeChars, List.mem_cons, List.not_mem_nil, or_false] at hc
    rcases hc with rfl | rfl | rfl <;> exact ⟨_, by omega, rfl⟩
  | case4 a b c rest ih =>
    have ha := a.toNat_lt
    have hb := b.toNat_lt
    have hc' := c.toNat_lt
    simp only [encodeChars, List.mem_cons] at hc
    rcases hc with rfl | rfl | rfl | rfl | hc
    · exact ⟨_, by omega, rfl⟩
    · exact ⟨_, by omega, rfl⟩
    · exact ⟨_, by omega, rfl⟩
    · exact ⟨_, by omega, rfl⟩
    · exact ih hc

theorem trim_encode (bytes : List UInt8) : Text.trim (encode bytes) = encode bytes := by
  refine Text.trim_eq_self fun c hc => ?_
  rw [encode, String.toList_ofList] at hc
  obtain ⟨n, hn, rfl⟩ := exists_symbol hc
  exact (symbol_spec n hn).2.2.2

def letters (bytes : List UInt8) : List UInt8 := Utf8.encodeChars (encodeChars bytes)

theorem letters_one (a : UInt8) :
    letters [a] = [letter (a.toNat / 4), letter (a.toNat % 4 * 16)] := by
  have ha := a.toNat_lt
  simp [letters, encodeChars, Utf8.encodeChars, encodeChar_symbol, show a.toNat / 4 < 64 by omega,
    show a.toNat % 4 * 16 < 64 by omega]

theorem letters_two (a b : UInt8) :
    letters [a, b] = [letter (a.toNat / 4), letter (a.toNat % 4 * 16 + b.toNat / 16),
      letter (b.toNat % 16 * 4)] := by
  have ha := a.toNat_lt
  have hb := b.toNat_lt
  simp [letters, encodeChars, Utf8.encodeChars, encodeChar_symbol, show a.toNat / 4 < 64 by omega,
    show a.toNat % 4 * 16 + b.toNat / 16 < 64 by omega, show b.toNat % 16 * 4 < 64 by omega]

theorem letters_group (a b c : UInt8) (rest : List UInt8) :
    letters (a :: b :: c :: rest) = letter (a.toNat / 4) ::
      letter (a.toNat % 4 * 16 + b.toNat / 16) :: letter (b.toNat % 16 * 4 + c.toNat / 64) ::
      letter (c.toNat % 64) :: letters rest := by
  have ha := a.toNat_lt
  have hb := b.toNat_lt
  have hc := c.toNat_lt
  simp [letters, encodeChars, Utf8.encodeChars, encodeChar_symbol, show a.toNat / 4 < 64 by omega,
    show a.toNat % 4 * 16 + b.toNat / 16 < 64 by omega,
    show b.toNat % 16 * 4 + c.toNat / 64 < 64 by omega, show c.toNat % 64 < 64 by omega]

section Last

variable {v w x y : Nat}

theorem decodeLast_two (hv : v < 64) (hw : w < 64) (hz : w % 16 = 0) :
    decodeLast offset [letter v, letter w] = .ok [(v * 4 + w / 16).toUInt8] := by
  rw [decodeLast, lastValues_letter _ hv, lastValues_letter _ hw]
  simp [lastValues, Except.map, bind, Except.bind, pure, Except.pure, hz]

theorem decodeLast_three (hv : v < 64) (hw : w < 64) (hx : x < 64) (hz : x % 4 = 0) :
    decodeLast offset [letter v, letter w, letter x] =
      .ok [(v * 4 + w / 16).toUInt8, (w % 16 * 16 + x / 4).toUInt8] := by
  rw [decodeLast, lastValues_letter _ hv, lastValues_letter _ hw, lastValues_letter _ hx]
  simp [lastValues, Except.map, bind, Except.bind, pure, Except.pure, hz]

theorem decodeLast_four (hv : v < 64) (hw : w < 64) (hx : x < 64) (hy : y < 64) :
    decodeLast offset [letter v, letter w, letter x, letter y] = .ok (group v w x y) := by
  rw [decodeLast, lastValues_letter _ hv, lastValues_letter _ hw, lastValues_letter _ hx,
    lastValues_letter _ hy]
  simp [lastValues, Except.map, bind, Except.bind, pure, Except.pure]

end Last

theorem group_eq (a b c : UInt8) :
    group (a.toNat / 4) (a.toNat % 4 * 16 + b.toNat / 16) (b.toNat % 16 * 4 + c.toNat / 64)
      (c.toNat % 64) = [a, b, c] := by
  have hb := b.toNat_lt
  have hc := c.toNat_lt
  rw [group, Utf8.toUInt8_eq (b := a) (by omega), Utf8.toUInt8_eq (b := b) (by omega),
    Utf8.toUInt8_eq (b := c) (by omega)]

theorem decodeFrom_group (a b c : UInt8) (rest : List UInt8) :
    decodeFrom offset (letters (a :: b :: c :: rest)) =
      (decodeFrom (offset + 4) (letters rest)).map (a :: b :: c :: ·) := by
  have ha := a.toNat_lt
  have hb := b.toNat_lt
  have hc := c.toNat_lt
  have hv : a.toNat / 4 < 64 := by omega
  have hw : a.toNat % 4 * 16 + b.toNat / 16 < 64 := by omega
  have hx : b.toNat % 16 * 4 + c.toNat / 64 < 64 := by omega
  have hy : c.toNat % 64 < 64 := by omega
  rw [letters_group]
  cases hl : letters rest with
  | nil =>
    exact (decodeLast_four offset hv hw hx hy).trans (congrArg Except.ok (group_eq a b c))
  | cons d rest =>
    simp only [decodeFrom, valueAt_letter _ hv, valueAt_letter _ hw, valueAt_letter _ hx,
      valueAt_letter _ hy, group_eq, bind, Except.bind]
    cases decodeFrom (offset + 4) (d :: rest) <;> rfl

theorem decodeFrom_letters (bytes : List UInt8) :
    decodeFrom offset (letters bytes) = .ok bytes := by
  induction bytes using encodeChars.induct generalizing offset with
  | case1 => rfl
  | case2 a =>
    have ha := a.toNat_lt
    rw [letters_one]
    refine (decodeLast_two offset (by omega) (by omega) (by omega)).trans ?_
    rw [Utf8.toUInt8_eq (b := a) (by omega)]
  | case3 a b =>
    have ha := a.toNat_lt
    have hb := b.toNat_lt
    rw [letters_two]
    refine (decodeLast_three offset (by omega) (by omega) (by omega) (by omega)).trans ?_
    rw [Utf8.toUInt8_eq (b := a) (by omega), Utf8.toUInt8_eq (b := b) (by omega)]
  | case4 a b c rest ih =>
    rw [decodeFrom_group, ih]
    rfl

theorem stray?_letters (bytes : List UInt8) : stray? (letters bytes) = none := by
  unfold stray?
  split
  · rename_i b hb
    rw [if_neg]
    rintro ⟨_, _, hn⟩
    obtain ⟨c, hc, hbc⟩ := List.mem_flatMap.mp (List.mem_of_getLast? hb)
    obtain ⟨n, hlt, rfl⟩ := exists_symbol hc
    rw [encodeChar_symbol hlt, List.mem_singleton] at hbc
    rw [hbc, value?_letter hlt] at hn
    cases hn
  · rfl

/-- The text for some bytes is decoded to these bytes. -/
theorem decode_encode (bytes : List UInt8) : decode (Utf8.encode (encode bytes)) = .ok bytes := by
  rw [Utf8.encode, encode, String.toList_ofList, ← letters, decode, stray?_letters]
  exact decodeFrom_letters 0 bytes

end PromptGateway.Base64Url
