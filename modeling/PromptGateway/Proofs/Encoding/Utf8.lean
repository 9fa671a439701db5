import Mathlib.Data.Nat.Basic
import PromptGateway.Encoding.Utf8

/-! # UTF-8 and back

The bytes of a character are read as that character, whatever follows them, so the symbols of an
encoded text are its characters. Nothing else is read as a character: bytes whose symbols are the
characters of a text are the bytes of this text.
-/

namespace PromptGateway.Utf8

theorem toNat_toUInt8 {n : Nat} (h : n < 256) : n.toUInt8.toNat = n := by
  rw [Nat.toUInt8, UInt8.toNat_ofNat']
  exact Nat.mod_eq_of_lt h

theorem toUInt8_eq {n : Nat} {b : UInt8} (h : n = b.toNat) : n.toUInt8 = b := by
  rw [h]
  exact UInt8.ofNat_toNat

theorem isTail_eq_true_iff {b : UInt8} : isTail b = true ↔ 0x80 ≤ b.toNat ∧ b.toNat ≤ 0xBF := by
  simp [isTail, UInt8.le_iff_toNat_le]

theorem le_and_le_of_isTail {b p q x lo hi : UInt8} (hx : isTail x = true)
    (hlo : b.toNat = p.toNat → lo.toNat ≤ x.toNat) (hhi : b.toNat = q.toNat → x.toNat ≤ hi.toNat) :
    ((if b == p then lo else 0x80) ≤ x && x ≤ (if b == q then hi else 0xBF)) = true := by
  obtain ⟨hx, hx'⟩ := isTail_eq_true_iff.mp hx
  simp only [beq_iff_eq, ← UInt8.toNat_inj, UInt8.le_iff_toNat_le, Bool.and_eq_true,
    decide_eq_true_eq]
  constructor
  · split
    · exact hlo ‹_›
    · exact hx
  · split
    · exact hhi ‹_›
    · exact hx'

section Front

variable {b x y z : UInt8} (rest : List UInt8)

theorem front_one (hb : b.toNat < 0x80) : front b rest = .char (Char.ofNat b.toNat) 1 := by
  have h : b < 0x80 := UInt8.lt_iff_toNat_lt.mpr hb
  simp only [front, h, if_true]

theorem front_two (hb : 0xC2 ≤ b.toNat) (hb' : b.toNat < 0xE0) (hx : isTail x = true) :
    front b (x :: rest) = .char (Char.ofNat (b.toNat % 0x20 * 0x40 + x.toNat % 0x40)) 2 := by
  have h1 : ¬ b < 0x80 := by simp [UInt8.lt_iff_toNat_lt]; omega
  have h2 : ¬ b < 0xC2 := by simpa [UInt8.lt_iff_toNat_lt] using hb
  have h3 : b < 0xE0 := UInt8.lt_iff_toNat_lt.mpr hb'
  simp only [front, h1, h2, h3, hx, if_true, if_false]

theorem front_three (hb : 0xE0 ≤ b.toNat) (hb' : b.toNat < 0xF0) (hx : isTail x = true)
    (hy : isTail y = true) (hlo : b.toNat = 0xE0 → 0xA0 ≤ x.toNat)
    (hhi : b.toNat = 0xED → x.toNat ≤ 0x9F) :
    front b (x :: y :: rest) =
      .char (Char.ofNat (b.toNat % 0x10 * 0x1000 + x.toNat % 0x40 * 0x40 + y.toNat % 0x40)) 3 := by
  have h1 : ¬ b < 0x80 := by simp [UInt8.lt_iff_toNat_lt]; omega
  have h2 : ¬ b < 0xC2 := by simp [UInt8.lt_iff_toNat_lt]; omega
  have h3 : ¬ b < 0xE0 := by simpa [UInt8.lt_iff_toNat_lt] using hb
  have h4 : b < 0xF0 := UInt8.lt_iff_toNat_lt.mpr hb'
  have hr : ((if b == 0xE0 then (0xA0 : UInt8) else 0x80) ≤ x &&
      x ≤ (if b == 0xED then (0x9F : UInt8) else 0xBF)) = true := le_and_le_of_isTail hx hlo hhi
  simp only [front, h1, h2, h3, h4, hr, hy, if_true, if_false]

theorem front_four (hb : 0xF0 ≤ b.toNat) (hb' : b.toNat < 0xF5) (hx : isTail x = true)
    (hy : isTail y = true) (hz : isTail z = true) (hlo : b.toNat = 0xF0 → 0x90 ≤ x.toNat)
    (hhi : b.toNat = 0xF4 → x.toNat ≤ 0x8F) :
    front b (x :: y :: z :: rest) =
      .char (Char.ofNat (b.toNat % 8 * 0x40000 + x.toNat % 0x40 * 0x1000 + y.toNat % 0x40 * 0x40 +
        z.toNat % 0x40)) 4 := by
  have h1 : ¬ b < 0x80 := by simp [UInt8.lt_iff_toNat_lt]; omega
  have h2 : ¬ b < 0xC2 := by simp [UInt8.lt_iff_toNat_lt]; omega
  have h3 : ¬ b < 0xE0 := by simp [UInt8.lt_iff_toNat_lt]; omega
  have h4 : ¬ b < 0xF0 := by simpa [UInt8.lt_iff_toNat_lt] using hb
  have h5 : b < 0xF5 := UInt8.lt_iff_toNat_lt.mpr hb'
  have hr : ((if b == 0xF0 then (0x90 : UInt8) else 0x80) ≤ x &&
      x ≤ (if b == 0xF4 then (0x8F : UInt8) else 0xBF)) = true := le_and_le_of_isTail hx hlo hhi
  simp only [front, h1, h2, h3, h4, h5, hr, hy, hz, if_true, if_false]

end Front

theorem isTail_toUInt8 {n : Nat} (h : n < 0x40) : isTail (0x80 + n).toUInt8 = true := by
  rw [isTail_eq_true_iff, toNat_toUInt8 (by omega)]
  omega

/-- The bytes of a character are read as this character. -/
theorem front_encodeChar (c : Char) (rest : List UInt8) :
    ∃ b tail, encodeChar c = b :: tail ∧ front b (tail ++ rest) = .char c (tail.length + 1) := by
  have hv : c.toNat < 0xD800 ∨ 0xDFFF < c.toNat ∧ c.toNat < 0x110000 := c.valid
  unfold encodeChar
  generalize hn : c.toNat = n at hv
  have hc : Char.ofNat n = c := by rw [← hn, Char.ofNat_toNat]
  dsimp only
  split
  · refine ⟨_, _, rfl, ?_⟩
    rw [front_one _ (by rw [toNat_toUInt8] <;> omega), toNat_toUInt8 (by omega), hc]
    rfl
  split
  · refine ⟨_, _, rfl, ?_⟩
    have hb := toNat_toUInt8 (n := 0xC0 + n / 0x40) (by omega)
    have hx := toNat_toUInt8 (n := 0x80 + n % 0x40) (by omega)
    rw [List.singleton_append, front_two _ (by omega) (by omega) (isTail_toUInt8 (by omega)), hb,
      hx]
    rw [show (0xC0 + n / 0x40) % 0x20 * 0x40 + (0x80 + n % 0x40) % 0x40 = n by omega, hc]
    rfl
  split
  · refine ⟨_, _, rfl, ?_⟩
    have hb := toNat_toUInt8 (n := 0xE0 + n / 0x1000) (by omega)
    have hx := toNat_toUInt8 (n := 0x80 + n / 0x40 % 0x40) (by omega)
    have hy := toNat_toUInt8 (n := 0x80 + n % 0x40) (by omega)
    rw [List.cons_append, List.singleton_append, front_three _ (by omega) (by omega)
      (isTail_toUInt8 (by omega)) (isTail_toUInt8 (by omega)) (by omega) (by omega), hb, hx, hy]
    rw [show (0xE0 + n / 0x1000) % 0x10 * 0x1000 + (0x80 + n / 0x40 % 0x40) % 0x40 * 0x40 +
      (0x80 + n % 0x40) % 0x40 = n by omega, hc]
    rfl
  · refine ⟨_, _, rfl, ?_⟩
    have hb := toNat_toUInt8 (n := 0xF0 + n / 0x40000) (by omega)
    have hx := toNat_toUInt8 (n := 0x80 + n / 0x1000 % 0x40) (by omega)
    have hy := toNat_toUInt8 (n := 0x80 + n / 0x40 % 0x40) (by omega)
    have hz := toNat_toUInt8 (n := 0x80 + n % 0x40) (by omega)
    rw [List.cons_append, List.cons_append, List.singleton_append, front_four _ (by omega)
      (by omega) (isTail_toUInt8 (by omega)) (isTail_toUInt8 (by omega))
      (isTail_toUInt8 (by omega)) (by omega) (by omega), hb, hx, hy, hz]
    rw [show (0xF0 + n / 0x40000) % 8 * 0x40000 + (0x80 + n / 0x1000 % 0x40) % 0x40 * 0x1000 +
      (0x80 + n / 0x40 % 0x40) % 0x40 * 0x40 + (0x80 + n % 0x40) % 0x40 = n by omega, hc]
    rfl

theorem symbolsFrom_skip (skipped : List UInt8) (read : List Symbol) (rest : List UInt8) :
    symbolsFrom skipped.length read (skipped ++ rest) = symbolsFrom 0 read rest := by
  induction skipped with
  | nil => rfl
  | cons b skipped ih => exact ih

theorem symbolsFrom_encodeChars (cs : List Char) (read : List Symbol) (rest : List UInt8) :
    symbolsFrom 0 read (encodeChars cs ++ rest) =
      symbolsFrom 0 ((cs.map .char).reverse ++ read) rest := by
  induction cs generalizing read with
  | nil => rfl
  | cons c cs ih =>
    obtain ⟨b, tail, he, hf⟩ := front_encodeChar c (encodeChars cs ++ rest)
    rw [encodeChars, List.flatMap_cons, he, ← encodeChars, List.append_assoc, List.cons_append,
      symbolsFrom, hf]
    dsimp only
    rw [Nat.add_sub_cancel, symbolsFrom_skip, ih]
    simp

/-- The symbols of an encoded text are its characters. -/
@[simp] theorem symbols_encodeChars (cs : List Char) : symbols (encodeChars cs) = cs.map .char := by
  have h := symbolsFrom_encodeChars cs [] []
  rw [List.append_nil, List.append_nil] at h
  rw [symbols, h]
  simp [symbolsFrom]

theorem lossyFrom_skip (skipped : List UInt8) (read : List Char) (rest : List UInt8) :
    lossyFrom skipped.length read (skipped ++ rest) = lossyFrom 0 read rest := by
  induction skipped with
  | nil => rfl
  | cons b skipped ih => exact ih

theorem lossyFrom_encodeChars (cs read : List Char) :
    lossyFrom 0 read (encodeChars cs) = read.reverse ++ cs := by
  induction cs generalizing read with
  | nil => simp [encodeChars, lossyFrom]
  | cons c cs ih =>
    obtain ⟨b, tail, he, hf⟩ := front_encodeChar c (encodeChars cs)
    rw [encodeChars, List.flatMap_cons, he, ← encodeChars, List.cons_append, lossyFrom, hf]
    dsimp only
    rw [Nat.add_sub_cancel, lossyFrom_skip, ih]
    simp

/-- An encoded text is read as itself. -/
@[simp] theorem decodeLossy_encodeChars (cs : List Char) :
    decodeLossy (encodeChars cs) = String.ofList cs := by
  rw [decodeLossy, lossyFrom_encodeChars]
  rfl

theorem charsFrom_skip (skipped : List UInt8) (read : List Char) (rest : List UInt8) :
    charsFrom skipped.length read (skipped ++ rest) = charsFrom 0 read rest := by
  induction skipped with
  | nil => rfl
  | cons b skipped ih => exact ih

theorem charsFrom_encodeChars (cs read : List Char) :
    charsFrom 0 read (encodeChars cs) = some (read.reverse ++ cs) := by
  induction cs generalizing read with
  | nil => simp [encodeChars, charsFrom]
  | cons c cs ih =>
    obtain ⟨b, tail, he, hf⟩ := front_encodeChar c (encodeChars cs)
    rw [encodeChars, List.flatMap_cons, he, ← encodeChars, List.cons_append, charsFrom, hf]
    dsimp only
    rw [Nat.add_sub_cancel, charsFrom_skip, ih]
    simp

/-- The bytes of a text are well formed. -/
@[simp] theorem decode?_encode (s : String) : decode? (encode s) = some s := by
  rw [decode?, encode, charsFrom_encodeChars]
  simp

/-- A text has no more characters than bytes. -/
theorem length_le_encodeChars (cs : List Char) : cs.length ≤ (encodeChars cs).length := by
  induction cs with
  | nil => exact Nat.zero_le _
  | cons c cs ih =>
    obtain ⟨b, tail, he, -⟩ := front_encodeChar c []
    rw [encodeChars, List.flatMap_cons, he, ← encodeChars]
    simp only [List.length_append, List.length_cons]
    omega

theorem encodeChar_ascii {c : Char} (h : c.toNat < 0x80) : encodeChar c = [c.toNat.toUInt8] :=
  if_pos h

/-! ## Only what is encoded is read -/

theorem toNat_ofNat {n : Nat} (h : n < 0xD800 ∨ 0xDFFF < n ∧ n < 0x110000) :
    (Char.ofNat n).toNat = n := by
  have hv : n.isValidChar := h
  rw [Char.ofNat, dif_pos hv]
  rfl

section Front
variable {b x y z : UInt8}

theorem encodeChar_one (hb : b.toNat < 0x80) : encodeChar (Char.ofNat b.toNat) = [b] := by
  have hc := toNat_ofNat (n := b.toNat) (by omega)
  rw [encodeChar, hc, if_pos hb]
  exact congrArg (· :: []) UInt8.ofNat_toNat

theorem encodeChar_two (hb : 0xC2 ≤ b.toNat) (hb' : b.toNat < 0xE0) (hx : isTail x = true) :
    encodeChar (Char.ofNat (b.toNat % 0x20 * 0x40 + x.toNat % 0x40)) = [b, x] := by
  obtain ⟨hx, hx'⟩ := isTail_eq_true_iff.mp hx
  have hc := toNat_ofNat (n := b.toNat % 0x20 * 0x40 + x.toNat % 0x40) (by omega)
  rw [encodeChar, hc, if_neg (by omega), if_pos (by omega), toUInt8_eq (b := b) (by omega),
    toUInt8_eq (b := x) (by omega)]

theorem encodeChar_three (hb : 0xE0 ≤ b.toNat) (hb' : b.toNat < 0xF0) (hx : 0x80 ≤ x.toNat)
    (hx' : x.toNat ≤ 0xBF)
    (hy : isTail y = true) (hlo : b.toNat = 0xE0 → 0xA0 ≤ x.toNat)
    (hhi : b.toNat = 0xED → x.toNat ≤ 0x9F) :
    encodeChar (Char.ofNat (b.toNat % 0x10 * 0x1000 + x.toNat % 0x40 * 0x40 + y.toNat % 0x40)) =
      [b, x, y] := by
  obtain ⟨hy, hy'⟩ := isTail_eq_true_iff.mp hy
  have hc := toNat_ofNat
    (n := b.toNat % 0x10 * 0x1000 + x.toNat % 0x40 * 0x40 + y.toNat % 0x40) (by omega)
  rw [encodeChar, hc, if_neg (by omega), if_neg (by omega), if_pos (by omega),
    toUInt8_eq (b := b) (by omega), toUInt8_eq (b := x) (by omega),
    toUInt8_eq (b := y) (by omega)]

theorem encodeChar_four (hb : 0xF0 ≤ b.toNat) (hb' : b.toNat < 0xF5) (hx : 0x80 ≤ x.toNat)
    (hx' : x.toNat ≤ 0xBF)
    (hy : isTail y = true) (hz : isTail z = true) (hlo : b.toNat = 0xF0 → 0x90 ≤ x.toNat)
    (hhi : b.toNat = 0xF4 → x.toNat ≤ 0x8F) :
    encodeChar (Char.ofNat (b.toNat % 8 * 0x40000 + x.toNat % 0x40 * 0x1000 +
      y.toNat % 0x40 * 0x40 + z.toNat % 0x40)) = [b, x, y, z] := by
  obtain ⟨hy, hy'⟩ := isTail_eq_true_iff.mp hy
  obtain ⟨hz, hz'⟩ := isTail_eq_true_iff.mp hz
  have hc := toNat_ofNat (n := b.toNat % 8 * 0x40000 + x.toNat % 0x40 * 0x1000 +
      y.toNat % 0x40 * 0x40 + z.toNat % 0x40) (by omega)
  rw [encodeChar, hc, if_neg (by omega), if_neg (by omega), if_neg (by omega),
    toUInt8_eq (b := b) (by omega), toUInt8_eq (b := x) (by omega),
    toUInt8_eq (b := y) (by omega), toUInt8_eq (b := z) (by omega)]

/-- The second byte of a character is a tail byte within narrower bounds behind some first bytes. -/
theorem bounds_of_second {p q lo hi : UInt8} (hlo : 0x80 ≤ lo.toNat) (hhi : hi.toNat ≤ 0xBF)
    (h : ((if b == p then lo else 0x80) ≤ x && x ≤ (if b == q then hi else 0xBF)) = true) :
    (0x80 ≤ x.toNat ∧ x.toNat ≤ 0xBF) ∧ (b.toNat = p.toNat → lo.toNat ≤ x.toNat) ∧
      (b.toNat = q.toNat → x.toNat ≤ hi.toNat) := by
  simp only [beq_iff_eq, ← UInt8.toNat_inj, UInt8.le_iff_toNat_le, Bool.and_eq_true,
    decide_eq_true_eq] at h
  obtain ⟨h1, h2⟩ := h
  have h80 : (0x80 : UInt8).toNat = 0x80 := rfl
  have hBF : (0xBF : UInt8).toNat = 0xBF := rfl
  split at h1 <;> split at h2 <;> omega

end Front

/-- Only the bytes of a character are read as this character. -/
theorem encodeChar_of_front {b : UInt8} {rest : List UInt8} {c : Char} {size : Nat}
    (h : front b rest = .char c size) :
    ∃ tail after, rest = tail ++ after ∧ encodeChar c = b :: tail ∧ size = tail.length + 1 := by
  have broken {k : Bool} {m n : Nat} (h : (if k then Front.broken m else .broken n) =
      .char c size) : False := by
    cases k <;> cases h
  unfold front at h
  simp only [UInt8.lt_iff_toNat_lt, UInt8.reduceToNat] at h
  split at h
  · cases h
    exact ⟨[], rest, rfl, encodeChar_one ‹_›, rfl⟩
  split at h
  · cases h
  split at h
  · -- two bytes
    split at h
    · rename_i x after
      split at h
      · cases h
        exact ⟨[x], after, rfl, encodeChar_two (by omega) ‹_› ‹_›, rfl⟩
      · cases h
    · cases h
  split at h
  · -- three bytes
    match rest with
    | x :: y :: after =>
      dsimp only at h
      by_cases hx : ((if b == 0xE0 then (0xA0 : UInt8) else 0x80) ≤ x &&
        x ≤ (if b == 0xED then (0x9F : UInt8) else 0xBF)) = true
      · rw [if_pos hx] at h
        obtain ⟨⟨hx, hx'⟩, hlo, hhi⟩ := bounds_of_second (by decide) (by decide) hx
        split at h
        · cases h
          exact ⟨[x, y], after, rfl, encodeChar_three (by omega) ‹_› hx hx' ‹_› hlo hhi, rfl⟩
        · cases h
      · rw [if_neg hx] at h
        cases h
    | [x] => exact (broken h).elim
    | [] => cases h
  split at h
  · -- four bytes
    match rest with
    | x :: y :: z :: after =>
      dsimp only at h
      by_cases hx : ((if b == 0xF0 then (0x90 : UInt8) else 0x80) ≤ x &&
        x ≤ (if b == 0xF4 then (0x8F : UInt8) else 0xBF)) = true
      · rw [if_pos hx] at h
        obtain ⟨⟨hx, hx'⟩, hlo, hhi⟩ := bounds_of_second (by decide) (by decide) hx
        split at h
        · split at h
          · cases h
            exact ⟨[x, y, z], after, rfl,
              encodeChar_four (by omega) ‹_› hx hx' ‹_› ‹_› hlo hhi, rfl⟩
          · cases h
        · cases h
      · rw [if_neg hx] at h
        cases h
    | [x, y] =>
      dsimp only at h
      by_cases hx : ((if b == 0xF0 then (0x90 : UInt8) else 0x80) ≤ x &&
        x ≤ (if b == 0xF4 then (0x8F : UInt8) else 0xBF)) = true
      · rw [if_pos hx] at h
        exact (broken h).elim
      · rw [if_neg hx] at h
        cases h
    | [x] => exact (broken h).elim
    | [] => cases h
  · cases h

theorem symbolsFrom_eq (skip : Nat) (read : List Symbol) (bytes : List UInt8) :
    symbolsFrom skip read bytes = read.reverse ++ symbols (bytes.drop skip) := by
  induction bytes generalizing skip read with
  | nil => simp [symbolsFrom, symbols]
  | cons b bytes ih =>
    cases skip with
    | succ skip => exact ih skip read
    | zero =>
      rw [List.drop_zero, symbols, symbolsFrom, symbolsFrom]
      cases front b bytes with
      | char c size => simp [ih]
      | broken size => simp [ih]

/-- Only the bytes of some characters have these characters for their symbols. -/
theorem eq_encodeChars_of_symbols {cs : List Char} {bytes : List UInt8}
    (h : symbols bytes = cs.map .char) : bytes = encodeChars cs := by
  induction cs generalizing bytes with
  | nil =>
    cases bytes with
    | nil => rfl
    | cons b rest =>
      rw [symbols, symbolsFrom] at h
      split at h <;> simp [symbolsFrom_eq] at h
  | cons c cs ih =>
    cases bytes with
    | nil => cases h
    | cons b rest =>
      rw [symbols, symbolsFrom] at h
      split at h
      · rename_i c' size hf
        obtain ⟨tail, after, rfl, he, rfl⟩ := encodeChar_of_front hf
        rw [symbolsFrom_eq] at h
        simp only [Nat.add_sub_cancel, List.drop_left, List.reverse_singleton, List.map_cons,
          List.singleton_append, List.cons.injEq, Symbol.char.injEq] at h
        obtain ⟨rfl, h⟩ := h
        rw [encodeChars, List.flatMap_cons, he, ih h]
        rfl
      · simp [symbolsFrom_eq] at h

theorem encodeChars_injective : Function.Injective encodeChars := by
  intro cs ds h
  have hs := symbols_encodeChars cs
  rw [h, symbols_encodeChars] at hs
  exact ((List.map_inj_right fun _ _ => Symbol.char.inj).mp hs).symm

end PromptGateway.Utf8
