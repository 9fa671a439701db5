import Mathlib.Algebra.Group.Nat.Defs
import PromptGateway.Proofs.Encoding.Base64Url
import PromptGateway.Proofs.Except

/-! # The canonical texts of base 64

A text is decoded to some bytes only if it is the text for them. Such texts are known by their form:
symbols of the alphabet in groups of four, with two or three at the end of which the last has no
bits that belong to no byte.
-/

namespace PromptGateway.Base64Url

theorem letter_of_value? {b : UInt8} {v : Nat} (h : value? b = some v) : v < 64 ∧ b = letter v := by
  have hb : ∀ n < 256, (value? n.toUInt8).all
      (fun v => v < 64 && (n.toUInt8 == letter v)) = true := by decide +kernel
  have hn := hb b.toNat b.toNat_lt
  rw [show b.toNat.toUInt8 = b from UInt8.ofNat_toNat, h] at hn
  simpa using hn

theorem letter_of_valueAt {offset v : Nat} {b : UInt8} (h : valueAt offset b = .ok v) :
    v < 64 ∧ b = letter v := by
  unfold valueAt at h
  split at h
  · cases h
    exact letter_of_value? ‹_›
  · cases h

/-- Behind padding there is nothing else. -/
theorem padded_of_lastValues {offset i : Nat} {text : List UInt8} {index : Nat} {vs : List Nat}
    {padded : Bool} (h : lastValues offset index (some i) text = .ok (vs, padded)) :
    padded = true := by
  induction text generalizing index i with
  | nil =>
    cases h
    rfl
  | cons b text ih =>
    rw [lastValues] at h
    split at h
    · split at h
      · cases h
      · exact ih h
    · cases h

theorem eq_map_of_lastValues {offset index : Nat} {text : List UInt8} {vs : List Nat}
    (h : lastValues offset index none text = .ok (vs, false)) :
    text = vs.map letter ∧ ∀ v ∈ vs, v < 64 := by
  induction text generalizing index vs with
  | nil =>
    cases h
    exact ⟨rfl, nofun⟩
  | cons b text ih =>
    rw [lastValues] at h
    split at h
    · split at h
      · cases h
      · cases padded_of_lastValues h
    · obtain ⟨v, hv, h⟩ := bind_eq_ok_iff.mp h
      obtain ⟨⟨ws, padded⟩, hl, h⟩ := bind_eq_ok_iff.mp h
      cases h
      obtain ⟨rfl, hws⟩ := ih hl
      obtain ⟨hlt, rfl⟩ := letter_of_valueAt hv
      exact ⟨rfl, List.forall_mem_cons.mpr ⟨hlt, hws⟩⟩

theorem encodeChars_group {v w x y : Nat} (hv : v < 64) (hw : w < 64) (hx : x < 64) (hy : y < 64)
    (bytes : List UInt8) : encodeChars (group v w x y ++ bytes) =
      symbol v :: symbol w :: symbol x :: symbol y :: encodeChars bytes := by
  have ha := Utf8.toNat_toUInt8 (n := v * 4 + w / 16) (by omega)
  have hb := Utf8.toNat_toUInt8 (n := w % 16 * 16 + x / 4) (by omega)
  have hc := Utf8.toNat_toUInt8 (n := x % 4 * 64 + y) (by omega)
  rw [group, List.cons_append, List.cons_append, List.singleton_append, encodeChars, ha, hb, hc]
  congr <;> omega

theorem letters_of_group {v w x y : Nat} (hv : v < 64) (hw : w < 64) (hx : x < 64) (hy : y < 64)
    (bytes : List UInt8) :
    letters (group v w x y ++ bytes) =
      letter v :: letter w :: letter x :: letter y :: letters bytes := by
  rw [letters, encodeChars_group hv hw hx hy]
  simp only [Utf8.encodeChars, List.flatMap_cons, encodeChar_symbol hv, encodeChar_symbol hw,
    encodeChar_symbol hx, encodeChar_symbol hy, List.singleton_append, letters]

/-- Only the text for some bytes is decoded to these bytes at the end of a text. -/
theorem letters_of_decodeLast {offset : Nat} {text bytes : List UInt8} (ht : text.length ≤ 4)
    (h : decodeLast offset text = .ok bytes) : text = letters bytes := by
  unfold decodeLast at h
  obtain ⟨⟨vs, padded⟩, hl, h⟩ := bind_eq_ok_iff.mp h
  dsimp only at h
  split at h
  · cases h
  rename_i hs
  cases padded with
  | true => cases h
  | false =>
    obtain ⟨rfl, hvs⟩ := eq_map_of_lastValues hl
    match vs with
    | [] =>
      cases h
      rfl
    | [v] => exact absurd ⟨Nat.lt_succ_self 1, List.cons_ne_nil _ _⟩ hs
    | [v, w] =>
      obtain ⟨hv, hw, -⟩ : v < 64 ∧ w < 64 ∧ _ := by simpa only [List.forall_mem_cons] using hvs
      change (if w % 16 = 0 then pure _ else throw _) = Except.ok bytes at h
      split at h
      · cases h
        rw [letters_one, Utf8.toNat_toUInt8 (by omega)]
        change [letter v, letter w] = _
        congr <;> omega
      · cases h
    | [v, w, x] =>
      obtain ⟨hv, hw, hx, -⟩ : v < 64 ∧ w < 64 ∧ x < 64 ∧ _ := by
        simpa only [List.forall_mem_cons] using hvs
      change (if x % 4 = 0 then pure _ else throw _) = Except.ok bytes at h
      split at h
      · cases h
        rw [letters_two, Utf8.toNat_toUInt8 (by omega), Utf8.toNat_toUInt8 (by omega)]
        change [letter v, letter w, letter x] = _
        congr <;> omega
      · cases h
    | [v, w, x, y] =>
      obtain ⟨hv, hw, hx, hy, -⟩ : v < 64 ∧ w < 64 ∧ x < 64 ∧ y < 64 ∧ _ := by
        simpa only [List.forall_mem_cons] using hvs
      cases h
      exact (letters_of_group hv hw hx hy []).symm
    | _ :: _ :: _ :: _ :: _ :: _ =>
      simp only [List.length_map, List.length_cons] at ht
      omega

theorem letters_of_decodeFrom {offset : Nat} {text bytes : List UInt8}
    (h : decodeFrom offset text = .ok bytes) : text = letters bytes := by
  induction offset, text using decodeFrom.induct generalizing bytes with
  | case1 offset a b c d e rest ih =>
    rw [decodeFrom] at h
    obtain ⟨v, hv, h⟩ := bind_eq_ok_iff.mp h
    obtain ⟨w, hw, h⟩ := bind_eq_ok_iff.mp h
    obtain ⟨x, hx, h⟩ := bind_eq_ok_iff.mp h
    obtain ⟨y, hy, h⟩ := bind_eq_ok_iff.mp h
    obtain ⟨more, hm, h⟩ := bind_eq_ok_iff.mp h
    cases h
    obtain ⟨hv', rfl⟩ := letter_of_valueAt hv
    obtain ⟨hw', rfl⟩ := letter_of_valueAt hw
    obtain ⟨hx', rfl⟩ := letter_of_valueAt hx
    obtain ⟨hy', rfl⟩ := letter_of_valueAt hy
    rw [letters_of_group hv' hw' hx' hy', ih hm]
  | case2 offset text hs =>
    rcases text with _ | ⟨a, _ | ⟨b, _ | ⟨c, _ | ⟨d, _ | ⟨e, rest⟩⟩⟩⟩⟩
    on_goal 6 => exact (hs a b c d e rest rfl).elim
    all_goals exact letters_of_decodeLast (by simp) h

/-- A text is decoded to some bytes exactly if it is the text for them. -/
theorem decode_eq_ok_iff {s : String} {bytes : List UInt8} :
    decode (Utf8.encode s) = .ok bytes ↔ s = encode bytes := by
  constructor
  · intro h
    unfold decode at h
    split at h
    · cases h
    · have hl := Utf8.encodeChars_injective (letters_of_decodeFrom h)
      rw [encode, ← hl, String.ofList_toList]
  · rintro rfl
    exact decode_encode bytes

def alphabet : List Char :=
  "ABCDEFGHIJKLMNOPQRSTUVWXYZabcdefghijklmnopqrstuvwxyz0123456789-_".toList

/--
What makes a text canonical: it holds symbols only, no single one is left over behind the groups of
four, and the bits of the last one that are too many for whole bytes are zero.
-/
structure Canonical (cs : List Char) : Prop where
  symbols : ∀ c ∈ cs, c ∈ alphabet
  length : cs.length % 4 ≠ 1
  unused : ∀ c, cs.getLast? = some c → alphabet.idxOf c % 2 ^ (6 * cs.length % 8) = 0

theorem idxOf_symbol : ∀ n < 64, symbol n ∈ alphabet ∧ alphabet.idxOf (symbol n) = n := by
  decide +kernel

theorem mem_alphabet_iff {c : Char} : c ∈ alphabet ↔ ∃ n < 64, c = symbol n := by
  have ha : alphabet = (List.range 64).map symbol := by decide +kernel
  simp only [ha, List.mem_map, List.mem_range, eq_comm]

/-- Four symbols at the front do not matter for what is canonical. -/
theorem canonical_group_iff {a b c d : Char} {cs : List Char} :
    Canonical (a :: b :: c :: d :: cs) ↔
      (a ∈ alphabet ∧ b ∈ alphabet ∧ c ∈ alphabet ∧ d ∈ alphabet) ∧ Canonical cs := by
  have hl : (a :: b :: c :: d :: cs).length = cs.length + 4 := rfl
  have hw : 6 * (cs.length + 4) % 8 = 6 * cs.length % 8 := by omega
  have hu : (∀ e, (a :: b :: c :: d :: cs).getLast? = some e →
      alphabet.idxOf e % 2 ^ (6 * cs.length % 8) = 0) ↔
      ∀ e, cs.getLast? = some e → alphabet.idxOf e % 2 ^ (6 * cs.length % 8) = 0 := by
    cases cs with
    | nil => simp [Nat.mod_one]
    | cons e cs => simp only [List.getLast?_cons_cons]
  constructor
  · rintro ⟨hs, hm, hz⟩
    simp only [List.forall_mem_cons] at hs
    obtain ⟨ha, hb, hc, hd, hs⟩ := hs
    rw [hl, hw] at hz
    exact ⟨⟨ha, hb, hc, hd⟩, hs, by omega, hu.mp hz⟩
  · rintro ⟨⟨ha, hb, hc, hd⟩, hs, hm, hz⟩
    refine ⟨?_, by omega, ?_⟩
    · simp only [List.forall_mem_cons]
      exact ⟨ha, hb, hc, hd, hs⟩
    · rw [hl, hw]
      exact hu.mpr hz

theorem canonical_encodeChars (bytes : List UInt8) : Canonical (encodeChars bytes) := by
  have hi {c : Char} {n : Nat} (hn : n < 64) (hc : some (symbol n) = some c) :
      alphabet.idxOf c = n := by
    cases hc
    exact (idxOf_symbol n hn).2
  have hs (bytes : List UInt8) : ∀ c ∈ encodeChars bytes, c ∈ alphabet :=
    fun c hc => mem_alphabet_iff.mpr (exists_symbol hc)
  induction bytes using encodeChars.induct with
  | case1 =>
    refine ⟨hs [], by decide, fun c hc => ?_⟩
    cases hc
  | case2 a =>
    have hl := a.toNat_lt
    refine ⟨hs [a], by simp [encodeChars], fun c hc => ?_⟩
    rw [hi (n := a.toNat % 4 * 16) (by omega) hc]
    simp [encodeChars]
  | case3 a b =>
    have hl := b.toNat_lt
    refine ⟨hs [a, b], by simp [encodeChars], fun c hc => ?_⟩
    rw [hi (n := b.toNat % 16 * 4) (by omega) hc]
    simp [encodeChars]
  | case4 a b c rest ih =>
    have hm := hs (a :: b :: c :: rest)
    rw [encodeChars] at hm ⊢
    simp only [List.forall_mem_cons] at hm
    exact canonical_group_iff.mpr ⟨⟨hm.1, hm.2.1, hm.2.2.1, hm.2.2.2.1⟩, ih⟩

theorem exists_of_canonical : (cs : List Char) → Canonical cs → ∃ bytes, encodeChars bytes = cs
  | [], _ => ⟨[], rfl⟩
  | [a], h => absurd rfl h.length
  | [a, b], h => by
    obtain ⟨v, hv, rfl⟩ := mem_alphabet_iff.mp (h.symbols a (by simp))
    obtain ⟨w, hw, rfl⟩ := mem_alphabet_iff.mp (h.symbols b (by simp))
    have hz : alphabet.idxOf (symbol w) % 16 = 0 := by
      simpa using h.unused (symbol w) rfl
    rw [(idxOf_symbol w hw).2] at hz
    refine ⟨[(v * 4 + w / 16).toUInt8], ?_⟩
    rw [encodeChars, Utf8.toNat_toUInt8 (by omega)]
    congr <;> omega
  | [a, b, c], h => by
    obtain ⟨v, hv, rfl⟩ := mem_alphabet_iff.mp (h.symbols a (by simp))
    obtain ⟨w, hw, rfl⟩ := mem_alphabet_iff.mp (h.symbols b (by simp))
    obtain ⟨x, hx, rfl⟩ := mem_alphabet_iff.mp (h.symbols c (by simp))
    have hz : alphabet.idxOf (symbol x) % 4 = 0 := by
      simpa using h.unused (symbol x) rfl
    rw [(idxOf_symbol x hx).2] at hz
    refine ⟨[(v * 4 + w / 16).toUInt8, (w % 16 * 16 + x / 4).toUInt8], ?_⟩
    rw [encodeChars, Utf8.toNat_toUInt8 (by omega), Utf8.toNat_toUInt8 (by omega)]
    congr <;> omega
  | a :: b :: c :: d :: cs, h => by
    obtain ⟨⟨ha, hb, hc, hd⟩, hcs⟩ := canonical_group_iff.mp h
    obtain ⟨v, hv, rfl⟩ := mem_alphabet_iff.mp ha
    obtain ⟨w, hw, rfl⟩ := mem_alphabet_iff.mp hb
    obtain ⟨x, hx, rfl⟩ := mem_alphabet_iff.mp hc
    obtain ⟨y, hy, rfl⟩ := mem_alphabet_iff.mp hd
    obtain ⟨bytes, rfl⟩ := exists_of_canonical cs hcs
    exact ⟨group v w x y ++ bytes, encodeChars_group hv hw hx hy bytes⟩

/-- The canonical texts are those for bytes. -/
theorem canonical_iff {cs : List Char} : Canonical cs ↔ ∃ bytes, encodeChars bytes = cs := by
  constructor
  · exact exists_of_canonical cs
  · rintro ⟨bytes, rfl⟩
    exact canonical_encodeChars bytes

end PromptGateway.Base64Url
