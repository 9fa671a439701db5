import Mathlib.Data.List.Basic
import PromptGateway.Encoding.Percent
import PromptGateway.Proofs.Encoding.Utf8
import PromptGateway.Proofs.Text.Search

/-! # Forms, plain characters and segments of paths

A form is read part by part, and a name or value of plain characters stands for itself in it. A
segment of a path stands for the bytes of which it is an encoding, whichever of them it encodes.
-/

namespace PromptGateway.Percent

/-- An ASCII letter or digit, a hyphen or a low line. -/
def isPlain (c : Char) : Bool :=
  ('A' ≤ c && c ≤ 'Z') || ('a' ≤ c && c ≤ 'z') || Text.isDigit c || c == '-' || c == '_'

def Plain (text : List Char) : Prop := ∀ c ∈ text, isPlain c = true

theorem toNat_lt_of_isPlain {c : Char} (h : isPlain c = true) : c.toNat < 0x80 := by
  simp only [isPlain, Text.isDigit, Bool.or_eq_true, Bool.and_eq_true, decide_eq_true_eq,
    beq_iff_eq, Char.le_def, UInt32.le_iff_toNat_le] at h
  rcases h with (((h | h) | h) | rfl) | rfl
  · exact h.2.trans_lt (by decide)
  · exact h.2.trans_lt (by decide)
  · exact h.2.trans_lt (by decide)
  · decide
  · decide

variable {text name value : List Char}

theorem Plain.notMem (h : Plain text) {c : Char} (hc : isPlain c = false) : c ∉ text := by
  intro hm
  rw [h c hm] at hc
  cases hc

theorem Plain.encodeChars (h : Plain text) :
    Utf8.encodeChars text = text.map (·.toNat.toUInt8) := by
  rw [Utf8.encodeChars, List.map_eq_flatMap]
  exact List.flatMap_congr fun c hc => Utf8.encodeChar_ascii (toNat_lt_of_isPlain (h c hc))

theorem decodeFrom_eq_self {bytes : List UInt8} (h : 0x25 ∉ bytes) (read : List UInt8) :
    decodeFrom read bytes = read.reverse ++ bytes := by
  induction bytes generalizing read with
  | nil => simp [decodeFrom]
  | cons b bytes ih =>
    rw [List.mem_cons, not_or] at h
    rw [decodeFrom, ih h.2]
    · simp
    · rintro a b rest rfl
      exact absurd rfl h.1

/-- A plain text stands for itself. -/
theorem decodeFormPart_plain (h : Plain text) : decodeFormPart text = String.ofList text := by
  have hp : (text.map fun c => if c == '+' then ' ' else c) = text := by
    conv_rhs => rw [← List.map_id text]
    refine List.map_congr_left fun c hc => if_neg ?_
    rw [beq_iff_eq]
    rintro rfl
    exact h.notMem (by decide) hc
  have hb : (0x25 : UInt8) ∉ Utf8.encodeChars text := by
    rw [h.encodeChars]
    intro hm
    obtain ⟨c, hc, he⟩ := List.mem_map.mp hm
    have hn : c.toNat = 0x25 := by
      rw [← Utf8.toNat_toUInt8 ((toNat_lt_of_isPlain (h c hc)).trans (by decide)), he]
      rfl
    have : c = '%' := Char.toNat_inj.mp hn
    exact h.notMem (by decide) (this ▸ hc)
  rw [decodeFormPart, hp, decode, decodeFrom_eq_self hb]
  exact Utf8.decodeLossy_encodeChars text

theorem decodeForm_append (before after : List Char) :
    decodeForm (before ++ '&' :: after) = decodeForm before ++ decodeForm after := by
  simp [decodeForm, Text.splitAt_append]

theorem decodeForm_plain (hn : Plain name) (hv : Plain value) :
    decodeForm (name ++ '=' :: value) = [(String.ofList name, String.ofList value)] := by
  have ha : '&' ∉ name ++ '=' :: value := by
    rw [List.mem_append, List.mem_cons]
    rintro (h | h | h)
    · exact hn.notMem (by decide) h
    · cases h
    · exact hv.notMem (by decide) h
  have hc : Text.cutAt? '=' (name ++ '=' :: value) = some (name, value) :=
    Text.cutAt?_append (hn.notMem (by decide)) value
  rw [decodeForm, Text.splitAt_eq_singleton ha]
  simp [hc, decodeFormPart_plain hn, decodeFormPart_plain hv]

/-! ## Segments -/

/-- The characters that may stand for themselves in a segment of a path. -/
def isSegmentChar (c : Char) : Bool := isPlain c || ".~!$&'()*+,;=:@".toList.contains c

/--
That a segment stands for some bytes: each of them is a character of segments or a percent sign and
two hexadecimal digits.
-/
inductive Encodes : List UInt8 → List Char → Prop
  | nil : Encodes [] []
  | kept {c : Char} {bytes : List UInt8} {cs : List Char} (hc : isSegmentChar c = true)
    (h : Encodes bytes cs) : Encodes (c.toNat.toUInt8 :: bytes) (c :: cs)
  | coded {a b : Char} {high low : Nat} {bytes : List UInt8} {cs : List Char}
    (ha : Text.hexValue? a = some high) (hb : Text.hexValue? b = some low)
    (h : Encodes bytes cs) : Encodes ((high * 16 + low).toUInt8 :: bytes) ('%' :: a :: b :: cs)

theorem toNat_lt_of_isSegmentChar {c : Char} (h : isSegmentChar c = true) : c.toNat < 0x80 := by
  rw [isSegmentChar, Bool.or_eq_true] at h
  rcases h with h | h
  · exact toNat_lt_of_isPlain h
  · have hall : ".~!$&'()*+,;=:@".toList.all (·.toNat < 0x80) = true := by decide
    simpa using List.all_eq_true.mp hall c (List.contains_iff_mem.mp h)

theorem toNat_lt_of_hexValue? {c : Char} {n : Nat} (h : Text.hexValue? c = some n) :
    c.toNat < 0x80 := by
  unfold Text.hexValue? at h
  simp only [Text.isDigit, Bool.and_eq_true, decide_eq_true_eq, Char.le_def,
    UInt32.le_iff_toNat_le] at h
  split at h
  · rename_i hd
    exact hd.2.trans_lt (by decide)
  · split at h
    · rename_i hd
      exact hd.2.trans_lt (by decide)
    · split at h
      · rename_i hd
        exact hd.2.trans_lt (by decide)
      · cases h

theorem hexValue?_toUInt8 {c : Char} {n : Nat} (h : Text.hexValue? c = some n) :
    hexValue? c.toNat.toUInt8 = some n := by
  rw [hexValue?, Utf8.toNat_toUInt8 ((toNat_lt_of_hexValue? h).trans (by decide)),
    Char.ofNat_toNat, h]

variable {bytes : List UInt8} {cs : List Char}

theorem encodeChars_cons_ascii {c : Char} (h : c.toNat < 0x80) (cs : List Char) :
    Utf8.encodeChars (c :: cs) = c.toNat.toUInt8 :: Utf8.encodeChars cs := by
  rw [Utf8.encodeChars, List.flatMap_cons, Utf8.encodeChar_ascii h]
  rfl

theorem Encodes.decodeFrom (h : Encodes bytes cs) (read : List UInt8) :
    decodeFrom read (Utf8.encodeChars cs) = read.reverse ++ bytes := by
  induction h generalizing read with
  | nil => simp [Utf8.encodeChars, Percent.decodeFrom]
  | @kept c bytes cs hc h ih =>
    have hl := toNat_lt_of_isSegmentChar hc
    rw [encodeChars_cons_ascii hl, Percent.decodeFrom, ih]
    · simp
    · -- a character that stands for itself is no percent sign
      rintro a b rest he
      have hn : c.toNat = 0x25 := by
        rw [← Utf8.toNat_toUInt8 (hl.trans (by decide)), he]
        rfl
      obtain rfl : c = '%' := Char.toNat_inj.mp hn
      exact absurd hc (by decide)
  | coded ha hb h ih =>
    rw [encodeChars_cons_ascii (by decide), encodeChars_cons_ascii (toNat_lt_of_hexValue? ha),
      encodeChars_cons_ascii (toNat_lt_of_hexValue? hb)]
    change Percent.decodeFrom read (0x25 :: _ :: _ :: _) = _
    rw [Percent.decodeFrom]
    simp only [hexValue?_toUInt8 ha, hexValue?_toUInt8 hb]
    rw [ih]
    simp

/-- A segment is decoded to the bytes that it stands for. -/
theorem Encodes.decode (h : Encodes bytes cs) : Percent.decode (Utf8.encodeChars cs) = bytes :=
  h.decodeFrom []

theorem Encodes.notMem (h : Encodes bytes cs) {c : Char} (hc : isSegmentChar c = false)
    (hp : c ≠ '%') (hx : Text.hexValue? c = none) : c ∉ cs := by
  induction h with
  | nil => simp
  | kept hd h ih =>
    rw [List.mem_cons, not_or]
    refine ⟨?_, ih⟩
    rintro rfl
    cases hc.symm.trans hd
  | coded ha hb h ih =>
    simp only [List.mem_cons, not_or]
    refine ⟨hp, ?_, ?_, ih⟩
    · rintro rfl
      cases hx.symm.trans ha
    · rintro rfl
      cases hx.symm.trans hb

theorem Encodes.append {bytes' : List UInt8} {cs' : List Char} (h : Encodes bytes cs)
    (h' : Encodes bytes' cs') : Encodes (bytes ++ bytes') (cs ++ cs') := by
  induction h with
  | nil => exact h'
  | kept hc h ih => exact .kept hc ih
  | coded ha hb h ih => exact .coded ha hb ih

/-- Characters of segments stand for themselves. -/
theorem encodes_self (h : ∀ c ∈ cs, isSegmentChar c = true) :
    Encodes (Utf8.encodeChars cs) cs := by
  induction cs with
  | nil => exact .nil
  | cons c cs ih =>
    have hc := h c List.mem_cons_self
    rw [encodeChars_cons_ascii (toNat_lt_of_isSegmentChar hc)]
    exact .kept hc (ih fun d hd => h d (List.mem_cons_of_mem c hd))

theorem hexValue?_upperChar : ∀ n < 16,
    Text.hexValue? (Text.upperChar (Text.hexDigit n)) = some n := by
  decide

theorem encodes_encodeByte (b : UInt8) : Encodes [b] (encodeByte b) := by
  have hb := b.toNat_lt
  have h := Encodes.nil.coded (hexValue?_upperChar (b.toNat / 16) (by omega))
    (hexValue?_upperChar (b.toNat % 16) (by omega))
  rwa [show b.toNat / 16 * 16 + b.toNat % 16 = b.toNat by omega, Nat.toUInt8,
    UInt8.ofNat_toNat] at h

theorem encodes_flatMap_encodeByte (bytes : List UInt8) :
    Encodes bytes (bytes.flatMap encodeByte) := by
  induction bytes with
  | nil => exact .nil
  | cons b bytes ih => exact (encodes_encodeByte b).append ih

/-- Every text is spelled in a segment by encoding what may not stand for itself there. -/
theorem encodes_encodeSet (text : List Char) :
    Encodes (Utf8.encodeChars text) (encodeSet (fun c => !isSegmentChar c) text) := by
  induction text with
  | nil => exact .nil
  | cons c text ih =>
    rw [Utf8.encodeChars, List.flatMap_cons, encodeSet, List.flatMap_cons]
    refine Encodes.append ?_ ih
    split
    · exact encodes_flatMap_encodeByte _
    · rename_i h
      rw [Bool.or_eq_true, not_or, Bool.not_eq_true', Bool.not_eq_false] at h
      rw [Utf8.encodeChar_ascii (toNat_lt_of_isSegmentChar h.2)]
      exact .kept h.2 .nil

end PromptGateway.Percent
