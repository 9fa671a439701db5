import PromptGateway.Proofs.Text.Decimal
import PromptGateway.Json.Cursor

/-! # Reading what was written: numbers

The digits of a number are read as this number, if what follows them does not go on with it.
-/

namespace PromptGateway.Json

open Utf8 (Symbol)

variable {rest : List Symbol} {p : Position}

def symbols (cs : List Char) : List Symbol := cs.map .char

@[simp] theorem symbols_nil : symbols [] = [] := rfl
@[simp] theorem symbols_cons (c : Char) (cs : List Char) :
    symbols (c :: cs) = .char c :: symbols cs := rfl
@[simp] theorem symbols_append (cs ds : List Char) :
    symbols (cs ++ ds) = symbols cs ++ symbols ds :=
  List.map_append

/-- That a reading yields a value and leaves a rest. -/
def Reads {α : Type} (reading : Except Failure (α × Cursor)) (a : α) (rest : List Symbol) : Prop :=
  ∃ p, reading = .ok (a, ⟨rest, p⟩)

/-- That passing over something leaves a rest. -/
def Skips (reading : Except Failure Cursor) (rest : List Symbol) : Prop :=
  ∃ p, reading = .ok ⟨rest, p⟩

theorem Reads.skips {α : Type} {reading : Except Failure (α × Cursor)} {a : α}
    (h : Reads reading a rest) : Skips (reading.map (·.2)) rest := by
  obtain ⟨p, rfl⟩ := h
  exact ⟨p, rfl⟩

/-! ## Strings -/

theorem hexValue?_hexDigit : ∀ n < 16, Text.hexValue? (Text.hexDigit n) = some n := by
  decide

theorem hex4?_hexDigit {n : Nat} (h : n < 0x20) :
    hex4? (.char '0') (.char '0') (.char (Text.hexDigit (n / 16)))
      (.char (Text.hexDigit (n % 16))) = some n := by
  have h0 : Text.hexValue? '0' = some 0 := by decide
  simp only [hex4?, h0, hexValue?_hexDigit (n / 16) (by omega),
    hexValue?_hexDigit (n % 16) (by omega), Option.bind_eq_bind, Option.bind_some, pure]
  congr 1
  omega

theorem one_le_length_escaped (c : Char) : 1 ≤ (escaped c).length := by
  unfold escaped
  repeat' split
  all_goals simp

/-- Escapes do not make a text shorter. -/
theorem length_le_stringChars (s : String) : s.toList.length ≤ (stringChars s).length := by
  have h (cs : List Char) : cs.length ≤ (cs.flatMap escaped).length := by
    induction cs with
    | nil => exact Nat.zero_le _
    | cons c cs ih =>
      have hc := one_le_length_escaped c
      rw [List.flatMap_cons, List.length_append, List.length_cons]
      omega
  have hs := h s.toList
  simp only [stringChars, List.length_cons, List.length_append]
  omega

/-! ## Numbers -/

/-- That nothing follows, or a symbol that ends a value. -/
def Delimited (rest : List Symbol) : Prop :=
  ∀ s, rest.head? = some s → s = .char ',' ∨ s = .char ']' ∨ s = .char '\x7d'

theorem delimited_nil : Delimited [] := nofun

theorem delimited_cons {c : Char} (h : c = ',' ∨ c = ']' ∨ c = '\x7d') :
    Delimited (.char c :: rest) := by
  intro s hs
  obtain rfl : Symbol.char c = s := Option.some.inj hs
  simpa using h

def EndsDigits (rest : List Symbol) : Prop := ∀ s, rest.head? = some s → digit? s = none

/-- That nothing follows, or a symbol that no number goes on with. -/
def Ends (rest : List Symbol) : Prop :=
  ∀ s, rest.head? = some s → digit? s = none ∧ s ≠ .char '.' ∧ s ≠ .char 'e' ∧ s ≠ .char 'E'

theorem Delimited.ends (h : Delimited rest) : Ends rest := by
  intro s hs
  rcases h s hs with rfl | rfl | rfl <;> simp [digit?, Text.isDigit]

theorem Ends.digits (h : Ends rest) : EndsDigits rest := fun s hs => (h s hs).1

theorem digitsFrom_chars {cs : List Char} (hcs : ∀ c ∈ cs, Text.isDigit c = true)
    (hr : EndsDigits rest) (read : List Nat) (p : Position) :
    ∃ p', digitsFrom read p (symbols cs ++ rest) =
      ((cs.map Text.digitValue).reverse ++ read, ⟨rest, p'⟩) := by
  induction cs generalizing read p with
  | nil =>
    refine ⟨p, ?_⟩
    cases rest with
    | nil => rfl
    | cons s rest => simp [digitsFrom, hr s rfl]
  | cons c cs ih =>
    obtain ⟨p', he⟩ := ih (fun d hd => hcs d (List.mem_cons_of_mem c hd))
      (Text.digitValue c :: read) (p.right 1)
    refine ⟨p', ?_⟩
    have hd : digit? (.char c) = some (Text.digitValue c) := if_pos (hcs c List.mem_cons_self)
    rw [symbols_cons, List.cons_append, digitsFrom, hd]
    simpa using he

theorem digits_chars {cs : List Char} (hcs : ∀ c ∈ cs, Text.isDigit c = true)
    (hr : EndsDigits rest) (p : Position) :
    ∃ p', digits ⟨symbols cs ++ rest, p⟩ = (cs.map Text.digitValue, ⟨rest, p'⟩) := by
  obtain ⟨p', he⟩ := digitsFrom_chars hcs hr [] p
  refine ⟨p', ?_⟩
  rw [digits, he]
  simp

theorem takeWord_chars (cs : List Char) {n : Nat}
    (h : Nat.ofDigitChars 10 cs n < 18446744073709551616) :
    takeWord n (cs.map Text.digitValue) = (Nat.ofDigitChars 10 cs n, []) := by
  induction cs generalizing n with
  | nil => simp [takeWord]
  | cons c cs ih =>
    rw [Nat.ofDigitChars_cons] at h ⊢
    have he : 10 * n + (c.toNat - '0'.toNat) = n * 10 + Text.digitValue c := by
      rw [Nat.mul_comm]
      rfl
    rw [he] at h ⊢
    rw [List.map_cons, takeWord, if_pos (Nat.lt_of_le_of_lt (Text.le_ofDigitChars cs _) h), ih h]

theorem readNumeralTail_of_ends (wanted : Bool) (n : Numeral) (hr : Ends rest) (p : Position) :
    readNumeralTail wanted n ⟨rest, p⟩ = .ok (n, ⟨rest, p⟩) := by
  cases rest with
  | nil => rfl
  | cons s rest =>
    obtain ⟨-, hd, he, hE⟩ := hr s rfl
    simp [readNumeralTail, Cursor.next?, bind, Except.bind, hd, he, hE]

/-- The digits of a number are read as a numeral without a fraction and an exponent. -/
theorem readNumeral_toDigits (wanted negative : Bool) (n : Nat) (hr : Ends rest) (p : Position) :
    Reads (readNumeral wanted negative ⟨symbols (Nat.toDigits 10 n) ++ rest, p⟩)
      { negative, whole := (Nat.toDigits 10 n).map Text.digitValue } rest := by
  obtain ⟨p', hd⟩ := digits_chars (fun _ hc => Text.isDigit_of_mem_toDigits (n := n) hc) hr.digits p
  refine ⟨p', ?_⟩
  obtain ⟨c, cs, he⟩ := List.exists_cons_of_ne_nil (Nat.toDigits_ne_nil (n := n) (b := 10))
  have hz : ¬ (some (Text.digitValue c) = some 0 ∧ 1 < (c :: cs).length) := by
    rintro ⟨h0, hl⟩
    obtain rfl := Text.tail_toDigits he (Option.some.inj h0)
    exact absurd hl (by simp)
  rw [readNumeral, hd]
  simp only [he, List.map_cons, List.head?_cons]
  rw [if_neg (by simpa using hz)]
  exact readNumeralTail_of_ends wanted _ hr p'

theorem Numeral.value_toDigits {n : Nat} (h : n < 18446744073709551616) (after : Position) :
    Numeral.value { negative := false, whole := (Nat.toDigits 10 n).map Text.digitValue } after =
      .ok (.integer n) := by
  have ht : takeWord 0 ((Nat.toDigits 10 n).map Text.digitValue) = (n, []) := by
    simpa using takeWord_chars (Nat.toDigits 10 n) (n := 0) (by simpa using h)
  simp [Numeral.value, ht, takeWord]

theorem Numeral.value_toDigits_neg {n : Nat} (h0 : n ≠ 0) (h : n ≤ 9223372036854775808)
    (after : Position) :
    Numeral.value { negative := true, whole := (Nat.toDigits 10 n).map Text.digitValue } after =
      .ok (.integer (-n)) := by
  have ht : takeWord 0 ((Nat.toDigits 10 n).map Text.digitValue) = (n, []) := by
    simpa using takeWord_chars (Nat.toDigits 10 n) (n := 0) (by simpa using by omega)
  have hn : ¬ (n = 0 ∨ 9223372036854775808 < n) := by omega
  unfold Numeral.value
  rw [ht]
  exact if_neg hn

end PromptGateway.Json
