import PromptGateway.Proofs.Json.Cursor
import PromptGateway.Json.Text

/-! # The grammar of JSON texts

What makes a text a JSON text, whatever reads it: blanks, strings and what they spell, numbers, and
lists and objects as parts with commas between them. The texts are made of symbols, for a string
that nobody asks for may hold bytes that belong to no character.
-/

namespace PromptGateway.Json

open Utf8 (Symbol)

def Blank (t : List Symbol) : Prop := ∀ s ∈ t, Cursor.isSpace s = true

/-! ## Strings -/

def CodeText (t : List Symbol) (n : Nat) : Prop :=
  ∃ a b c d, hex4? a b c d = some n ∧ t = [.char '\\', .char 'u', a, b, c, d]

/-- That a text between quotes spells some characters. -/
inductive Spells : List Symbol → List Char → Prop
  | nil : Spells [] []
  | plain {c : Char} {t : List Symbol} {cs : List Char} (hq : c ≠ '"') (hb : c ≠ '\\')
    (hc : ¬ c.toNat < 0x20) (h : Spells t cs) : Spells (.char c :: t) (c :: cs)
  | escape {s : Symbol} {c : Char} {t : List Symbol} {cs : List Char}
    (hs : simpleEscape? s = some c) (h : Spells t cs) : Spells (.char '\\' :: s :: t) (c :: cs)
  | code {e t : List Symbol} {n : Nat} {cs : List Char} (he : CodeText e n)
    (hn : n < 0xD800 ∨ 0xDFFF < n) (h : Spells t cs) : Spells (e ++ t) (Char.ofNat n :: cs)
  | pair {e f t : List Symbol} {m n : Nat} {cs : List Char} (he : CodeText e m)
    (hm : 0xD800 ≤ m ∧ m ≤ 0xDBFF) (hf : CodeText f n) (hn : 0xDC00 ≤ n ∧ n ≤ 0xDFFF)
    (h : Spells t cs) :
    Spells (e ++ (f ++ t)) (Char.ofNat (0x10000 + (m - 0xD800) * 0x400 + (n - 0xDC00)) :: cs)

def StringText (s : String) (t : List Symbol) : Prop :=
  ∃ body, Spells body s.toList ∧ t = .char '"' :: (body ++ [.char '"'])

/-- A text that may stand between quotes, whether it spells anything or not. -/
inductive Quotable : List Symbol → Prop
  | nil : Quotable []
  | plain {s : Symbol} {t : List Symbol} (hq : s ≠ .char '"') (hb : s ≠ .char '\\')
    (hc : isControl s = false) (h : Quotable t) : Quotable (s :: t)
  | escape {s : Symbol} {c : Char} {t : List Symbol} (hs : simpleEscape? s = some c)
    (h : Quotable t) : Quotable (.char '\\' :: s :: t)
  | code {e t : List Symbol} {n : Nat} (he : CodeText e n) (h : Quotable t) : Quotable (e ++ t)

def QuotedText (t : List Symbol) : Prop :=
  ∃ body, Quotable body ∧ t = .char '"' :: (body ++ [.char '"'])

theorem Spells.quotable {t : List Symbol} {cs : List Char} (h : Spells t cs) : Quotable t := by
  induction h with
  | nil => exact .nil
  | plain hq hb hc h ih => exact .plain (by simp [hq]) (by simp [hb]) (by simp [isControl, hc]) ih
  | escape hs h ih => exact .escape hs ih
  | code he hn h ih => exact .code he ih
  | pair he hm hf hn h ih => exact .code he (.code hf ih)

theorem StringText.quoted {s : String} {t : List Symbol} (h : StringText s t) : QuotedText t := by
  obtain ⟨body, hb, rfl⟩ := h
  exact ⟨body, hb.quotable, rfl⟩

theorem Spells.cons {t : List Symbol} {cs : List Char} (h : Spells t cs) (c : Char) :
    Spells (symbols (escaped c) ++ t) (c :: cs) := by
  by_cases hq : c = '"'
  · subst c
    exact .escape rfl h
  by_cases hb : c = '\\'
  · subst c
    exact .escape rfl h
  unfold escaped
  simp only [beq_iff_eq, hq, hb, if_false]
  -- the five characters with a short escape of their own
  iterate 5
    split
    · subst c
      exact .escape rfl h
  split
  · rename_i hc
    have he := Spells.code ⟨_, _, _, _, hex4?_hexDigit hc, rfl⟩ (.inl (by omega)) h
    rw [Char.ofNat_toNat] at he
    exact he
  · exact .plain hq hb ‹_› h

theorem spells_escaped (cs : List Char) : Spells (symbols (cs.flatMap escaped)) cs := by
  induction cs with
  | nil => exact .nil
  | cons c cs ih =>
    rw [List.flatMap_cons, symbols_append]
    exact ih.cons c

theorem stringText_stringChars (s : String) : StringText s (symbols (stringChars s)) :=
  ⟨_, spells_escaped s.toList, by simp [stringChars]⟩

/-! ## Numbers -/

def DigitsText (cs : List Char) : Prop := cs ≠ [] ∧ ∀ c ∈ cs, Text.isDigit c = true

/-- Digits of which the first is a zero only if it is the only one. -/
def WholeText (cs : List Char) : Prop := DigitsText cs ∧ (cs.head? = some '0' → cs = ['0'])

def FractionText (cs : List Char) : Prop := cs = [] ∨ ∃ ds, DigitsText ds ∧ cs = '.' :: ds

def ExponentText (cs : List Char) : Prop :=
  cs = [] ∨ ∃ letter sign ds, (letter = 'e' ∨ letter = 'E') ∧
    (sign = [] ∨ sign = ['+'] ∨ sign = ['-']) ∧ DigitsText ds ∧ cs = letter :: (sign ++ ds)

def NumberText (cs : List Char) : Prop :=
  ∃ sign whole fraction exponent, (sign = [] ∨ sign = ['-']) ∧ WholeText whole ∧
    FractionText fraction ∧ ExponentText exponent ∧ cs = sign ++ (whole ++ (fraction ++ exponent))

/-! ## Lists and objects -/

/-- What stands before a part: blanks, and a comma among them unless the part is the first. -/
def Gap (first : Bool) (t : List Symbol) : Prop :=
  if first then Blank t else ∃ b b', Blank b ∧ Blank b' ∧ t = b ++ .char ',' :: b'

/-- Parts with commas between them and blanks around, the first of them or later ones. -/
inductive Parts {α : Type} (piece : α → List Symbol → Prop) :
    Bool → List α → List Symbol → Prop
  | nil {first : Bool} {b : List Symbol} (hb : Blank b) : Parts piece first [] b
  | cons {first : Bool} {a : α} {as : List α} {g t more : List Symbol} (hg : Gap first g)
    (ht : piece a t) (h : Parts piece false as more) :
    Parts piece first (a :: as) (g ++ (t ++ more))

def ListText {α : Type} (piece : α → List Symbol → Prop) (items : List α) (t : List Symbol) :
    Prop :=
  ∃ inner, Parts piece true items inner ∧ t = .char '[' :: (inner ++ [.char ']'])

def MemberText {α : Type} (named : α → List Symbol → Prop) (m : α × List Symbol)
    (t : List Symbol) : Prop :=
  ∃ name b b', named m.1 name ∧ Blank b ∧ Blank b' ∧
    t = name ++ (b ++ .char ':' :: (b' ++ m.2))

def ObjectText {α : Type} (named : α → List Symbol → Prop) (members : List (α × List Symbol))
    (t : List Symbol) : Prop :=
  ∃ inner, Parts (MemberText named) true members inner ∧
    t = .char '\x7b' :: (inner ++ [.char '\x7d'])

inductive ValueText : List Symbol → Prop
  | null : ValueText (symbols ['n', 'u', 'l', 'l'])
  | true : ValueText (symbols ['t', 'r', 'u', 'e'])
  | false : ValueText (symbols ['f', 'a', 'l', 's', 'e'])
  | number {cs : List Char} (h : NumberText cs) : ValueText (symbols cs)
  | string {t : List Symbol} (h : QuotedText t) : ValueText t
  | list {items : List (List Symbol)} {t : List Symbol} (h : ListText (· = ·) items t)
    (hi : ∀ i ∈ items, ValueText i) : ValueText t
  | object {members : List (List Symbol × List Symbol)} {t : List Symbol}
    (h : ObjectText (fun name t => QuotedText name ∧ t = name) members t)
    (hm : ∀ m ∈ members, ValueText m.2) : ValueText t

/-- A whole text, in which blanks may stand around a text of some kind. -/
def Document (piece : List Symbol → Prop) (l : List Symbol) : Prop :=
  ∃ b t b', Blank b ∧ piece t ∧ Blank b' ∧ l = b ++ (t ++ b')

def ObjectDocument (members : List (String × List Symbol)) (l : List Symbol) : Prop :=
  Document (ObjectText StringText members) l ∧ ∀ m ∈ members, ValueText m.2

theorem blank_nil : Blank [] := List.forall_mem_nil _

theorem Blank.append {b b' : List Symbol} (h : Blank b) (h' : Blank b') : Blank (b ++ b') :=
  fun s hs => (List.mem_append.mp hs).elim (h s) (h' s)

/-- Behind blanks there is one symbol that comes first. -/
theorem Blank.eq_of_append_cons {b b' t t' : List Symbol} {s s' : Symbol} (h : Blank b)
    (h' : Blank b') (hs : Cursor.isSpace s = false) (hs' : Cursor.isSpace s' = false)
    (he : b ++ s :: t = b' ++ s' :: t') : s = s' := by
  induction b generalizing b' with
  | nil =>
    cases b' with
    | nil => exact (List.cons.inj he).1
    | cons u b' =>
      obtain rfl : s = u := (List.cons.inj he).1
      cases hs.symm.trans (h' s List.mem_cons_self)
  | cons u b ih =>
    cases b' with
    | nil =>
      obtain rfl : u = s' := (List.cons.inj he).1
      cases hs'.symm.trans (h u List.mem_cons_self)
    | cons u' b' =>
      exact ih (fun s hs => h s (List.mem_cons_of_mem u hs))
        (fun s hs => h' s (List.mem_cons_of_mem u' hs)) (List.cons.inj he).2

/-- No text is both a list and an object. -/
theorem Document.not_list_and_object {α β : Type} {piece : α → List Symbol → Prop} {items : List α}
    {named : β → List Symbol → Prop} {members : List (β × List Symbol)} {l : List Symbol}
    (h : Document (ListText piece items) l) (h' : Document (ObjectText named members) l) :
    False := by
  obtain ⟨b, t, b1, hb, ⟨inner, -, rfl⟩, -, rfl⟩ := h
  obtain ⟨b', t', b1', hb', ⟨inner', -, rfl⟩, -, he⟩ := h'
  cases hb.eq_of_append_cons hb' rfl rfl he

theorem Gap.append_blank {first : Bool} {g b : List Symbol} (h : Gap first g) (hb : Blank b) :
    Gap first (g ++ b) := by
  cases first with
  | true => exact Blank.append h hb
  | false =>
    obtain ⟨b1, b2, h1, h2, rfl⟩ := h
    exact ⟨b1, b2 ++ b, h1, h2.append hb, by simp⟩

theorem Parts.append_blank {α : Type} {piece : α → List Symbol → Prop} {first : Bool} {as : List α}
    {t b : List Symbol} (h : Parts piece first as t) (hb : Blank b) :
    Parts piece first as (t ++ b) := by
  induction h with
  | nil hb' => exact .nil (hb'.append hb)
  | cons hg ht h ih =>
    rw [List.append_assoc, List.append_assoc]
    exact .cons hg ht ih

end PromptGateway.Json
