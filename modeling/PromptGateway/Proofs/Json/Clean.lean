import PromptGateway.Proofs.Json.Grammar

/-! # Texts without strange bytes

A byte that belongs to no character may stand only within a string that nobody asks for. Blanks,
strings that are read, lists and objects of such parts are made of characters, so their bytes are
those of a text.
-/

namespace PromptGateway.Json

open Utf8 (Symbol)

variable {b t u : List Symbol} {first : Bool}

def Clean (t : List Symbol) : Prop := ∃ cs, t = symbols cs

theorem clean_symbols (cs : List Char) : Clean (symbols cs) := ⟨cs, rfl⟩

theorem Clean.append (h : Clean t) (h' : Clean u) : Clean (t ++ u) := by
  obtain ⟨cs, rfl⟩ := h
  obtain ⟨ds, rfl⟩ := h'
  exact ⟨cs ++ ds, (symbols_append cs ds).symm⟩

theorem Clean.cons (h : Clean t) (c : Char) : Clean (.char c :: t) :=
  (clean_symbols [c]).append h

theorem Blank.clean (h : Blank b) : Clean b := by
  induction b with
  | nil => exact clean_symbols []
  | cons s b ih =>
    obtain ⟨hs, hb⟩ := List.forall_mem_cons.mp h
    cases s with
    | stray x => cases hs
    | char c => exact (ih hb).cons c

theorem CodeText.clean {n : Nat} (h : CodeText t n) : Clean t := by
  obtain ⟨a, b, c, d, hn, rfl⟩ := h
  cases a with
  | stray x => cases hn
  | char a =>
  cases b with
  | stray x => simp [hex4?] at hn
  | char b =>
  cases c with
  | stray x => simp [hex4?] at hn
  | char c =>
  cases d with
  | stray x => simp [hex4?] at hn
  | char d => exact clean_symbols ['\\', 'u', a, b, c, d]

theorem Spells.clean {cs : List Char} (h : Spells t cs) : Clean t := by
  induction h with
  | nil => exact clean_symbols []
  | plain _ _ _ _ ih => exact ih.cons _
  | @escape s c t cs hs _ ih =>
    cases s with
    | stray x => cases hs
    | char d => exact (ih.cons d).cons '\\'
  | code he _ _ ih => exact he.clean.append ih
  | pair he _ hf _ _ ih => exact he.clean.append (hf.clean.append ih)

theorem StringText.clean {s : String} (h : StringText s t) : Clean t := by
  obtain ⟨body, hb, rfl⟩ := h
  exact (hb.clean.append (clean_symbols ['"'])).cons '"'

theorem Gap.clean (h : Gap first t) : Clean t := by
  cases first with
  | true => exact Blank.clean h
  | false =>
    obtain ⟨b, b', hb, hb', rfl⟩ := h
    exact hb.clean.append (hb'.clean.cons ',')

theorem Parts.clean {α : Type} {piece : α → List Symbol → Prop} {as : List α}
    (h : Parts piece first as t) (hp : ∀ a ∈ as, ∀ t, piece a t → Clean t) : Clean t := by
  induction h with
  | nil hb => exact hb.clean
  | cons hg ht h ih =>
    obtain ⟨ha, hp⟩ := List.forall_mem_cons.mp hp
    exact hg.clean.append ((ha _ ht).append (ih hp))

theorem ListText.clean {items : List (List Symbol)} (h : ListText (· = ·) items t)
    (hi : ∀ i ∈ items, Clean i) : Clean t := by
  obtain ⟨inner, hp, rfl⟩ := h
  have hinner : Clean inner := hp.clean fun i hmem t ht => ht ▸ hi i hmem
  exact (hinner.append (clean_symbols [']'])).cons '['

theorem ObjectText.clean {members : List (String × List Symbol)}
    (h : ObjectText StringText members t) (hm : ∀ m ∈ members, Clean m.2) : Clean t := by
  obtain ⟨inner, hp, rfl⟩ := h
  have hinner : Clean inner := hp.clean fun m hmem t ht => by
    obtain ⟨name, b, b', hn, hb, hb', rfl⟩ := ht
    exact hn.clean.append (hb.clean.append ((hb'.clean.append (hm m hmem)).cons ':'))
  exact (hinner.append (clean_symbols ['\x7d'])).cons '\x7b'

theorem Document.clean {piece : List Symbol → Prop} (h : Document piece t)
    (hp : ∀ t, piece t → Clean t) : Clean t := by
  obtain ⟨b, t, b', hb, ht, hb', rfl⟩ := h
  exact hb.clean.append ((hp t ht).append hb'.clean)

end PromptGateway.Json
