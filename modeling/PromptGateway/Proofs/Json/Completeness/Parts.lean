import PromptGateway.Proofs.Json.Completeness.Scalar
import PromptGateway.Proofs.Json.Shape

/-! # Lists and objects are read from all their texts

The loops that read the parts of a list or an object read them from any text of such parts, if what
reads a single part reads it from any text of its own. Each part takes at least one symbol, so the
length of the text is measure enough.
-/

namespace PromptGateway.Json

open Utf8 (Symbol)

variable {s : Symbol} {b g t rest : List Symbol} {first : Bool}

/-! ## Between parts -/

theorem skips_readColon (hb : Blank b) (rest : List Symbol) (p : Position) :
    Skips (readColon ⟨b ++ .char ':' :: rest, p⟩) rest := by
  obtain ⟨p', he⟩ := Cursor.skipSpace_cons (s := .char ':') hb rfl _ p
  exact ⟨p'.after (.char ':'), by rw [readColon, he]; rfl⟩

theorem skips_closeList (hb : Blank b) (rest : List Symbol) (p : Position) :
    Skips (closeList ⟨b ++ .char ']' :: rest, p⟩) rest := by
  obtain ⟨p', he⟩ := Cursor.skipSpace_cons (s := .char ']') hb rfl _ p
  exact ⟨p'.after (.char ']'), by rw [closeList, he]; rfl⟩

def Begins (t : List Symbol) : Prop :=
  ∃ s t', t = s :: t' ∧ Cursor.isSpace s = false ∧ s ≠ .char ']'

theorem Begins.endsBlank (h : Begins t) : EndsBlank (t ++ rest) := by
  obtain ⟨s, t', rfl, hs, -⟩ := h
  exact endsBlank_cons hs

theorem nextItem_gap (hg : Gap first g) (ht : Begins t) (rest : List Symbol) (p : Position) :
    ∃ p', nextItem first ⟨g ++ (t ++ rest), p⟩ = .ok (true, ⟨t ++ rest, p'⟩) := by
  obtain ⟨s, t', rfl, hs, hc⟩ := ht
  cases first with
  | true =>
    obtain ⟨p', he⟩ := Cursor.skipSpace_cons hg hs (t' ++ rest) p
    refine ⟨p', ?_⟩
    rw [List.cons_append, nextItem, he]
    simp [Cursor.next?]
  | false =>
    obtain ⟨b, b', hb, hb', rfl⟩ := hg
    obtain ⟨p', he⟩ := Cursor.skipSpace_cons (s := .char ',') hb rfl _ p
    obtain ⟨p'', he'⟩ := Cursor.skipSpace_cons hb' hs (t' ++ rest) (p'.after (.char ','))
    refine ⟨p'', ?_⟩
    rw [List.append_assoc, List.cons_append, nextItem, he]
    simp [Cursor.next?, Cursor.drop, he']

theorem nextItem_end (first : Bool) (hb : Blank b) (rest : List Symbol) (p : Position) :
    ∃ p', nextItem first ⟨b ++ .char ']' :: rest, p⟩ = .ok (false, ⟨.char ']' :: rest, p'⟩) := by
  obtain ⟨p', he⟩ := Cursor.skipSpace_cons (s := .char ']') hb rfl _ p
  exact ⟨p', by rw [nextItem, he]; rfl⟩

theorem nextMember_gap (hg : Gap first g) (rest : List Symbol) (p : Position) :
    ∃ p', nextMember first ⟨g ++ .char '"' :: rest, p⟩ = .ok (true, ⟨.char '"' :: rest, p'⟩) := by
  cases first with
  | true =>
    obtain ⟨p', he⟩ := Cursor.skipSpace_cons (s := .char '"') hg rfl rest p
    exact ⟨p', by rw [nextMember, he]; rfl⟩
  | false =>
    obtain ⟨b, b', hb, hb', rfl⟩ := hg
    obtain ⟨p', he⟩ := Cursor.skipSpace_cons (s := .char ',') hb rfl _ p
    obtain ⟨p'', he'⟩ := Cursor.skipSpace_cons (s := .char '"') hb' rfl rest (p'.after (.char ','))
    refine ⟨p'', ?_⟩
    rw [List.append_assoc, List.cons_append, nextMember, he]
    simp [Cursor.next?, Cursor.drop, he']

theorem nextMember_end (first : Bool) (hb : Blank b) (rest : List Symbol) (p : Position) :
    ∃ p', nextMember first ⟨b ++ .char '\x7d' :: rest, p⟩ =
      .ok (false, ⟨.char '\x7d' :: rest, p'⟩) := by
  obtain ⟨p', he⟩ := Cursor.skipSpace_cons (s := .char '\x7d') hb rfl _ p
  exact ⟨p', by rw [nextMember, he]; rfl⟩

/-! ## What follows a part -/

theorem ends_of_isSpace (h : Cursor.isSpace s = true) : Ends (s :: rest) := by
  intro t ht
  obtain rfl : s = t := Option.some.inj ht
  unfold Cursor.isSpace at h
  split at h
  · simp [digit?, Text.isDigit]
  · simp [digit?, Text.isDigit]
  · simp [digit?, Text.isDigit]
  · simp [digit?, Text.isDigit]
  · cases h

theorem Blank.ends (hb : Blank b) (hr : Ends rest) : Ends (b ++ rest) := by
  cases b with
  | nil => exact hr
  | cons s b => exact ends_of_isSpace (hb s List.mem_cons_self)

theorem Parts.ends {α : Type} {piece : α → List Symbol → Prop} {as : List α}
    (h : Parts piece false as t) (hr : Ends rest) : Ends (t ++ rest) := by
  cases h with
  | nil hb => exact hb.ends hr
  | cons hg ht h =>
    obtain ⟨b, b', hb, -, rfl⟩ := hg
    rw [List.append_assoc, List.append_assoc]
    exact hb.ends (delimited_cons (.inl rfl)).ends

theorem Parts.length_le {α : Type} {piece : α → List Symbol → Prop} {as : List α}
    (h : Parts piece first as t) (hp : ∀ a t, piece a t → t ≠ []) : as.length ≤ t.length := by
  induction h with
  | nil hb => exact Nat.zero_le _
  | @cons first a as g t more hg ht h ih =>
    have hl := List.length_pos_iff.mpr (hp a t ht)
    rw [List.length_append, List.length_append, List.length_cons]
    omega

/-! ## Loops -/

/-- The items of a list are read from any text of them. -/
theorem reads_readItems {α : Type} {item : Nat → Cursor → Except Failure (α × Cursor)}
    {piece : α → List Symbol → Prop} {as : List α} (h : Parts piece first as t)
    (hi : ∀ a t, piece a t → Begins t ∧
      ∀ n rest p, Ends rest → Reads (item n ⟨t ++ rest, p⟩) a rest)
    {read : List α} (hf : read.isEmpty = first) {measure : Nat} (hm : as.length < measure)
    (rest : List Symbol) (p : Position) :
    Reads (readItems item read measure ⟨t ++ .char ']' :: rest, p⟩) (read.reverse ++ as)
      (.char ']' :: rest) := by
  induction h generalizing read measure p with
  | @nil first b hb =>
    obtain ⟨measure, rfl⟩ := Nat.exists_eq_succ_of_ne_zero (Nat.ne_of_gt hm)
    obtain ⟨p', he⟩ := nextItem_end read.isEmpty hb rest p
    exact ⟨p', by simp [readItems, he, bind, Except.bind, pure, Except.pure]⟩
  | @cons first a as g t more hg ht h ih =>
    obtain ⟨measure, rfl⟩ := Nat.exists_eq_succ_of_ne_zero (Nat.ne_of_gt (Nat.zero_lt_of_lt hm))
    obtain ⟨hb, ha⟩ := hi a t ht
    subst hf
    have he : Ends (more ++ .char ']' :: rest) :=
      h.ends (delimited_cons (.inr (.inl rfl))).ends
    obtain ⟨p1, hn⟩ := nextItem_gap hg hb (more ++ .char ']' :: rest) p
    obtain ⟨p2, hr⟩ := ha read.length _ p1 he
    have hread : (a :: read).isEmpty = false := rfl
    obtain ⟨p3, hi⟩ := ih hread (Nat.lt_of_succ_lt_succ hm) p2
    refine ⟨p3, ?_⟩
    rw [List.append_assoc, List.append_assoc, readItems, hn]
    simp only [bind, Except.bind, if_true, hr, Except.mapError]
    simpa using hi

/-- That a member is read from its colon on, from any text of it. -/
def ReadsMember {σ : Type} (member : String → σ → Cursor → Except Failure (σ × Cursor))
    (m : String × List Symbol) (state next : σ) : Prop :=
  ∀ b b' rest p, Blank b → Blank b' → Ends rest →
    Reads (member m.1 state ⟨b ++ .char ':' :: (b' ++ (m.2 ++ rest)), p⟩) next rest

/-- The members of an object are read from any text of them. -/
theorem reads_readMembers {σ : Type} {member : String → σ → Cursor → Except Failure (σ × Cursor)}
    {members : List (String × List Symbol)} {state final : σ}
    (h : Parts (MemberText StringText) first members t)
    (hc : Collects (ReadsMember member) members state final) {measure : Nat}
    (hm : members.length < measure) (rest : List Symbol) (p : Position) :
    Reads (readMembers member first state measure ⟨t ++ .char '\x7d' :: rest, p⟩) final
      (.char '\x7d' :: rest) := by
  induction h generalizing state measure p with
  | @nil first b hb =>
    obtain ⟨measure, rfl⟩ := Nat.exists_eq_succ_of_ne_zero (Nat.ne_of_gt hm)
    obtain ⟨p', he⟩ := nextMember_end first hb rest p
    obtain rfl : state = final := hc
    exact ⟨p', by simp [readMembers, he, bind, Except.bind, pure, Except.pure, Except.mapError]⟩
  | @cons first m members g t more hg ht h ih =>
    obtain ⟨measure, rfl⟩ := Nat.exists_eq_succ_of_ne_zero (Nat.ne_of_gt (Nat.zero_lt_of_lt hm))
    obtain ⟨name, b, b', ⟨body, hs, rfl⟩, hb, hb', rfl⟩ := ht
    obtain ⟨next, hread, hc⟩ := hc
    have he : Ends (more ++ .char '\x7d' :: rest) :=
      h.ends (delimited_cons (.inr (.inr rfl))).ends
    obtain ⟨p1, hn⟩ := nextMember_gap hg ((body ++ [.char '"']) ++ (b ++ .char ':' ::
      (b' ++ (m.2 ++ (more ++ .char '\x7d' :: rest))))) p
    obtain ⟨p2, hk⟩ := reads_readString ⟨body, hs, rfl⟩ (p1.after (.char '"')) (b ++ .char ':' ::
      (b' ++ (m.2 ++ (more ++ .char '\x7d' :: rest))))
    obtain ⟨p3, hv⟩ := hread b b' _ p2 hb hb' he
    obtain ⟨p4, hr⟩ := ih hc (Nat.lt_of_succ_lt_succ hm) p3
    refine ⟨p4, ?_⟩
    have hl : (g ++ ((.char '"' :: (body ++ [.char '"']) ++ (b ++ .char ':' :: (b' ++ m.2))) ++
        more)) ++ .char '\x7d' :: rest = g ++ .char '"' :: ((body ++ [.char '"']) ++
          (b ++ .char ':' :: (b' ++ (m.2 ++ (more ++ .char '\x7d' :: rest))))) := by simp
    rw [hl, readMembers, hn]
    simp only [bind, Except.bind, if_true, Except.mapError, Cursor.drop, hk, hv]
    exact hr

end PromptGateway.Json
