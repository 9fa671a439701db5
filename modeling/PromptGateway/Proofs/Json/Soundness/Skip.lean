import PromptGateway.Proofs.Json.Soundness.Parts

/-! # What is passed over

Passing over a value takes a text of a value, of any depth, and nothing else: a member that nobody
asks for cannot hide other members. The invariant says what is left of the lists and objects that
are still open.
-/

namespace PromptGateway.Json

open Utf8 (Symbol)

variable {c c' : Cursor}

theorem valueText_of_skipScalar {ch : Char} (hn : c.next? = some (.char ch))
    (h : skipScalar ch c = .ok c') : ∃ v, ValueText v ∧ c.rest = v ++ c'.rest := by
  have hr := Cursor.rest_of_next? hn
  unfold skipScalar at h
  split at h
  · subst ch
    exact ⟨_, .null, by rw [hr, Cursor.rest_of_word h]; rfl⟩
  split at h
  · subst ch
    exact ⟨_, .true, by rw [hr, Cursor.rest_of_word h]; rfl⟩
  split at h
  · subst ch
    exact ⟨_, .false, by rw [hr, Cursor.rest_of_word h]; rfl⟩
  split at h
  · subst ch
    obtain ⟨⟨n, c1⟩, hn, h⟩ := map_eq_ok_iff.mp h
    cases h
    obtain ⟨-, cs, hcs, hl⟩ := written_of_readNumeral hn
    exact ⟨_, .number (hcs.numberText (.inr rfl)), by rw [hr, hl]; rfl⟩
  split at h
  · obtain ⟨⟨n, c1⟩, hn, h⟩ := map_eq_ok_iff.mp h
    cases h
    obtain ⟨-, cs, hcs, hl⟩ := written_of_readNumeral hn
    exact ⟨_, .number (hcs.numberText (.inl rfl)), hl⟩
  split at h
  · subst ch
    obtain ⟨t, ht, hl⟩ := quotedText_of_skipString h
    exact ⟨_, .string ht, by rw [hr, hl]; rfl⟩
  · cases h

def Open.Inner (o : Open) (first : Bool) (t : List Symbol) : Prop :=
  match o with
  | .list => ∃ items, Parts (· = ·) first items t ∧ ∀ i ∈ items, ValueText i
  | .object => ∃ members : List (List Symbol × List Symbol),
    Parts (MemberText fun name t => QuotedText name ∧ t = name) first members t ∧
      ∀ m ∈ members, ValueText m.2

def Closes (first : Bool) : List Open → List Symbol → Prop
  | [], t => t = []
  | o :: others, t => ∃ inner t', o.Inner first inner ∧ Closes false others t' ∧
      t = inner ++ .char o.closer :: t'

def SkipState.Takes (enclosing : List Open) (t : List Symbol) : SkipState → Prop
  | .before => ∃ b v t', Blank b ∧ ValueText v ∧ Closes false enclosing t' ∧ t = b ++ (v ++ t')
  | .behind comma => Closes (!comma) enclosing t

theorem Open.Inner.nil (o : Open) (first : Bool) {b : List Symbol} (hb : Blank b) :
    o.Inner first b := by
  cases o with
  | list => exact ⟨[], .nil hb, nofun⟩
  | object => exact ⟨[], .nil hb, nofun⟩

/-- What stands before the value of a part: in an object its name and a colon. -/
def Open.Naming : Open → List Symbol → Prop
  | .list, t => t = []
  | .object, t => ∃ name b, QuotedText name ∧ Blank b ∧ t = name ++ (b ++ [.char ':'])

theorem naming_of_skipName {o : Open}
    (h : (if o = .object then skipName c else .ok c) = .ok c') :
    ∃ b t, Blank b ∧ o.Naming t ∧ c.rest = b ++ (t ++ c'.rest) := by
  cases o with
  | list =>
    cases h
    exact ⟨[], [], blank_nil, rfl, rfl⟩
  | object =>
    rw [if_pos rfl] at h
    unfold skipName at h
    dsimp only at h
    obtain ⟨b, hb, hl, -⟩ := c.skipSpace_spec
    split at h
    · cases h
    · obtain ⟨c1, hs, h⟩ := bind_eq_ok_iff.mp h
      obtain ⟨t, ht, hr⟩ := quotedText_of_skipString hs
      obtain ⟨b', hb', hr'⟩ := rest_of_readColon h
      refine ⟨b, _, hb, ⟨_, b', ht, hb', rfl⟩, ?_⟩
      rw [hl, Cursor.rest_of_next? ‹_›, hr, hr']
      simp
    · cases h

/-- A part in front of those that are left of the innermost list or object. -/
theorem Closes.cons {o : Open} {others : List Open} {first : Bool} {g name b v t : List Symbol}
    (hg : Gap first g) (hn : o.Naming name) (hb : Blank b) (hv : ValueText v)
    (h : Closes false (o :: others) t) :
    Closes first (o :: others) (g ++ (name ++ (b ++ (v ++ t)))) := by
  obtain ⟨inner, t', hi, ht, rfl⟩ := h
  cases o with
  | list =>
    obtain rfl : name = [] := hn
    obtain ⟨items, hp, hvs⟩ := hi
    refine ⟨g ++ b ++ (v ++ inner), t', ⟨v :: items, .cons (hg.append_blank hb) rfl hp, ?_⟩, ht,
      by simp⟩
    exact List.forall_mem_cons.mpr ⟨hv, hvs⟩
  | object =>
    obtain ⟨n, b', hn, hb', rfl⟩ := hn
    obtain ⟨members, hp, hvs⟩ := hi
    refine ⟨g ++ ((n ++ (b' ++ .char ':' :: (b ++ v))) ++ inner), t',
      ⟨(n, v) :: members, .cons hg ⟨n, b', b, ⟨hn, rfl⟩, hb', hb, rfl⟩ hp, ?_⟩, ht, by simp⟩
    exact List.forall_mem_cons.mpr ⟨hv, hvs⟩

theorem takes_of_skipFrom {state : SkipState} {enclosing : List Open} {measure : Nat}
    (h : skipFrom state enclosing measure c = .ok c') :
    ∃ t, state.Takes enclosing t ∧ c.rest = t ++ c'.rest := by
  induction measure generalizing state enclosing c with
  | zero => cases h
  | succ measure ih =>
    unfold skipFrom at h
    dsimp only at h
    obtain ⟨b, hb, hl, -⟩ := c.skipSpace_spec
    split at h
    · -- before a value
      split at h
      · cases h
      · obtain ⟨t, ⟨inner, t', ⟨items, hp, hi⟩, ht, rfl⟩, hr⟩ := ih h
        refine ⟨_, ⟨b, _, t', hb, .list ⟨inner, hp, rfl⟩ hi, ht, rfl⟩, ?_⟩
        rw [hl, Cursor.rest_of_next? ‹_›, hr]
        simp [Open.closer]
      · obtain ⟨t, ⟨inner, t', ⟨members, hp, hm⟩, ht, rfl⟩, hr⟩ := ih h
        refine ⟨_, ⟨b, _, t', hb, .object ⟨inner, hp, rfl⟩ hm, ht, rfl⟩, ?_⟩
        rw [hl, Cursor.rest_of_next? ‹_›, hr]
        simp [Open.closer]
      · obtain ⟨c1, hs, h⟩ := bind_eq_ok_iff.mp h
        obtain ⟨v, hv, hr⟩ := valueText_of_skipScalar ‹_› hs
        obtain ⟨t, ht, hr'⟩ := ih h
        refine ⟨_, ⟨b, v, t, hb, hv, ht, rfl⟩, ?_⟩
        rw [hl, hr, hr']
        simp
      · cases h
    · -- behind a value or an opening
      split at h
      · cases h
        exact ⟨[], rfl, rfl⟩
      · rename_i comma _ outer others
        split at h
        · cases h
        · rename_i s hn
          have hr := Cursor.rest_of_next? hn
          split at h
          · subst s
            obtain ⟨t, ht, hr'⟩ := ih h
            exact ⟨_, ⟨b, t, .nil outer _ hb, ht, rfl⟩, by rw [hl, hr, hr']; simp⟩
          -- another part, behind a comma or behind the opening
          have more {first : Bool} {g : List Symbol} (hg : ∀ b1, Blank b1 → Gap first (g ++ b1))
              {c0 : Cursor} (hc : c.rest = g ++ c0.rest)
              (h : ((if outer = .object then skipName c0 else .ok c0) >>= fun c1 =>
                skipFrom .before (outer :: others) measure c1) = .ok c') :
              ∃ t, Closes first (outer :: others) t ∧ c.rest = t ++ c'.rest := by
            obtain ⟨c1, he, h⟩ := bind_eq_ok_iff.mp h
            obtain ⟨b1, name, hb1, hname, hr1⟩ := naming_of_skipName he
            obtain ⟨_, ⟨b2, v, t, hb2, hv, ht, rfl⟩, hr2⟩ := ih h
            refine ⟨_, Closes.cons (hg b1 hb1) hname hb2 hv ht, ?_⟩
            rw [hc, hr1, hr2]
            simp
          cases comma with
          | true =>
            rw [if_pos rfl] at h
            split at h
            · subst s
              exact more (g := b ++ [.char ',']) (fun b1 hb1 => ⟨b, b1, hb, hb1, by simp⟩)
                (by rw [hl, hr]; simp) h
            · cases h
          | false => exact more (fun b1 hb1 => hb.append hb1) hl h

/-- What is passed over is the text of a value, behind blanks. -/
theorem valueText_of_skipValue (h : skipValue c = .ok c') :
    ∃ b v, Blank b ∧ ValueText v ∧ c.rest = b ++ (v ++ c'.rest) := by
  obtain ⟨_, ⟨b, v, _, hb, hv, rfl, rfl⟩, hl⟩ := takes_of_skipFrom h
  exact ⟨b, v, hb, hv, by simpa using hl⟩

end PromptGateway.Json
