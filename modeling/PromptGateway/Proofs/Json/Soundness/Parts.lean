import PromptGateway.Proofs.Json.Shape
import PromptGateway.Proofs.Json.Soundness.Scalar

/-! # What lists and objects are read from

The loops that read the parts of a list or an object take parts with commas between them, if what
reads a single part takes such a part. The members of an object lead from state to state.
-/

namespace PromptGateway.Json

open Utf8 (Symbol)

variable {c c' : Cursor}

/-! ## Between parts -/

theorem rest_of_readColon (h : readColon c = .ok c') :
    ∃ b, Blank b ∧ c.rest = b ++ .char ':' :: c'.rest := by
  unfold readColon at h
  dsimp only at h
  obtain ⟨b, hb, hl, -⟩ := c.skipSpace_spec
  split at h
  · cases h
  · cases h
    exact ⟨b, hb, by rw [hl, Cursor.rest_of_next? ‹_›]⟩
  · cases h

theorem rest_of_closeList (h : closeList c = .ok c') :
    ∃ b, Blank b ∧ c.rest = b ++ .char ']' :: c'.rest := by
  unfold closeList at h
  dsimp only at h
  obtain ⟨b, hb, hl, -⟩ := c.skipSpace_spec
  split at h
  · cases h
  · cases h
    exact ⟨b, hb, by rw [hl, Cursor.rest_of_next? ‹_›]⟩
  · split at h <;> cases h
  · cases h

theorem rest_of_closeObject (h : closeObject c = .ok c') :
    ∃ b, Blank b ∧ c.rest = b ++ .char '\x7d' :: c'.rest := by
  unfold closeObject at h
  dsimp only at h
  obtain ⟨b, hb, hl, -⟩ := c.skipSpace_spec
  split at h
  · cases h
  · cases h
    exact ⟨b, hb, by rw [hl, Cursor.rest_of_next? ‹_›]⟩
  · cases h
  · cases h

theorem gap_of_nextItem {first more : Bool} (h : nextItem first c = .ok (more, c')) :
    ∃ g, c.rest = g ++ c'.rest ∧
      if more then Gap first g else Blank g ∧ c'.next? = some (.char ']') := by
  unfold nextItem at h
  dsimp only at h
  obtain ⟨b, hb, hl, -⟩ := c.skipSpace_spec
  split at h
  · cases h
  · cases h
    exact ⟨b, hl, hb, ‹_›⟩
  · rename_i s _ hn
    cases first with
    | true =>
      cases h
      exact ⟨b, hl, hb⟩
    | false =>
      simp only [Bool.false_eq_true, if_false] at h
      split at h
      · subst s
        obtain ⟨b', hb', hl', -⟩ := c.skipSpace.drop.skipSpace_spec
        split at h
        · cases h
        · cases h
        · cases h
          refine ⟨b ++ .char ',' :: b', ?_, b, b', hb, hb', rfl⟩
          rw [hl, Cursor.rest_of_next? hn, hl']
          simp
      · cases h

theorem gap_of_nextMember {first more : Bool} (h : nextMember first c = .ok (more, c')) :
    ∃ g, c.rest = g ++ c'.rest ∧
      if more then Gap first g ∧ c'.next? = some (.char '"') else Blank g := by
  unfold nextMember at h
  dsimp only at h
  obtain ⟨b, hb, hl, -⟩ := c.skipSpace_spec
  split at h
  · cases h
  · cases h
    exact ⟨b, hl, hb⟩
  · rename_i s _ hn
    cases first with
    | true =>
      simp only [if_true] at h
      split at h
      · subst s
        cases h
        exact ⟨b, hl, hb, hn⟩
      · cases h
    | false =>
      simp only [Bool.false_eq_true, if_false] at h
      split at h
      · subst s
        obtain ⟨b', hb', hl', -⟩ := c.skipSpace.drop.skipSpace_spec
        split at h
        · cases h
        · cases h
          refine ⟨b ++ .char ',' :: b', ?_, ⟨b, b', hb, hb', rfl⟩, ‹_›⟩
          rw [hl, Cursor.rest_of_next? hn, hl']
          simp
        · cases h
        · cases h
      · cases h

/-! ## Loops -/

/-- The items of a list are read from their texts, with commas between them. -/
theorem parts_of_readItems {α : Type} {item : Nat → Cursor → Except Failure (α × Cursor)}
    {piece : α → List Symbol → Prop} (hi : ∀ n c a c', item n c = .ok (a, c') →
      ∃ b t, Blank b ∧ c.rest = b ++ (t ++ c'.rest) ∧ piece a t)
    {read as : List α} {measure : Nat} (h : readItems item read measure c = .ok (as, c')) :
    ∃ more t, Parts piece read.isEmpty more t ∧ c.rest = t ++ c'.rest ∧
      as = read.reverse ++ more := by
  induction measure generalizing read c with
  | zero => cases h
  | succ measure ih =>
    rw [readItems] at h
    obtain ⟨⟨more, c1⟩, hn, h⟩ := bind_eq_ok_iff.mp h
    obtain ⟨g, hl, hg⟩ := gap_of_nextItem hn
    cases more with
    | false =>
      cases h
      exact ⟨[], g, .nil hg.1, hl, by simp⟩
    | true =>
      simp only [if_true] at h hg
      obtain ⟨⟨a, c2⟩, ha, h⟩ := bind_eq_ok_iff.mp h
      obtain ⟨b, t, hb, hl1, ht⟩ := hi _ _ _ _ (mapError_eq_ok_iff.mp ha)
      obtain ⟨more, t', hp, hl2, rfl⟩ := ih h
      refine ⟨a :: more, (g ++ b) ++ (t ++ t'), .cons (hg.append_blank hb) ht hp, ?_, by simp⟩
      rw [hl, hl1, hl2]
      simp

/-- The members of an object are read from their texts, each from its colon on into the state. -/
theorem parts_of_readMembers {σ : Type}
    {member : String → σ → Cursor → Except Failure (σ × Cursor)}
    {step : String × List Symbol → σ → σ → Prop}
    (hm : ∀ key state next c c', member key state c = .ok (next, c') →
      ∃ b b' v, Blank b ∧ Blank b' ∧ c.rest = b ++ .char ':' :: (b' ++ (v ++ c'.rest)) ∧
        step (key, v) state next)
    {first : Bool} {state final : σ} {measure : Nat}
    (h : readMembers member first state measure c = .ok (final, c')) :
    ∃ members t, Parts (MemberText StringText) first members t ∧ c.rest = t ++ c'.rest ∧
      Collects step members state final := by
  induction measure generalizing first state c with
  | zero => cases h
  | succ measure ih =>
    rw [readMembers] at h
    obtain ⟨⟨more, c1⟩, hn, h⟩ := bind_eq_ok_iff.mp h
    obtain ⟨g, hl, hg⟩ := gap_of_nextMember (mapError_eq_ok_iff.mp hn)
    cases more with
    | false =>
      cases h
      exact ⟨[], g, .nil hg, hl, rfl⟩
    | true =>
      simp only [if_true] at h hg
      obtain ⟨hg, hq⟩ := hg
      obtain ⟨⟨key, c2⟩, hk, h⟩ := bind_eq_ok_iff.mp h
      obtain ⟨⟨next, c3⟩, hv, h⟩ := bind_eq_ok_iff.mp h
      obtain ⟨name, hname, hl1⟩ := stringText_of_readString (mapError_eq_ok_iff.mp hk)
      obtain ⟨b, b', v, hb, hb', hl2, hs⟩ := hm _ _ _ _ _ hv
      obtain ⟨members, t, hp, hl3, hc⟩ := ih h
      refine ⟨(key, v) :: members, _, .cons hg ⟨_, b, b', hname, hb, hb', rfl⟩ hp, ?_, next, hs, hc⟩
      rw [hl, Cursor.rest_of_next? hq, hl1, hl2, hl3]
      simp

end PromptGateway.Json
