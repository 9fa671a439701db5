import Mathlib.Algebra.Group.Int.Defs
import PromptGateway.Proofs.Platform
import PromptGateway.Registry.Row

/-! # Rows that are platforms

When a row stands for a platform and for which one, and the rows that the service writes: sound
ones, which stay sound under every change that the service makes.
-/

namespace PromptGateway

namespace Row

variable {r : Row} {p : Profile} {fields : List Field} {t : Moment}

theorem moment_eq_ok_iff {s : Int} {m : Moment} :
    moment s = .ok m ↔ m.seconds = s ∧ m.nanos = 0 := by
  unfold moment Moment.ofSeconds?
  by_cases h : -8334601228800 ≤ s ∧ s ≤ 8210266876799
  · rw [dif_pos h]
    constructor
    · rintro ⟨⟩
      exact ⟨rfl, rfl⟩
    · obtain ⟨_, _, _, _⟩ := m
      rintro ⟨rfl, rfl⟩
      rfl
  · rw [dif_neg h]
    constructor
    · rintro ⟨⟩
    · rintro ⟨rfl, _⟩
      exact absurd ⟨m.first_le, m.le_last⟩ h

theorem moment_seconds {m : Moment} (h : m.nanos = 0) : moment m.seconds = .ok m :=
  moment_eq_ok_iff.mpr ⟨rfl, h⟩

theorem number_eq_ok_iff {id : Int32} : r.number = .ok id ↔ id.toInt = r.id := by
  unfold number
  constructor
  · intro h
    split at h
    · cases h
      exact Int32.toInt_ofInt_of_le (by omega) (by omega)
    · cases h
  · intro h
    have hl := id.le_toInt
    have hu := id.toInt_lt
    rw [if_pos (by omega), ← h, Int32.ofInt_toInt]

/-- The platform that a row stands for has its number, its profile and its times. -/
theorem decode_eq_ok_iff {q : Platform} :
    r.decode = .ok q ↔ q.id.toInt = r.id ∧ q.profile = r.profile ∧
      moment r.createdTs = .ok q.createdAt ∧ moment r.updatedTs = .ok q.updatedAt := by
  rw [← number_eq_ok_iff, decode]
  obtain ⟨id, p, c, u⟩ := q
  cases hn : r.number with
  | error e => simp [bind, Except.bind]
  | ok id' =>
    cases hc : moment r.createdTs with
    | error e => simp [bind, Except.bind, decodeAs, hc]
    | ok c' =>
      cases hu : moment r.updatedTs with
      | error e => simp [bind, Except.bind, decodeAs, hc, hu]
      | ok u' =>
        simp only [bind, Except.bind, decodeAs, hc, hu, pure, Except.pure, Except.ok.injEq,
          Platform.mk.injEq]
        tauto

@[simp] theorem profile_update (r : Row) (c : Changes) :
    (r.update c).profile = c.apply r.profile := by
  cases h : c.kind? <;> simp [profile, update, Changes.apply, h]

@[simp] theorem profile_ofEntry (e : Entry) (id : Int) : (ofEntry e id).profile = e.profile := by
  simp [profile, ofEntry]

@[simp] theorem createdTs_update (r : Row) (c : Changes) :
    (r.update c).createdTs = r.createdTs := rfl

@[simp] theorem updatedTs_update (r : Row) (c : Changes) :
    (r.update c).updatedTs = c.updatedAt.seconds := rfl

/-- A change leaves the number and the time of creation of a platform as they are. -/
theorem decode_update {old q : Platform} {c : Changes} (ho : r.decode = .ok old)
    (hq : (r.update c).decode = .ok q) : q.id = old.id ∧ q.profile = c.apply old.profile ∧
      q.createdAt = old.createdAt ∧ moment c.updatedAt.seconds = .ok q.updatedAt := by
  obtain ⟨hi, hp, hc, -⟩ := decode_eq_ok_iff.mp ho
  obtain ⟨hi', hp', hc', hu⟩ := decode_eq_ok_iff.mp hq
  refine ⟨Int32.toInt_inj.mp (hi'.trans hi.symm), ?_, ?_, hu⟩
  · rw [hp', profile_update, hp]
  · exact Except.ok.inj (hc'.symm.trans hc)

/-- A row as the service writes it: required fields are not blank and the times are in order. -/
structure Sound (r : Row) : Prop where
  kindTag : r.kindTag = r.profile.kind.tag
  url : Text.trim r.url = r.url
  required : ∀ f : Field, f.isRequired = true → Text.allBlank (r.profile.value f) = false
  created : ∃ m, moment r.createdTs = .ok m
  updated : ∃ m, moment r.updatedTs = .ok m
  created_le_updated : r.createdTs ≤ r.updatedTs

theorem sound_ofEntry (hp : p.blankField? Field.all = none) (ht : t.nanos = 0) (id : Int) :
    (ofEntry (.ofProfile p t) id).Sound where
  kindTag := by
    rw [profile_ofEntry]
    rfl
  url := Text.trim_trim p.url
  required f hf := by
    rw [profile_ofEntry]
    have hm : f ∈ Field.all := by cases f <;> decide
    exact (p.allBlank_value_trimmed f).trans (Profile.blankField?_eq_none_iff.mp hp f hm hf)
  created := ⟨t, moment_seconds ht⟩
  updated := ⟨t, moment_seconds ht⟩
  created_le_updated := Int.le_refl _

theorem Sound.update (h : r.Sound) (hp : p.blankField? fields = none) (ht : t.nanos = 0)
    (hc : r.createdTs ≤ t.seconds) : (r.update (.ofProfile p fields t)).Sound where
  kindTag := by
    rw [profile_update]
    cases hk : (Changes.ofProfile p fields t).kind? <;>
      simp [Row.update, Changes.apply, hk, h.kindTag]
  url := by
    have hv := Changes.value_apply_ofProfile p r.profile fields t .url
    rw [← profile_update] at hv
    change (r.update _).url = _ at hv
    rw [hv]
    split
    · exact Text.trim_trim p.url
    · exact h.url
  required f hf := by
    rw [profile_update, Changes.value_apply_ofProfile]
    split
    · rename_i hm
      exact (p.allBlank_value_trimmed f).trans (Profile.blankField?_eq_none_iff.mp hp f hm hf)
    · exact h.required f hf
  created := h.created
  updated := ⟨t, by simpa using moment_seconds ht⟩
  created_le_updated := by simpa using hc

theorem Sound.exists_decode (h : r.Sound) (hl : -2 ^ 31 ≤ r.id) (hu : r.id < 2 ^ 31) :
    ∃ q, r.decode = .ok q := by
  obtain ⟨c, hc⟩ := h.created
  obtain ⟨u, hu'⟩ := h.updated
  exact ⟨⟨.ofInt r.id, r.profile, c, u⟩,
    decode_eq_ok_iff.mpr ⟨Int32.toInt_ofInt_of_le hl hu, rfl, hc, hu'⟩⟩

end Row

end PromptGateway
