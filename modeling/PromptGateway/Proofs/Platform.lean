import PromptGateway.Proofs.Text.Blank
import PromptGateway.Platform

/-! # Profiles and changes

What the changes taken from a profile write: the selected fields take the values of the trimmed
profile and the others stay. A profile without a blank required field stays so when it is trimmed.
-/

namespace PromptGateway

namespace Kind

@[simp] theorem ofTag_tag (k : Kind) : ofTag k.tag = k := by cases k <;> decide

end Kind

namespace Profile

@[simp] theorem value_trimmed_url (p : Profile) : p.trimmed.value .url = Text.trim p.url := rfl

theorem value_trimmed_of_ne (p : Profile) {f : Field} (h : f ≠ .url) :
    p.trimmed.value f = p.value f := by
  cases f <;> first | rfl | exact absurd rfl h

@[simp] theorem allBlank_value_trimmed (p : Profile) (f : Field) :
    Text.allBlank (p.trimmed.value f) = Text.allBlank (p.value f) := by
  by_cases h : f = .url
  · subst h
    exact Text.allBlank_trim p.url
  · rw [value_trimmed_of_ne p h]

theorem blankField?_eq_none_iff {p : Profile} {fields : List Field} :
    p.blankField? fields = none ↔
      ∀ f ∈ fields, f.isRequired = true → Text.allBlank (p.value f) = false := by
  simp [blankField?, List.find?_eq_none]

end Profile

namespace Changes

@[simp] theorem value?_set (c : Changes) (p : Profile) (f g : Field) :
    (c.set p f).value? g = if g = f then some (p.value g) else c.value? g := by
  cases f <;> cases g <;> rfl

@[simp] theorem updatedAt_set (c : Changes) (p : Profile) (f : Field) :
    (c.set p f).updatedAt = c.updatedAt := by
  cases f <;> rfl

theorem value?_foldl_set (p : Profile) (fields : List Field) (c : Changes) (g : Field) :
    (fields.foldl (fun c f => c.set p f) c).value? g =
      if g ∈ fields then some (p.value g) else c.value? g := by
  induction fields generalizing c with
  | nil => simp
  | cons f fields ih =>
    rw [List.foldl_cons, ih, value?_set]
    by_cases hm : g ∈ fields
    · simp [hm]
    · by_cases hf : g = f <;> simp [hm, hf]

theorem updatedAt_foldl_set (p : Profile) (fields : List Field) (c : Changes) :
    (fields.foldl (fun c f => c.set p f) c).updatedAt = c.updatedAt := by
  induction fields generalizing c with
  | nil => rfl
  | cons f fields ih => rw [List.foldl_cons, ih, updatedAt_set]

/-- Changes write exactly the fields that they were made for. -/
theorem value?_ofProfile (p : Profile) (fields : List Field) (t : Moment) (f : Field) :
    (ofProfile p fields t).value? f = if f ∈ fields then some (p.trimmed.value f) else none := by
  rw [ofProfile, value?_foldl_set]
  cases f <;> rfl

@[simp] theorem updatedAt_ofProfile (p : Profile) (fields : List Field) (t : Moment) :
    (ofProfile p fields t).updatedAt = t :=
  updatedAt_foldl_set _ _ _

theorem value_apply (c : Changes) (p : Profile) (f : Field) :
    (c.apply p).value f = (c.value? f).getD (p.value f) := by
  cases f with
  | kind => cases h : c.kind? <;> simp [apply, value?, Profile.value, h]
  | _ => rfl

theorem value_apply_ofProfile (p q : Profile) (fields : List Field) (t : Moment) (f : Field) :
    ((ofProfile p fields t).apply q).value f =
      if f ∈ fields then p.trimmed.value f else q.value f := by
  rw [value_apply, value?_ofProfile]
  split <;> rfl

end Changes

end PromptGateway
