import Mathlib.Data.List.Nodup
import PromptGateway.Proofs.Text.Blank
import PromptGateway.Service.Platforms

/-! # Masks

Which field a path names, and which fields a mask selects. A path names at most one field, so a mask
selects the fields that its paths name, unless one of them names none.
-/

namespace PromptGateway

namespace Field

variable {given : String} {mask : List String} {named fields : List Field} {f g : Field}

def joined : Field → String
  | kind => "platformtype"
  | url => "url"
  | accessKey => "accesskey"
  | displayName => "displayname"
  | description => "description"
  | model => "model"

/--
A text names a field if it is the path of the field or, in letters of any case, the words of it
joined. Blanks around the text do not count.
-/
def Names (given : String) (f : Field) : Prop :=
  Text.trim given = f.path ∨ Text.lower (Text.trim given) = f.joined

theorem mem_all (f : Field) : f ∈ all := by cases f <;> decide

theorem path_injective : Function.Injective Field.path := fun f g h =>
  List.inj_on_of_nodup_map (show (all.map Field.path).Nodup by decide) (mem_all f) (mem_all g) h

theorem joined_injective : Function.Injective joined := fun f g h =>
  List.inj_on_of_nodup_map (show (all.map joined).Nodup by decide) (mem_all f) (mem_all g) h

theorem eq_of_lower_path (h : Text.lower f.path = g.joined) : f = g := by
  revert h
  cases f <;> cases g <;> decide

theorem Names.unique (hf : f.Names given) (hg : g.Names given) : f = g := by
  rcases hf with hf | hf <;> rcases hg with hg | hg
  · exact path_injective (hf.symm.trans hg)
  · exact eq_of_lower_path (hf ▸ hg)
  · exact (eq_of_lower_path (hg ▸ hf)).symm
  · exact joined_injective (hf.symm.trans hg)

theorem names_iff : f.Names given ↔ (f.path.toList == Text.trimChars given.toList ||
    Text.sameIgnoringCase (f.path.toList.filter (· != '_')) (Text.trimChars given.toList)) =
      true := by
  have hj : (f.path.toList.filter (· != '_')).map Text.lowerChar = f.joined.toList := by
    cases f <;> decide
  rw [Bool.or_eq_true, beq_iff_eq, Text.sameIgnoringCase, beq_iff_eq, hj, Names, Text.lower,
    Text.trim, String.toList_ofList, ← String.toList_inj, ← String.toList_inj,
    String.toList_ofList, String.toList_ofList]
  exact or_congr eq_comm eq_comm

theorem ofPath?_eq_some_iff : ofPath? given = some f ↔ f.Names given := by
  constructor
  · intro h
    have hm := List.find?_some h
    exact names_iff.mpr hm
  · intro h
    have hs : (ofPath? given).isSome := List.find?_isSome.mpr ⟨f, mem_all f, names_iff.mp h⟩
    obtain ⟨g, hg⟩ := Option.isSome_iff_exists.mp hs
    have hm := List.find?_some hg
    rw [hg, (names_iff.mpr hm).unique h]

theorem ofPath?_eq_none_iff : ofPath? given = none ↔ ∀ f : Field, ¬ f.Names given := by
  rw [Option.eq_none_iff_forall_ne_some]
  exact forall_congr' fun f => not_congr ofPath?_eq_some_iff

def AllName (mask : List String) : Prop := ∀ path ∈ mask, ∃ f : Field, f.Names path

theorem ofPaths_eq_ok (h : ofPaths named mask = .ok fields) :
    AllName mask ∧ ∀ f, f ∈ fields ↔ f ∈ named ∨ ∃ path ∈ mask, f.Names path := by
  induction mask generalizing named with
  | nil =>
    cases h
    exact ⟨nofun, fun f => by simp⟩
  | cons path rest ih =>
    rw [ofPaths] at h
    cases hp : ofPath? path with
    | none =>
      rw [hp] at h
      cases h
    | some g =>
      rw [hp] at h
      obtain ⟨hn, hf⟩ := ih h
      have hg : ∀ f : Field, f.Names path ↔ f = g := fun f =>
        ⟨fun hf => hf.unique (ofPath?_eq_some_iff.mp hp), fun he => he ▸ ofPath?_eq_some_iff.mp hp⟩
      refine ⟨List.forall_mem_cons.mpr ⟨⟨g, (hg g).mpr rfl⟩, hn⟩, fun f => ?_⟩
      rw [hf, List.exists_mem_cons_iff, hg]
      split
      · rename_i hm
        have hgn : g ∈ named := List.contains_iff_mem.mp hm
        constructor
        · rintro (hf | hf)
          · exact .inl hf
          · exact .inr (.inr hf)
        · rintro (hf | rfl | hf)
          · exact .inl hf
          · exact .inl hgn
          · exact .inr hf
      · rw [List.mem_append, List.mem_singleton, or_assoc]

/-- The first path of a mask that names no field. -/
def FirstUnknown (mask : List String) (path : String) : Prop :=
  ∃ before after, mask = before ++ path :: after ∧ AllName before ∧ ∀ f : Field, ¬ f.Names path

theorem ofPaths_eq_error (h : ofPaths named mask = .error given) : FirstUnknown mask given := by
  induction mask generalizing named with
  | nil => cases h
  | cons first rest ih =>
    rw [ofPaths] at h
    cases hp : ofPath? first with
    | none =>
      rw [hp] at h
      cases h
      exact ⟨[], rest, rfl, nofun, ofPath?_eq_none_iff.mp hp⟩
    | some g =>
      rw [hp] at h
      obtain ⟨before, after, rfl, hb, hn⟩ := ih h
      refine ⟨first :: before, after, rfl, ?_, hn⟩
      exact List.forall_mem_cons.mpr ⟨⟨g, ofPath?_eq_some_iff.mp hp⟩, hb⟩

end Field

namespace Platforms

variable {p : Profile} {mask : List String} {fields : List Field} {e : ServiceError}

/--
A mask selects the fields that its paths name. No mask selects all fields, but the credential only
if the profile brings one.
-/
def Selects (p : Profile) (mask : List String) (f : Field) : Prop :=
  mask = [] ∧ (f = .accessKey → Text.trim p.accessKey ≠ "") ∨ ∃ path ∈ mask, f.Names path

theorem maskedFields_cons (p : Profile) (path : String) (rest : List String) :
    maskedFields p (path :: rest) = (Field.ofPaths [] (path :: rest)).mapError fun bad =>
      .invalid ("unsupported update mask path: " ++ bad) := rfl

theorem maskedFields_eq_ok (h : maskedFields p mask = .ok fields) :
    Field.AllName mask ∧ ∀ f, f ∈ fields ↔ Selects p mask f := by
  cases mask with
  | nil =>
    cases h
    refine ⟨nofun, fun f => ?_⟩
    have hb : Text.allBlank p.accessKey = false ↔ Text.trim p.accessKey ≠ "" := by
      rw [ne_eq, Text.trim_eq_empty_iff, Bool.not_eq_true]
    simp only [Selects, List.mem_filter, Field.mem_all, true_and, ← hb]
    by_cases hf : f = .accessKey <;> simp [hf]
  | cons path rest =>
    rw [maskedFields_cons] at h
    cases hp : Field.ofPaths [] (path :: rest) with
    | error bad =>
      rw [hp] at h
      cases h
    | ok named =>
      rw [hp] at h
      cases h
      obtain ⟨hn, hf⟩ := Field.ofPaths_eq_ok hp
      refine ⟨hn, fun f => ?_⟩
      rw [hf, Selects]
      simp

theorem maskedFields_eq_error (h : maskedFields p mask = .error e) :
    ∃ path, Field.FirstUnknown mask path ∧
      e = .invalid ("unsupported update mask path: " ++ path) := by
  cases mask with
  | nil => cases h
  | cons path rest =>
    rw [maskedFields_cons] at h
    cases hp : Field.ofPaths [] (path :: rest) with
    | error bad =>
      rw [hp] at h
      cases h
      exact ⟨bad, Field.ofPaths_eq_error hp, rfl⟩
    | ok named =>
      rw [hp] at h
      cases h

end Platforms

end PromptGateway
