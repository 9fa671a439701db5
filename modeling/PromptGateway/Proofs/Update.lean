import PromptGateway.Proofs.Decision
import PromptGateway.Proofs.Mask
import PromptGateway.Proofs.Moment
import PromptGateway.Proofs.Registry.Table
import PromptGateway.Proofs.Service

/-! # Updates

What an update comes to, and what it leaves of the table, in terms of the mask, the stored row and
the given profile. A failure leaves every row as it was. A success writes the selected columns of
one row and the time of its last change, and nothing else.
-/

namespace PromptGateway

namespace Row

variable {r : Row} {p : Profile} {fields : List Field} {t : Moment} {q : Platform}

def text (r : Row) : Field → String
  | .kind => r.kindTag
  | .url => r.url
  | .accessKey => r.accessKey
  | .displayName => r.displayName
  | .description => r.description
  | .model => r.model

theorem text_update (r : Row) (c : Changes) (f : Field) :
    (r.update c).text f = (c.value? f).getD (r.text f) := by
  cases f <;> rfl

theorem text_update_ofProfile (r : Row) (p : Profile) (fields : List Field) (t : Moment)
    (f : Field) : (r.update (.ofProfile p fields t)).text f =
      if f ∈ fields then p.trimmed.value f else r.text f := by
  rw [text_update, Changes.value?_ofProfile]
  split <;> rfl

/-- A platform whose row is changed stays one. -/
theorem exists_decode_update (h : r.decode = .ok q) (p : Profile) (fields : List Field)
    (ht : t.nanos = 0) : ∃ q', (r.update (.ofProfile p fields t)).decode = .ok q' := by
  obtain ⟨hi, -, hc, -⟩ := decode_eq_ok_iff.mp h
  refine ⟨⟨q.id, _, q.createdAt, t⟩, decode_eq_ok_iff.mpr ⟨hi, rfl, hc, ?_⟩⟩
  rw [updatedTs_update, Changes.updatedAt_ofProfile]
  exact moment_seconds ht

theorem ofStore_of_decode {e : StoreError} (h : r.decode = .error e) (operation : String) :
    ServiceError.ofStore operation e =
      .internal ("failed to " ++ operation ++ ": " ++ e.message) := by
  cases e with
  | notFound what => cases cls_of_decode h
  | storage reason => rfl
  | decoding reason => rfl

end Row

namespace Registry

variable {g : Registry} {id : Int32} {r : Row}

/-- A change replaces one row in its place. -/
theorem exists_update (hn : (g.rows.map Row.id).Nodup) (hr : g.row? id.toInt = some r)
    (c : Changes) : ∃ before after, g.rows = before ++ r :: after ∧
      g.update id c = ((r.update c).decode, { g with rows := before ++ r.update c :: after }) := by
  obtain ⟨hid, before, after, he, hb⟩ := List.find?_eq_some_iff_append.mp hr
  have hid : r.id = id.toInt := by simpa using hid
  rw [he, List.map_append, List.map_cons, List.nodup_append, List.nodup_cons] at hn
  obtain ⟨-, ⟨ha, -⟩, -⟩ := hn
  have keep (rows : List Row) (h : ∀ s ∈ rows, s.id ≠ id.toInt) :
      rows.map (fun s => if s.id = id.toInt then s.update c else s) = rows := by
    conv_rhs => rw [← List.map_id rows]
    exact List.map_congr_left fun s hs => if_neg (h s hs)
  have hb : ∀ s ∈ before, s.id ≠ id.toInt := fun s hs => by simpa using hb s hs
  have ha : ∀ s ∈ after, s.id ≠ id.toInt := fun s hs hsi =>
    ha (List.mem_map.mpr ⟨s, hs, hsi.trans hid.symm⟩)
  refine ⟨before, after, he, ?_⟩
  simp only [Registry.update, hr]
  rw [he, List.map_append, List.map_cons, keep before hb, keep after ha, if_pos hid]

end Registry

namespace Platforms

variable {p : Profile} {mask : List String} {w : World} {id : Int32} {now : Moment}

/-- What an update leaves of a row: the selected columns take the values of the profile. -/
structure Overwritten (p : Profile) (mask : List String) (now : Moment) (r r' : Row) : Prop where
  id : r'.id = r.id
  createdTs : r'.createdTs = r.createdTs
  updatedTs : r'.updatedTs = max now.seconds r.createdTs
  url : Selects p mask .url → r'.url = Text.trim p.url
  selected : ∀ f, f ≠ .url → Selects p mask f → r'.text f = p.value f
  others : ∀ f, ¬ Selects p mask f → r'.text f = r.text f

/-- What an update comes to on a registry, and the registry after it. -/
inductive Updated (g : Registry) (id : Int32) (p : Profile) (mask : List String) (now : Moment) :
    Except ServiceError Platform → Registry → Prop
  | unknown {path : String} (h : Field.FirstUnknown mask path) :
    Updated g id p mask now (.error (.invalid ("unsupported update mask path: " ++ path))) g
  | missing (hm : Field.AllName mask) (hr : g.row? id.toInt = none) :
    Updated g id p mask now (.error (.store (Registry.absent id))) g
  | broken {r : Row} {e : StoreError} (hm : Field.AllName mask) (hr : g.row? id.toInt = some r)
    (hd : r.decode = .error e) :
    Updated g id p mask now
      (.error (.internal (s!"failed to update AI platform {id.toInt}: " ++ e.message))) g
  | blank {r : Row} {old : Platform} {f : Field} (hm : Field.AllName mask)
    (hr : g.row? id.toInt = some r) (hd : r.decode = .ok old) (hs : Selects p mask f)
    (hf : f.isRequired = true) (hb : Text.trim (p.value f) = "") :
    Updated g id p mask now (.error (.invalid (f.path ++ " is required"))) g
  | written {r r' : Row} {old new : Platform} {before after : List Row}
    (hm : Field.AllName mask) (hr : g.row? id.toInt = some r) (hd : r.decode = .ok old)
    (hb : ∀ f, Selects p mask f → f.isRequired = true → Text.trim (p.value f) ≠ "")
    (hg : g.rows = before ++ r :: after) (hw : Overwritten p mask now r r')
    (hq : r'.decode = .ok new) :
    Updated g id p mask now (.ok new) { g with rows := before ++ r' :: after }

theorem overwritten_update {r : Row} {old : Platform} {fields : List Field}
    (hs : ∀ f, f ∈ fields ↔ Selects p mask f) (hd : r.decode = .ok old) (now : Moment) :
    Overwritten p mask now r
      (r.update (.ofProfile p fields (now.floor.latest old.createdAt))) where
  id := rfl
  createdTs := rfl
  updatedTs := by
    obtain ⟨-, -, hc, -⟩ := Row.decode_eq_ok_iff.mp hd
    rw [Row.updatedTs_update, Changes.updatedAt_ofProfile, Moment.seconds_latest,
      (Row.moment_eq_ok_iff.mp hc).1, Moment.seconds_floor]
  url h := (Row.text_update_ofProfile r p fields _ .url).trans (if_pos ((hs _).mpr h))
  selected f hf h := by
    rw [Row.text_update_ofProfile, if_pos ((hs f).mpr h), Profile.value_trimmed_of_ne p hf]
  others f h := by
    rw [Row.text_update_ofProfile, if_neg fun hf => h ((hs f).mp hf)]

/-- When no check fails, the row is written. -/
theorem Updated.of_blankField?_eq_none {g : Registry} {r : Row} {old : Platform}
    {fields : List Field} (hn : (g.rows.map Row.id).Nodup) (hm : Field.AllName mask)
    (hs : ∀ f, f ∈ fields ↔ Selects p mask f) (hr : g.row? id.toInt = some r)
    (hd : r.decode = .ok old) (hb : p.blankField? fields = none) (operation : String) :
    let changes := Changes.ofProfile p fields (now.floor.latest old.createdAt)
    Updated g id p mask now ((g.update id changes).1.mapError (.ofStore operation))
      (g.update id changes).2 := by
  intro changes
  obtain ⟨-, -, hc, -⟩ := Row.decode_eq_ok_iff.mp hd
  have ht : (now.floor.latest old.createdAt).nanos = 0 :=
    Moment.nanos_latest rfl (Row.moment_eq_ok_iff.mp hc).2
  obtain ⟨before, after, hg, hu⟩ := Registry.exists_update hn hr changes
  obtain ⟨new, hq⟩ := Row.exists_decode_update hd p fields ht
  rw [hu, hq]
  refine .written hm hr hd ?_ hg (overwritten_update hs hd now) hq
  intro f hf hreq hv
  rw [Text.trim_eq_empty_iff,
    Profile.blankField?_eq_none_iff.mp hb f ((hs f).mpr hf) hreq] at hv
  cases hv

/-- An update on a healthy registry comes to what its mask, the row and the profile say. -/
theorem updated_update (hf : w.faults = []) (hn : (w.registry.rows.map Row.id).Nodup)
    (id : Int32) (p : Profile) (mask : List String) :
    Updated w.registry id p mask w.clock ((update id p mask).runIn w).1
      ((update id p mask).runIn w).2.registry := by
  change Updated w.registry id p mask w.clock ((update id p mask).run.alone w w.registry).1
    ((update id p mask).run.alone w w.registry).2
  have hask (c : Call) : w.ask c w.registry = w.registry.perform c :=
    World.ask_of_fault?_eq_none (World.fault?_of_faults_eq_nil hf _) _
  rw [alone_update]
  cases hm : maskedFields p mask with
  | error e =>
    obtain ⟨path, hp, rfl⟩ := maskedFields_eq_error hm
    exact .unknown hp
  | ok fields =>
    obtain ⟨hm, hs⟩ := maskedFields_eq_ok hm
    simp only [hask, Registry.perform, Registry.get]
    cases hr : w.registry.row? id.toInt with
    | none => exact .missing hm hr
    | some r =>
      dsimp only
      cases hd : r.decode with
      | error e =>
        dsimp only
        rw [Row.ofStore_of_decode hd]
        exact .broken hm hr hd
      | ok old =>
        dsimp only
        cases hb : p.blankField? fields with
        | some f =>
          have hreq := List.find?_some hb
          rw [Bool.and_eq_true, ← Text.trim_eq_empty_iff] at hreq
          exact .blank hm hr hd ((hs f).mp (List.mem_of_find?_eq_some hb)) hreq.1 hreq.2
        | none => exact .of_blankField?_eq_none hn hm hs hr hd hb _

/-- A table with two rows, the kind of one of which is not written as a tag. -/
def twoRows : World :=
  let row (id : Int) (kindTag : String) : Row :=
    { id, kindTag, url := "u", accessKey := "k", displayName := "n", description := ""
      model := "m", createdTs := 5, updatedTs := 5 }
  { registry := { rows := [row 3 "openai ", row 7 "OLLAMA"], lastId := 9 } }

theorem updated_update_twoRows : twoRows.faults = [] ∧
    (twoRows.registry.rows.map Row.id).Nodup ∧
    Updated twoRows.registry 3 { url := " v " } [" URL ", "url"] twoRows.clock
      ((update 3 { url := " v " } [" URL ", "url"]).runIn twoRows).1
      ((update 3 { url := " v " } [" URL ", "url"]).runIn twoRows).2.registry ∧
    ((update 3 { url := " v " } [" URL ", "url"]).runIn twoRows).2.registry.rows.map
      (fun r => (r.id, r.kindTag, r.url, r.updatedTs)) =
        [(3, "openai ", "v", 5), (7, "OLLAMA", "u", 5)] :=
  ⟨rfl, by decide, updated_update rfl (by decide) 3 _ _, by decide⟩

end Platforms

end PromptGateway
