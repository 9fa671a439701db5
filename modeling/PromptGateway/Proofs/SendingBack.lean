import PromptGateway.Proofs.Api.Answer
import PromptGateway.Proofs.Api.View
import PromptGateway.Proofs.Concurrency.Invariant
import PromptGateway.Proofs.Creation
import PromptGateway.Proofs.Reference

/-! # Sending back what was read

The view of a platform leaves out its credential and tells what no caller may write. Sent back as
the new values of an update it changes nothing all the same: what it tells beyond the profile is
passed over, and a credential that is not given stays.
-/

namespace PromptGateway

/-! ## Updates with what was shown -/

/-- A profile as views show it. -/
def Profile.shown (p : Profile) : Profile := { p with accessKey := "" }

/-- The fields that an update without a mask writes when no credential is given. -/
def Field.shown : List Field := [kind, url, displayName, description, model]

theorem Platforms.maskedFields_shown (p : Profile) : maskedFields p.shown [] = .ok Field.shown :=
  rfl

namespace Row

variable {r : Row}

theorem Sound.blankField?_shown (h : r.Sound) :
    r.profile.shown.blankField? Field.shown = none := by
  rw [Profile.blankField?_eq_none_iff]
  intro f hf hr
  cases f with
  | kind => cases hr
  | url => exact h.required .url rfl
  | accessKey => exact absurd hf (by decide)
  | displayName => exact h.required .displayName rfl
  | description => cases hr
  | model => exact h.required .model rfl

/-- All that such an update writes into a row of the service is the time. -/
theorem Sound.update_shown (h : r.Sound) (t : Moment) :
    r.update (.ofProfile r.profile.shown Field.shown t) = { r with updatedTs := t.seconds } := by
  have hk : r.profile.kind.tag = r.kindTag := h.kindTag.symm
  have hu : Text.trim r.url = r.url := h.url
  simp only [Row.update, Changes.ofProfile, Field.shown, Profile.shown, List.foldl_cons,
    List.foldl_nil, Changes.set, Profile.trimmed, Option.map_some, Option.getD_some,
    Option.getD_none, hk]
  simp only [Row.profile, hu]

end Row

namespace Registry

variable {g : Registry} {id : Int32} {r : Row} {q : Platform}

/-- A registry in which a platform was written to at a moment, and nothing else has changed. -/
def touched (g : Registry) (id : Int32) (now : Moment) : Registry :=
  { g with rows := g.rows.map fun s =>
      if s.id = id.toInt then { s with updatedTs := max now.seconds s.createdTs } else s }

theorem WellFormed.update_shown (hg : g.WellFormed) (hr : g.row? id.toInt = some r)
    (hq : r.decode = .ok q) {t now : Moment} (ht : t.nanos = 0)
    (hs : t.seconds = max now.seconds r.createdTs) :
    ∃ q', g.update id (.ofProfile q.profile.shown Field.shown t) = (.ok q', g.touched id now) := by
  obtain ⟨hm, hid⟩ := mem_of_row?_eq_some hr
  have hp : q.profile = r.profile := (Row.decode_eq_ok_iff.mp hq).2.1
  have hu := (hg.sound r hm).update_shown t
  have hsound : (r.update (.ofProfile r.profile.shown Field.shown t)).Sound :=
    (hg.sound r hm).update (hg.sound r hm).blankField?_shown ht (by rw [hs]; exact le_max_right _ _)
  obtain ⟨q', hq'⟩ := hsound.exists_decode (by rw [hu]; exact hid ▸ id.le_toInt)
    (by rw [hu]; exact hid ▸ id.toInt_lt)
  refine ⟨q', ?_⟩
  rw [hp]
  simp only [Registry.update, hr, hq', touched]
  refine congrArg (Except.ok q', Registry.mk · g.lastId) (List.map_congr_left fun s hsm => ?_)
  split
  · -- only the row itself has its number
    rename_i hsid
    obtain rfl : s = r := by
      have := (row?_eq_some_iff hg).mpr ⟨hsm, hsid⟩
      exact Option.some.inj (this.symm.trans hr)
    rw [hu, hs]
  · rfl

end Registry

namespace Platforms

variable {v : World} {g : Registry} {id : Int32} {r : Row} {q : Platform}

theorem alone_update_shown (hv : v.faults = []) (hg : g.WellFormed)
    (hr : g.row? id.toInt = some r) (hq : r.decode = .ok q) :
    ∃ q', (update id q.profile.shown []).run.alone v g = (.ok q', g.touched id v.clock) := by
  have hp : q.profile = r.profile := (Row.decode_eq_ok_iff.mp hq).2.1
  obtain ⟨hc, hn⟩ := Row.moment_eq_ok_iff.mp (Row.decode_eq_ok_iff.mp hq).2.2.1
  have hs : (v.clock.floor.latest q.createdAt).seconds = max v.clock.seconds r.createdTs := by
    rw [Moment.seconds_latest, hc]
    rfl
  obtain ⟨q', hu⟩ := hg.update_shown hr hq (Moment.nanos_latest rfl hn) hs
  have hb : q.profile.shown.blankField? Field.shown = none := by
    rw [hp]
    exact (hg.sound r (Registry.mem_of_row?_eq_some hr).1).blankField?_shown
  have hget : g.get id = .ok q := Registry.get_eq_ok_iff.mpr ⟨r, hr, hq⟩
  refine ⟨q', ?_⟩
  rw [alone_update, maskedFields_shown]
  simp only [World.ask_of_fault?_eq_none (World.fault?_of_faults_eq_nil hv _), Registry.perform,
    hget, hb, hu]
  rfl

end Platforms

theorem Platform.profileOf_view (q : Platform) :
    Api.profileOf (Api.PlatformView.of q).profile = q.profile.shown := by
  simp [Api.profileOf, Api.PlatformView.profile, Api.PlatformView.of, Profile.shown]

namespace Api

section Requests

variable (segment body : String) (headers : List (String × String)) (origins : Origins)

@[simp] theorem Origins.status_mark (r : Request) (response : Response) :
    (origins.mark r response).status = response.status := rfl

@[simp] theorem Origins.body_mark (r : Request) (response : Response) :
    (origins.mark r response).body = response.body := rfl

@[simp] theorem Response.body_json (status : Nat) (text : String) :
    (json status text).body = text := rfl

def showing : Request :=
  { method := "GET", target := "/api/ai-platforms/" ++ segment, headers }

def changing : Request :=
  { method := "PATCH", target := "/api/ai-platforms/" ++ segment, headers
    body := Utf8.encode body }

variable {segment body headers} {reference : String} {id : Int32} (w : World)

theorem ne_empty_of_read (h : Reference.read reference = .ok id) : reference ≠ "" := by
  rintro rfl
  cases h

theorem platformNumber_of_read (h : Reference.read reference = .ok id) :
    platformNumber reference = pure id := by
  rw [platformNumber, h]

/-- What comes of a request for the platform with a number. -/
theorem runIn_showing (headers : List (String × String)) (hs : Spells segment reference)
    (hid : Reference.read reference = .ok id) :
    ∃ w', (answer origins (showing segment headers)).runIn w =
      (origins.mark (showing segment headers) (told (fun q => .json 200 (PlatformView.of q).text)
        ((Platforms.get id).runIn w).1), w') ∧
      w'.registry = ((Platforms.get id).runIn w).2.registry := by
  refine runIn_platform_serve origins hs (ne_empty_of_read hid) rfl (by simp [showing]) ?_
  change showPlatform reference = _
  rw [showPlatform, platformNumber_of_read hid]
  rfl

/-- The change of a platform to what its body is understood as. -/
theorem runIn_changing_of_json (hs : Spells segment reference)
    (hid : Reference.read reference = .ok id) {members : profileShape.Carrier} {mask : List String}
    (hb : (changing segment body headers).json updateShape = .ok (members, mask, ())) :
    ∃ w', (answer origins (changing segment body headers)).runIn w =
      (origins.mark (changing segment body headers)
        (told (fun q => .json 200 (PlatformView.of q).text)
          ((Platforms.update id (profileOf members) mask).runIn w).1), w') ∧
      w'.registry = ((Platforms.update id (profileOf members) mask).runIn w).2.registry := by
  refine runIn_platform_serve origins hs (ne_empty_of_read hid) rfl (by simp [changing]) ?_
  change changePlatform reference (changing segment body headers) = _
  rw [changePlatform, platformNumber_of_read hid, hb]
  rfl

/-- A change whose body is too long is refused. -/
theorem runIn_changing_of_maxBodySize_lt (hs : Spells segment reference)
    (hid : Reference.read reference = .ok id)
    (hl : maxBodySize < (changing segment body headers).body.length) :
    ((answer origins (changing segment body headers)).runIn w).1.status = 400 ∧
      ((answer origins (changing segment body headers)).runIn w).2 = w := by
  obtain ⟨reason, hb⟩ := Request.json_of_maxBodySize_lt hl updateShape
  have hh : platformHandler reference (changing segment body headers) =
      throw (.badRequest reason) := by
    change changePlatform reference (changing segment body headers) = _
    rw [changePlatform, platformNumber_of_read hid, hb]
    rfl
  rw [runIn_platform origins hs (ne_empty_of_read hid) rfl (by simp [changing]) hh]
  exact ⟨rfl, rfl⟩

theorem json_changing (e : Envelope) (v : PlatformView)
    (hj : (changing segment (e.around v.text) headers).isJson = true)
    (hl : (changing segment (e.around v.text) headers).body.length ≤ maxBodySize) :
    (changing segment (e.around v.text) headers).json updateShape = .ok (v.profile, [], ()) :=
  Request.json_of_spelled (e.spelled_around v.spelled_text) (by decide) (by decide) hj hl
    (by rw [changing])

end Requests

end Api

section Reading

open Api

variable {moves : List Move} {w v : World} {id : Int32} {r : Row} {q : Platform}
  (origins : Origins) (headers : List (String × String))

theorem wellFormed_run (moves : List Move) : (System.run {} moves).registry.WellFormed := by
  obtain ⟨_, he, _⟩ := exists_explains Registry.wellFormed_empty moves
  exact he.wellFormed

theorem Registry.WellFormed.spells_toString {g : Registry} (hg : g.WellFormed)
    (hr : g.row? id.toInt = some r) : Spells (toString id.toInt) (toString id.toInt) ∧
      Reference.read (toString id.toInt) = .ok id := by
  obtain ⟨hm, hid⟩ := Registry.mem_of_row?_eq_some hr
  have h0 : 0 ≤ id.toInt := hid ▸ (hg.id_pos r hm).le
  refine ⟨?_, Reference.read_toString h0⟩
  obtain ⟨n, hn⟩ := Int.eq_ofNat_of_zero_le h0
  rw [hn]
  exact Api.spells_toString n

/-- A platform is shown as it is in the registry, which stays as it is. -/
theorem runIn_showing_row (hw : w.faults = []) (hg : w.registry.WellFormed)
    (hr : w.registry.row? id.toInt = some r) (hq : r.decode = .ok q) :
    ∃ w', (answer origins (showing (toString id.toInt) headers)).runIn w =
      (origins.mark (showing (toString id.toInt) headers)
        (.json 200 (PlatformView.of q).text), w') ∧
      w'.registry = w.registry := by
  obtain ⟨hs, hid⟩ := hg.spells_toString hr
  obtain ⟨w', hsh, hg'⟩ := runIn_showing origins w headers hs hid
  have ha : (Platforms.get id).run.alone w w.registry = (.ok q, w.registry) := by
    rw [Platforms.alone_get, World.ask_of_fault?_eq_none (World.fault?_of_faults_eq_nil hw _),
      Registry.perform, Registry.get_eq_ok_iff.mpr ⟨r, hr, hq⟩]
    rfl
  obtain ⟨hres, hreg⟩ := Action.runIn_of_alone ha
  rw [hres] at hsh
  exact ⟨w', hsh, hg'.trans hreg⟩

/-- A change to what the platform shows sets the time of the last change. -/
theorem runIn_changing_row (hv : v.faults = []) (hg : v.registry.WellFormed)
    (hr : v.registry.row? id.toInt = some r) (hq : r.decode = .ok q) {body : String}
    (hb : (changing (toString id.toInt) body headers).json updateShape =
      .ok ((PlatformView.of q).profile, [], ())) :
    ((answer origins (changing (toString id.toInt) body headers)).runIn v).1.status = 200 ∧
      ((answer origins (changing (toString id.toInt) body headers)).runIn v).2.registry =
        v.registry.touched id v.clock := by
  obtain ⟨hs, hid⟩ := hg.spells_toString hr
  obtain ⟨q', ha⟩ := Platforms.alone_update_shown hv hg hr hq
  obtain ⟨v', hch, hg'⟩ := runIn_changing_of_json origins v hs hid hb
  rw [Platform.profileOf_view] at hch hg'
  obtain ⟨hres, hreg⟩ := Action.runIn_of_alone ha
  rw [hres] at hch
  rw [hch]
  exact ⟨rfl, hg'.trans hreg⟩

/--
What is read of a platform and sent back as its new values changes nothing but the time of the last
change, unless it makes a body that is too long, which is refused.
-/
theorem sending_back (hr : (System.run {} moves).registry.row? id.toInt = some r)
    (hw : w.faults = []) (hwr : w.registry = (System.run {} moves).registry)
    (hv : v.faults = []) (hvr : v.registry = (System.run {} moves).registry) :
    let number := toString id.toInt
    let shown := (answer origins (showing number headers)).runIn w
    shown.1.status = 200 ∧ shown.2.registry = w.registry ∧
      ∀ (e : Envelope) (headers' : List (String × String)),
        let change := changing number (e.around shown.1.body) headers'
        let changed := (answer origins change).runIn v
        (change.isJson = true → change.body.length ≤ maxBodySize →
          changed.1.status = 200 ∧ changed.2.registry = v.registry.touched id v.clock) ∧
        (maxBodySize < change.body.length →
          changed.1.status = 400 ∧ changed.2.registry = v.registry) := by
  have hg := wellFormed_run moves
  obtain ⟨q, hq⟩ := hg.exists_decode hr
  obtain ⟨hs, hid⟩ := hg.spells_toString hr
  obtain ⟨w', hsh, hgw⟩ := runIn_showing_row origins headers hw (hwr ▸ hg) (hwr ▸ hr) hq
  simp only [hsh, Origins.status_mark, Origins.body_mark, Response.body_json]
  refine ⟨rfl, hgw, fun e headers' => ⟨fun hj hl => ?_, fun hl => ?_⟩⟩
  · have hb := json_changing e (PlatformView.of q) hj hl
    exact runIn_changing_row origins headers' hv (hvr ▸ hg) (hvr ▸ hr) hq hb
  · obtain ⟨hst, hgv⟩ := runIn_changing_of_maxBodySize_lt origins v hs hid hl
    exact ⟨hst, congrArg World.registry hgv⟩

def Profile.ofModel (model : String) : Profile :=
  { url := "http://h", accessKey := "k", displayName := "d", model }

def storing (model : String) : List Move :=
  [.start ⟨.create (.ofModel model), {}⟩, .advance 0, .advance 0]

theorem registry_storing {model : String} (h : Text.allBlank model = false) :
    (System.run {} (storing model)).registry =
      { rows := [.ofEntry (.ofProfile (.ofModel model) .epoch) 1], lastId := 1 } := by
  have hb : (Profile.ofModel model).blankField? Field.all = none := by
    rw [Profile.blankField?_eq_none_iff]
    intro f _ hf
    cases f with
    | model => exact h
    | kind | description => cases hf
    | url => exact (by decide : Text.allBlank "http://h" = false)
    | accessKey => exact (by decide : Text.allBlank "k" = false)
    | displayName => exact (by decide : Text.allBlank "d" = false)
  have hc : (Registry.mk [] 0).Counted [] := ⟨le_rfl, nofun, nofun⟩
  obtain ⟨q, -, -, -, -, -, hi⟩ := Registry.insert_of_lt (p := .ofModel model) hc (by decide)
    (Moment.nanos_floor .epoch)
  have hp := Platforms.run_create (.ofModel model)
  rw [hb] at hp
  have hr : (System.run {} (storing model)).registry =
      (Registry.insert {} (.ofProfile (.ofModel model) (Moment.floor .epoch))).2 := by
    simp only [storing, System.run, List.foldl_cons, List.foldl_nil, System.move, Job.begin,
      Operation.program, hp]
    rfl
  rw [hr, hi]
  rfl

def stored (model : String) (clock : Moment) : World :=
  { registry := (System.run {} (storing model)).registry, clock }

theorem sending_back_stored :
    let shown := (answer .all (showing "1" [])).runIn (stored "m" .epoch)
    let change := changing "1" (Envelope.bare.around shown.1.body)
      [("content-type", "application/json")]
    let changed := (answer .all change).runIn (stored "m" { seconds := 7 })
    shown.1.status = 200 ∧ changed.1.status = 200 ∧
      changed.2.registry = (stored "m" { seconds := 7 }).registry.touched 1 { seconds := 7 } := by
  have hr : (stored "m" .epoch).registry.row? (1 : Int32).toInt =
      some (.ofEntry (.ofProfile (.ofModel "m") .epoch) 1) := by
    rw [stored, registry_storing (by decide)]
    rfl
  have h := sending_back .all [] hr (w := stored "m" .epoch) rfl rfl
    (v := stored "m" { seconds := 7 }) rfl rfl
  rw [show toString (1 : Int32).toInt = "1" from by decide] at h
  obtain ⟨hs, -, h⟩ := h
  have hl : (changing "1" (Envelope.bare.around
      ((answer .all (showing "1" [])).runIn (stored "m" .epoch)).1.body)
        [("content-type", "application/json")]).body.length ≤ maxBodySize := by
    decide +kernel
  exact ⟨hs, (h .bare _).1 rfl hl⟩

/-- The body of a change is longer than the model that is sent back in it. -/
theorem length_model_lt_body (e : Envelope) (q : Platform) (segment : String) :
    q.profile.model.toList.length <
      (changing segment (e.around (PlatformView.of q).text) headers).body.length :=
  calc q.profile.model.toList.length < (PlatformView.of q).text.toList.length :=
        (PlatformView.of q).length_model_lt
    _ < (e.around (PlatformView.of q).text).toList.length := e.length_lt_around _
    _ ≤ _ := Utf8.length_le_encodeChars _

/-- With a model that is too long, a platform is shown but not taken back. -/
theorem refused_of_maxBodySize_le {model : String} (hb : Text.allBlank model = false)
    (hl : maxBodySize ≤ model.toList.length) :
    let w := stored model .epoch
    let shown := (answer .all (showing "1" [])).runIn w
    let change := changing "1" (Envelope.bare.around shown.1.body)
      [("content-type", "application/json")]
    shown.1.status = 200 ∧ change.isJson = true ∧
      ((answer .all change).runIn w).1.status = 400 := by
  have hg : (stored model .epoch).registry.WellFormed := wellFormed_run (storing model)
  have hr : (stored model .epoch).registry.row? (1 : Int32).toInt =
      some (.ofEntry (.ofProfile (.ofModel model) .epoch) 1) := by
    rw [stored, registry_storing hb]
    rfl
  obtain ⟨q, hq⟩ := hg.exists_decode hr
  have hm : q.profile.model = model := by
    rw [(Row.decode_eq_ok_iff.mp hq).2.1]
    rfl
  have hn : toString (1 : Int32).toInt = "1" := by decide
  obtain ⟨hs, hid⟩ := hg.spells_toString hr
  obtain ⟨w', hsh, -⟩ := runIn_showing_row .all [] rfl hg hr hq
  rw [hn] at hs hid hsh
  simp only [hsh]
  refine ⟨rfl, rfl, (runIn_changing_of_maxBodySize_lt .all _ hs hid ?_).1⟩
  rw [← hm] at hl
  exact Nat.lt_of_le_of_lt hl (length_model_lt_body _ .bare q "1")

theorem sending_back_refused :
    let w := stored (String.ofList (List.replicate maxBodySize 'm')) .epoch
    let shown := (answer .all (showing "1" [])).runIn w
    let change := changing "1" (Envelope.bare.around shown.1.body)
      [("content-type", "application/json")]
    shown.1.status = 200 ∧ change.isJson = true ∧
      ((answer .all change).runIn w).1.status = 400 := by
  refine refused_of_maxBodySize_le ?_ ?_
  · rw [Text.allBlank, String.toList_ofList, List.all_replicate, if_neg (by decide)]
    decide
  · rw [String.toList_ofList, List.length_replicate]

end Reading

end PromptGateway
