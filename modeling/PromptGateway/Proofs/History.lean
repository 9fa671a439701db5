import PromptGateway.Proofs.Outcome

/-! # Histories

What jobs that are carried out one after the other have done to the platforms of a registry that was
empty, and how the registry follows from it: numbers are given once, a platform is there from its
creation to its removal, and each of its fields has the text that was last written into it.
-/

namespace PromptGateway

/-- Something that was done to a platform, at a reading of the clock and with what was yielded. -/
inductive Deed
  | creation (p : Profile) (now : Moment) (q : Platform)
  | change (id : Int32) (p : Profile) (fields : List Field) (now : Moment) (q : Platform)
  | removal (id : Int32)

namespace Deed

def id : Deed → Int32
  | creation _ _ q => q.id
  | change id _ _ _ _ => id
  | removal id => id

def createdId? : Deed → Option Int32
  | creation _ _ q => some q.id
  | change _ _ _ _ _ | removal _ => none

def value? (f : Field) : Deed → Option String
  | creation p _ _ => some (p.trimmed.value f)
  | change _ p fields _ _ => if f ∈ fields then some (p.trimmed.value f) else none
  | removal _ => none

def written? : Deed → Option (Moment × Platform)
  | creation _ now q | change _ _ _ now q => some (now, q)
  | removal _ => none

end Deed

def Job.deed? (j : Job) (r : Response.Result) : Option Deed :=
  match j.operation, r with
  | .create p, .ok (.platform q) => some (.creation p j.world.clock.floor q)
  | .update id p mask, .ok (.platform q) =>
    (Platforms.maskedFields p mask).toOption.map (.change id p · j.world.clock.floor q)
  | .delete id, .ok .removed => some (.removal id)
  | _, _ => none

def Registry.after (g : Registry) (jobs : List Job) : Registry :=
  jobs.foldl (fun g j => (j.alone g).2) g

def Registry.deeds (g : Registry) : List Job → List Deed
  | [] => []
  | j :: jobs => (j.deed? (j.alone g).1).toList ++ (j.alone g).2.deeds jobs

/-- Whether something has happened, and nothing of another kind since. -/
def Since {α : Type} (P Q : α → Prop) (history : List α) : Prop :=
  ∃ before a after, history = before ++ a :: after ∧ P a ∧ ∀ b ∈ after, ¬ Q b

theorem since_concat {α : Type} {P Q : α → Prop} {history : List α} {a : α} :
    Since P Q (history ++ [a]) ↔ P a ∨ ¬ Q a ∧ Since P Q history := by
  constructor
  · rintro ⟨before, b, after, he, hp, hq⟩
    rcases List.eq_nil_or_concat after with rfl | ⟨after, c, rfl⟩
    · obtain ⟨-, hab⟩ := List.append_inj' he rfl
      obtain rfl : a = b := List.head_eq_of_cons_eq hab
      exact .inl hp
    · rw [List.concat_eq_append, ← List.cons_append, ← List.append_assoc] at he
      obtain ⟨rfl, hac⟩ := List.append_inj' he rfl
      obtain rfl : a = c := List.head_eq_of_cons_eq hac
      exact .inr ⟨hq a (by simp), before, b, after, rfl, hp, fun d hd => hq d (by simp [hd])⟩
  · rintro (hp | ⟨hq, before, b, after, rfl, hp, ha⟩)
    · exact ⟨history, a, [], rfl, hp, by simp⟩
    · refine ⟨before, b, after ++ [a], by simp, hp, fun c hc => ?_⟩
      rcases List.mem_append.mp hc with hc | hc
      · exact ha c hc
      · rwa [List.mem_singleton.mp hc]

/-- Whether a platform was created and not removed since. -/
def Live (deeds : List Deed) (id : Int32) : Prop :=
  Since (·.createdId? = some id) (· = .removal id) deeds

/-- That a platform is what was done to it. -/
structure Describes (deeds : List Deed) (q : Platform) : Prop where
  value : ∀ f, Since (fun d => d.id = q.id ∧ d.value? f = some (q.profile.value f))
    (fun d => d.id = q.id ∧ (d.value? f).isSome) deeds
  createdAt : ∃ p q', .creation p q.createdAt q' ∈ deeds ∧ q'.id = q.id ∧
    q'.createdAt = q.createdAt
  updatedAt : Since
    (fun d => d.id = q.id ∧ ∃ now q', d.written? = some (now, q') ∧
      q'.updatedAt = q.updatedAt ∧ q.updatedAt = now.latest q.createdAt)
    (fun d => d.id = q.id ∧ d.written?.isSome) deeds

/-- That a history tells whether a platform is there, and what it is. -/
structure Tells (deeds : List Deed) (g : Registry) (id : Int32) : Prop where
  live : Live deeds id ↔ (g.row? id.toInt).isSome
  describes : ∀ q, g.get id = .ok q → Describes deeds q

section Tells

variable {deeds : List Deed} {g g' : Registry} {id : Int32} {d : Deed} {q : Platform}
  {p : Profile} {now : Moment}

theorem Registry.id_of_get (h : g.get id = .ok q) : q.id = id := by
  obtain ⟨r, hr, hd⟩ := get_eq_ok_iff.mp h
  rw [← Int32.toInt_inj, (Row.decode_eq_ok_iff.mp hd).1, (mem_of_row?_eq_some hr).2]

theorem Registry.get_congr (h : g'.row? id.toInt = g.row? id.toInt) : g'.get id = g.get id := by
  rw [get, get, h]

/-- What is done to one platform says nothing of another. -/
theorem Tells.skip (h : Tells deeds g id) (hd : d.id ≠ id)
    (hr : g'.row? id.toInt = g.row? id.toInt) : Tells (deeds ++ [d]) g' id where
  live := by
    have hc : d.createdId? ≠ some id := by
      cases d <;> simp_all [Deed.createdId?, Deed.id]
    have hr' : d ≠ .removal id := by
      rintro rfl
      exact hd rfl
    rw [hr, ← h.live, Live, since_concat]
    simp [hc, hr', Live]
  describes q hq := by
    rw [Registry.get_congr hr] at hq
    have hd : d.id ≠ q.id := Registry.id_of_get hq ▸ hd
    obtain ⟨hv, ⟨p, q', hm, hi⟩, hu⟩ := h.describes q hq
    exact ⟨fun f => since_concat.mpr (.inr ⟨fun h => hd h.1, hv f⟩),
      ⟨p, q', List.mem_append_left _ hm, hi⟩, since_concat.mpr (.inr ⟨fun h => hd h.1, hu⟩)⟩

theorem Tells.create (hq : (Row.ofEntry (.ofProfile p now.floor) q.id.toInt).decode = .ok q)
    (hr : g'.row? q.id.toInt = some (Row.ofEntry (.ofProfile p now.floor) q.id.toInt)) :
    Tells (deeds ++ [.creation p now.floor q]) g' q.id where
  live := by
    rw [hr]
    exact iff_of_true (since_concat.mpr (.inl rfl)) rfl
  describes q' hq' := by
    obtain rfl : q = q' := by
      rw [Registry.get, hr] at hq'
      exact Except.ok.inj (hq.symm.trans hq')
    obtain ⟨_, hp, hc, hu⟩ := Row.decode_eq_ok_iff.mp hq
    rw [Row.profile_ofEntry] at hp
    have hc : now.floor = q.createdAt := Except.ok.inj ((Row.moment_seconds rfl).symm.trans hc)
    have hu : now.floor = q.updatedAt := Except.ok.inj ((Row.moment_seconds rfl).symm.trans hu)
    refine ⟨fun f => since_concat.mpr (.inl ⟨rfl, by rw [hp]; rfl⟩), ⟨p, q, ?_, rfl, rfl⟩,
      since_concat.mpr (.inl ⟨rfl, now.floor, q, rfl, rfl, ?_⟩)⟩
    · rw [← hc]
      exact List.mem_append_right _ List.mem_cons_self
    · rw [← hu, ← hc, Moment.latest, ite_self]

theorem Tells.remove (hr : g'.row? id.toInt = none) : Tells (deeds ++ [.removal id]) g' id where
  live := by
    rw [hr, Live, since_concat]
    simp [Deed.createdId?]
  describes q hq := by
    rw [Registry.get, hr] at hq
    cases hq

theorem Tells.change (h : Tells deeds g id) (hg : g.WellFormed) {fields : List Field} {r : Row}
    (hr : g.row? id.toInt = some r)
    (hq : (r.update (.ofProfile p fields (now.floor.latest q.createdAt))).decode = .ok q)
    (hr' : g'.row? id.toInt =
      some (r.update (.ofProfile p fields (now.floor.latest q.createdAt)))) :
    Tells (deeds ++ [.change id p fields now.floor q]) g' id where
  live := by
    have hl : Live deeds id := h.live.mpr (by rw [hr]; rfl)
    rw [hr']
    exact iff_of_true (since_concat.mpr (.inr ⟨nofun, hl⟩)) rfl
  describes q' hq' := by
    obtain rfl : q = q' := by
      rw [Registry.get, hr'] at hq'
      exact Except.ok.inj (hq.symm.trans hq')
    have hi : q.id = id := Registry.id_of_get hq'
    obtain ⟨old, ho⟩ := hg.exists_decode hr
    have hog : g.get id = .ok old := Registry.get_eq_ok_iff.mpr ⟨r, hr, ho⟩
    have hoi : old.id = id := Registry.id_of_get hog
    obtain ⟨hv, ⟨p', c, hm', hci, hcc⟩, _⟩ := h.describes old hog
    obtain ⟨-, hqp, hc, hqu⟩ := Row.decode_update ho hq
    rw [Changes.updatedAt_ofProfile] at hqu
    have hqc := (Row.decode_eq_ok_iff.mp hq).2.2.1
    have hn : (now.floor.latest q.createdAt).nanos = 0 :=
      Moment.nanos_latest rfl (Row.moment_eq_ok_iff.mp hqc).2
    have hu : now.floor.latest q.createdAt = q.updatedAt :=
      Except.ok.inj ((Row.moment_seconds hn).symm.trans hqu)
    refine ⟨fun f => ?_, ⟨p', c, ?_, ?_, ?_⟩, ?_⟩
    · have hf : q.profile.value f =
          if f ∈ fields then p.trimmed.value f else old.profile.value f := by
        rw [hqp, Changes.value_apply_ofProfile]
      rw [since_concat, hi, hf]
      by_cases hm : f ∈ fields
      · left
        simp [Deed.id, Deed.value?, hm]
      · right
        simpa [Deed.value?, hm, hoi] using hv f
    · rw [hc]
      exact List.mem_append_left _ hm'
    · rw [hci, hoi, hi]
    · rw [hcc, hc]
    · exact since_concat.mpr (.inl ⟨hi.symm, now.floor, q, rfl, rfl, hu.symm⟩)

end Tells

/-- What a history tells of a registry and of the numbers that were given. -/
structure Chronicle (deeds : List Deed) (g : Registry) : Prop where
  wellFormed : g.WellFormed
  tells : ∀ id, Tells deeds g id
  increasing : (deeds.filterMap Deed.createdId?).Pairwise (· < ·)
  le_lastId : ∀ id ∈ deeds.filterMap Deed.createdId?, id.toInt ≤ g.lastId

namespace Chronicle

variable {deeds : List Deed} {g : Registry}

theorem init : Chronicle [] {} where
  wellFormed := Registry.wellFormed_empty
  tells id := by
    refine ⟨iff_of_false ?_ (by simp [Registry.row?]), fun q hq => ?_⟩
    · rintro ⟨before, d, after, he, _⟩
      simp at he
    · simp [Registry.get, Registry.row?] at hq
  increasing := List.Pairwise.nil
  le_lastId := nofun

/-- What is done to one platform only has to be told of this one. -/
theorem tells_concat (h : Chronicle deeds g) {g' : Registry} {d : Deed}
    (hd : Tells (deeds ++ [d]) g' d.id)
    (hr : ∀ id : Int32, id.toInt ≠ d.id.toInt → g'.row? id.toInt = g.row? id.toInt) (id : Int32) :
    Tells (deeds ++ [d]) g' id := by
  by_cases hi : d.id = id
  · exact hi ▸ hd
  · exact (h.tells id).skip hi (hr id fun he => hi (Int32.toInt_inj.mp he).symm)

/-- A number that is given is higher than all that were given before. -/
theorem concat_creation (h : Chronicle deeds g) {p : Profile} {now : Moment} {q : Platform}
    (hid : q.id.toInt = g.lastId + 1)
    (hq : (Row.ofEntry (.ofProfile p now.floor) q.id.toInt).decode = .ok q)
    (hg : (g.put (Row.ofEntry (.ofProfile p now.floor) q.id.toInt)).WellFormed) :
    Chronicle (deeds ++ [.creation p now.floor q])
      (g.put (Row.ofEntry (.ofProfile p now.floor) q.id.toInt)) where
  wellFormed := hg
  tells := by
    refine h.tells_concat (.create hq ?_) fun id hi => Registry.row?_put_of_ne (Ne.symm hi)
    have hn : g.row? q.id.toInt = none := Registry.row?_eq_none_iff.mpr fun r hr => by
      have := h.wellFormed.id_le r hr
      omega
    rw [Registry.row?_put, hn]
    exact if_pos rfl
  increasing := by
    rw [List.filterMap_append, List.pairwise_append]
    refine ⟨h.increasing, List.pairwise_singleton _ _, fun a ha b hb => ?_⟩
    obtain rfl : b = q.id := List.mem_singleton.mp hb
    have := h.le_lastId a ha
    rw [Int32.lt_iff_toInt_lt]
    omega
  le_lastId a ha := by
    rw [List.filterMap_append] at ha
    change a.toInt ≤ max g.lastId q.id.toInt
    rcases List.mem_append.mp ha with ha | ha
    · exact (h.le_lastId a ha).trans (le_max_left _ _)
    · rw [List.mem_singleton.mp ha]
      exact le_max_right _ _

/-- What gives no number only has to be told. -/
theorem concat_of_createdId?_eq_none (h : Chronicle deeds g) {g' : Registry} {d : Deed}
    (hd : d.createdId? = none) (hg : g'.WellFormed) (hl : g.lastId ≤ g'.lastId)
    (ht : ∀ id, Tells (deeds ++ [d]) g' id) : Chronicle (deeds ++ [d]) g' := by
  have he : (deeds ++ [d]).filterMap Deed.createdId? = deeds.filterMap Deed.createdId? := by
    simp [hd]
  exact ⟨hg, ht, by rw [he]; exact h.increasing, fun id hid =>
    (h.le_lastId id (he ▸ hid)).trans hl⟩

/-- What a job does is told by its deed. -/
theorem step (h : Chronicle deeds g) (j : Job) :
    Chronicle (deeds ++ (j.deed? (j.alone g).1).toList) (j.alone g).2 := by
  have hw := j.operation.write_alone j.world g
  have hg := hw.wellFormed h.wellFormed
  have hl := hw.later.lastId_le
  have hy := j.operation.yields j.world h.wellFormed
  change Operation.Yields j.world g j.operation (j.alone g).1 (j.alone g).2 at hy
  change (j.alone g).2.WellFormed at hg
  change g.lastId ≤ (j.alone g).2.lastId at hl
  generalize (j.alone g).1 = res, (j.alone g).2 = g' at *
  obtain ⟨o, w⟩ := j
  cases hy with
  | created hid hq => exact h.concat_creation hid hq hg
  | @updated id p mask fields r q hm hr hq =>
    have hd : Job.deed? ⟨.update id p mask, w⟩ (.ok (.platform q)) =
        some (.change id p fields w.clock.floor q) := by
      simp [Job.deed?, hm, Except.toOption]
    rw [hd]
    refine h.concat_of_createdId?_eq_none rfl hg hl (h.tells_concat ?_ fun _ hi =>
      Registry.row?_update_of_ne hi)
    exact (h.tells id).change h.wellFormed hr hq (Registry.row?_update_self hr)
  | @deleted id r hr =>
    exact h.concat_of_createdId?_eq_none rfl hg hl (h.tells_concat
      (.remove Registry.row?_delete_self) fun _ hi => Registry.row?_delete_of_ne hi)
  | kept hw hk =>
    have hd : Job.deed? ⟨o, w⟩ res = none := by
      cases o with
      | create p | update id p mask | delete id =>
        obtain ⟨e, rfl⟩ := hw rfl
        rfl
      | _ => rfl
    rw [hd, Option.toList_none, List.append_nil]
    refine ⟨hg, fun id => ⟨?_, fun q hq => ?_⟩, h.increasing, fun id hid =>
      (h.le_lastId id hid).trans hl⟩
    · rw [hk]
      exact (h.tells id).live
    · rw [Registry.get_congr (hk id)] at hq
      exact (h.tells id).describes q hq

theorem after_concat (g : Registry) (jobs : List Job) (j : Job) :
    g.after (jobs ++ [j]) = (j.alone (g.after jobs)).2 := by
  simp [Registry.after]

theorem deeds_concat (g : Registry) (jobs : List Job) (j : Job) :
    g.deeds (jobs ++ [j]) =
      g.deeds jobs ++ (j.deed? (j.alone (g.after jobs)).1).toList := by
  induction jobs generalizing g with
  | nil => simp [Registry.deeds, Registry.after]
  | cons k jobs ih =>
    rw [List.cons_append, Registry.deeds, ih, Registry.deeds, List.append_assoc]
    rfl

/-- The deeds of all jobs so far tell what the registry is. -/
theorem after_empty (jobs : List Job) :
    Chronicle (Registry.deeds {} jobs) (Registry.after {} jobs) := by
  induction jobs using List.reverseRecOn with
  | nil => exact init
  | append_singleton jobs j ih =>
    rw [deeds_concat, after_concat]
    exact ih.step j

end Chronicle

namespace Registry

variable {g : Registry}

/-- That a registry answers, and that prompts are sent, as what was done to the platforms tells. -/
structure Recounts (g : Registry) (deeds : List Deed) : Prop where
  increasing : (deeds.filterMap Deed.createdId?).Pairwise (· < ·)
  get_live : ∀ (w : World) id, w.faults = [] → Live deeds id →
    ∃ q, ((Platforms.get id).runIn (w.on g)).1 = .ok q ∧ q.id = id ∧ Describes deeds q
  get_absent : ∀ (w : World) id, w.faults = [] → ¬ Live deeds id →
    ((Platforms.get id).runIn (w.on g)).1 = .error (.store (absent id))
  sent : ∀ (w : World) reference prompt givenUp, ∃ posts,
    ((Answers.generate reference prompt givenUp).runIn (w.on g)).2.sent = w.sent ++ posts ∧
    ∀ post ∈ posts, ∃ id q, Reference.read reference = .ok id ∧
      ((Platforms.get id).runIn (w.on g)).1 = .ok q ∧
      post.url = q.profile.url ∧ post.bearer? = some q.profile.accessKey ∧
      post.body.model = q.profile.model

theorem get_of_faults_eq_nil {w : World} (h : w.faults = []) (g : Registry) (id : Int32) :
    ((Platforms.get id).runIn (w.on g)).1 =
      (g.get id).mapError (.ofStore s!"get AI platform {id.toInt}") := by
  change ((Platforms.get id).run.alone w g).1 = _
  have hf : w.fault? .get = none := by rw [World.fault?, h]; rfl
  rw [Platforms.alone_get, World.ask_of_fault?_eq_none hf]
  rfl

/-- A request carries the address, the credential and the model of the platform as they are. -/
theorem WellFormed.request (hg : g.WellFormed) {id : Int32} {q : Platform} (hq : g.get id = .ok q)
    (prompt : String) :
    Answers.request q prompt =
      ⟨q.profile.url, some q.profile.accessKey, .ofPrompt q.profile.model prompt⟩ := by
  obtain ⟨r, hr, hd⟩ := get_eq_ok_iff.mp hq
  have hs := hg.sound r (mem_of_row?_eq_some hr).1
  have hp := (Row.decode_eq_ok_iff.mp hd).2.1
  have hu : Text.trim q.profile.url = q.profile.url := by
    rw [hp]
    exact hs.url
  have hk : q.hasAccessKey = true := by
    rw [Platform.hasAccessKey, bne_iff_ne]
    intro he
    have hb := hs.required .accessKey rfl
    rw [← hp, show q.profile.value .accessKey = "" from he] at hb
    exact absurd hb (by decide)
  simp [Answers.request, hu, hk]

end Registry

/-- A registry of which a history tells answers as it tells. -/
theorem Chronicle.recounts {deeds : List Deed} {g : Registry} (h : Chronicle deeds g) :
    g.Recounts deeds where
  increasing := h.increasing
  get_live w id hw hl := by
    obtain ⟨r, hr⟩ := Option.isSome_iff_exists.mp ((h.tells id).live.mp hl)
    obtain ⟨q, hq⟩ := h.wellFormed.exists_decode hr
    have hg : g.get id = .ok q := Registry.get_eq_ok_iff.mpr ⟨r, hr, hq⟩
    refine ⟨q, ?_, Registry.id_of_get hg, (h.tells id).describes q hg⟩
    rw [Registry.get_of_faults_eq_nil hw, hg]
    rfl
  get_absent w id hw hl := by
    have hr : g.row? id.toInt = none := by simpa [hl] using (h.tells id).live
    rw [Registry.get_of_faults_eq_nil hw, Registry.get, hr]
    rfl
  sent w reference prompt givenUp := by
    obtain ⟨posts, hs, hp⟩ := Answers.sent_generate reference prompt givenUp w g
    refine ⟨posts, hs, fun post hm => ?_⟩
    obtain ⟨id, q, hid, hq, rfl⟩ := hp post hm
    have hg : g.get id = .ok q := Registry.get_eq_ok_iff.mpr (World.ask_get_eq_ok hq)
    refine ⟨id, q, hid, ?_, ?_⟩
    · change ((Platforms.get id).run.alone w g).1 = _
      rw [Platforms.alone_get, hq]
      rfl
    · rw [h.wellFormed.request hg]
      exact ⟨rfl, rfl, rfl⟩

/-- A registry that was empty recounts the deeds of all jobs that were carried out on it. -/
theorem Registry.recounts_after (jobs : List Job) :
    (Registry.after {} jobs).Recounts (Registry.deeds {} jobs) :=
  (Chronicle.after_empty jobs).recounts

end PromptGateway
