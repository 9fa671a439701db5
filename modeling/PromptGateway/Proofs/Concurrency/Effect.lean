import PromptGateway.Proofs.Operation

/-! # Taking effect

While others change the registry between its effects, an operation is pending until one of its
effects does what the whole operation would do alone at that moment; from then on it is settled.
Operations that ask the registry once take effect when they ask. A change takes effect when it
fails to find its row, or else when it writes: the time of creation that it has read cannot have
changed.
-/

namespace PromptGateway

namespace Program

variable {α β : Type} {spec : Registry → α × Registry} {p : Program α} {w : World} {g g' : Registry}

/--
A program that has not taken effect. At each registry later than `g` in which it goes on, it leaves
the registry as it is and stays pending, or it does what `spec` says and is settled.
-/
def Pending (spec : Registry → α × Registry) : Program α → World → Registry → Prop
  | done _, _, _ => False
  | step e next, w, g => ∀ g', g'.WellFormed → g.Later g' →
    ((World.perform e (w.on g')).2.registry = g' ∧
      (next (World.perform e (w.on g')).1).Pending spec (World.perform e (w.on g')).2 g') ∨
    ∃ a, spec g' = (a, (World.perform e (w.on g')).2.registry) ∧
      (next (World.perform e (w.on g')).1).Settled (World.perform e (w.on g')).2 a

theorem pending_on : p.Pending spec (w.on g') g ↔ p.Pending spec w g := by
  cases p <;> rfl

theorem Pending.mono (h : p.Pending spec w g) (hl : g.Later g') : p.Pending spec w g' := by
  cases p with
  | done a => exact h
  | step e next => exact fun g'' hw hl' => h g'' hw (hl.trans hl')

theorem pending_step {e : Effect} (he : e.isStore = false) {next : e.Answer → Program α}
    (h : (next (World.perform e w).1).Pending spec (World.perform e w).2 g) :
    (step e next).Pending spec w g := by
  intro g' _ hl
  rw [World.perform_on he]
  exact .inl ⟨rfl, pending_on.mpr (h.mono hl)⟩

theorem pending_now {next : Moment → Program α} (h : (next w.clock).Pending spec w g) :
    (step .now next).Pending spec w g :=
  pending_step rfl h

theorem pending_note {e : Event} {next : Unit → Program α}
    (h : (next ()).Pending spec (w.tell e) g) : (step (.note e) next).Pending spec w g :=
  pending_step rfl h

theorem settled_now {next : Moment → Program α} {a : α} (h : (next w.clock).Settled w a) :
    (step .now next).Settled w a :=
  settled_step rfl h

theorem settled_note {e : Event} {next : Unit → Program α} {a : α}
    (h : (next ()).Settled (w.tell e) a) : (step (.note e) next).Settled w a :=
  settled_step rfl h

theorem pending_store {c : Call} {next : Except StoreError c.Result → Program α}
    (h : ∀ g', g'.WellFormed → g.Later g' →
      ((w.ask c g').2 = g' ∧ (next (w.ask c g').1).Pending spec w g') ∨
      ∃ a, spec g' = (a, (w.ask c g').2) ∧ (next (w.ask c g').1).Settled w a) :
    (step (.store c) next).Pending spec w g := by
  intro g' hw hl
  simpa only [World.perform_store, World.registry_on, pending_on, settled_on] using h g' hw hl

theorem settled_store_of_fault {c : Call} {next : Except StoreError c.Result → Program α}
    {e : StoreError} (he : w.fault? c.method = some e) {a : α} (h : (next (.error e)).Settled w a) :
    (step (.store c) next).Settled w a := by
  intro g
  rw [World.perform_store, World.ask_of_fault?_eq_some he, settled_on]
  exact ⟨rfl, h⟩

theorem Settled.map {a : α} (h : p.Settled w a) (f : α → β) : (f <$> p).Settled w (f a) := by
  induction p generalizing w with
  | done b => exact congrArg f h
  | step e next ih => exact fun g => ⟨(h g).1, ih _ (h g).2⟩

theorem Pending.map (h : p.Pending spec w g) (f : α → β) :
    (f <$> p).Pending (fun g => (f (spec g).1, (spec g).2)) w g := by
  induction p generalizing w g with
  | done a => exact h
  | step e next ih =>
    intro g' hw hl
    rcases h g' hw hl with ⟨hg, hp⟩ | ⟨a, ha, hs⟩
    · exact .inl ⟨hg, ih _ hp⟩
    · exact .inr ⟨f a, by simp only [ha], hs.map f⟩

/-- A program that asks the registry at most once takes effect when it asks, or has no effect. -/
theorem AsksOnce.settled_or_pending (h : p.AsksOnce) (hs : ∀ g, spec g = p.alone w g) :
    (∃ a, p.Settled w a) ∨ ∀ g, p.Pending spec w g := by
  induction p generalizing w with
  | done a => exact .inl ⟨a, rfl⟩
  | step e next ih =>
    by_cases he : e.isStore = true
    · refine .inr fun g g' _ _ => .inr ?_
      obtain ⟨a, ha⟩ := (h.1 he (World.perform e (w.on g')).1).exists_settled
        (World.perform e (w.on g')).2
      exact ⟨a, by rw [hs, alone_step, ha.alone], ha⟩
    · have he : e.isStore = false := by simpa using he
      rcases ih _ (h.2 he (World.perform e w).1) (w := (World.perform e w).2)
          (fun g => by rw [hs, alone_step_of_isStore_eq_false he]) with ⟨a, ha⟩ | hp
      · exact .inl ⟨a, settled_step he ha⟩
      · exact .inr fun g => pending_step he (hp g)

/-- What a program has come to when it starts: it is settled, or it has still to take effect. -/
def Ready (p : Program α) (w : World) (g : Registry) : Prop :=
  (∃ a, p.Settled w a) ∨ p.Pending (p.alone w) w g

theorem AsksOnce.ready (h : p.AsksOnce) : p.Ready w g :=
  (h.settled_or_pending fun _ => rfl).imp_right fun hp => hp g

theorem Ready.map (h : p.Ready w g) (f : α → β) : (f <$> p).Ready w g := by
  rcases h with ⟨a, ha⟩ | hp
  · exact .inl ⟨f a, ha.map f⟩
  · refine .inr ?_
    rw [show (f <$> p).alone w = fun g => (f (p.alone w g).1, (p.alone w g).2) from
      funext fun g => alone_map f p w g]
    exact hp.map f

end Program

namespace Registry

variable {g g' : Registry} {id : Int32} {old : Platform}

/-- What was read of a platform's creation holds as long as its row is there. -/
theorem Later.get_createdAt (hl : g.Later g') (hg : g.WellFormed) (hg' : g'.WellFormed)
    (h : g.get id = .ok old) :
    g'.get id = .error (absent id) ∧ g'.row? id.toInt = none ∨
      ∃ q, g'.get id = .ok q ∧ q.createdAt = old.createdAt := by
  obtain ⟨r, hr, hd⟩ := get_eq_ok_iff.mp h
  obtain ⟨hm, hid⟩ := mem_of_row?_eq_some hr
  cases hr' : g'.row? id.toInt with
  | none => exact .inl ⟨by rw [get, hr'], rfl⟩
  | some r' =>
    obtain ⟨s, hs, he⟩ := hl.row? _ r' (hid ▸ hg.id_le r hm) hr'
    obtain rfl : r = s := Option.some.inj (hr.symm.trans hs)
    obtain ⟨q, hq⟩ := hg'.exists_decode hr'
    refine .inr ⟨q, get_eq_ok_iff.mpr ⟨r', hr', hq⟩, ?_⟩
    have hc := (Row.decode_eq_ok_iff.mp hd).2.2.1
    have hc' := (Row.decode_eq_ok_iff.mp hq).2.2.1
    rw [← he, hc] at hc'
    exact (Except.ok.inj hc').symm

end Registry

namespace Platforms

open Program

theorem asksOnce_create (p : Profile) : (create p).run.AsksOnce := by
  rw [run_create]
  cases p.blankField? Field.all with
  | some f => trivial
  | none =>
    refine ⟨nofun, fun _ t => ⟨fun _ r => ?_, nofun⟩⟩
    cases r with
    | error e => trivial
    | ok q => exact ⟨rfl, fun _ => trivial⟩

theorem asksOnce_get (id : Int32) : (get id).run.AsksOnce :=
  ⟨fun _ _ => trivial, nofun⟩

theorem asksOnce_list (request : PageRequest) : (list request).run.AsksOnce := by
  rw [run_list]
  cases request.cursor with
  | error fault => trivial
  | ok cursor =>
    refine ⟨fun _ r => ?_, nofun⟩
    cases r with
    | error e => trivial
    | ok rows => exact ⟨rfl, fun _ => trivial⟩

theorem asksOnce_delete (id : Int32) : (delete id).run.AsksOnce := by
  rw [run_delete]
  refine ⟨fun _ r => ?_, nofun⟩
  cases r with
  | error e => trivial
  | ok _ => exact ⟨rfl, fun _ => trivial⟩

/-- A change that has read its row and knows what to write takes effect when it writes. -/
theorem pending_update {id : Int32} {p : Profile} {mask : List String} {fields : List Field}
    {w : World} {e : Event} {g : Registry} {old : Platform} {c : Changes}
    (hm : maskedFields p mask = .ok fields)
    (hp : p.blankField? fields = none) (hw : w.fault? .update = none) (hg : g.WellFormed)
    (hr : (w.ask (.get id) g).1 = .ok old)
    (hc : c = .ofProfile p fields (w.clock.floor.latest old.createdAt))
    {next : Except StoreError Platform → Program _}
    (he : ∀ e, next (.error e) = done (.error (.ofStore s!"update AI platform {id.toInt}" e)))
    (ho : ∀ new, next (.ok new) =
      step (.note (event .info "AI platform updated" [("id", toString id.toInt)])) fun _ =>
      done (.ok new)) :
    (step (.store (.update id c)) next).Pending ((update id p mask).run.alone w) (w.tell e) g := by
  have hf : w.fault? .get = none := World.fault?_eq_none_of_ok hr
  rw [World.ask_of_fault?_eq_none hf] at hr
  refine pending_store fun g' hg' hl => .inr ?_
  have ha : (update id p mask).run.alone w g' =
      ((w.ask (.update id c) g').1.mapError (.ofStore s!"update AI platform {id.toInt}"),
        (w.ask (.update id c) g').2) := by
    rw [alone_update, hm]
    dsimp only
    rw [World.ask_of_fault?_eq_none hf]
    rcases hl.get_createdAt hg hg' hr with ⟨he, hn⟩ | ⟨q, hq, ht⟩
    · rw [World.ask_of_fault?_eq_none hw]
      simp only [Registry.perform, he, Registry.update, hn]
      rfl
    · simp only [Registry.perform, hq, hp]
      rw [ht, ← hc]
  rw [World.ask_tell]
  refine ⟨_, ha, ?_⟩
  cases (w.ask (.update id c) g').1 with
  | error e =>
    rw [he]
    rfl
  | ok new =>
    rw [ho]
    exact settled_note rfl

theorem ready_update (id : Int32) (p : Profile) (mask : List String) (w : World) (g : Registry) :
    (update id p mask).run.Ready w g := by
  cases hm : maskedFields p mask with
  | error e => exact .inl ⟨_, by rw [run_update, hm]; rfl⟩
  | ok fields =>
    suffices h : ∀ spec, spec = (update id p mask).run.alone w →
        (update id p mask).run.Pending spec w g from .inr (h _ rfl)
    intro spec hs
    have ha (g : Registry) := alone_update p id mask w g
    rw [← hs, hm] at ha
    rw [run_update, hm]
    refine pending_store fun g' hg' _ => ?_
    specialize ha g'
    dsimp only at ha ⊢
    cases hr : (w.ask (.get id) g').1 with
    | error e =>
      rw [hr] at ha
      exact .inr ⟨_, by rw [ha, World.ask_get_snd], rfl⟩
    | ok old =>
      rw [hr] at ha
      dsimp only at ha ⊢
      cases hp : p.blankField? fields with
      | some f =>
        rw [hp] at ha
        exact .inr ⟨_, by rw [ha, World.ask_get_snd], settled_now rfl⟩
      | none =>
        rw [hp] at ha
        dsimp only at ha ⊢
        cases hw : w.fault? .update with
        | some e =>
          rw [World.ask_of_fault?_eq_some (c := .update id _) hw] at ha
          refine .inr ⟨_, by rw [ha, World.ask_get_snd], settled_now (settled_note ?_)⟩
          refine settled_store_of_fault (c := .update id _) (w := w.tell _) hw ?_
          rfl
        | none =>
          refine .inl ⟨World.ask_get_snd w id g', pending_now (pending_note ?_)⟩
          rw [hs]
          exact pending_update hm hp hw hg' hr rfl (fun _ => rfl) fun _ => rfl

end Platforms

namespace Answers

theorem asksOnce_generate (reference prompt : String) (givenUp : Bool) :
    (generate reference prompt givenUp).run.AsksOnce := by
  rw [run_generate]
  cases Reference.read reference with
  | error fault => trivial
  | ok id =>
    refine ⟨fun _ r => ?_, nofun⟩
    cases r with
    | error e => trivial
    | ok q =>
      exact (neverAsks_afterGet prompt givenUp q id).bind fun _ => Program.neverAsks_pure _

end Answers

/-- Every operation takes effect in a single step. -/
theorem Operation.ready (o : Operation) (w : World) (g : Registry) : o.program.Ready w g := by
  cases o with
  | create p => exact (Platforms.asksOnce_create p).ready.map _
  | get id => exact (Platforms.asksOnce_get id).ready.map _
  | list request => exact (Platforms.asksOnce_list request).ready.map _
  | update id p mask => exact (Platforms.ready_update id p mask w g).map _
  | delete id => exact (Platforms.asksOnce_delete id).ready.map _
  | generate reference prompt givenUp =>
    exact (Answers.asksOnce_generate reference prompt givenUp).ready.map _

end PromptGateway
