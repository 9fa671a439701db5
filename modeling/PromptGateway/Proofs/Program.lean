import PromptGateway.World

/-! # Programs and the registry

How a program depends on the registry of its world. A program runs alone when nothing else happens
between its effects. One that never asks the registry comes to the same end whatever the registry
is, even when others change it at the same time.
-/

namespace PromptGateway

def World.on (w : World) (g : Registry) : World := { w with registry := g }

@[simp] theorem World.registry_on (w : World) (g : Registry) : (w.on g).registry = g := rfl
@[simp] theorem World.faults_on (w : World) (g : Registry) : (w.on g).faults = w.faults := rfl
@[simp] theorem World.on_registry (w : World) : w.on w.registry = w := rfl

def Effect.isStore : Effect → Bool
  | .store _ => true
  | _ => false

/-- What does not ask the registry neither depends on it nor changes it. -/
theorem World.perform_on {e : Effect} (h : e.isStore = false) (w : World) (g : Registry) :
    World.perform e (w.on g) = ((World.perform e w).1, (World.perform e w).2.on g) := by
  cases e with
  | store c => cases h
  | _ => rfl

namespace World

def tell (w : World) (e : Event) : World := { w with events := w.events ++ [e] }

@[simp] theorem registry_tell (w : World) (e : Event) : (w.tell e).registry = w.registry := rfl

/-- The failure that is agreed on for a method. -/
def fault? (w : World) (m : Method) : Option StoreError :=
  (w.faults.find? (·.method == m)).map (·.error)

theorem fault?_of_faults_eq_nil {w : World} (h : w.faults = []) (m : Method) :
    w.fault? m = none := by
  rw [fault?, h]
  rfl

/-- What becomes of a call on a registry in a world, and the registry after it. -/
def ask (w : World) (c : Call) (g : Registry) : Except StoreError c.Result × Registry :=
  match w.fault? c.method with
  | some e => (.error e, g)
  | none => g.perform c

theorem perform_store (c : Call) (w : World) (g : Registry) :
    World.perform (.store c) (w.on g) = ((w.ask c g).1, w.on (w.ask c g).2) := by
  change (w.on g).askRegistry c = _
  unfold askRegistry ask fault?
  rw [faults_on]
  cases w.faults.find? (·.method == c.method) <;> rfl

theorem ask_of_fault?_eq_none {w : World} {c : Call} (h : w.fault? c.method = none)
    (g : Registry) : w.ask c g = g.perform c := by
  rw [ask, h]

theorem ask_of_fault?_eq_some {w : World} {c : Call} {e : StoreError}
    (h : w.fault? c.method = some e) (g : Registry) : w.ask c g = (.error e, g) := by
  rw [ask, h]

/-- A call fails without a trace, or comes to what the registry makes of it. -/
theorem ask_cases (w : World) (c : Call) (g : Registry) :
    (∃ e, w.ask c g = (.error e, g)) ∨ w.ask c g = g.perform c := by
  cases hf : w.fault? c.method with
  | some e => exact .inl ⟨e, ask_of_fault?_eq_some hf g⟩
  | none => exact .inr (ask_of_fault?_eq_none hf g)

theorem fault?_eq_none_of_ok {w : World} {c : Call} {g : Registry} {a : c.Result}
    (h : (w.ask c g).1 = .ok a) : w.fault? c.method = none := by
  cases hf : w.fault? c.method with
  | none => rfl
  | some e =>
    rw [ask_of_fault?_eq_some hf] at h
    cases h

theorem ask_of_ok {w : World} {c : Call} {g : Registry} {a : c.Result}
    (h : (w.ask c g).1 = .ok a) : w.ask c g = g.perform c :=
  ask_of_fault?_eq_none (fault?_eq_none_of_ok h) g

@[simp] theorem ask_tell (w : World) (e : Event) (c : Call) (g : Registry) :
    (w.tell e).ask c g = w.ask c g := rfl

@[simp] theorem ask_get_snd (w : World) (id : Int32) (g : Registry) :
    (w.ask (.get id) g).2 = g := by
  unfold ask
  split <;> rfl

@[simp] theorem ask_find_snd (w : World) (q : Query) (g : Registry) :
    (w.ask (.find q) g).2 = g := by
  unfold ask
  split <;> rfl

theorem exists_output_perform (e : Effect) (w : World) :
    ∃ text, (World.perform e w).2.output = w.output ++ text := by
  cases e with
  | print text => exact ⟨text, rfl⟩
  | store c =>
    refine ⟨"", ?_⟩
    rw [String.append_empty, perform, askRegistry]
    split <;> rfl
  | _ => exact ⟨"", String.append_empty.symm⟩

end World

namespace Program

variable {α β : Type}

theorem runIn_bind (p : Program α) (f : α → Program β) (w : World) :
    (p >>= f).runIn w = (f (p.runIn w).1).runIn (p.runIn w).2 := by
  induction p generalizing w with
  | done a => rfl
  | step e next ih => exact ih _ _

theorem runIn_map (f : α → β) (p : Program α) (w : World) :
    (f <$> p).runIn w = (f (p.runIn w).1, (p.runIn w).2) :=
  runIn_bind p (fun a => done (f a)) w

theorem runIn_bindExcept {ε : Type} (x : ExceptT ε Program α)
    (k : α → ExceptT ε Program β) (w : World) :
    runIn (x >>= k).run w =
      match (runIn x.run w).1 with
      | .ok a => runIn (k a).run (runIn x.run w).2
      | .error e => (.error e, (runIn x.run w).2) := by
  change runIn (x.run >>= ExceptT.bindCont k) w = _
  rw [runIn_bind]
  cases (runIn x.run w).1 <;> rfl

theorem runIn_store (c : Call) (next : Except StoreError c.Result → Program α) (w : World)
    (g : Registry) :
    (step (.store c) next).runIn (w.on g) = (next (w.ask c g).1).runIn (w.on (w.ask c g).2) := by
  rw [runIn, run, World.perform_store]
  rfl

/-- What has been written to the output stays in front of what is written later. -/
theorem exists_output_runIn (p : Program α) (w : World) :
    ∃ text, (p.runIn w).2.output = w.output ++ text := by
  induction p generalizing w with
  | done a => exact ⟨"", String.append_empty.symm⟩
  | step e next ih =>
    obtain ⟨first, hf⟩ := World.exists_output_perform e w
    obtain ⟨rest, hr⟩ := ih (World.perform e w).1 (World.perform e w).2
    exact ⟨first ++ rest, by rw [← String.append_assoc, ← hf]; exact hr⟩

/-- The end of a program and the registry after it when nothing else happens in the meantime. -/
def alone (p : Program α) (w : World) (g : Registry) : α × Registry :=
  ((p.runIn (w.on g)).1, (p.runIn (w.on g)).2.registry)

@[simp] theorem alone_done (a : α) (w : World) (g : Registry) : (done a).alone w g = (a, g) := rfl

theorem alone_step (e : Effect) (next : e.Answer → Program α) (w : World) (g : Registry) :
    (step e next).alone w g =
      (next (World.perform e (w.on g)).1).alone (World.perform e (w.on g)).2
        (World.perform e (w.on g)).2.registry := rfl

theorem alone_on (p : Program α) (w : World) (g g' : Registry) :
    p.alone (w.on g) g' = p.alone w g' := rfl

theorem alone_step_of_isStore_eq_false {e : Effect} (h : e.isStore = false)
    (next : e.Answer → Program α) (w : World) (g : Registry) :
    (step e next).alone w g = (next (World.perform e w).1).alone (World.perform e w).2 g := by
  rw [alone_step, World.perform_on h, alone_on, World.registry_on]

@[simp] theorem alone_store (c : Call) (next : Except StoreError c.Result → Program α) (w : World)
    (g : Registry) :
    (step (.store c) next).alone w g = (next (w.ask c g).1).alone w (w.ask c g).2 := by
  rw [alone, runIn_store, alone]

@[simp] theorem alone_now (next : Moment → Program α) (w : World) (g : Registry) :
    (step .now next).alone w g = (next w.clock).alone w g := rfl

@[simp] theorem alone_note (e : Event) (next : Unit → Program α) (w : World) (g : Registry) :
    (step (.note e) next).alone w g =
      (next ()).alone (w.tell e) g := rfl

theorem alone_map (f : α → β) (p : Program α) (w : World) (g : Registry) :
    (f <$> p).alone w g = (f (p.alone w g).1, (p.alone w g).2) := by
  rw [alone, runIn_map, alone]

def NeverAsks : Program α → Prop
  | done _ => True
  | step e next => e.isStore = false ∧ ∀ a, (next a).NeverAsks

def AsksOnce : Program α → Prop
  | done _ => True
  | step e next =>
    (e.isStore = true → ∀ a, (next a).NeverAsks) ∧ (e.isStore = false → ∀ a, (next a).AsksOnce)

@[simp] theorem neverAsks_pure (a : α) : (pure a : Program α).NeverAsks := trivial

theorem NeverAsks.bind {p : Program α} {f : α → Program β} (hp : p.NeverAsks)
    (hf : ∀ a, (f a).NeverAsks) : (p >>= f).NeverAsks := by
  induction p with
  | done a => exact hf a
  | step e next ih => exact ⟨hp.1, fun a => ih a (hp.2 a)⟩

theorem neverAsks_perform {e : Effect} (h : e.isStore = false) : (perform e).NeverAsks :=
  ⟨h, fun _ => trivial⟩

theorem neverAsks_forM_note (events : List Event) : (events.forM note).NeverAsks := by
  induction events with
  | nil => exact neverAsks_pure ()
  | cons e events ih => exact (neverAsks_perform rfl).bind fun _ => ih

/--
A program that comes to a certain end and leaves the registry as it is, whatever the registry is at
each of its effects.
-/
def Settled : Program α → World → α → Prop
  | done b, _, a => b = a
  | step e next, w, a => ∀ g,
    (World.perform e (w.on g)).2.registry = g ∧
      (next (World.perform e (w.on g)).1).Settled (World.perform e (w.on g)).2 a

theorem settled_on (p : Program α) (w : World) (g : Registry) (a : α) :
    p.Settled (w.on g) a ↔ p.Settled w a := by
  cases p <;> rfl

theorem settled_step {e : Effect} (h : e.isStore = false) {next : e.Answer → Program α} {w : World}
    {a : α} (hn : (next (World.perform e w).1).Settled (World.perform e w).2 a) :
    (step e next).Settled w a := by
  intro g
  rw [World.perform_on h]
  exact ⟨rfl, (settled_on _ _ _ _).mpr hn⟩

theorem Settled.alone {p : Program α} {w : World} {a : α} (h : p.Settled w a) (g : Registry) :
    p.alone w g = (a, g) := by
  induction p generalizing w g with
  | done b => rw [alone_done, show b = a from h]
  | step e next ih =>
    obtain ⟨hg, hs⟩ := h g
    rw [alone_step, ih _ hs, hg]

/-- A program that never asks the registry is settled from the beginning. -/
theorem NeverAsks.exists_settled {p : Program α} (h : p.NeverAsks) (w : World) :
    ∃ a, p.Settled w a := by
  induction p generalizing w with
  | done a => exact ⟨a, rfl⟩
  | step e next ih =>
    obtain ⟨a, ha⟩ := ih _ (h.2 (World.perform e w).1) (World.perform e w).2
    exact ⟨a, settled_step h.1 ha⟩

theorem NeverAsks.alone_snd {p : Program α} (h : p.NeverAsks) (w : World) (g : Registry) :
    (p.alone w g).2 = g := by
  obtain ⟨a, ha⟩ := h.exists_settled w
  rw [ha.alone]

end Program

end PromptGateway
