import PromptGateway.Proofs.Program
import PromptGateway.Proofs.Secrecy.Registry

/-! # Programs that keep credentials to themselves

Two programs are alike if they ask for the same effects, but for the credentials of requests, as
long as they get answers that differ in credentials only. In alike worlds they come to alike ends.
-/

namespace PromptGateway

/-- Outcomes that fail in the same way, or succeed with related values. -/
inductive Agree {ε α : Type} (R : α → α → Prop) : Except ε α → Except ε α → Prop
  | error (e : ε) : Agree R (.error e) (.error e)
  | ok {a b : α} (h : R a b) : Agree R (.ok a) (.ok b)

theorem agree_of_map_eq {ε α β : Type} {f : α → β} {r r' : Except ε α} (h : r.map f = r'.map f) :
    Agree (fun a b => f a = f b) r r' := by
  cases r with
  | error e =>
    cases r' with
    | error e' =>
      cases h
      exact .error e
    | ok b => cases h
  | ok a =>
    cases r' with
    | error e' => cases h
    | ok b => exact .ok (Except.ok.inj h)

theorem Agree.refl {ε α : Type} (r : Except ε α) : Agree Eq r r := by
  cases r with
  | error e => exact .error e
  | ok a => exact .ok rfl

theorem Agree.eq {ε α : Type} {r r' : Except ε α} (h : Agree Eq r r') : r = r' := by
  cases h with
  | error e => rfl
  | ok h => exact congrArg Except.ok h

theorem Agree.mapError {ε ε' α : Type} {R : α → α → Prop} {r r' : Except ε α} (h : Agree R r r')
    (f : ε → ε') : Agree R (r.mapError f) (r'.mapError f) := by
  cases h with
  | error e => exact .error (f e)
  | ok h => exact .ok h

/-- Equality of requests but for the credential of requests that have one. -/
structure Post.Alike (p p' : Post) : Prop where
  url : p.url = p'.url
  body : p.body = p'.body
  bearer : p.bearer?.isSome = p'.bearer?.isSome

theorem Post.Alike.refl (p : Post) : p.Alike p := ⟨rfl, rfl, rfl⟩

/-- Platforms whose replies do not depend on the credential of a request. -/
def Endpoint.IgnoresBearer : Endpoint → Prop
  | .script _ => True
  | .rule outcome => ∀ p p' : Post, p.Alike p' → outcome p = outcome p'

theorem Endpoint.IgnoresBearer.ask {e : Endpoint} (h : e.IgnoresBearer) {p p' : Post}
    (hp : p.Alike p') : e.ask p = e.ask p' ∧ (e.ask p).2.IgnoresBearer := by
  cases e with
  | script outcomes => cases outcomes <;> exact ⟨rfl, trivial⟩
  | rule outcome => exact ⟨by rw [Endpoint.ask, Endpoint.ask, h p p' hp], h⟩

/-- Equality of worlds but for credentials, where replies do not depend on them. -/
structure World.Alike (w w' : World) : Prop where
  registry : w.registry.Alike w'.registry
  clock : w.clock = w'.clock
  endpoint : w.endpoint = w'.endpoint
  ignores : w.endpoint.IgnoresBearer
  faults : w.faults = w'.faults
  events : w.events = w'.events
  sent : List.Forall₂ Post.Alike w.sent w'.sent
  output : w.output = w'.output

namespace World.Alike

variable {w w' : World}

theorem on (h : w.Alike w') {g g' : Registry} (hg : g.Alike g') : (w.on g).Alike (w'.on g') :=
  { h with registry := hg }

theorem store (h : w.Alike w') (c : Call) :
    (World.perform (.store c) w).1.map c.mask = (World.perform (.store c) w').1.map c.mask ∧
      (World.perform (.store c) w).2.Alike (World.perform (.store c) w').2 := by
  rw [← w.on_registry, ← w'.on_registry, World.perform_store, World.perform_store]
  have hf : w.fault? c.method = w'.fault? c.method := by rw [World.fault?, h.faults, World.fault?]
  cases hm : w.fault? c.method with
  | some e =>
    rw [World.ask_of_fault?_eq_some hm, World.ask_of_fault?_eq_some (hf ▸ hm)]
    exact ⟨rfl, h.on h.registry⟩
  | none =>
    rw [World.ask_of_fault?_eq_none hm, World.ask_of_fault?_eq_none (hf ▸ hm)]
    obtain ⟨hr, hg⟩ := h.registry.perform c
    exact ⟨hr, h.on hg⟩

theorem post (h : w.Alike w') {p p' : Post} (hp : p.Alike p') :
    (World.perform (.post p) w).1 = (World.perform (.post p') w').1 ∧
      (World.perform (.post p) w).2.Alike (World.perform (.post p') w').2 := by
  obtain ⟨ho, hi⟩ := h.ignores.ask hp
  rw [h.endpoint] at ho hi
  refine ⟨by simp only [World.perform, h.endpoint, ho],
    { h with endpoint := ?_, ignores := ?_, sent := ?_ }⟩
  · simp only [World.perform, h.endpoint, ho]
  · simpa only [World.perform, h.endpoint] using hi
  · exact List.rel_append h.sent (.cons hp .nil)

theorem same (h : w.Alike w') {e : Effect} (he : e.isStore = false) :
    (World.perform e w).1 = (World.perform e w').1 ∧
      (World.perform e w).2.Alike (World.perform e w').2 := by
  cases e with
  | store c => cases he
  | post p => exact h.post (.refl p)
  | now => exact ⟨h.clock, h⟩
  | note e => exact ⟨rfl, { h with events := congrArg (· ++ [e]) h.events }⟩
  | print text => exact ⟨rfl, { h with output := congrArg (· ++ text) h.output }⟩

end World.Alike

namespace Program

variable {α β : Type} {R : α → α → Prop} {S : β → β → Prop} {p p' : Program α} {w w' : World}

/-- Programs that ask for the same and go on alike. -/
inductive Alike (R : α → α → Prop) : Program α → Program α → Prop
  | done {a b : α} (h : R a b) : Alike R (done a) (done b)
  | store (c : Call) {next next' : Except StoreError c.Result → Program α}
    (h : ∀ r r', Agree (fun a b => c.mask a = c.mask b) r r' → Alike R (next r) (next' r')) :
    Alike R (step (.store c) next) (step (.store c) next')
  | post {post post' : Post} {next next' : Outcome → Program α} (hp : post.Alike post')
    (h : ∀ o, Alike R (next o) (next' o)) :
    Alike R (step (.post post) next) (step (.post post') next')
  | same {e : Effect} (he : e.isStore = false) {next next' : e.Answer → Program α}
    (h : ∀ a, Alike R (next a) (next' a)) : Alike R (step e next) (step e next')

theorem runIn_step (e : Effect) (next : e.Answer → Program α) (w : World) :
    (step e next).runIn w = (next (World.perform e w).1).runIn (World.perform e w).2 := rfl

/-- Alike programs come to alike ends in alike worlds. -/
theorem Alike.runIn (h : p.Alike R p') (hw : w.Alike w') :
    R (p.runIn w).1 (p'.runIn w').1 ∧ (p.runIn w).2.Alike (p'.runIn w').2 := by
  induction h generalizing w w' with
  | done h => exact ⟨h, hw⟩
  | store c _ ih =>
    obtain ⟨hr, hw⟩ := hw.store c
    exact ih _ _ (agree_of_map_eq hr) hw
  | @post post post' next next' hp _ ih =>
    obtain ⟨ho, hw⟩ := hw.post hp
    rw [runIn_step, runIn_step, ho]
    exact ih _ hw
  | @same e he next next' _ ih =>
    obtain ⟨ha, hw⟩ := hw.same he
    rw [runIn_step, runIn_step, ha]
    exact ih _ hw

theorem NeverAsks.alike {p : Program α} (h : p.NeverAsks) : p.Alike Eq p := by
  induction p with
  | done a => exact .done rfl
  | step e next ih => exact .same h.1 fun a => ih a (h.2 a)

theorem Alike.mono (h : p.Alike R p') {Q : α → α → Prop} (hQ : ∀ a b, R a b → Q a b) :
    p.Alike Q p' := by
  induction h with
  | done h => exact .done (hQ _ _ h)
  | store c _ ih => exact .store c ih
  | post hp _ ih => exact .post hp ih
  | same he _ ih => exact .same he ih

theorem Alike.bind (h : p.Alike R p') {f f' : α → Program β}
    (hf : ∀ a b, R a b → (f a).Alike S (f' b)) : (p >>= f).Alike S (p' >>= f') := by
  induction h with
  | done h => exact hf _ _ h
  | store c _ ih => exact .store c ih
  | post hp _ ih => exact .post hp ih
  | same he _ ih => exact .same he ih

/-! ## Programs that may fail -/

section Failing

variable {ε ε' : Type} {x x' : ExceptT ε Program α}

theorem NeverAsks.agree (h : x.run.NeverAsks) : x.run.Alike (Agree Eq) x.run :=
  h.alike.mono fun _ _ hr => hr ▸ Agree.refl _

theorem Alike.bindExcept (h : x.run.Alike (Agree R) x'.run) {k k' : α → ExceptT ε Program β}
    (hk : ∀ a b, R a b → (k a).run.Alike (Agree S) (k' b).run) :
    (x >>= k).run.Alike (Agree S) (x' >>= k').run := by
  refine Alike.bind h fun r r' hr => ?_
  cases hr with
  | error e => exact .done (.error e)
  | ok hab => exact hk _ _ hab

theorem Alike.mapError (h : x.run.Alike (Agree R) x'.run) (f : ε → ε') :
    (x.run >>= fun r => pure (r.mapError f)).Alike (Agree R)
      (x'.run >>= fun r => pure (r.mapError f)) :=
  h.bind fun _ _ hr => .done (hr.mapError f)

end Failing

end Program

end PromptGateway
