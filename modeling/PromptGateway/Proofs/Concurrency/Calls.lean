import PromptGateway.Proofs.Concurrency.System

/-! # What jobs call

Each operation makes calls of a few methods only. What holds of every such call on the registry
holds of every run of jobs that make them.
-/

namespace PromptGateway

namespace Program

variable {α β : Type} {P : Call → Prop}

/-- A program all of whose calls on the registry are of a certain kind. -/
def Calls (P : Call → Prop) : Program α → Prop
  | done _ => True
  | step e next => (∀ c, e = .store c → P c) ∧ ∀ a, (next a).Calls P

theorem Calls.mono {Q : Call → Prop} {p : Program α} (h : p.Calls P) (hPQ : ∀ c, P c → Q c) :
    p.Calls Q := by
  induction p with
  | done a => trivial
  | step e next ih => exact ⟨fun c hc => hPQ c (h.1 c hc), fun a => ih a (h.2 a)⟩

theorem Calls.and {Q : Call → Prop} {p : Program α} (h : p.Calls P) (h' : p.Calls Q) :
    p.Calls fun c => P c ∧ Q c := by
  induction p with
  | done a => trivial
  | step e next ih => exact ⟨fun c hc => ⟨h.1 c hc, h'.1 c hc⟩, fun a => ih a (h.2 a) (h'.2 a)⟩

theorem Calls.map {p : Program α} (h : p.Calls P) (f : α → β) : (f <$> p).Calls P := by
  induction p with
  | done a => trivial
  | step e next ih => exact ⟨h.1, fun a => ih a (h.2 a)⟩

theorem NeverAsks.calls {p : Program α} (h : p.NeverAsks) : p.Calls P := by
  induction p with
  | done a => trivial
  | step e next ih =>
    refine ⟨?_, fun a => ih a (h.2 a)⟩
    rintro c rfl
    cases h.1

theorem calls_store {c : Call} {next : Except StoreError c.Result → Program α} (hc : P c)
    (hn : ∀ a, (next a).Calls P) : (step (.store c) next).Calls P := by
  refine ⟨?_, hn⟩
  rintro _ ⟨⟩
  exact hc

theorem calls_now {next : Moment → Program α} (hn : ∀ t, (next t).Calls P) :
    (step .now next).Calls P := by
  refine ⟨?_, hn⟩
  rintro c ⟨⟩

theorem calls_note {e : Event} {next : Unit → Program α} (hn : (next ()).Calls P) :
    (step (.note e) next).Calls P := by
  refine ⟨?_, fun _ => hn⟩
  rintro c ⟨⟩

end Program

namespace Operation

open Program

def methods : Operation → List Method
  | create _ => [.insert]
  | get _ => [.get]
  | list _ => [.find]
  | update _ _ _ => [.get, .update]
  | delete _ => [.delete]
  | generate _ _ _ => [.get]

theorem calls_program (o : Operation) : o.program.Calls (·.method ∈ o.methods) := by
  cases o with
  | create p =>
    refine Calls.map ?_ _
    rw [Platforms.run_create]
    cases p.blankField? Field.all with
    | some f => trivial
    | none =>
      refine calls_now fun t => calls_store (.head _) fun r => ?_
      cases r with
      | error e => trivial
      | ok q => exact calls_note trivial
  | get id =>
    refine Calls.map ?_ _
    rw [Platforms.run_get]
    exact calls_store (.head _) fun _ => trivial
  | list request =>
    refine Calls.map ?_ _
    rw [Platforms.run_list]
    cases request.cursor with
    | error fault => trivial
    | ok cursor =>
      refine calls_store (.head _) fun r => ?_
      cases r with
      | error e => trivial
      | ok rows => exact calls_note trivial
  | update id p mask =>
    refine Calls.map ?_ _
    rw [Platforms.run_update]
    cases Platforms.maskedFields p mask with
    | error e => trivial
    | ok fields =>
      refine calls_store (.head _) fun r => ?_
      cases r with
      | error e => trivial
      | ok old =>
        refine calls_now fun t => ?_
        cases p.blankField? fields with
        | some f => trivial
        | none =>
          refine calls_note (calls_store (.tail _ (.head _)) fun r => ?_)
          cases r with
          | error e => trivial
          | ok new => exact calls_note trivial
  | delete id =>
    refine Calls.map ?_ _
    rw [Platforms.run_delete]
    refine calls_store (.head _) fun r => ?_
    cases r with
    | error e => trivial
    | ok _ => exact calls_note trivial
  | generate reference prompt givenUp =>
    refine Calls.map ?_ _
    rw [Answers.run_generate]
    cases Reference.read reference with
    | error fault => trivial
    | ok id =>
      refine calls_store (.head _) fun r => ?_
      cases r with
      | error e => trivial
      | ok q => exact ((Answers.neverAsks_afterGet prompt givenUp q id).calls).map _

end Operation

namespace System

variable {s : System} {P : Call → Prop} {R : Registry → Registry → Prop} {moves : List Move}

/-- All that the jobs under way have still to call is of a certain kind. -/
def Calls (P : Call → Prop) (s : System) : Prop := ∀ t ∈ s.threads, t.rest.Calls P

/-- All that the jobs that are started call is of a certain kind. -/
def Starts (P : Call → Prop) (moves : List Move) : Prop :=
  ∀ j, .start j ∈ moves → j.operation.program.Calls P

theorem calls_move (hs : s.Calls P) {m : Move}
    (hm : ∀ j, m = .start j → j.operation.program.Calls P) : (s.move m).Calls P := by
  cases m with
  | start j =>
    intro t ht
    rcases List.mem_append.mp ht with ht | ht
    · exact hs t ht
    · obtain rfl := List.mem_singleton.mp ht
      exact hm j rfl
  | advance i =>
    cases hi : s.threads[i]? with
    | none => rwa [move_advance_of_none hi]
    | some u =>
      have hu := hs u (List.mem_of_getElem? hi)
      cases hr : u.rest with
      | done r => rwa [move_advance_of_done hi hr]
      | step e next =>
        rw [move_advance_of_step hi hr]
        rw [hr] at hu
        intro t ht
        rcases List.mem_or_eq_of_mem_set ht with ht | rfl
        · exact hs t ht
        · exact hu.2 _

/-- What every call does to the registry, every move does. -/
theorem registry_move (hrefl : ∀ g, R g g) (hR : ∀ g c, P c → R g (g.perform c).2)
    (hs : s.Calls P) (m : Move) : R s.registry (s.move m).registry := by
  cases m with
  | start j => exact hrefl _
  | advance i =>
    cases hi : s.threads[i]? with
    | none =>
      rw [move_advance_of_none hi]
      exact hrefl _
    | some t =>
      have ht := hs t (List.mem_of_getElem? hi)
      cases hr : t.rest with
      | done r =>
        rw [move_advance_of_done hi hr]
        exact hrefl _
      | step e next =>
        rw [move_advance_of_step hi hr]
        rw [hr] at ht
        cases e with
        | store c =>
          rw [World.perform_store]
          rcases t.world.ask_cases c s.registry with ⟨e, he⟩ | hp
          · rw [he]
            exact hrefl _
          · rw [hp]
            exact hR _ c (ht.1 c rfl)
        | _ => exact hrefl _

/-- What every call does to the registry, every run of jobs does that make such calls only. -/
theorem registry_run (hrefl : ∀ g, R g g) (htrans : ∀ a b c, R a b → R b c → R a c)
    (hR : ∀ g c, P c → R g (g.perform c).2) (hs : s.Calls P) (hm : Starts P moves) :
    R s.registry (s.run moves).registry ∧ (s.run moves).Calls P := by
  induction moves generalizing s with
  | nil => exact ⟨hrefl _, hs⟩
  | cons m moves ih =>
    obtain ⟨hr, hc⟩ := ih (calls_move hs fun j hj => hm j (hj ▸ List.mem_cons_self))
      fun j hj => hm j (List.mem_cons_of_mem _ hj)
    exact ⟨htrans _ _ _ (registry_move hrefl hR hs m) hr, hc⟩

end System

end PromptGateway
