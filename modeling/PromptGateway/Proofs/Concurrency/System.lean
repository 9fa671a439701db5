import PromptGateway.Proofs.Concurrency.Effect

/-! # Concurrent jobs

Jobs under way at the same time share one registry. A move starts a job or lets one of them carry
out its next effect, and every list of moves is a run: each effect is one step, in any order.
-/

namespace PromptGateway

/-- A job under way: what it still has to do, and its surroundings by now. -/
structure Thread where
  job : Job
  rest : Program Response.Result
  world : World

def Job.begin (j : Job) : Thread := ⟨j, j.operation.program, j.world⟩

namespace Thread

def result? (t : Thread) : Option Response.Result :=
  match t.rest with
  | .done r => some r
  | .step _ _ => none

def advance (t : Thread) (g : Registry) : Thread × Registry :=
  match t.rest with
  | .done _ => (t, g)
  | .step e next =>
    let (answer, world) := World.perform e (t.world.on g)
    ({ t with rest := next answer, world }, world.registry)

end Thread

/-- A registry and the jobs under way, in the order in which they were started. -/
structure System where
  registry : Registry := {}
  threads : List Thread := []

inductive Move
  | start (j : Job)
  | advance (i : Nat)

namespace System

def jobs (s : System) : List Job := s.threads.map Thread.job

def result? (s : System) (i : Nat) : Option Response.Result := s.threads[i]?.bind Thread.result?

/-- Lets something happen; to advance a job that is over or was not started does nothing. -/
def move (s : System) : Move → System
  | .start j => { s with threads := s.threads ++ [j.begin] }
  | .advance i =>
    match s.threads[i]? with
    | some t =>
      { registry := (t.advance s.registry).2, threads := s.threads.set i (t.advance s.registry).1 }
    | none => s

def run (s : System) (moves : List Move) : System := moves.foldl move s

variable {s : System} {i : Nat} {t : Thread}

@[simp] theorem run_nil (s : System) : s.run [] = s := rfl

theorem run_append (s : System) (moves moves' : List Move) :
    s.run (moves ++ moves') = (s.run moves).run moves' :=
  List.foldl_append

theorem run_concat (s : System) (moves : List Move) (m : Move) :
    s.run (moves ++ [m]) = (s.run moves).move m :=
  run_append s moves [m]

theorem move_advance_of_none (h : s.threads[i]? = none) : s.move (.advance i) = s := by
  rw [move, h]

theorem move_advance_of_done (h : s.threads[i]? = some t) {r : Response.Result}
    (hr : t.rest = .done r) : s.move (.advance i) = s := by
  obtain ⟨job, rest, world⟩ := t
  obtain rfl : rest = .done r := hr
  obtain ⟨hi, ht⟩ := List.getElem?_eq_some_iff.mp h
  rw [move, h]
  change System.mk s.registry (s.threads.set i ⟨job, .done r, world⟩) = s
  rw [← ht, List.set_getElem_self]

theorem move_advance_of_step (h : s.threads[i]? = some t) {e : Effect}
    {next : e.Answer → Program Response.Result} (hr : t.rest = .step e next) :
    s.move (.advance i) =
      { registry := (World.perform e (t.world.on s.registry)).2.registry
        threads := s.threads.set i
          { t with
            rest := next (World.perform e (t.world.on s.registry)).1
            world := (World.perform e (t.world.on s.registry)).2 } } := by
  obtain ⟨job, rest, world⟩ := t
  obtain rfl : rest = .step e next := hr
  rw [move, h]
  rfl

theorem result?_eq_some_iff {r : Response.Result} :
    s.result? i = some r ↔ ∃ t, s.threads[i]? = some t ∧ t.rest = .done r := by
  simp only [result?, Option.bind_eq_some_iff]
  refine exists_congr fun t => and_congr_right fun _ => ?_
  cases h : t.rest <;> simp [Thread.result?, h]

/-- A job that is over stays so. -/
theorem result?_move {r : Response.Result} (h : s.result? i = some r) (m : Move) :
    (s.move m).result? i = some r := by
  obtain ⟨t, ht, hr⟩ := result?_eq_some_iff.mp h
  cases m with
  | start j =>
    have hi := (List.getElem?_eq_some_iff.mp ht).1
    exact result?_eq_some_iff.mpr ⟨t, (List.getElem?_append_left hi).trans ht, hr⟩
  | advance k =>
    by_cases hk : k = i
    · subst hk
      rwa [move_advance_of_done ht hr]
    · cases hu : s.threads[k]? with
      | none => rwa [move_advance_of_none hu]
      | some u =>
        refine result?_eq_some_iff.mpr ⟨t, ?_, hr⟩
        simpa only [move, hu, List.getElem?_set_ne hk] using ht

theorem result?_run {r : Response.Result} (h : s.result? i = some r) (moves : List Move) :
    (s.run moves).result? i = some r := by
  induction moves generalizing s with
  | nil => exact h
  | cons m moves ih => exact ih (result?_move h m)

end System

end PromptGateway
