import PromptGateway.Proofs.Moment
import PromptGateway.Proofs.Registry.Table
import PromptGateway.Proofs.Service

/-! # Operations

The operations that the services offer, as data, and jobs: operations with surroundings of their
own. What an operation that runs alone does to the registry is a single write, and writes keep a
well-formed registry so.
-/

namespace PromptGateway

inductive Operation
  | create (p : Profile)
  | get (id : Int32)
  | list (request : PageRequest)
  | update (id : Int32) (p : Profile) (mask : List String)
  | delete (id : Int32)
  | generate (reference prompt : String) (givenUp : Bool)
  deriving DecidableEq, Repr

inductive Response
  | platform (q : Platform)
  | page (page : Page Platform)
  | removed
  | result (r : AnswerResult)

abbrev Response.Result := Except ServiceError Response

def Operation.program : Operation → Program Response.Result
  | create p => Except.map .platform <$> (Platforms.create p).run
  | get id => Except.map .platform <$> (Platforms.get id).run
  | list request => Except.map .page <$> (Platforms.list request).run
  | update id p mask => Except.map .platform <$> (Platforms.update id p mask).run
  | delete id => Except.map (fun _ => .removed) <$> (Platforms.delete id).run
  | generate reference prompt givenUp =>
    Except.map .result <$> (Answers.generate reference prompt givenUp).run

/--
An operation with what surrounds it: the reading of the clock, the platforms and the faults that it
meets. The registry is not among what it brings along.
-/
structure Job where
  operation : Operation
  world : World

/-- What a job comes to when nothing else happens in the meantime, and the registry after it. -/
def Job.alone (j : Job) (g : Registry) : Response.Result × Registry :=
  j.operation.program.alone j.world g

namespace Registry

variable {g g' : Registry}

/-- What a single operation can do to a registry. -/
inductive Write (g : Registry) : Registry → Prop
  | none : Write g g
  | insert {p : Profile} {t : Moment} (hp : p.blankField? Field.all = none) (ht : t.nanos = 0) :
    Write g (g.insert (.ofProfile p t)).2
  | update (id : Int32) {p : Profile} {fields : List Field} {t : Moment}
    (hp : p.blankField? fields = .none) (ht : t.nanos = 0)
    (hc : ∀ r, g.row? id.toInt = some r → r.createdTs ≤ t.seconds) :
    Write g (g.update id (.ofProfile p fields t)).2
  | delete (id : Int32) : Write g (g.delete id).2

theorem Write.wellFormed (h : g.Write g') (hg : g.WellFormed) : g'.WellFormed := by
  cases h with
  | none => exact hg
  | insert hp ht =>
    unfold Registry.insert
    split
    · exact hg.put (Row.sound_ofEntry hp ht _) (Int.lt_succ _)
    · exact hg
  | update id hp ht hc =>
    exact hg.update fun r hr => (hg.sound r (mem_of_row?_eq_some hr).1).update hp ht (hc r hr)
  | delete id => exact hg.delete id

theorem Write.later (h : g.Write g') : g.Later g' := by
  cases h with
  | none => exact .refl g
  | insert hp ht =>
    unfold Registry.insert
    split
    · exact later_put (Int.lt_succ _)
    · exact .refl g
  | update id hp ht hc => exact later_update g id _
  | delete id => exact later_delete g id

end Registry

namespace World

variable {w : World} {g : Registry}

theorem write_ask {c : Call} (h : g.Write (g.perform c).2) : g.Write (w.ask c g).2 := by
  rcases w.ask_cases c g with ⟨e, he⟩ | hp
  · rw [he]
    exact .none
  · rwa [hp]

theorem ask_get_eq_ok {id : Int32} {q : Platform} (h : (w.ask (.get id) g).1 = .ok q) :
    ∃ r, g.row? id.toInt = some r ∧ r.decode = .ok q := by
  rw [ask_of_ok h] at h
  exact Registry.get_eq_ok_iff.mp h

end World

namespace Platforms

theorem write_create (p : Profile) (w : World) (g : Registry) :
    g.Write ((create p).run.alone w g).2 := by
  rw [alone_create]
  cases hp : p.blankField? Field.all with
  | some f => exact .none
  | none => exact World.write_ask (.insert hp rfl)

theorem write_update (id : Int32) (p : Profile) (mask : List String) (w : World) (g : Registry) :
    g.Write ((update id p mask).run.alone w g).2 := by
  rw [alone_update]
  cases maskedFields p mask with
  | error e => exact .none
  | ok fields =>
    dsimp only
    cases hr : (w.ask (.get id) g).1 with
    | error e => exact .none
    | ok old =>
      dsimp only
      cases hp : p.blankField? fields with
      | some f => exact .none
      | none =>
        obtain ⟨r, hr, hd⟩ := World.ask_get_eq_ok hr
        obtain ⟨hc, hn⟩ := Row.moment_eq_ok_iff.mp (Row.decode_eq_ok_iff.mp hd).2.2.1
        refine World.write_ask (c := .update id _)
          (.update id hp (Moment.nanos_latest rfl hn) fun s hs => ?_)
        obtain rfl : r = s := Option.some.inj (hr.symm.trans hs)
        rw [Moment.seconds_latest, hc]
        exact le_max_right _ _

end Platforms

namespace Operation

theorem alone_program_map {α : Type} (f : α → Response) (a : Action α) (w : World) (g : Registry) :
    (Except.map f <$> a.run : Program Response.Result).alone w g =
      ((a.run.alone w g).1.map f, (a.run.alone w g).2) :=
  Program.alone_map _ _ _ _

/-- An operation that runs alone does a single write. -/
theorem write_alone (o : Operation) (w : World) (g : Registry) :
    g.Write (o.program.alone w g).2 := by
  cases o with
  | create p =>
    rw [program, alone_program_map]
    exact Platforms.write_create p w g
  | get id =>
    rw [program, alone_program_map, Platforms.alone_get]
    exact .none
  | list request =>
    rw [program, alone_program_map, Platforms.alone_list]
    cases request.cursor <;> exact .none
  | update id p mask =>
    rw [program, alone_program_map]
    exact Platforms.write_update id p mask w g
  | delete id =>
    rw [program, alone_program_map, Platforms.alone_delete]
    exact World.write_ask (c := .delete id) (.delete id)
  | generate reference prompt givenUp =>
    rw [program, alone_program_map, Answers.alone_generate_snd]
    exact .none

end Operation

theorem Job.write_of_alone {j : Job} {g g' : Registry} {a : Response.Result}
    (h : j.alone g = (a, g')) : g.Write g' := by
  have hw := j.operation.write_alone j.world g
  rwa [show j.operation.program.alone j.world g = (a, g') from h] at hw

end PromptGateway
