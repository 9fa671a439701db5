import PromptGateway.Proofs.Program
import PromptGateway.Service.Platforms
import PromptGateway.Service.Answers

/-! # The services as trees

Each operation of the services written out as the tree of its effects, and what it comes to when it
runs alone.
-/

namespace PromptGateway

open Program (done step)

/-- What an action that runs alone comes to is what it comes to in its world. -/
theorem Action.runIn_of_alone {α : Type} {a : Action α} {w : World} {g : Registry}
    {r : Except ServiceError α} (h : a.run.alone w w.registry = (r, g)) :
    (a.runIn w).1 = r ∧ (a.runIn w).2.registry = g :=
  ⟨congrArg Prod.fst h, congrArg Prod.snd h⟩

namespace Platforms

variable (p : Profile) (id : Int32) (request : PageRequest) (mask : List String)
  (w : World) (g : Registry)

theorem run_create : (create p).run =
    match p.blankField? Field.all with
    | some f => done (.error (.invalid (requiredMessage f)))
    | none => step .now fun t => step (.store (.insert (.ofProfile p t.floor))) fun
      | .error e => done (.error (.ofStore "create AI platform" e))
      | .ok q =>
        step (.note (event .info "AI platform created"
          [("id", toString q.id.toInt), ("platform_type", q.profile.kind.tag)])) fun _ =>
        done (.ok q) := by
  unfold create requireFields
  cases p.blankField? Field.all with
  | some f => rfl
  | none =>
    refine congrArg (step .now) (funext fun t => ?_)
    refine congrArg (step (.store (.insert (.ofProfile p t.floor)))) (funext fun r => ?_)
    cases r <;> rfl

theorem run_get : (get id).run =
    step (.store (.get id)) fun r => done (r.mapError (.ofStore s!"get AI platform {id.toInt}")) :=
  rfl

theorem run_list : (list request).run =
    match request.cursor with
    | .error fault => done (.error (.ofToken fault))
    | .ok cursor => step (.store (.find (.ofCursor cursor))) fun
      | .error e => done (.error (.ofStore "list AI platforms" e))
      | .ok rows =>
        step (.note (event .debug "Listed AI platforms"
          [("limit", toString cursor.limit.toNat), ("offset", toString cursor.offset.toNat),
            ("returned", toString (Page.ofRows rows cursor).items.length),
            ("has_more", Event.flagText (Page.ofRows rows cursor).nextToken?.isSome)])) fun _ =>
        done (.ok (.ofRows rows cursor)) := by
  unfold list
  cases request.cursor with
  | error fault => rfl
  | ok cursor =>
    refine congrArg (step (.store (.find (.ofCursor cursor)))) (funext fun r => ?_)
    cases r <;> rfl

theorem run_update : (update id p mask).run =
    match maskedFields p mask with
    | .error e => done (.error e)
    | .ok fields => step (.store (.get id)) fun
      | .error e => done (.error (.ofStore s!"update AI platform {id.toInt}" e))
      | .ok old => step .now fun t =>
        match p.blankField? fields with
        | some f => done (.error (.invalid (requiredMessage f)))
        | none =>
          step (.note (event .debug "Updating AI platform"
            [("id", toString id.toInt),
              ("fields", Text.quotedList (fields.map Field.path))])) fun _ =>
          step (.store (.update id (.ofProfile p fields (t.floor.latest old.createdAt)))) fun
          | .error e => done (.error (.ofStore s!"update AI platform {id.toInt}" e))
          | .ok new =>
            step (.note (event .info "AI platform updated" [("id", toString id.toInt)])) fun _ =>
            done (.ok new) := by
  unfold update requireFields
  cases maskedFields p mask with
  | error e => rfl
  | ok fields =>
    refine congrArg (step (.store (.get id))) (funext fun r => ?_)
    cases r with
    | error e => rfl
    | ok old =>
      refine congrArg (step .now) (funext fun t => ?_)
      dsimp only
      cases p.blankField? fields with
      | some f => rfl
      | none =>
        refine congrArg (step (.note _)) (funext fun _ => ?_)
        refine congrArg (step (.store (.update id _))) (funext fun r => ?_)
        cases r <;> rfl

theorem run_delete : (delete id).run =
    step (.store (.delete id)) fun
    | .error e => done (.error (.ofStore s!"delete AI platform {id.toInt}" e))
    | .ok _ =>
      step (.note (event .info "AI platform deleted" [("id", toString id.toInt)])) fun _ =>
      done (.ok ()) := by
  unfold delete
  refine congrArg (step (.store (.delete id))) (funext fun r => ?_)
  cases r <;> rfl

theorem alone_create : (create p).run.alone w g =
    match p.blankField? Field.all with
    | some f => (.error (.invalid (requiredMessage f)), g)
    | none =>
      ((w.ask (.insert (.ofProfile p w.clock.floor)) g).1.mapError (.ofStore "create AI platform"),
        (w.ask (.insert (.ofProfile p w.clock.floor)) g).2) := by
  rw [run_create]
  cases p.blankField? Field.all with
  | some f => rfl
  | none =>
    simp only [Program.alone_now, Program.alone_store]
    cases (w.ask (.insert (.ofProfile p w.clock.floor)) g).1 <;> rfl

theorem alone_get : (get id).run.alone w g =
    ((w.ask (.get id) g).1.mapError (.ofStore s!"get AI platform {id.toInt}"), g) := by
  rw [run_get, Program.alone_store, Program.alone_done, World.ask_get_snd]

theorem alone_list : (list request).run.alone w g =
    match request.cursor with
    | .error fault => (.error (.ofToken fault), g)
    | .ok cursor =>
      (((w.ask (.find (.ofCursor cursor)) g).1.mapError (.ofStore "list AI platforms")).map
        fun rows => .ofRows rows cursor, g) := by
  rw [run_list]
  cases request.cursor with
  | error fault => rfl
  | ok cursor =>
    simp only [Program.alone_store, World.ask_find_snd]
    cases (w.ask (.find (.ofCursor cursor)) g).1 <;> rfl

theorem alone_update : (update id p mask).run.alone w g =
    match maskedFields p mask with
    | .error e => (.error e, g)
    | .ok fields =>
      match (w.ask (.get id) g).1 with
      | .error e => (.error (.ofStore s!"update AI platform {id.toInt}" e), g)
      | .ok old =>
        match p.blankField? fields with
        | some f => (.error (.invalid (requiredMessage f)), g)
        | none =>
          let changes := Changes.ofProfile p fields (w.clock.floor.latest old.createdAt)
          ((w.ask (.update id changes) g).1.mapError (.ofStore s!"update AI platform {id.toInt}"),
            (w.ask (.update id changes) g).2) := by
  rw [run_update]
  cases maskedFields p mask with
  | error e => rfl
  | ok fields =>
    simp only [Program.alone_store, World.ask_get_snd]
    cases (w.ask (.get id) g).1 with
    | error e => rfl
    | ok old =>
      dsimp only
      rw [Program.alone_now]
      cases p.blankField? fields with
      | some f => rfl
      | none =>
        simp only [Program.alone_note, Program.alone_store, World.ask_tell]
        generalize Changes.ofProfile p fields (w.clock.floor.latest old.createdAt) = c
        cases (w.ask (.update id c) g).1 <;> rfl

theorem alone_delete : (delete id).run.alone w g =
    ((w.ask (.delete id) g).1.mapError (.ofStore s!"delete AI platform {id.toInt}"),
      (w.ask (.delete id) g).2) := by
  rw [run_delete, Program.alone_store]
  cases (w.ask (.delete id) g).1 <;> rfl

end Platforms

namespace Answers

variable (reference prompt : String) (givenUp : Bool) (q : Platform) (id : Int32)

theorem run_generate : (generate reference prompt givenUp).run =
    match Reference.read reference with
    | .error fault => done (.error (.ofReference fault))
    | .ok id => step (.store (.get id)) fun
      | .error e => done (.error (.store e))
      | .ok q => Except.ok <$> (if givenUp then cancelled id else ask q prompt) := by
  unfold generate
  cases Reference.read reference with
  | error fault => rfl
  | ok id =>
    refine congrArg (step (.store (.get id))) (funext fun r => ?_)
    cases r with
    | error e => rfl
    | ok q =>
      dsimp only
      cases givenUp <;> rfl

theorem neverAsks_cancelled : (cancelled id).NeverAsks :=
  (Program.neverAsks_perform rfl).bind fun _ => Program.neverAsks_pure _

theorem neverAsks_ask : (ask q prompt).NeverAsks := by
  refine (Program.neverAsks_perform rfl).bind fun _ => ?_
  refine (Program.neverAsks_perform rfl).bind fun outcome => ?_
  cases outcome with
  | interrupted => exact neverAsks_cancelled q.id
  | failed e => exact (Program.neverAsks_perform rfl).bind fun _ => Program.neverAsks_pure _
  | reply r => exact (Program.neverAsks_forM_note _).bind fun _ => Program.neverAsks_pure _

theorem neverAsks_afterGet :
    (if givenUp then cancelled id else ask q prompt).NeverAsks := by
  cases givenUp
  · exact neverAsks_ask prompt q
  · exact neverAsks_cancelled id

theorem alone_generate_snd (w : World) (g : Registry) :
    ((generate reference prompt givenUp).run.alone w g).2 = g := by
  rw [run_generate]
  cases Reference.read reference with
  | error fault => rfl
  | ok id =>
    simp only [Program.alone_store, World.ask_get_snd]
    cases (w.ask (.get id) g).1 with
    | error e => rfl
    | ok q =>
      simp only [Program.alone_map]
      exact (neverAsks_afterGet prompt givenUp q id).alone_snd w g

theorem sent_forM_note (events : List Event) (w : World) :
    ((events.forM Program.note).runIn w).2.sent = w.sent := by
  induction events generalizing w with
  | nil => rfl
  | cons e events ih =>
    change ((Program.note e >>= fun _ => events.forM Program.note).runIn w).2.sent = w.sent
    rw [Program.runIn_bind]
    exact ih (w.tell e)

/-- A question is one request. -/
theorem sent_ask (w : World) : ((ask q prompt).runIn w).2.sent = w.sent ++ [request q prompt] := by
  unfold ask
  rw [Program.runIn_bind, Program.runIn_bind]
  cases ((Program.post (request q prompt)).runIn _).1 with
  | interrupted => rfl
  | failed e => rfl
  | reply r =>
    rw [Program.runIn_bind]
    exact (sent_forM_note _ _).trans rfl

/-- All that is sent for a prompt is the request to the platform that the reference names. -/
theorem sent_generate (w : World) (g : Registry) :
    ∃ posts, ((generate reference prompt givenUp).runIn (w.on g)).2.sent = w.sent ++ posts ∧
      ∀ post ∈ posts, ∃ id q, Reference.read reference = .ok id ∧
        (w.ask (.get id) g).1 = .ok q ∧ post = request q prompt := by
  unfold Action.runIn
  rw [run_generate]
  cases Reference.read reference with
  | error fault => exact ⟨[], (List.append_nil _).symm, nofun⟩
  | ok id =>
    dsimp only
    rw [Program.runIn_store]
    cases hr : (w.ask (.get id) g).1 with
    | error e => exact ⟨[], (List.append_nil _).symm, nofun⟩
    | ok q =>
      dsimp only
      rw [Program.runIn_map]
      cases givenUp with
      | true => exact ⟨[], (List.append_nil _).symm, nofun⟩
      | false =>
        refine ⟨[request q prompt], sent_ask prompt q _, fun post hp => ?_⟩
        exact ⟨id, q, rfl, hr, List.mem_singleton.mp hp⟩

end Answers

end PromptGateway
