import PromptGateway.Proofs.Operation
import PromptGateway.Proofs.Reference

/-! # When the registry fails

A run of a program is the list of what it asks of its surroundings and what they answer, whatever
the surroundings are. Where the registry answers with a failure, an operation asks nothing more. An
operation on platforms tells of what is not found as the registry does, and else of its own name and
the failure. Answering a prompt does not give a name: the failure is passed on as it is.
-/

namespace PromptGateway

open Program (done step)

/-- What is asked of the surroundings of a program, and what they answer. -/
abbrev Exchange := (e : Effect) × e.Answer

namespace Program

variable {α β : Type} {p : Program α} {told : StoreError → α → Prop}

/-- That a program comes to an end in the course of some exchanges with its surroundings. -/
inductive Path : Program α → List Exchange → α → Prop
  | done (a : α) : Path (done a) [] a
  | step {e : Effect} {next : e.Answer → Program α} {answer : e.Answer}
    {exchanges : List Exchange} {a : α} (h : Path (next answer) exchanges a) :
    Path (step e next) (⟨e, answer⟩ :: exchanges) a

def exchanges {σ : Type} (answer : (e : Effect) → σ → e.Answer × σ) :
    Program α → σ → List Exchange
  | done _, _ => []
  | step e next, s => ⟨e, (answer e s).1⟩ :: (next (answer e s).1).exchanges answer (answer e s).2

theorem path_done_iff {a b : α} {l : List Exchange} : (done b).Path l a ↔ l = [] ∧ a = b := by
  constructor
  · rintro ⟨⟩
    exact ⟨rfl, rfl⟩
  · rintro ⟨rfl, rfl⟩
    exact .done a

theorem path_run {σ : Type} (answer : (e : Effect) → σ → e.Answer × σ) (p : Program α) (s : σ) :
    p.Path (p.exchanges answer s) (p.run answer s).1 := by
  induction p generalizing s with
  | done a => exact .done a
  | step e next ih => exact .step (ih _ _)

/-- That a program ends at once where the registry fails, with what is told of the failure. -/
def FailsAs (told : StoreError → α → Prop) : Program α → Prop
  | done _ => True
  | step (.store _) next =>
    (∀ e, ∃ a, next (.error e) = done a ∧ told e a) ∧ ∀ r, (next (.ok r)).FailsAs told
  | step _ next => ∀ a, (next a).FailsAs told

theorem failsAs_of_isStore_eq_false {e : Effect} (h : e.isStore = false)
    {next : e.Answer → Program α} :
    (step e next).FailsAs told ↔ ∀ a, (next a).FailsAs told := by
  cases e with
  | store c => cases h
  | _ => rfl

theorem NeverAsks.failsAs (h : p.NeverAsks) : p.FailsAs told := by
  induction p with
  | done a => trivial
  | step e next ih => exact (failsAs_of_isStore_eq_false h.1).mpr fun a => ih a (h.2 a)

theorem FailsAs.map {told' : StoreError → β → Prop} (h : p.FailsAs told) {f : α → β}
    (hf : ∀ e a, told e a → told' e (f a)) : (f <$> p).FailsAs told' := by
  induction p with
  | done a => trivial
  | step e next ih =>
    cases e with
    | store c =>
      refine ⟨fun e => ?_, fun r => ih _ (h.2 r)⟩
      obtain ⟨a, hn, ht⟩ := h.1 e
      exact ⟨f a, congrArg (f <$> ·) hn, hf e a ht⟩
    | _ => exact fun a => ih a (h a)

/-- The failure of the registry is the last exchange of a run. -/
theorem FailsAs.of_path (h : p.FailsAs told) {before after : List Exchange} {c : Call}
    {e : StoreError} {a : α} (hp : p.Path (before ++ ⟨.store c, .error e⟩ :: after) a) :
    after = [] ∧ told e a := by
  induction before generalizing p with
  | nil =>
    cases hp with
    | step hp =>
      obtain ⟨b, hn, ht⟩ := h.1 e
      rw [hn, path_done_iff] at hp
      exact ⟨hp.1, hp.2 ▸ ht⟩
  | cons x before ih =>
    cases hp with
    | @step e next answer exchanges a hp =>
      cases e with
      | store c' =>
        cases answer with
        | error e' =>
          obtain ⟨b, hn, -⟩ := h.1 e'
          rw [hn, path_done_iff] at hp
          simp at hp
        | ok r => exact ih (h.2 r) hp
      | _ => exact ih (h answer) hp

end Program

namespace ServiceError

/-- What is told of a failure of the registry, with the title of an operation and without one. -/
inductive Tells : Option String → StoreError → ServiceError → Prop
  | notFound {title? : Option String} {what : String} {f : ServiceError} (hc : f.cls = .notFound)
    (hm : f.message = (StoreError.notFound what).message) : Tells title? (.notFound what) f
  | titled {title : String} {e : StoreError} {f : ServiceError} (he : ∀ what, e ≠ .notFound what)
    (hc : f.cls = .internal)
    (hm : f.message = "Internal error: failed to " ++ title ++ ": " ++ e.message) :
    Tells (some title) e f
  | untitled {e : StoreError} {f : ServiceError} (he : ∀ what, e ≠ .notFound what)
    (hc : f.cls = .internal) (hm : f.message = e.message) : Tells none e f

theorem message_internal (title reason : String) :
    (internal ("failed to " ++ title ++ ": " ++ reason)).message =
      "Internal error: failed to " ++ title ++ ": " ++ reason := by
  have hl : "Internal error: failed to " = "Internal error: " ++ "failed to " := by decide +kernel
  change "Internal error: " ++ ("failed to " ++ title ++ ": " ++ reason) = _
  rw [hl, String.append_assoc, String.append_assoc, String.append_assoc, String.append_assoc,
    String.append_assoc]

theorem tells_ofStore (title : String) (e : StoreError) :
    Tells (some title) e (ofStore title e) := by
  cases e with
  | notFound what => exact .notFound rfl rfl
  | storage reason => exact .titled nofun rfl (message_internal title _)
  | decoding reason => exact .titled nofun rfl (message_internal title _)

theorem tells_store (e : StoreError) : Tells none e (store e) := by
  cases e with
  | notFound what => exact .notFound rfl rfl
  | storage reason => exact .untitled nofun rfl rfl
  | decoding reason => exact .untitled nofun rfl rfl

end ServiceError

namespace Operation

/-- What an operation on platforms is called where it fails. Answering a prompt has no title. -/
def title? : Operation → Option String
  | create _ => some "create AI platform"
  | get id => some s!"get AI platform {id.toInt}"
  | list _ => some "list AI platforms"
  | update id _ _ => some s!"update AI platform {id.toInt}"
  | delete id => some s!"delete AI platform {id.toInt}"
  | generate .. => none

def FailsWith {α : Type} (title? : Option String) (e : StoreError) (r : Except ServiceError α) :
    Prop :=
  ∃ f, r = .error f ∧ ServiceError.Tells title? e f

variable {α : Type}

theorem failsWith_ofStore (title : String) (e : StoreError) :
    FailsWith (α := α) (some title) e (.error (.ofStore title e)) :=
  ⟨_, rfl, ServiceError.tells_ofStore title e⟩

theorem failsAs_program (o : Operation) : o.program.FailsAs (FailsWith o.title?) := by
  have hm {α : Type} {title? : Option String} (g : α → Response) (e : StoreError)
      (r : Except ServiceError α) (h : FailsWith title? e r) : FailsWith title? e (r.map g) := by
    obtain ⟨f, rfl, hf⟩ := h
    exact ⟨f, rfl, hf⟩
  cases o with
  | create p =>
    refine Program.FailsAs.map ?_ (hm _)
    rw [Platforms.run_create]
    cases p.blankField? Field.all with
    | some f => trivial
    | none => exact fun t => ⟨fun e => ⟨_, rfl, failsWith_ofStore _ e⟩, fun q _ => trivial⟩
  | get id =>
    refine Program.FailsAs.map ?_ (hm _)
    rw [Platforms.run_get]
    exact ⟨fun e => ⟨_, rfl, failsWith_ofStore _ e⟩, fun q => trivial⟩
  | list request =>
    refine Program.FailsAs.map ?_ (hm _)
    rw [Platforms.run_list]
    cases request.cursor with
    | error fault => trivial
    | ok c => exact ⟨fun e => ⟨_, rfl, failsWith_ofStore _ e⟩, fun rows _ => trivial⟩
  | update id p mask =>
    refine Program.FailsAs.map ?_ (hm _)
    rw [Platforms.run_update]
    cases Platforms.maskedFields p mask with
    | error e => trivial
    | ok fields =>
      refine ⟨fun e => ⟨_, rfl, failsWith_ofStore _ e⟩, fun old t => ?_⟩
      dsimp only
      cases p.blankField? fields with
      | some f => trivial
      | none => exact fun _ => ⟨fun e => ⟨_, rfl, failsWith_ofStore _ e⟩, fun new _ => trivial⟩
  | delete id =>
    refine Program.FailsAs.map ?_ (hm _)
    rw [Platforms.run_delete]
    exact ⟨fun e => ⟨_, rfl, failsWith_ofStore _ e⟩, fun _ _ => trivial⟩
  | generate reference prompt givenUp =>
    refine Program.FailsAs.map ?_ (hm _)
    rw [Answers.run_generate]
    cases Reference.read reference with
    | error fault => trivial
    | ok id =>
      refine ⟨fun e => ⟨_, rfl, _, rfl, ServiceError.tells_store e⟩, fun q => ?_⟩
      have hq : Program.FailsAs (fun _ _ => False) _ :=
        (Answers.neverAsks_afterGet prompt givenUp q id).failsAs
      exact hq.map nofun

/--
Where the registry fails in a run of an operation, nothing more is asked, and the failure is told
under the title of the operation, if it has one. By `Program.path_run` this speaks of every run,
whatever the surroundings are.
-/
theorem fails_at_once {o : Operation} {before after : List Exchange} {c : Call} {e : StoreError}
    {r : Response.Result}
    (h : o.program.Path (before ++ ⟨.store c, .error e⟩ :: after) r) :
    after = [] ∧ ∃ f, r = .error f ∧ ServiceError.Tells o.title? e f :=
  o.failsAs_program.of_path h

def complete : Profile :=
  { kind := .ollama, url := "u", accessKey := "k", displayName := "n", model := "m" }

/-- The registry has found the platform and then fails to overwrite it. -/
theorem fails_at_once_overwriting : ∃ before changes after r,
    (update 7 complete []).program.Path
      (before ++ ⟨.store (.update 7 changes), .error (.storage "disk")⟩ :: after) r ∧
    before.head? = some ⟨.store (.get 7), .ok ⟨7, complete, .epoch, .epoch⟩⟩ ∧ after = [] ∧
    ∃ f, r = .error f ∧ ServiceError.Tells (some "update AI platform 7") (.storage "disk") f := by
  have hm : Platforms.maskedFields complete [] = .ok Field.all := by decide +kernel
  have hb : complete.blankField? Field.all = none := by decide +kernel
  have ht : (update 7 complete []).title? = some "update AI platform 7" := by decide +kernel
  have hp : (update 7 complete []).program.Path
      ([⟨.store (.get 7), .ok ⟨7, complete, .epoch, .epoch⟩⟩, ⟨.now, .epoch⟩,
        ⟨.note (Platforms.event .debug "Updating AI platform" [("id", toString (7 : Int32).toInt),
          ("fields", Text.quotedList (Field.all.map Field.path))]), ()⟩] ++
        ⟨.store (.update 7 (.ofProfile complete Field.all (Moment.epoch.floor.latest .epoch))),
          .error (.storage "disk")⟩ :: [])
      (.error (.ofStore s!"update AI platform {(7 : Int32).toInt}" (.storage "disk"))) := by
    rw [program, Platforms.run_update, hm]
    refine .step (.step ?_)
    dsimp only
    simp only [hb]
    exact .step (.step (.done _))
  exact ⟨_, _, _, _, hp, rfl, ht ▸ fails_at_once hp⟩

/-- A failure to find the platform for a prompt does not tell what has failed. -/
theorem untitled_generate : ∃ f,
    (generate "1" "hi" false).program.Path [⟨.store (.get 1), .error (.storage "disk")⟩]
      (.error f) ∧
    f.cls = .internal ∧ ∀ rest, f.message ≠ "Internal error: failed to " ++ rest := by
  have hr : Reference.read "1" = .ok 1 := @Reference.read_toString 1 (by decide)
  refine ⟨.store (.storage "disk"), ?_, rfl, fun rest h => ?_⟩
  · rw [program, Answers.run_generate, hr]
    exact .step (.done _)
  · have hl := congrArg String.toList h
    rw [String.toList_append] at hl
    cases hl

end Operation

end PromptGateway
