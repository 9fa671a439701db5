import PromptGateway.Proofs.Page
import PromptGateway.Proofs.Secrecy.Program
import PromptGateway.Proofs.Service

/-! # Services that keep credentials to themselves

Each operation of the services is alike to itself: nothing that it tells, yields or does to the
registry depends on which credential a platform has, and only requests to platforms carry it.
-/

namespace PromptGateway

namespace Platform.Alike

variable {q q' : Platform}

theorem id (h : q.Alike q') : q.id = q'.id := congrArg (·.id) h

theorem kind (h : q.Alike q') : q.profile.kind = q'.profile.kind := congrArg (·.profile.kind) h

theorem url (h : q.Alike q') : q.profile.url = q'.profile.url := congrArg (·.profile.url) h

theorem model (h : q.Alike q') : q.profile.model = q'.profile.model :=
  congrArg (·.profile.model) h

theorem displayName (h : q.Alike q') : q.profile.displayName = q'.profile.displayName :=
  congrArg (·.profile.displayName) h

theorem createdAt (h : q.Alike q') : q.createdAt = q'.createdAt := congrArg (·.createdAt) h

theorem hasAccessKey (h : q.Alike q') : q.hasAccessKey = q'.hasAccessKey := by
  have hv := veil_eq_iff.mp (congrArg (·.profile.accessKey) h)
  rw [Platform.hasAccessKey, Platform.hasAccessKey, Bool.eq_iff_iff, bne_iff_ne, bne_iff_ne]
  exact not_congr hv

end Platform.Alike

def Page.Alike (page page' : Page Platform) : Prop :=
  page.map Platform.masked = page'.map Platform.masked

open Program

namespace Platforms

theorem alike_create (p : Profile) :
    (create p).run.Alike (Agree Platform.Alike) (create p).run := by
  rw [run_create]
  cases p.blankField? Field.all with
  | some f => exact .done (.error _)
  | none =>
    refine .same rfl fun t => .store _ fun r r' h => ?_
    cases h with
    | error e => exact .done (.error _)
    | ok h =>
      have h : Platform.Alike _ _ := h
      dsimp only
      rw [h.id, h.kind]
      exact .same rfl fun _ => .done (.ok h)

theorem alike_get (id : Int32) : (get id).run.Alike (Agree Platform.Alike) (get id).run := by
  rw [run_get]
  exact .store _ fun r r' h => .done (h.mapError _)

theorem alike_list (request : PageRequest) :
    (list request).run.Alike (Agree Page.Alike) (list request).run := by
  rw [run_list]
  cases request.cursor with
  | error fault => exact .done (.error _)
  | ok cursor =>
    refine .store _ fun r r' h => ?_
    cases h with
    | error e => exact .done (.error _)
    | @ok rows rows' h =>
      have hp : (Page.ofRows rows cursor).Alike (.ofRows rows' cursor) := by
        rw [Page.Alike, Page.map_ofRows, Page.map_ofRows]
        exact congrArg (Page.ofRows · cursor) h
      have hl : (Page.ofRows rows cursor).items.length =
          (Page.ofRows rows' cursor).items.length := by
        simpa [Page.map] using congrArg (·.items.length) hp
      have ht : (Page.ofRows rows cursor).nextToken? = (Page.ofRows rows' cursor).nextToken? :=
        congrArg (·.nextToken?) hp
      dsimp only
      rw [hl, ht]
      exact .same rfl fun _ => .done (.ok hp)

theorem alike_update (id : Int32) (p : Profile) (mask : List String) :
    (update id p mask).run.Alike (Agree Platform.Alike) (update id p mask).run := by
  rw [run_update]
  cases maskedFields p mask with
  | error e => exact .done (.error _)
  | ok fields =>
    refine .store _ fun r r' h => ?_
    cases h with
    | error e => exact .done (.error _)
    | ok h =>
      have h : Platform.Alike _ _ := h
      refine .same rfl fun t => ?_
      rw [h.createdAt]
      cases p.blankField? fields with
      | some f => exact .done (.error _)
      | none =>
        refine .same rfl fun _ => .store _ fun r r' h => ?_
        cases h with
        | error e => exact .done (.error _)
        | ok h => exact .same rfl fun _ => .done (.ok h)

theorem alike_delete (id : Int32) : (delete id).run.Alike (Agree Eq) (delete id).run := by
  rw [run_delete]
  refine .store _ fun r r' h => ?_
  cases h with
  | error e => exact .done (.error _)
  | ok h => exact .same rfl fun _ => .done (.ok rfl)

end Platforms

namespace Answers

theorem alike_request {q q' : Platform} (h : q.Alike q') (prompt : String) :
    (request q prompt).Alike (request q' prompt) := by
  refine ⟨congrArg Text.trim h.url, congrArg (ChatRequest.ofPrompt · prompt) h.model, ?_⟩
  rw [request, request, h.hasAccessKey]
  cases q'.hasAccessKey <;> rfl

theorem alike_ask {q q' : Platform} (h : q.Alike q') (prompt : String) :
    (ask q prompt).Alike Eq (ask q' prompt) := by
  unfold ask
  rw [h.id, h.kind, h.url, h.model]
  refine (neverAsks_perform rfl).alike.bind fun _ _ _ => ?_
  refine Alike.bind (.post (alike_request h prompt) fun o => .done rfl) fun o o' ho => ?_
  subst ho
  cases o with
  | interrupted => exact (neverAsks_cancelled q'.id).alike
  | failed e => exact ((neverAsks_perform rfl).bind fun _ => neverAsks_pure _).alike
  | reply r => exact ((neverAsks_forM_note _).bind fun _ => neverAsks_pure _).alike

theorem alike_generate (reference prompt : String) (givenUp : Bool) :
    (generate reference prompt givenUp).run.Alike (Agree Eq)
      (generate reference prompt givenUp).run := by
  rw [run_generate]
  cases Reference.read reference with
  | error fault => exact .done (.error _)
  | ok id =>
    refine .store _ fun r r' h => ?_
    cases h with
    | error e => exact .done (.error _)
    | ok h =>
      have h : Platform.Alike _ _ := h
      have ha : ∀ a b : AnswerResult, a = b → (done (Except.ok a)).Alike (Agree Eq)
          (done (Except.ok b : Except ServiceError AnswerResult)) := fun a b hab => .done (.ok hab)
      cases givenUp with
      | true => exact (neverAsks_cancelled id).alike.bind ha
      | false => exact (alike_ask h prompt).bind ha

end Answers

end PromptGateway
