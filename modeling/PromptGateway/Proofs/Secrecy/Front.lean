import PromptGateway.Api
import PromptGateway.Cli
import PromptGateway.Proofs.Secrecy.Service

/-! # Front ends that keep credentials to themselves

What the API responds and what the command line prints is made of what can be seen of platforms when
their credentials are hidden.
-/

namespace PromptGateway

open Program

@[simp] theorem Platform.hasAccessKey_masked (q : Platform) :
    q.masked.hasAccessKey = q.hasAccessKey :=
  Platform.Alike.hasAccessKey q.masked_masked

namespace Api

theorem PlatformView.of_masked (q : Platform) : of q.masked = of q := by
  rw [of, Platform.hasAccessKey_masked]
  rfl

theorem PlatformView.of_alike {q q' : Platform} (h : q.Alike q') : of q = of q' := by
  rw [← of_masked q, ← of_masked q', h]

theorem Listing.of_map_masked (page : Page Platform) : of (page.map Platform.masked) = of page := by
  simp [of, Page.map, Function.comp_def, PlatformView.of_masked]

theorem Listing.of_alike {page page' : Page Platform} (h : page.Alike page') :
    of page = of page' := by
  rw [← of_map_masked page, ← of_map_masked page', h]

section Handlers

variable {α : Type} {R : α → α → Prop}

theorem alike_serve {a : Action α} (h : a.run.Alike (Agree R) a.run) :
    (serve a).run.Alike (Agree R) (serve a).run :=
  h.mapError Failure.ofService

theorem neverAsks_understood (r : Except String α) : (understood r).run.NeverAsks := by
  cases r <;> trivial

theorem neverAsks_platformNumber (reference : String) :
    (platformNumber reference).run.NeverAsks := by
  unfold platformNumber
  cases Reference.read reference <;> trivial

variable (r : Request) (reference : String)

theorem alike_listPlatforms (query? : Option (List Char)) :
    (listPlatforms query?).run.Alike (Agree Eq) (listPlatforms query?).run := by
  refine (neverAsks_understood _).agree.bindExcept ?_
  rintro request _ rfl
  refine (alike_serve (Platforms.alike_list request)).bindExcept fun page page' h => ?_
  rw [Listing.of_alike h]
  exact .done (.refl _)

theorem alike_createPlatform :
    (createPlatform r).run.Alike (Agree Eq) (createPlatform r).run := by
  refine (neverAsks_understood _).agree.bindExcept ?_
  rintro members _ rfl
  refine (alike_serve (Platforms.alike_create _)).bindExcept fun q q' h => ?_
  rw [PlatformView.of_alike h]
  exact .done (.refl _)

theorem alike_showPlatform :
    (showPlatform reference).run.Alike (Agree Eq) (showPlatform reference).run := by
  refine (neverAsks_platformNumber reference).agree.bindExcept ?_
  rintro id _ rfl
  refine (alike_serve (Platforms.alike_get id)).bindExcept fun q q' h => ?_
  rw [PlatformView.of_alike h]
  exact .done (.refl _)

theorem alike_changePlatform :
    (changePlatform reference r).run.Alike (Agree Eq) (changePlatform reference r).run := by
  refine (neverAsks_platformNumber reference).agree.bindExcept ?_
  rintro id _ rfl
  refine (neverAsks_understood _).agree.bindExcept ?_
  rintro ⟨profile, mask, ⟨⟩⟩ _ rfl
  refine (alike_serve (Platforms.alike_update id _ mask)).bindExcept fun q q' h => ?_
  rw [PlatformView.of_alike h]
  exact .done (.refl _)

theorem alike_removePlatform :
    (removePlatform reference).run.Alike (Agree Eq) (removePlatform reference).run := by
  refine (neverAsks_platformNumber reference).agree.bindExcept ?_
  rintro id _ rfl
  exact (alike_serve (Platforms.alike_delete id)).bindExcept fun _ _ _ => .done (.refl _)

theorem alike_answerPrompt (prompt : String) :
    (answerPrompt reference prompt).run.Alike (Agree Eq) (answerPrompt reference prompt).run := by
  refine (alike_serve (Answers.alike_generate reference prompt false)).bindExcept ?_
  rintro result _ rfl
  exact .done (.refl _)

theorem alike_answerAt :
    (answerAt reference r).run.Alike (Agree Eq) (answerAt reference r).run := by
  refine (neverAsks_understood _).agree.bindExcept ?_
  rintro ⟨prompt, ⟨⟩⟩ _ rfl
  exact alike_answerPrompt reference prompt

theorem alike_answerNamed : (answerNamed r).run.Alike (Agree Eq) (answerNamed r).run := by
  refine (neverAsks_understood _).agree.bindExcept ?_
  rintro ⟨reference, prompt, ⟨⟩⟩ _ rfl
  exact alike_answerPrompt reference prompt

theorem alike_respond {h : Handler Response} (hh : h.run.Alike (Agree Eq) h.run) :
    (respond h).Alike Eq (respond h) := by
  refine hh.bind fun o o' ho => ?_
  obtain rfl := ho.eq
  cases o with
  | ok response => exact .done rfl
  | error failure =>
    cases failure with
    | internal reason => exact ((neverAsks_perform rfl).bind fun _ => neverAsks_pure _).alike
    | badRequest reason => exact .done rfl
    | notFound reason => exact .done rfl

theorem alike_withReference {h : String → Handler Response} (reference : List Char)
    (hh : ∀ reference, (h reference).run.Alike (Agree Eq) (h reference).run) :
    (withReference reference h).Alike Eq (withReference reference h) := by
  unfold withReference
  cases decodeReference? reference with
  | none => exact .done rfl
  | some reference => exact alike_respond (hh reference)

theorem alike_answerRoute (query? : Option (List Char)) (method : String) (route : Route) :
    (answerRoute r query? method route).Alike Eq (answerRoute r query? method route) := by
  cases route with
  | health => exact .done rfl
  | platforms =>
    rw [answerRoute]
    split
    · exact alike_respond (alike_createPlatform r)
    · exact alike_respond (alike_listPlatforms query?)
  | platform reference =>
    refine alike_withReference reference fun reference => ?_
    split
    · exact alike_changePlatform r reference
    split
    · exact alike_removePlatform reference
    · exact alike_showPlatform reference
  | answers reference =>
    exact alike_withReference reference fun reference => alike_answerAt r reference
  | namedAnswers => exact alike_respond (alike_answerNamed r)

/-- The answer to a request does not depend on which credentials platforms have. -/
theorem alike_answer (origins : Origins) : (answer origins r).Alike Eq (answer origins r) := by
  unfold answer
  dsimp only
  cases Route.ofPath? (Target.of r.target).path with
  | none => exact .done rfl
  | some route =>
    dsimp only
    split
    · exact .done rfl
    split
    · refine (alike_answerRoute r _ r.method route).bind ?_
      rintro response _ rfl
      exact .done rfl
    · exact .done rfl

end Handlers

end Api

namespace Cli

theorem Table.row_masked (q : Platform) : row q.masked = row q := rfl

theorem Table.map_row_alike {page page' : Page Platform} (h : page.Alike page') :
    page.items.map row = page'.items.map row := by
  have hr (page : Page Platform) : page.items.map row =
      (page.map Platform.masked).items.map row := by
    simp [Page.map, Function.comp_def, row_masked]
  rw [hr page, hr page', h]

section Tasks

variable {α : Type} {R : α → α → Prop}

theorem alike_serviceTask {a : Action α} (h : a.run.Alike (Agree R) a.run) :
    (serviceTask a).run.Alike (Agree R) (serviceTask a).run :=
  h.mapError Failure.ofService

theorem neverAsks_say (text : String) : (say text).run.NeverAsks :=
  (neverAsks_perform rfl).bind fun _ => neverAsks_pure _

theorem alike_printPages (all : Bool) (printed : Nat) (request : PageRequest) (pages : Nat) :
    (printPages all printed request pages).run.Alike (Agree Eq)
      (printPages all printed request pages).run := by
  induction pages generalizing printed request with
  | zero => exact .done (.refl _)
  | succ pages ih =>
    refine (alike_serviceTask (Platforms.alike_list request)).bindExcept fun page page' h => ?_
    have hr := Table.map_row_alike h
    have hl : page.items.length = page'.items.length := by simpa using congrArg List.length hr
    have hn : page.items = [] ↔ page'.items = [] := by
      rw [← List.length_eq_zero_iff, hl, List.length_eq_zero_iff]
    have ht : page.nextToken? = page'.nextToken? := congrArg (·.nextToken?) h
    simp only [hr, hl, hn, ht]
    split
    · exact (neverAsks_say _).agree
    · refine (neverAsks_say _).agree.bindExcept fun _ _ _ => ?_
      cases page'.nextToken? with
      | none => exact (neverAsks_say _).agree
      | some token =>
        dsimp only
        split
        · exact ih _ _
        · exact (neverAsks_say _).agree

theorem alike_addPlatform (p : Profile) :
    (addPlatform p).run.Alike (Agree Eq) (addPlatform p).run := by
  refine (alike_serviceTask (Platforms.alike_create p)).bindExcept fun q q' h => ?_
  rw [h.id, h.displayName, h.kind]
  exact (neverAsks_say _).agree

theorem alike_removePlatform (reference : String) :
    (removePlatform reference).run.Alike (Agree Eq) (removePlatform reference).run := by
  unfold removePlatform
  cases Reference.read reference with
  | error fault => exact .done (.refl _)
  | ok id =>
    exact (alike_serviceTask (Platforms.alike_delete id)).bindExcept fun _ _ _ =>
      (neverAsks_say _).agree

theorem alike_askPlatform (reference prompt : String) :
    (askPlatform reference prompt).run.Alike (Agree Eq) (askPlatform reference prompt).run := by
  refine (alike_serviceTask (Answers.alike_generate reference prompt false)).bindExcept ?_
  rintro result _ rfl
  cases result with
  | answered answer => exact (neverAsks_say _).agree
  | failed reason => exact .done (.refl _)

/-- What a command comes to does not depend on which credentials platforms have. -/
theorem alike_task (c : Command) : c.task.run.Alike (Agree Eq) c.task.run := by
  cases c with
  | serve port origins => exact (neverAsks_say _).agree
  | list pageSize pageToken? all => exact alike_printPages all 0 _ mostPages
  | add profile => exact alike_addPlatform profile
  | remove reference => exact alike_removePlatform reference
  | ask reference words => exact alike_askPlatform reference _

end Tasks

end Cli

end PromptGateway
