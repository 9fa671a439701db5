import Mathlib.Algebra.Group.Nat.Defs
import PromptGateway.Proofs.Concurrency.Linearization

/-! # What is stored

Whatever jobs run at the same time on a registry that was empty, the rows that are stored have
numbers of their own and keep the promises that creations and changes are checked for, so each of
them is a platform.
-/

namespace PromptGateway

structure Row.Lawful (r : Row) : Prop where
  kindTag : r.kindTag ∈ Kind.all.map Kind.tag
  url_ne_empty : r.url ≠ ""
  url_trimmed : Text.trim r.url = r.url
  accessKey : Text.trim r.accessKey ≠ ""
  displayName : Text.trim r.displayName ≠ ""
  model : Text.trim r.model ≠ ""
  created_le_updated : r.createdTs ≤ r.updatedTs

structure Registry.Lawful (g : Registry) : Prop where
  nodup : (g.rows.map Row.id).Nodup
  lawful : ∀ r ∈ g.rows, r.Lawful
  decode : ∀ r ∈ g.rows, ∃ q, r.decode = .ok q

theorem Row.Sound.trim_value_ne_empty {r : Row} (h : r.Sound) {f : Field}
    (hf : f.isRequired = true) : Text.trim (r.profile.value f) ≠ "" := by
  rw [Ne, Text.trim_eq_empty_iff, h.required f hf]
  decide

theorem Row.Sound.lawful {r : Row} (h : r.Sound) : r.Lawful where
  kindTag := by
    rw [h.kindTag]
    cases r.profile.kind <;> decide
  url_ne_empty := h.url ▸ h.trim_value_ne_empty (f := .url) rfl
  url_trimmed := h.url
  accessKey := h.trim_value_ne_empty (f := .accessKey) rfl
  displayName := h.trim_value_ne_empty (f := .displayName) rfl
  model := h.trim_value_ne_empty (f := .model) rfl
  created_le_updated := h.created_le_updated

namespace Registry

variable {g : Registry}

theorem WellFormed.lawful (h : g.WellFormed) (hl : g.lastId < 2 ^ 31) : g.Lawful where
  nodup := h.nodup
  lawful r hr := (h.sound r hr).lawful
  decode r hr := (h.sound r hr).exists_decode
    (by have := h.id_pos r hr; omega) ((h.id_le r hr).trans_lt hl)

/-- One if a registry has more rows than another, and else zero. -/
def grown (g g' : Registry) : Nat := if g.rows.length < g'.rows.length then 1 else 0

@[simp] theorem grown_self (g : Registry) : g.grown g = 0 := if_neg (Nat.lt_irrefl _)

/-- The counter goes up exactly when a row is added. -/
theorem lastId_perform (g : Registry) (c : Call) :
    (g.perform c).2.lastId = g.lastId + g.grown (g.perform c).2 := by
  cases c with
  | insert e =>
    simp only [perform, insert]
    split
    · have hr : g.grown (g.put (.ofEntry e (g.lastId + 1))) = 1 := if_pos (by simp [put])
      rw [hr]
      exact max_eq_right (Int.lt_succ _).le
    · simp
  | find q => simp [perform]
  | get id => simp [perform]
  | update id c =>
    have hr : g.grown (g.update id c).2 = 0 := by
      unfold update grown
      split <;> simp
    rw [perform, lastId_update, hr]
    simp
  | delete id =>
    have hr : g.grown (g.delete id).2 = 0 := by
      unfold delete grown
      split
      · exact if_neg (Nat.not_lt.mpr (List.length_filter_le _ _))
      · exact if_neg (Nat.lt_irrefl _)
    rw [perform, lastId_delete, hr]
    simp

end Registry

namespace System

/-- The number of records that are created in the course of a run. -/
def created (s : System) : List Move → Nat
  | [] => 0
  | m :: moves => s.registry.grown (s.move m).registry + (s.move m).created moves

theorem created_le_length (s : System) (moves : List Move) : s.created moves ≤ moves.length := by
  induction moves generalizing s with
  | nil => exact Nat.le_refl 0
  | cons m moves ih =>
    have hg : s.registry.grown (s.move m).registry ≤ 1 := by
      unfold Registry.grown
      split <;> decide
    have := ih (s.move m)
    simp only [created, List.length_cons]
    omega

theorem move_registry (s : System) (m : Move) :
    (s.move m).registry = s.registry ∨ ∃ c, (s.move m).registry = (s.registry.perform c).2 := by
  cases m with
  | start j => exact .inl rfl
  | advance i =>
    cases ht : s.threads[i]? with
    | none =>
      rw [move_advance_of_none ht]
      exact .inl rfl
    | some t =>
      cases hr : t.rest with
      | done r =>
        rw [move_advance_of_done ht hr]
        exact .inl rfl
      | step e next =>
        rw [move_advance_of_step ht hr]
        cases e with
        | store c =>
          rw [World.perform_store, World.registry_on]
          unfold World.ask
          split
          · exact .inl rfl
          · exact .inr ⟨c, rfl⟩
        | _ => exact .inl rfl

theorem lastId_move (s : System) (m : Move) :
    (s.move m).registry.lastId = s.registry.lastId + s.registry.grown (s.move m).registry := by
  rcases s.move_registry m with hm | ⟨c, hm⟩
  · simp [hm]
  · rw [hm, Registry.lastId_perform]

/-- The counter has gone up by the number of records that were created. -/
theorem lastId_run (s : System) (moves : List Move) :
    (s.run moves).registry.lastId = s.registry.lastId + s.created moves := by
  induction moves generalizing s with
  | nil => simp [created]
  | cons m moves ih =>
    have hm := s.lastId_move m
    have hr := ih (s.move m)
    rw [created, show s.run (m :: moves) = (s.move m).run moves from rfl, hr, hm]
    omega

/-- What is promised of stored rows holds in every state that is reached from an empty registry. -/
theorem lawful_run (moves : List Move) (h : created {} moves < 2 ^ 31) :
    (run {} moves).registry.Lawful := by
  obtain ⟨_, he, _⟩ := exists_explains Registry.wellFormed_empty moves
  refine he.wellFormed.lawful ?_
  have hl := lastId_run {} moves
  rw [show run ⟨{}, []⟩ moves = run {} moves from rfl, hl]
  simpa using Int.ofNat_lt.mpr h

/-- A platform is created, and two changes of it read it before either of them writes. -/
def crossedUpdates : List Move :=
  let p : Profile := { url := " u ", accessKey := "k", displayName := "n", model := "m" }
  [.start ⟨.create p, {}⟩, .advance 0, .advance 0,
    .start ⟨.update 1 { p with model := "o" } ["model"], {}⟩,
    .start ⟨.update 1 { p with accessKey := "" } [], { clock := { seconds := -1 } }⟩,
    .advance 1, .advance 2, .advance 2, .advance 2, .advance 2, .advance 1, .advance 1, .advance 1]

theorem lawful_crossedUpdates : created {} crossedUpdates < 2 ^ 31 ∧
    (run {} crossedUpdates).registry.Lawful := by
  have h : created {} crossedUpdates < 2 ^ 31 := by
    have hl : crossedUpdates.length = 13 := rfl
    have hc := created_le_length {} crossedUpdates
    omega
  exact ⟨h, lawful_run crossedUpdates h⟩

end System

end PromptGateway
