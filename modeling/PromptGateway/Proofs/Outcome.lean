import PromptGateway.Proofs.Except
import PromptGateway.Proofs.Operation

/-! # Outcomes

What each operation has done to the rows of a registry once its result is known. A success names the
one row that was written or removed; after a failure every row that can be asked for is as before.
-/

namespace PromptGateway

namespace World

variable {w : World} {g : Registry} {id : Int32} {c : Changes} {e : Entry} {q : Platform}
  {err : StoreError}

theorem ask_insert_ok (h : (w.ask (.insert e) g).1 = .ok q) :
    q.id.toInt = g.lastId + 1 ∧ (Row.ofEntry e q.id.toInt).decode = .ok q ∧
      (w.ask (.insert e) g).2 = g.put (Row.ofEntry e q.id.toInt) := by
  have hp := ask_of_ok h
  rw [hp] at h ⊢
  simp only [Registry.perform, Registry.insert] at h ⊢
  split at h
  · rename_i hl
    have hq : q.id.toInt = g.lastId + 1 := (Row.decode_eq_ok_iff.mp h).1
    rw [if_pos hl, hq]
    exact ⟨rfl, h, rfl⟩
  · cases h

/-- An entry that was not accepted has no row, or one whose number no platform can have. -/
theorem ask_insert_error (h : (w.ask (.insert e) g).1 = .error err)
    (ht : ∃ m m', Row.moment e.createdAt.seconds = .ok m ∧
      Row.moment e.updatedAt.seconds = .ok m') :
    (w.ask (.insert e) g).2.row? id.toInt = g.row? id.toInt := by
  rcases w.ask_cases (.insert e) g with ⟨_, hf⟩ | hp
  · rw [hf]
  · rw [hp] at h ⊢
    simp only [Registry.perform, Registry.insert] at h ⊢
    split
    · rename_i hl
      rw [if_pos hl] at h
      refine Registry.row?_put_of_ne fun hid => ?_
      obtain ⟨m, m', hm, hm'⟩ := ht
      have hd : (Row.ofEntry e (g.lastId + 1)).decode = .ok ⟨id, _, m, m'⟩ :=
        Row.decode_eq_ok_iff.mpr ⟨hid.symm, rfl, hm, hm'⟩
      rw [hd] at h
      cases h
    · rfl

theorem ask_update_ok (h : (w.ask (.update id c) g).1 = .ok q) :
    ∃ r, g.row? id.toInt = some r ∧ (r.update c).decode = .ok q ∧
      (w.ask (.update id c) g).2 = (g.update id c).2 := by
  have hp := ask_of_ok h
  rw [hp] at h ⊢
  cases hr : g.row? id.toInt with
  | none =>
    simp only [Registry.perform, Registry.update, hr] at h
    cases h
  | some r =>
    simp only [Registry.perform, Registry.update, hr] at h
    exact ⟨r, rfl, h, rfl⟩

theorem ask_update_error (h : (w.ask (.update id c) g).1 = .error err)
    (hc : ∀ r, g.row? id.toInt = some r → ∃ q, (r.update c).decode = .ok q) :
    (w.ask (.update id c) g).2 = g := by
  rcases w.ask_cases (.update id c) g with ⟨_, hf⟩ | hp
  · rw [hf]
  · rw [hp] at h ⊢
    cases hr : g.row? id.toInt with
    | none => simp only [Registry.perform, Registry.update, hr]
    | some r =>
      obtain ⟨q, hq⟩ := hc r hr
      simp only [Registry.perform, Registry.update, hr, hq] at h
      cases h

theorem ask_delete_ok (h : (w.ask (.delete id) g).1 = .ok ()) :
    ∃ r, g.row? id.toInt = some r ∧ (w.ask (.delete id) g).2 = (g.delete id).2 := by
  have hp := ask_of_ok h
  rw [hp] at h ⊢
  cases hr : g.row? id.toInt with
  | none =>
    simp only [Registry.perform, Registry.delete, hr] at h
    cases h
  | some r => exact ⟨r, rfl, rfl⟩

theorem ask_delete_error (h : (w.ask (.delete id) g).1 = .error err) :
    (w.ask (.delete id) g).2 = g := by
  rcases w.ask_cases (.delete id) g with ⟨_, hf⟩ | hp
  · rw [hf]
  · rw [hp] at h ⊢
    cases hr : g.row? id.toInt with
    | none => simp only [Registry.perform, Registry.delete, hr]
    | some r =>
      simp only [Registry.perform, Registry.delete, hr] at h
      cases h

end World

namespace Platforms

variable {p : Profile} {id : Int32} {mask : List String} {w : World} {g : Registry} {q : Platform}
  {err : ServiceError}

/-- A creation that succeeds adds the row of the platform that it yields, under the next number. -/
theorem create_ok (h : ((create p).run.alone w g).1 = .ok q) :
    p.blankField? Field.all = none ∧ q.id.toInt = g.lastId + 1 ∧
      (Row.ofEntry (.ofProfile p w.clock.floor) q.id.toInt).decode = .ok q ∧
      ((create p).run.alone w g).2 =
        g.put (Row.ofEntry (.ofProfile p w.clock.floor) q.id.toInt) := by
  rw [alone_create] at h ⊢
  cases hp : p.blankField? Field.all with
  | some f =>
    rw [hp] at h
    cases h
  | none =>
    rw [hp] at h
    exact ⟨rfl, World.ask_insert_ok (mapError_eq_ok_iff.mp h)⟩

theorem create_error (h : ((create p).run.alone w g).1 = .error err) :
    ((create p).run.alone w g).2.row? id.toInt = g.row? id.toInt := by
  rw [alone_create] at h ⊢
  cases hp : p.blankField? Field.all with
  | some f => rfl
  | none =>
    rw [hp] at h
    obtain ⟨e, he, _⟩ := mapError_eq_error_iff.mp h
    exact World.ask_insert_error he ⟨_, _, Row.moment_seconds rfl, Row.moment_seconds rfl⟩

/-- A change that succeeds writes the selected fields of one row. -/
theorem update_ok (h : ((update id p mask).run.alone w g).1 = .ok q) :
    ∃ fields r, maskedFields p mask = .ok fields ∧ g.row? id.toInt = some r ∧
      (r.update (.ofProfile p fields (w.clock.floor.latest q.createdAt))).decode = .ok q ∧
      ((update id p mask).run.alone w g).2 =
        (g.update id (.ofProfile p fields (w.clock.floor.latest q.createdAt))).2 := by
  rw [alone_update] at h ⊢
  cases hm : maskedFields p mask with
  | error e =>
    rw [hm] at h
    cases h
  | ok fields =>
    rw [hm] at h
    dsimp only at h ⊢
    cases ho : (w.ask (.get id) g).1 with
    | error e =>
      rw [ho] at h
      cases h
    | ok old =>
      rw [ho] at h
      dsimp only at h ⊢
      cases hp : p.blankField? fields with
      | some f =>
        rw [hp] at h
        cases h
      | none =>
        rw [hp] at h
        obtain ⟨s, hs, hold⟩ := World.ask_get_eq_ok ho
        obtain ⟨r, hr, hd, hg⟩ := World.ask_update_ok (mapError_eq_ok_iff.mp h)
        obtain rfl : s = r := Option.some.inj (hs.symm.trans hr)
        obtain ⟨-, -, hc, -⟩ := Row.decode_update hold hd
        rw [← hc] at hd
        exact ⟨fields, s, rfl, hr, hd, by rw [hc]; exact hg⟩

theorem update_error (hg : g.WellFormed) (h : ((update id p mask).run.alone w g).1 = .error err) :
    ((update id p mask).run.alone w g).2 = g := by
  rw [alone_update] at h ⊢
  cases hm : maskedFields p mask with
  | error e => rfl
  | ok fields =>
    rw [hm] at h
    dsimp only at h ⊢
    cases ho : (w.ask (.get id) g).1 with
    | error e => rfl
    | ok old =>
      rw [ho] at h
      dsimp only at h ⊢
      cases hp : p.blankField? fields with
      | some f => rfl
      | none =>
        rw [hp] at h
        obtain ⟨e, he, _⟩ := mapError_eq_error_iff.mp h
        obtain ⟨r, hr, hd⟩ := World.ask_get_eq_ok ho
        obtain ⟨hm, hid⟩ := Registry.mem_of_row?_eq_some hr
        obtain ⟨hc, hn⟩ := Row.moment_eq_ok_iff.mp (Row.decode_eq_ok_iff.mp hd).2.2.1
        refine World.ask_update_error he fun s hs => ?_
        obtain rfl : r = s := Option.some.inj (hr.symm.trans hs)
        have ht : r.createdTs ≤ (w.clock.floor.latest old.createdAt).seconds := by
          rw [Moment.seconds_latest, hc]
          exact le_max_right _ _
        exact ((hg.sound r hm).update hp (Moment.nanos_latest rfl hn) ht).exists_decode
          (hid ▸ id.le_toInt) (hid ▸ id.toInt_lt)

/-- A removal that succeeds takes away one row. -/
theorem delete_ok (h : ((delete id).run.alone w g).1 = .ok ()) :
    ∃ r, g.row? id.toInt = some r ∧ ((delete id).run.alone w g).2 = (g.delete id).2 := by
  rw [alone_delete] at h ⊢
  exact World.ask_delete_ok (mapError_eq_ok_iff.mp h)

theorem delete_error (h : ((delete id).run.alone w g).1 = .error err) :
    ((delete id).run.alone w g).2 = g := by
  rw [alone_delete] at h ⊢
  obtain ⟨e, he, _⟩ := mapError_eq_error_iff.mp h
  exact World.ask_delete_error he

end Platforms

namespace Operation

def isWrite : Operation → Bool
  | create _ | update _ _ _ | delete _ => true
  | get _ | list _ | generate _ _ _ => false

/-- What an operation that runs alone yields, and the registry that it leaves behind. -/
inductive Yields (w : World) (g : Registry) : Operation → Response.Result → Registry → Prop
  | created {p : Profile} {q : Platform} (hid : q.id.toInt = g.lastId + 1)
    (hq : (Row.ofEntry (.ofProfile p w.clock.floor) q.id.toInt).decode = .ok q) :
    Yields w g (.create p) (.ok (.platform q))
      (g.put (Row.ofEntry (.ofProfile p w.clock.floor) q.id.toInt))
  | updated {id : Int32} {p : Profile} {mask : List String} {fields : List Field} {r : Row}
    {q : Platform} (hm : Platforms.maskedFields p mask = .ok fields)
    (hr : g.row? id.toInt = some r)
    (hq : (r.update (.ofProfile p fields (w.clock.floor.latest q.createdAt))).decode = .ok q) :
    Yields w g (.update id p mask) (.ok (.platform q))
      (g.update id (.ofProfile p fields (w.clock.floor.latest q.createdAt))).2
  | deleted {id : Int32} {r : Row} (hr : g.row? id.toInt = some r) :
    Yields w g (.delete id) (.ok .removed) (g.delete id).2
  | kept {o : Operation} {res : Response.Result} {g' : Registry}
    (hw : o.isWrite = true → ∃ e, res = .error e)
    (hg : ∀ id : Int32, g'.row? id.toInt = g.row? id.toInt) : Yields w g o res g'

/-- Every operation succeeds in its write, or keeps every row that can be asked for. -/
theorem yields (o : Operation) (w : World) {g : Registry} (hg : g.WellFormed) :
    Yields w g o (o.program.alone w g).1 (o.program.alone w g).2 := by
  cases o with
  | create p =>
    rw [program, alone_program_map]
    cases h : ((Platforms.create p).run.alone w g).1 with
    | error e => exact .kept (fun _ => ⟨e, rfl⟩) fun _ => Platforms.create_error h
    | ok q =>
      obtain ⟨_, hid, hq, hs⟩ := Platforms.create_ok h
      rw [hs]
      exact .created hid hq
  | get id =>
    rw [program, alone_program_map, Platforms.alone_get]
    exact .kept (by rintro ⟨⟩) fun _ => rfl
  | list request =>
    rw [program, alone_program_map, Platforms.alone_list]
    cases request.cursor <;> exact .kept (by rintro ⟨⟩) fun _ => rfl
  | update id p mask =>
    rw [program, alone_program_map]
    cases h : ((Platforms.update id p mask).run.alone w g).1 with
    | error e =>
      rw [Platforms.update_error hg h]
      exact .kept (fun _ => ⟨e, rfl⟩) fun _ => rfl
    | ok q =>
      obtain ⟨fields, r, hm, hr, hq, hs⟩ := Platforms.update_ok h
      rw [hs]
      exact .updated hm hr hq
  | delete id =>
    rw [program, alone_program_map]
    cases h : ((Platforms.delete id).run.alone w g).1 with
    | error e =>
      rw [Platforms.delete_error h]
      exact .kept (fun _ => ⟨e, rfl⟩) fun _ => rfl
    | ok u =>
      obtain ⟨r, hr, hs⟩ := Platforms.delete_ok h
      rw [hs]
      exact .deleted hr
  | generate reference prompt givenUp =>
    rw [program, alone_program_map, Answers.alone_generate_snd]
    exact .kept (by rintro ⟨⟩) fun _ => rfl

end Operation

end PromptGateway
