import PromptGateway.Proofs.Concurrency.Linearization
import PromptGateway.Proofs.Outcome

/-! # Linearizability

Concurrent jobs come to the results, and leave the registry, of the same jobs carried out one after
the other in some order that respects which of them did not overlap. Changes to different fields of
a platform therefore both survive, and a change that comes after a removal finds nothing to change.
-/

namespace PromptGateway

/-- An order of the jobs of a run that yields the same results and the same registry. -/
structure Linearizes (g : Registry) (moves : List Move) (order : List Nat) : Prop where
  nodup : order.Nodup
  started : ∀ i ∈ order, i < (System.run ⟨g, []⟩ moves).threads.length
  complete : ∀ i r, (System.run ⟨g, []⟩ moves).result? i = some r → i ∈ order
  result : ∀ before i j r, before ++ [i] <+: order →
    (System.run ⟨g, []⟩ moves).jobs[i]? = some j →
    (System.run ⟨g, []⟩ moves).result? i = some r →
    (j.alone (serial (System.run ⟨g, []⟩ moves).jobs g before)).1 = r
  registry : serial (System.run ⟨g, []⟩ moves).jobs g order =
    (System.run ⟨g, []⟩ moves).registry
  respects : Respects g moves order

theorem Explains.linearizes {g : Registry} {moves : List Move} {order : List Nat}
    (h : Explains g (System.run ⟨g, []⟩ moves) order) (hr : Respects g moves order) :
    Linearizes g moves order where
  nodup := h.nodup
  started := h.started
  complete _ _ hr := h.mem_of_result? hr
  result _ _ _ _ hb hj hr := h.result?_eq hb hj hr
  registry := h.registry
  respects := hr

/-- Whether an operation may write a field of the platform with a number, or remove the platform. -/
def Operation.Overwrites (id : Int32) (f : Field) : Operation → Prop
  | update id' p mask =>
    id' = id ∧ ∃ fields, Platforms.maskedFields p mask = .ok fields ∧ f ∈ fields
  | delete id' => id' = id
  | _ => False

/-- An operation that is a change of the selected fields of the platform with a number. -/
def Operation.Changes (id : Int32) (p : Profile) (fields : List Field) (o : Operation) : Prop :=
  ∃ mask, o = update id p mask ∧ Platforms.maskedFields p mask = .ok fields

/-- Whether a registry has a platform with a number and a text in one of its fields. -/
def Registry.Holds (g : Registry) (id : Int32) (f : Field) (v : String) : Prop :=
  ∃ r, g.row? id.toInt = some r ∧ r.profile.value f = v

namespace Operation

variable {o : Operation} {g : Registry} {id : Int32} {f : Field} {v : String}

/-- An operation that may not overwrite a field keeps it. -/
theorem holds_alone (hg : g.WellFormed) (ho : ¬ o.Overwrites id f) (w : World)
    (h : g.Holds id f v) : (o.program.alone w g).2.Holds id f v := by
  obtain ⟨r, hr, rfl⟩ := h
  have hy := o.yields w hg
  generalize (o.program.alone w g).1 = res, (o.program.alone w g).2 = g' at hy ⊢
  cases hy with
  | created _ _ => exact ⟨r, by rw [Registry.row?_put, hr]; rfl, rfl⟩
  | @updated id' p mask fields s q hm hs hq =>
    by_cases hid : id = id'
    · subst hid
      refine ⟨_, Registry.row?_update_self hr, ?_⟩
      rw [Row.profile_update, Changes.value_apply_ofProfile, if_neg]
      exact fun hf => ho ⟨rfl, fields, hm, hf⟩
    · exact ⟨r, (Registry.row?_update_of_ne fun he => hid (Int32.toInt_inj.mp he)).trans hr, rfl⟩
  | @deleted id' s hs =>
    have hid : id.toInt ≠ id'.toInt := fun he => ho (Int32.toInt_inj.mp he).symm
    exact ⟨r, (Registry.row?_delete_of_ne hid).trans hr, rfl⟩
  | kept _ hk => exact ⟨r, (hk id).trans hr, rfl⟩

/-- A change that succeeds writes every field that it selects. -/
theorem holds_of_changes (hg : g.WellFormed) {p : Profile} {fields : List Field}
    (hc : o.Changes id p fields) (hf : f ∈ fields) {w : World} {a : Response}
    (ha : (o.program.alone w g).1 = .ok a) :
    (o.program.alone w g).2.Holds id f (p.trimmed.value f) := by
  have hy := o.yields w hg
  obtain ⟨mask, rfl, hm⟩ := hc
  rw [ha] at hy
  generalize ((update id p mask).program.alone w g).2 = g' at hy ⊢
  cases hy with
  | @updated _ _ _ fields' r q hm' hr hq =>
    obtain rfl : fields = fields' := Except.ok.inj (hm.symm.trans hm')
    refine ⟨_, Registry.row?_update_self hr, ?_⟩
    rw [Row.profile_update, Changes.value_apply_ofProfile, if_pos hf]
  | kept hw _ =>
    obtain ⟨e, he⟩ := hw rfl
    cases he

/-- After a removal that succeeds there is no such platform, and its number was given before. -/
theorem row?_of_delete (hg : g.WellFormed) {w : World} {a : Response}
    (ha : ((delete id).program.alone w g).1 = .ok a) :
    ((delete id).program.alone w g).2.row? id.toInt = none ∧
      id.toInt ≤ ((delete id).program.alone w g).2.lastId := by
  have hy := (delete id).yields w hg
  rw [ha] at hy
  generalize ((delete id).program.alone w g).2 = g' at hy ⊢
  cases hy with
  | deleted hr =>
    obtain ⟨hm, hid⟩ := Registry.mem_of_row?_eq_some hr
    rw [Registry.lastId_delete, ← hid]
    exact ⟨hid ▸ Registry.row?_delete_self, hg.id_le _ hm⟩
  | kept hw _ =>
    obtain ⟨e, he⟩ := hw rfl
    cases he

end Operation

theorem Operation.Changes.not_overwrites {o : Operation} {id : Int32} {p : Profile}
    {fields : List Field} {f : Field} (h : o.Changes id p fields) (hf : f ∉ fields) :
    ¬ o.Overwrites id f := by
  obtain ⟨mask, rfl, hm⟩ := h
  rintro ⟨_, fields', hm', hf'⟩
  obtain rfl : fields = fields' := Except.ok.inj (hm.symm.trans hm')
  exact hf hf'

section Serial

variable {jobs : List Job} {g : Registry} {order : List Nat} {id : Int32} {f : Field} {v : String}

theorem serial_cons (jobs : List Job) (g : Registry) (i : Nat) (order : List Nat) :
    serial jobs g (i :: order) = serial jobs (serial jobs g [i]) order := rfl

theorem serial_singleton {j : Job} (h : jobs[i]? = some j) :
    serial jobs g [i] = (j.alone g).2 := by
  simp [serial, h]

theorem write_serial_singleton (jobs : List Job) (g : Registry) (i : Nat) :
    g.Write (serial jobs g [i]) := by
  cases hj : jobs[i]? with
  | none => simpa [serial, hj] using Registry.Write.none
  | some j =>
    rw [serial_singleton hj]
    exact j.operation.write_alone j.world g

theorem wellFormed_serial (jobs : List Job) (hg : g.WellFormed) (order : List Nat) :
    (serial jobs g order).WellFormed := by
  induction order generalizing g with
  | nil => exact hg
  | cons i order ih => exact ih ((write_serial_singleton jobs g i).wellFormed hg)

theorem later_serial (jobs : List Job) (g : Registry) (order : List Nat) :
    g.Later (serial jobs g order) := by
  induction order generalizing g with
  | nil => exact .refl g
  | cons i order ih => exact (write_serial_singleton jobs g i).later.trans (ih _)

/-- A field stays as it is while no job overwrites it. -/
theorem holds_serial (hg : g.WellFormed) (h : g.Holds id f v)
    (ho : ∀ i ∈ order, ∀ j, jobs[i]? = some j → ¬ j.operation.Overwrites id f) :
    (serial jobs g order).Holds id f v := by
  induction order generalizing g with
  | nil => exact h
  | cons i order ih =>
    rw [serial_cons]
    refine ih ((write_serial_singleton jobs g i).wellFormed hg) ?_ fun k hk =>
      ho k (List.mem_cons_of_mem i hk)
    cases hj : jobs[i]? with
    | none => simpa [serial, hj] using h
    | some j =>
      rw [serial_singleton hj]
      exact j.operation.holds_alone hg (ho i List.mem_cons_self j hj) j.world h

/-- A platform that was removed is never there again. -/
theorem row?_serial_of_delete (hg : g.WellFormed) {i : Nat} {j : Job} (hj : jobs[i]? = some j)
    (ho : j.operation = .delete id) {a : Response} (ha : (j.alone g).1 = .ok a)
    (order : List Nat) : (serial jobs g (i :: order)).row? id.toInt = none := by
  obtain ⟨o, w⟩ := j
  obtain rfl : o = .delete id := ho
  obtain ⟨hn, hl⟩ := Operation.row?_of_delete hg ha
  rw [serial_cons, serial_singleton hj, Option.eq_none_iff_forall_not_mem]
  intro r' hr'
  obtain ⟨r, hr, _⟩ := (later_serial jobs _ order).row? _ r' hl hr'
  cases hn.symm.trans hr

end Serial

namespace Platforms

/-- A change of a platform that is not there fails without a write. -/
theorem alone_update_of_absent {g : Registry} {id : Int32} (hn : g.row? id.toInt = none)
    (p : Profile) (mask : List String) (w : World) :
    ∃ e, (update id p mask).run.alone w g = (.error e, g) ∧
      ∀ fields, maskedFields p mask = .ok fields → w.faults = [] →
        e = .store (Registry.absent id) := by
  rw [alone_update]
  cases hm : maskedFields p mask with
  | error e => exact ⟨e, rfl, nofun⟩
  | ok fields =>
    dsimp only
    cases hf : w.fault? .get with
    | some e =>
      rw [World.ask_of_fault?_eq_some (c := .get id) hf]
      refine ⟨_, rfl, fun _ _ hw => ?_⟩
      rw [World.fault?, hw] at hf
      cases hf
    | none =>
      rw [World.ask_of_fault?_eq_none (c := .get id) hf]
      refine ⟨.store (Registry.absent id), ?_, fun _ _ _ => rfl⟩
      simp only [Registry.perform, Registry.get, hn]
      rfl

end Platforms

/--
Of two successful changes to different fields of a platform both can be seen at the end, if no other
job overwrites these fields.
-/
def System.ChangesSurvive (s : System) : Prop :=
  ∀ i k j j' id p p' fields fields' a a', s.jobs[i]? = some j → s.jobs[k]? = some j' →
    j.operation.Changes id p fields → j'.operation.Changes id p' fields' →
    fields.Disjoint fields' → s.result? i = some (.ok a) → s.result? k = some (.ok a') →
    (∀ l j'', l ≠ i → l ≠ k → s.jobs[l]? = some j'' →
      ∀ f ∈ fields ++ fields', ¬ j''.operation.Overwrites id f) →
    (∀ f ∈ fields, s.registry.Holds id f (p.trimmed.value f)) ∧
      ∀ f ∈ fields', s.registry.Holds id f (p'.trimmed.value f)

/--
A change of a platform that is removed by another job comes before the removal, or it fails without
a write; unless its mask or the registry is to blame, the failure is that there is no such platform.
-/
def System.RemovalsPrevail (s : System) (g : Registry) (order : List Nat) : Prop :=
  ∀ i k j j' id p mask r a, s.jobs[i]? = some j → s.jobs[k]? = some j' →
    j.operation = .update id p mask → j'.operation = .delete id →
    s.result? i = some r → s.result? k = some (.ok a) →
    List.Sublist [i, k] order ∨
      ∃ e before, r = .error e ∧ before ++ [i] <+: order ∧
        (j.alone (serial s.jobs g before)).2 = serial s.jobs g before ∧
        ∀ fields, Platforms.maskedFields p mask = .ok fields → j.world.faults = [] →
          e = .store (Registry.absent id)

namespace Linearizes

variable {g : Registry} {moves : List Move} {order : List Nat} {i : Nat} {j : Job} {id : Int32}
  {p : Profile} {fields : List Field} {f : Field} {a : Response}

/-- A field that one job has changed and no other overwrites keeps what was written. -/
theorem holds_of_changes (h : Linearizes g moves order) (hg : g.WellFormed)
    (hj : (System.run ⟨g, []⟩ moves).jobs[i]? = some j) (hc : j.operation.Changes id p fields)
    (hr : (System.run ⟨g, []⟩ moves).result? i = some (.ok a)) (hf : f ∈ fields)
    (ho : ∀ k j', k ≠ i → (System.run ⟨g, []⟩ moves).jobs[k]? = some j' →
      ¬ j'.operation.Overwrites id f) :
    (System.run ⟨g, []⟩ moves).registry.Holds id f (p.trimmed.value f) := by
  obtain ⟨before, after, rfl⟩ := List.append_of_mem (h.complete i _ hr)
  have ha := h.result before i j _ ⟨after, by simp⟩ hj hr
  have hi : i ∉ after := (List.nodup_cons.mp (List.nodup_append.mp h.nodup).2.1).1
  have hw := wellFormed_serial (System.run ⟨g, []⟩ moves).jobs hg before
  rw [← h.registry, serial_append, serial_cons, serial_singleton hj]
  refine holds_serial ((j.operation.write_alone j.world _).wellFormed hw)
    (j.operation.holds_of_changes hw hc hf ha) fun k hk j' hj' => ho k j' ?_ hj'
  rintro rfl
  exact hi hk

theorem changesSurvive (h : Linearizes g moves order) (hg : g.WellFormed) :
    (System.run ⟨g, []⟩ moves).ChangesSurvive := by
  intro i k j j' id p p' fields fields' a a' hj hj' hc hc' hd hr hr' ho
  constructor
  · intro f hf
    refine h.holds_of_changes hg hj hc hr hf fun l j'' hl hj'' => ?_
    by_cases hlk : l = k
    · subst hlk
      obtain rfl : j' = j'' := Option.some.inj (hj'.symm.trans hj'')
      exact hc'.not_overwrites fun hf' => hd hf hf'
    · exact ho l j'' hl hlk hj'' f (List.mem_append_left _ hf)
  · intro f hf
    refine h.holds_of_changes hg hj' hc' hr' hf fun l j'' hl hj'' => ?_
    by_cases hli : l = i
    · subst hli
      obtain rfl : j = j'' := Option.some.inj (hj.symm.trans hj'')
      exact hc.not_overwrites fun hf' => hd hf' hf
    · exact ho l j'' hli hl hj'' f (List.mem_append_right _ hf)

theorem removalsPrevail (h : Linearizes g moves order) (hg : g.WellFormed) :
    (System.run ⟨g, []⟩ moves).RemovalsPrevail g order := by
  intro i k j j' id p mask r a hj hj' hop hop' hr hr'
  obtain ⟨before, after, rfl⟩ := List.append_of_mem (h.complete i _ hr)
  have hki : k ≠ i := by
    rintro rfl
    obtain rfl : j = j' := Option.some.inj (hj.symm.trans hj')
    rw [hop] at hop'
    cases hop'
  have hk : k ∈ before ∨ k ∈ after := by simpa [hki] using h.complete k _ hr'
  rcases hk with hk | hk
  · right
    have hres := h.result before i j r ⟨after, by simp⟩ hj hr
    obtain ⟨first, mid, rfl⟩ := List.append_of_mem hk
    have hd := h.result first k j' _ ⟨mid ++ i :: after, by simp⟩ hj' hr'
    have hn := row?_serial_of_delete (wellFormed_serial _ hg first) hj' hop' hd mid
    rw [← serial_append] at hn
    obtain ⟨e, he, hf⟩ := Platforms.alone_update_of_absent hn p mask j.world
    have ha : j.alone (serial (System.run ⟨g, []⟩ moves).jobs g (first ++ k :: mid)) =
        (.error e, serial (System.run ⟨g, []⟩ moves).jobs g (first ++ k :: mid)) := by
      rw [Job.alone, hop, Operation.program, Operation.alone_program_map, he]
      rfl
    rw [ha] at hres
    exact ⟨e, first ++ k :: mid, hres.symm, ⟨after, by simp⟩, by rw [ha], hf⟩
  · left
    have hs : List.Sublist [i, k] (i :: after) :=
      List.Sublist.cons_cons i (List.singleton_sublist.mpr hk)
    exact hs.trans (List.sublist_append_right before _)

end Linearizes

/-- Every run from a registry that can be reached is linearizable. -/
theorem System.linearizable (earlier moves : List Move) :
    ∃ order, Linearizes (run {} earlier).registry moves order ∧
      (run ⟨(run {} earlier).registry, []⟩ moves).ChangesSurvive ∧
      (run ⟨(run {} earlier).registry, []⟩ moves).RemovalsPrevail
        (run {} earlier).registry order := by
  obtain ⟨_, he, _⟩ := exists_explains Registry.wellFormed_empty earlier
  obtain ⟨order, h, hr⟩ := exists_explains he.wellFormed moves
  have hl := h.linearizes hr
  exact ⟨order, hl, hl.changesSurvive he.wellFormed, hl.removalsPrevail he.wellFormed⟩

end PromptGateway
