import Mathlib.Data.List.Infix
import PromptGateway.Proofs.Concurrency.System

/-! # Linearization

A run of concurrent jobs is explained by an order of the jobs that have taken effect, each put at
the end when it does: carried out one after the other in that order, they leave the registry as the
run does and come to the same results.
-/

namespace PromptGateway

/-- The registry after jobs, named by their places in a list, one after the other. -/
def serial (jobs : List Job) (g : Registry) (order : List Nat) : Registry :=
  order.foldl (fun g i => jobs[i]?.elim g fun j => (j.alone g).2) g

section Serial

variable {jobs : List Job} {g : Registry} {order : List Nat} {i : Nat} {j : Job}

@[simp] theorem serial_nil (jobs : List Job) (g : Registry) : serial jobs g [] = g := rfl

theorem serial_append (jobs : List Job) (g : Registry) (order order' : List Nat) :
    serial jobs g (order ++ order') = serial jobs (serial jobs g order) order' :=
  List.foldl_append

theorem serial_concat (h : jobs[i]? = some j) :
    serial jobs g (order ++ [i]) = (j.alone (serial jobs g order)).2 := by
  rw [serial_append]
  simp [serial, h]

theorem serial_concat_jobs (h : ∀ i ∈ order, i < jobs.length) (j : Job) :
    serial (jobs ++ [j]) g order = serial jobs g order := by
  induction order generalizing g with
  | nil => rfl
  | cons i order ih =>
    have hi : (jobs ++ [j])[i]? = jobs[i]? :=
      List.getElem?_append_left (h i List.mem_cons_self)
    change serial (jobs ++ [j]) ((jobs ++ [j])[i]?.elim g fun j => (j.alone g).2) order = _
    rw [ih fun k hk => h k (List.mem_cons_of_mem i hk), hi]
    rfl

theorem nodup_concat (h : order.Nodup) (hi : i ∉ order) : (order ++ [i]).Nodup := by
  refine List.nodup_append.mpr ⟨h, List.nodup_singleton i, ?_⟩
  rintro k hk l hl rfl
  exact hi (List.mem_singleton.mp hl ▸ hk)

theorem eq_or_prefix_of_concat {before : List Nat} {k : Nat}
    (h : before ++ [k] <+: order ++ [i]) :
    (before = order ∧ k = i) ∨ (k ∈ order ∧ before ++ [k] <+: order) := by
  rcases List.prefix_concat_iff.mp h with he | hb
  · obtain ⟨rfl, hki⟩ := List.append_inj' he rfl
    exact .inl ⟨rfl, List.head_eq_of_cons_eq hki⟩
  · exact .inr ⟨hb.subset (by simp), hb⟩

end Serial

/-- An order that explains a state which was reached from a registry where no job was under way. -/
structure Explains (g : Registry) (s : System) (order : List Nat) : Prop where
  nodup : order.Nodup
  started : ∀ i ∈ order, i < s.threads.length
  registry : serial s.jobs g order = s.registry
  wellFormed : s.registry.WellFormed
  pending : ∀ i t, s.threads[i]? = some t → i ∉ order →
    t.rest.Pending t.job.alone t.world s.registry
  settled : ∀ before i t, before ++ [i] <+: order → s.threads[i]? = some t →
    t.rest.Settled t.world (t.job.alone (serial s.jobs g before)).1

namespace Explains

variable {g g' : Registry} {s : System} {order : List Nat} {i : Nat} {t t' : Thread}

theorem init (h : g.WellFormed) : Explains g ⟨g, []⟩ [] where
  nodup := List.nodup_nil
  started := by simp
  registry := rfl
  wellFormed := h
  pending := by simp
  settled := by simp

theorem jobs_set (ht : s.threads[i]? = some t) (hj : t'.job = t.job) (g' : Registry) :
    System.jobs ⟨g', s.threads.set i t'⟩ = s.jobs := by
  obtain ⟨hi, rfl⟩ := List.getElem?_eq_some_iff.mp ht
  refine List.ext_getElem? fun k => ?_
  by_cases hk : i = k
  · subst hk
    simp [System.jobs, hi, hj]
  · simp [System.jobs, List.getElem?_set_ne hk]

theorem jobs_getElem? (ht : s.threads[i]? = some t) : s.jobs[i]? = some t.job := by
  simp [System.jobs, ht]

theorem getElem?_set (ht : s.threads[i]? = some t) {k : Nat} {u : Thread}
    (hu : (s.threads.set i t')[k]? = some u) :
    (k = i ∧ u = t') ∨ (k ≠ i ∧ s.threads[k]? = some u) := by
  by_cases hk : i = k
  · subst hk
    rw [List.getElem?_set_self (List.getElem?_eq_some_iff.mp ht).1] at hu
    exact .inl ⟨rfl, (Option.some.inj hu).symm⟩
  · rw [List.getElem?_set_ne hk] at hu
    exact .inr ⟨Ne.symm hk, hu⟩

/-- A job that goes on without taking effect leaves the order as it is. -/
theorem stay (h : Explains g s order) (ht : s.threads[i]? = some t) (hj : t'.job = t.job)
    (hp : i ∉ order → t'.rest.Pending t.job.alone t'.world s.registry)
    (hs : ∀ before, before ++ [i] <+: order →
      t'.rest.Settled t'.world (t.job.alone (serial s.jobs g before)).1) :
    Explains g ⟨s.registry, s.threads.set i t'⟩ order where
  nodup := h.nodup
  started k hk := by simpa using h.started k hk
  registry := by rw [jobs_set ht hj, h.registry]
  wellFormed := h.wellFormed
  pending k u hu hk := by
    rcases getElem?_set ht hu with ⟨rfl, rfl⟩ | ⟨_, hu⟩
    · rw [hj]
      exact hp hk
    · exact h.pending k u hu hk
  settled before k u hb hu := by
    rw [jobs_set ht hj]
    rcases getElem?_set ht hu with ⟨rfl, rfl⟩ | ⟨_, hu⟩
    · rw [hj]
      exact hs before hb
    · exact h.settled before k u hb hu

/-- A job that takes effect comes to the end of the order. -/
theorem commit (h : Explains g s order) (ht : s.threads[i]? = some t) (hj : t'.job = t.job)
    (hi : i ∉ order) {a : Response.Result} (ha : t.job.alone s.registry = (a, g'))
    (hs : t'.rest.Settled t'.world a) :
    Explains g ⟨g', s.threads.set i t'⟩ (order ++ [i]) where
  nodup := nodup_concat h.nodup hi
  started k hk := by
    rw [List.length_set]
    rcases List.mem_append.mp hk with hk | hk
    · exact h.started k hk
    · rw [List.mem_singleton.mp hk]
      exact (List.getElem?_eq_some_iff.mp ht).1
  registry := by
    rw [jobs_set ht hj, serial_concat (jobs_getElem? ht), h.registry, ha]
  wellFormed := (Job.write_of_alone ha).wellFormed h.wellFormed
  pending k u hu hk := by
    obtain ⟨hk, hki⟩ : k ∉ order ∧ k ≠ i := by simpa using hk
    rcases getElem?_set ht hu with ⟨rfl, _⟩ | ⟨_, hu⟩
    · exact absurd rfl hki
    · exact (h.pending k u hu hk).mono (Job.write_of_alone ha).later
  settled before k u hb hu := by
    rw [jobs_set ht hj]
    rcases eq_or_prefix_of_concat hb with ⟨rfl, rfl⟩ | ⟨hk, hb⟩
    · rcases getElem?_set ht hu with ⟨_, rfl⟩ | ⟨hk, _⟩
      · rw [hj, h.registry, ha]
        exact hs
      · exact absurd rfl hk
    · rcases getElem?_set ht hu with ⟨rfl, _⟩ | ⟨_, hu⟩
      · exact absurd hk hi
      · exact h.settled before k u hb hu

theorem getElem?_push {threads : List Thread} {k : Nat} {u : Thread}
    (hu : (threads ++ [t])[k]? = some u) :
    (k = threads.length ∧ u = t) ∨ threads[k]? = some u := by
  rcases Nat.lt_or_ge k threads.length with hk | hk
  · rw [List.getElem?_append_left hk] at hu
    exact .inr hu
  · obtain rfl : k = threads.length := by
      have hl := (List.getElem?_eq_some_iff.mp hu).1
      rw [List.length_append, List.length_singleton] at hl
      omega
    exact .inl ⟨rfl, by simpa using hu.symm⟩

theorem jobs_start (s : System) (j : Job) : (s.move (.start j)).jobs = s.jobs ++ [j] := by
  simp [System.jobs, System.move, Job.begin]

theorem serial_start (h : Explains g s order) (j : Job) {before : List Nat}
    (hb : before <+: order) :
    serial (s.move (.start j)).jobs g before = serial s.jobs g before := by
  rw [jobs_start]
  exact serial_concat_jobs (fun i hi => by
    simpa [System.jobs] using h.started i (hb.subset hi)) j

theorem length_not_mem (h : Explains g s order) : s.threads.length ∉ order :=
  fun hm => Nat.lt_irrefl _ (h.started _ hm)

/-- A job that still has to take effect is started. -/
theorem start_pending (h : Explains g s order) {j : Job}
    (hp : j.operation.program.Pending j.alone j.world s.registry) :
    Explains g (s.move (.start j)) order where
  nodup := h.nodup
  started k hk := (h.started k hk).trans_le (by simp [System.move])
  registry := by
    rw [h.serial_start j List.prefix_rfl, h.registry]
    rfl
  wellFormed := h.wellFormed
  pending k u hu hk := by
    rcases getElem?_push hu with ⟨_, rfl⟩ | hu
    · exact hp
    · exact h.pending k u hu hk
  settled before k u hb hu := by
    rw [h.serial_start j ((List.prefix_append before [k]).trans hb)]
    rcases getElem?_push hu with ⟨rfl, _⟩ | hu
    · exact absurd (hb.subset (by simp)) h.length_not_mem
    · exact h.settled before k u hb hu

/-- A job without an effect is started, and comes to the end of the order at once. -/
theorem start_settled (h : Explains g s order) {j : Job} {a : Response.Result}
    (ha : j.operation.program.Settled j.world a) :
    Explains g (s.move (.start j)) (order ++ [s.threads.length]) where
  nodup := nodup_concat h.nodup h.length_not_mem
  started k hk := by
    rw [show (s.move (.start j)).threads = s.threads ++ [j.begin] from rfl, List.length_append]
    rcases List.mem_append.mp hk with hk | hk
    · exact Nat.lt_add_right _ (h.started k hk)
    · rw [List.mem_singleton.mp hk]
      exact Nat.lt_succ_self _
  registry := by
    rw [serial_append, h.serial_start j List.prefix_rfl, h.registry, ← List.nil_append [_],
      serial_concat (j := j) (by rw [jobs_start]; simp [System.jobs]), serial_nil]
    exact congrArg Prod.snd (ha.alone s.registry)
  wellFormed := h.wellFormed
  pending k u hu hk := by
    obtain ⟨hk, hkn⟩ : k ∉ order ∧ k ≠ s.threads.length := by simpa using hk
    rcases getElem?_push hu with ⟨rfl, _⟩ | hu
    · exact absurd rfl hkn
    · exact h.pending k u hu hk
  settled before k u hb hu := by
    rcases eq_or_prefix_of_concat hb with ⟨rfl, rfl⟩ | ⟨hk, hb⟩
    · rw [h.serial_start j List.prefix_rfl, h.registry]
      rcases getElem?_push hu with ⟨_, rfl⟩ | hu
      · rw [show (j.begin.job.alone s.registry).1 = a from
          congrArg Prod.fst (ha.alone s.registry)]
        exact ha
      · exact absurd (List.getElem?_eq_some_iff.mp hu).1 (Nat.lt_irrefl _)
    · rw [h.serial_start j ((List.prefix_append before [k]).trans hb)]
      rcases getElem?_push hu with ⟨rfl, _⟩ | hu
      · exact absurd hk h.length_not_mem
      · exact h.settled before k u hb hu

/-- Each move is explained by the same order or by one that has one job more at its end. -/
theorem move (h : Explains g s order) (m : Move) :
    ∃ order', (order' = order ∨ ∃ i, order' = order ++ [i]) ∧ Explains g (s.move m) order' := by
  cases m with
  | start j =>
    rcases j.operation.ready j.world s.registry with ⟨a, ha⟩ | hp
    · exact ⟨_, .inr ⟨_, rfl⟩, h.start_settled ha⟩
    · exact ⟨order, .inl rfl, h.start_pending hp⟩
  | advance i =>
    cases ht : s.threads[i]? with
    | none =>
      rw [System.move_advance_of_none ht]
      exact ⟨order, .inl rfl, h⟩
    | some t =>
      cases hr : t.rest with
      | done r =>
        rw [System.move_advance_of_done ht hr]
        exact ⟨order, .inl rfl, h⟩
      | step e next =>
        rw [System.move_advance_of_step ht hr]
        by_cases hi : i ∈ order
        · have hs (before : List Nat) (hb : before ++ [i] <+: order) := h.settled before i t hb ht
          simp only [hr] at hs
          obtain ⟨before, after, he⟩ := List.append_of_mem hi
          rw [(hs before ⟨after, by simp [he]⟩ s.registry).1]
          exact ⟨order, .inl rfl, h.stay ht rfl (absurd hi) fun before hb =>
            (hs before hb s.registry).2⟩
        · have hp := h.pending i t ht hi
          rw [hr] at hp
          rcases hp s.registry h.wellFormed (.refl _) with ⟨hg, hp⟩ | ⟨a, ha, hs⟩
          · rw [hg]
            exact ⟨order, .inl rfl, h.stay ht rfl (fun _ => hp) fun before hb =>
              absurd (hb.subset (by simp)) hi⟩
          · exact ⟨_, .inr ⟨i, rfl⟩, h.commit ht rfl hi ha hs⟩

theorem mem_of_result? (h : Explains g s order) {r : Response.Result} (hr : s.result? i = some r) :
    i ∈ order := by
  obtain ⟨t, ht, hd⟩ := System.result?_eq_some_iff.mp hr
  by_contra hi
  have hp := h.pending i t ht hi
  rwa [hd] at hp

theorem result?_eq (h : Explains g s order) {before : List Nat} {j : Job} {r : Response.Result}
    (hb : before ++ [i] <+: order) (hj : s.jobs[i]? = some j) (hr : s.result? i = some r) :
    (j.alone (serial s.jobs g before)).1 = r := by
  obtain ⟨t, ht, hd⟩ := System.result?_eq_some_iff.mp hr
  obtain rfl : t.job = j := Option.some.inj ((jobs_getElem? ht).symm.trans hj)
  have hs := h.settled before i t hb ht
  rw [hd] at hs
  exact hs.symm

end Explains

/-- A job that was over before another one was started comes before it. -/
def Respects (g : Registry) (moves : List Move) (order : List Nat) : Prop :=
  ∀ past future i k r, moves = past ++ future →
    (System.run ⟨g, []⟩ past).result? i = some r →
    (System.run ⟨g, []⟩ past).threads.length ≤ k → k ∈ order → List.Sublist [i, k] order

/-- Every run is explained by an order that respects which jobs did not overlap. -/
theorem exists_explains {g : Registry} (hg : g.WellFormed) (moves : List Move) :
    ∃ order, Explains g (System.run ⟨g, []⟩ moves) order ∧ Respects g moves order := by
  induction moves using List.reverseRecOn with
  | nil => exact ⟨[], .init hg, by simp [Respects]⟩
  | append_singleton moves m ih =>
    obtain ⟨order, h, hr⟩ := ih
    obtain ⟨order', ho, h'⟩ := h.move m
    rw [← System.run_concat] at h'
    refine ⟨order', h', fun past future i k r he hi hk hm => ?_⟩
    rcases List.eq_nil_or_concat future with rfl | ⟨future, m', rfl⟩
    · rw [List.append_nil] at he
      subst he
      exact absurd (h'.started k hm) (Nat.not_lt.mpr hk)
    · rw [List.concat_eq_append, ← List.append_assoc] at he
      obtain ⟨rfl, -⟩ := List.append_inj' he rfl
      have hio : i ∈ order := by
        refine h.mem_of_result? (r := r) ?_
        rw [System.run_append]
        exact System.result?_run hi future
      rcases ho with rfl | ⟨l, rfl⟩
      · exact hr past future i k r rfl hi hk hm
      · rcases List.mem_append.mp hm with hm | hm
        · exact (hr past future i k r rfl hi hk hm).trans (List.sublist_append_left order [l])
        · obtain rfl := List.mem_singleton.mp hm
          exact (List.singleton_sublist.mpr hio).append (List.Sublist.refl [k])

end PromptGateway
