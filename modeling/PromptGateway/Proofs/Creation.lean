import PromptGateway.Proofs.History

/-! # Creation

A platform is stored as a whole or not at all, as long as the counter of the registry has numbers
left that a platform can have. No number is ever given twice, because the counter is never behind a
number that was used.
-/

namespace PromptGateway

namespace Registry

variable {g g' : Registry} {used : List Int} {id : Int32} {c : Changes}

/-- The counter has not been left behind by the numbers under which rows have stood so far. -/
structure Counted (g : Registry) (used : List Int) : Prop where
  lastId_nonneg : 0 ≤ g.lastId
  used_le : ∀ k ∈ used, k ≤ g.lastId
  rows_used : ∀ r ∈ g.rows, r.id ∈ used

theorem Counted.id_le (h : g.Counted used) {r : Row} (hr : r ∈ g.rows) : r.id ≤ g.lastId :=
  h.used_le _ (h.rows_used r hr)

theorem Counted.row?_eq_none (h : g.Counted used) {k : Int} (hk : g.lastId < k) :
    g.row? k = none := by
  rw [row?_eq_none_iff]
  intro r hr
  exact ((h.id_le hr).trans_lt hk).ne

theorem Counted.next (h : g.Counted used) (hl : g.lastId ≤ g'.lastId)
    (hr : ∀ r ∈ g'.rows, r.id ≤ g'.lastId) : g'.Counted (g'.rows.map Row.id ++ used) where
  lastId_nonneg := h.lastId_nonneg.trans hl
  used_le k hk := by
    rcases List.mem_append.mp hk with hk | hk
    · obtain ⟨r, hm, rfl⟩ := List.mem_map.mp hk
      exact hr r hm
    · exact (h.used_le k hk).trans hl
  rows_used r hm := List.mem_append_left _ (List.mem_map_of_mem hm)

theorem Counted.put (h : g.Counted used) (r : Row) :
    (g.put r).Counted ((g.put r).rows.map Row.id ++ used) := by
  refine h.next (le_max_left _ _) ?_
  intro s hs
  rcases List.mem_append.mp hs with hs | hs
  · exact (h.id_le hs).trans (le_max_left _ _)
  · rw [List.mem_singleton.mp hs]
    exact le_max_right _ _

theorem Counted.same (h : g.Counted used) : g.Counted (g.rows.map Row.id ++ used) :=
  h.next le_rfl fun _ hr => h.id_le hr

theorem Counted.add (h : g.Counted used) {id? : Option Int} {row : Int → Row} {n : Int}
    (ha : g.add id? row = .ok (n, g')) : g'.Counted (g'.rows.map Row.id ++ used) := by
  cases id? with
  | some n =>
    simp only [Registry.add] at ha
    split at ha
    · cases ha
    · cases ha
      exact h.put _
  | none =>
    simp only [Registry.add] at ha
    split at ha
    · cases ha
      exact h.put _
    · cases ha

theorem Counted.perform (h : g.Counted used) (c : Call) :
    (g.perform c).2.Counted ((g.perform c).2.rows.map Row.id ++ used) := by
  cases c with
  | insert e =>
    simp only [Registry.perform, Registry.insert]
    split
    · exact h.put _
    · exact h.same
  | find q => exact h.same
  | get id => exact h.same
  | update id c =>
    refine h.next (lastId_update g id c).ge ?_
    simp only [Registry.perform, Registry.update]
    split
    · intro s hs
      obtain ⟨t, ht, rfl⟩ := List.mem_map.mp hs
      have hid : (if t.id = id.toInt then t.update c else t).id = t.id := by split <;> rfl
      rw [hid]
      exact h.id_le ht
    · exact fun s hs => h.id_le hs
  | delete id =>
    refine h.next (lastId_delete g id).ge ?_
    simp only [Registry.perform, Registry.delete]
    split
    · exact fun s hs => h.id_le (List.mem_of_mem_filter hs)
    · exact fun s hs => h.id_le hs

/--
The tables that come about from one without rows, by rows added under numbers of any choice and by
calls, with the numbers under which rows have stood on the way.
-/
inductive Past : Registry → List Int → Prop
  | start {n : Int} (h : 0 ≤ n) : Past { rows := [], lastId := n } []
  | add {g g' : Registry} {used : List Int} {id? : Option Int} {row : Int → Row} {n : Int}
    (h : Past g used) (ha : g.add id? row = .ok (n, g')) : Past g' (g'.rows.map Row.id ++ used)
  | call {g : Registry} {used : List Int} (h : Past g used) (c : Call) :
    Past (g.perform c).2 ((g.perform c).2.rows.map Row.id ++ used)

/-- No table ever has used a number beyond its counter. -/
theorem Past.counted (h : Past g used) : g.Counted used := by
  induction h with
  | start h => exact ⟨h, nofun, nofun⟩
  | add h ha ih => exact ih.add ha
  | call h c ih => exact ih.perform c

end Registry

def Profile.Incomplete (p : Profile) : Prop :=
  Text.trim p.url = "" ∨ Text.trim p.accessKey = "" ∨ Text.trim p.displayName = "" ∨
    Text.trim p.model = ""

instance (p : Profile) : Decidable p.Incomplete :=
  inferInstanceAs (Decidable (Text.trim p.url = "" ∨ Text.trim p.accessKey = "" ∨
    Text.trim p.displayName = "" ∨ Text.trim p.model = ""))

theorem Profile.blankField?_all_eq_none_iff {p : Profile} :
    p.blankField? Field.all = none ↔ ¬ p.Incomplete := by
  simp [blankField?_eq_none_iff, Incomplete, Field.all, Field.isRequired, value,
    Text.trim_eq_empty_iff]

namespace Registry

variable {g : Registry} {used : List Int} {p : Profile} {t : Moment}

def lastPlatformId : Int := 2147483647

theorem insert_of_lt (h : g.Counted used) (hl : g.lastId < lastPlatformId) (ht : t.nanos = 0) :
    ∃ q, (Row.ofEntry (.ofProfile p t) (g.lastId + 1)).decode = .ok q ∧
      q.id.toInt = g.lastId + 1 ∧ q.profile = p.trimmed ∧ q.createdAt = t ∧ q.updatedAt = t ∧
      g.insert (.ofProfile p t) =
        (.ok q, g.put (Row.ofEntry (.ofProfile p t) (g.lastId + 1))) := by
  have hn := h.lastId_nonneg
  simp only [lastPlatformId] at hl
  have hid : (Int32.ofInt (g.lastId + 1)).toInt = g.lastId + 1 :=
    Int32.toInt_ofInt_of_le (by omega) (by omega)
  have hd : (Row.ofEntry (.ofProfile p t) (g.lastId + 1)).decode =
      .ok ⟨.ofInt (g.lastId + 1), p.trimmed, t, t⟩ := by
    rw [Row.decode_eq_ok_iff, Row.profile_ofEntry]
    exact ⟨hid, rfl, Row.moment_seconds ht, Row.moment_seconds ht⟩
  refine ⟨_, hd, hid, rfl, rfl, rfl, ?_⟩
  simp only [Registry.insert, hd]
  rw [if_pos (by simp only [maxId]; omega)]

theorem insert_of_le (hl : lastPlatformId ≤ g.lastId) :
    ∃ e, (g.insert (.ofProfile p t)).1 = .error e := by
  unfold Registry.insert
  split
  · cases hd : (Row.ofEntry (.ofProfile p t) (g.lastId + 1)).decode with
    | error e => exact ⟨e, hd⟩
    | ok q =>
      -- no platform has a number that large
      have hid : q.id.toInt = g.lastId + 1 := (Row.decode_eq_ok_iff.mp hd).1
      have hlt := q.id.toInt_lt
      simp only [lastPlatformId] at hl
      omega
  · exact ⟨_, rfl⟩

theorem insert_of_maxId_le (e : Entry) (hl : maxId ≤ g.lastId) :
    g.insert e = (.error fullError, g) :=
  if_neg (not_lt.mpr hl)

end Registry

namespace Platforms

variable {w : World} {p : Profile} {used : List Int}

structure Created (p : Profile) (w : World) (used : List Int) (q : Platform) (w' : World) :
    Prop where
  rows : ∃ r, r.decode = .ok q ∧ w'.registry.rows = w.registry.rows ++ [r]
  lastId : w'.registry.lastId = q.id.toInt
  fresh : ∀ k ∈ used, k < q.id.toInt
  profile : q.profile = { p with url := Text.trim p.url }
  createdAt : q.createdAt = w.clock.floor
  updatedAt : q.updatedAt = w.clock.floor
  get : ∀ v : World, v.faults = [] → v.registry = w'.registry →
    ((Platforms.get q.id).runIn v).1 = .ok q

theorem runIn_create_of_incomplete (hp : p.Incomplete) :
    ∃ e, (create p).runIn w = (.error e, w) := by
  unfold Action.runIn
  rw [run_create]
  cases hb : p.blankField? Field.all with
  | none => exact absurd hp (Profile.blankField?_all_eq_none_iff.mp hb)
  | some f => exact ⟨_, rfl⟩

theorem runIn_create (hf : w.faults = []) (hp : ¬ p.Incomplete) :
    ((create p).runIn w).1 =
        (w.registry.insert (.ofProfile p w.clock.floor)).1.mapError
          (.ofStore "create AI platform") ∧
      ((create p).runIn w).2.registry = (w.registry.insert (.ofProfile p w.clock.floor)).2 := by
  have ha := alone_create p w w.registry
  have hb : p.blankField? Field.all = none := Profile.blankField?_all_eq_none_iff.mpr hp
  rw [hb, World.ask_of_fault?_eq_none (World.fault?_of_faults_eq_nil hf _)] at ha
  exact Action.runIn_of_alone ha

theorem created (hf : w.faults = []) (hc : w.registry.Counted used) (hp : ¬ p.Incomplete)
    (hl : w.registry.lastId < Registry.lastPlatformId) :
    ∃ q, ((create p).runIn w).1 = .ok q ∧ Created p w used q ((create p).runIn w).2 := by
  obtain ⟨ha, hg⟩ := runIn_create hf hp
  obtain ⟨q, hd, hid, hq, hcr, hup, hi⟩ :=
    Registry.insert_of_lt hc hl (Moment.nanos_floor w.clock)
  rw [hi] at ha hg
  refine ⟨q, ha, ⟨_, hd, congrArg Registry.rows hg⟩, ?_, ?_, hq, hcr, hup, ?_⟩
  · rw [hg, hid]
    exact max_eq_right (Int.le_add_one le_rfl)
  · intro k hk
    rw [hid]
    exact Int.lt_add_one_of_le (hc.used_le k hk)
  · intro v hv hvr
    have hr : v.registry.row? q.id.toInt =
        some (.ofEntry (.ofProfile p w.clock.floor) (w.registry.lastId + 1)) := by
      rw [hvr, hg, Registry.row?_put, hid, hc.row?_eq_none (Int.lt_succ _)]
      exact if_pos rfl
    rw [← v.on_registry, Registry.get_of_faults_eq_nil hv, Registry.get_eq_ok_iff.mpr ⟨_, hr, hd⟩]
    rfl

/--
A creation fails exactly when a required field is blank or no platform could have the next number.
The registry may be any that has come about from an empty one, which is `Registry.Past.counted`.
-/
theorem create_all_or_nothing (hf : w.faults = []) (hc : w.registry.Counted used) (p : Profile) :
    ((∃ e, ((create p).runIn w).1 = .error e) ↔
      p.Incomplete ∨ Registry.lastPlatformId ≤ w.registry.lastId) ∧
    (p.Incomplete ∨ Registry.maxId ≤ w.registry.lastId →
      ((create p).runIn w).2.registry = w.registry) ∧
    (¬ p.Incomplete → w.registry.lastId < Registry.lastPlatformId →
      ∃ q, ((create p).runIn w).1 = .ok q ∧ Created p w used q ((create p).runIn w).2) := by
  refine ⟨⟨?_, ?_⟩, ?_, created hf hc⟩
  · rintro ⟨e, he⟩
    by_contra hn
    rw [not_or, not_le] at hn
    obtain ⟨q, hq, -⟩ := created hf hc hn.1 hn.2
    rw [hq] at he
    cases he
  · intro h
    by_cases hp : p.Incomplete
    · obtain ⟨e, he⟩ := runIn_create_of_incomplete (w := w) hp
      exact ⟨e, congrArg Prod.fst he⟩
    · obtain ⟨e, he⟩ := Registry.insert_of_le (p := p) (t := w.clock.floor) (h.resolve_left hp)
      rw [(runIn_create hf hp).1, he]
      exact ⟨_, rfl⟩
  · intro h
    by_cases hp : p.Incomplete
    · obtain ⟨e, he⟩ := runIn_create_of_incomplete (w := w) hp
      rw [he]
    · rw [(runIn_create hf hp).2, Registry.insert_of_maxId_le _ (h.resolve_left hp)]

def sample : Profile :=
  { kind := .ollama, url := " http://h ", accessKey := "k", displayName := "d", model := "m" }

/-- Surroundings with one row under a number, and a counter. -/
def holding (id lastId : Int) : World :=
  { registry := { rows := [.ofEntry (.ofProfile sample .epoch) id], lastId } }

theorem create_all_or_nothing_holding :
    (∃ q, ((create sample).runIn (holding 7 9)).1 = .ok q ∧
      Created sample (holding 7 9) [7, 9] q ((create sample).runIn (holding 7 9)).2) ∧
    ((create {}).runIn (holding 7 9)).2.registry = (holding 7 9).registry := by
  have hc : (holding 7 9).registry.Counted [7, 9] := ⟨by decide, by decide, by decide⟩
  constructor
  · exact (create_all_or_nothing rfl hc sample).2.2 (by decide) (by decide)
  · exact (create_all_or_nothing rfl hc {}).2.1 (.inl (by decide))

/-- When the last number that a platform can have is taken, a whole profile is refused as well. -/
theorem create_refused_at_last :
    let w := holding Registry.lastPlatformId Registry.lastPlatformId
    w.faults = [] ∧ w.registry.Counted [Registry.lastPlatformId] ∧ ¬ sample.Incomplete ∧
      (∃ e, ((create sample).runIn w).1 = .error e) ∧
      ((create sample).runIn w).2.registry ≠ w.registry := by
  refine ⟨rfl, ⟨by decide, by decide, by decide⟩, by decide, ⟨_, rfl⟩, ?_⟩
  decide

end Platforms

end PromptGateway
