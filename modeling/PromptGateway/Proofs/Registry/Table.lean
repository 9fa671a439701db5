import Mathlib.Data.List.Nodup
import Mathlib.Data.Int.Order.Basic
import PromptGateway.Proofs.Registry.Row
import PromptGateway.Registry

/-! # The table of a registry

A registry is seen through its rows by number: what each call does to that view. Registries that
hold only sound rows under numbers of their own are well formed, and calls keep them so. A later
registry knows no row of an old number that was not there before, and none whose time of creation
has changed.
-/

namespace PromptGateway

namespace Registry

variable {g g' g'' : Registry} {r : Row} {id : Int32} {c : Changes} {k : Int}

theorem mem_of_row?_eq_some (h : g.row? k = some r) : r ∈ g.rows ∧ r.id = k :=
  ⟨List.mem_of_find?_eq_some h, by simpa using List.find?_some h⟩

theorem row?_eq_none_iff : g.row? k = none ↔ ∀ r ∈ g.rows, r.id ≠ k := by
  simp [row?, List.find?_eq_none]

theorem row?_put : (g.put r).row? k = (g.row? k).or (if r.id = k then some r else none) := by
  simp [row?, put, List.find?_append, List.find?_singleton]

theorem row?_put_of_ne (h : r.id ≠ k) : (g.put r).row? k = g.row? k := by
  rw [row?_put, if_neg h, Option.or_none]

/-- A change leaves every other row as it is. -/
theorem row?_update : (g.update id c).2.row? k =
    (g.row? k).map fun r => if r.id = id.toInt then r.update c else r := by
  unfold update
  split
  · have hf : ((fun s : Row => s.id == k) ∘
        fun s : Row => if s.id = id.toInt then s.update c else s) = fun s => s.id == k := by
      funext s
      by_cases hs : s.id = id.toInt <;> simp [hs, Row.update]
    simp only [row?, List.find?_map, hf]
  · rename_i hn
    cases hk : g.row? k with
    | none => rfl
    | some r =>
      obtain ⟨hr, rfl⟩ := mem_of_row?_eq_some hk
      simp [row?_eq_none_iff.mp hn r hr]

theorem row?_update_self (h : g.row? id.toInt = some r) :
    (g.update id c).2.row? id.toInt = some (r.update c) := by
  rw [row?_update, h, Option.map_some, if_pos (mem_of_row?_eq_some h).2]

theorem row?_update_of_ne (h : k ≠ id.toInt) : (g.update id c).2.row? k = g.row? k := by
  rw [row?_update]
  cases hk : g.row? k with
  | none => rfl
  | some r => rw [Option.map_some, if_neg ((mem_of_row?_eq_some hk).2 ▸ h)]

/-- A removal leaves every other row as it is. -/
theorem row?_delete : (g.delete id).2.row? k = if k = id.toInt then none else g.row? k := by
  unfold delete
  split
  · by_cases hk : k = id.toInt
    · subst hk
      simp [row?, List.find?_eq_none]
    · rw [if_neg hk]
      simp only [row?, List.find?_filter]
      congr 1
      funext s
      by_cases hs : s.id = k <;> simp [hs, hk]
  · rename_i hn
    split
    · subst k
      exact hn
    · rfl

@[simp] theorem row?_delete_self : (g.delete id).2.row? id.toInt = none := by
  rw [row?_delete, if_pos rfl]

theorem row?_delete_of_ne (h : k ≠ id.toInt) : (g.delete id).2.row? k = g.row? k := by
  rw [row?_delete, if_neg h]

theorem get_eq_ok_iff {q : Platform} :
    g.get id = .ok q ↔ ∃ r, g.row? id.toInt = some r ∧ r.decode = .ok q := by
  unfold get
  split <;> simp_all

/-- Sound rows, each under a number of its own that was given to it. -/
structure WellFormed (g : Registry) : Prop where
  nodup : (g.rows.map Row.id).Nodup
  id_pos : ∀ r ∈ g.rows, 0 < r.id
  id_le : ∀ r ∈ g.rows, r.id ≤ g.lastId
  sound : ∀ r ∈ g.rows, r.Sound
  lastId_nonneg : 0 ≤ g.lastId

theorem wellFormed_empty : ({} : Registry).WellFormed :=
  ⟨List.nodup_nil, nofun, nofun, nofun, le_rfl⟩

theorem row?_eq_some_iff (h : g.WellFormed) : g.row? k = some r ↔ r ∈ g.rows ∧ r.id = k := by
  refine ⟨mem_of_row?_eq_some, ?_⟩
  rintro ⟨hr, rfl⟩
  cases hk : g.row? r.id with
  | none => exact absurd rfl (row?_eq_none_iff.mp hk r hr)
  | some s =>
    obtain ⟨hs, he⟩ := mem_of_row?_eq_some hk
    rw [List.inj_on_of_nodup_map h.nodup hs hr he]

theorem WellFormed.exists_decode (h : g.WellFormed) (hr : g.row? id.toInt = some r) :
    ∃ q, r.decode = .ok q := by
  obtain ⟨hm, hid⟩ := mem_of_row?_eq_some hr
  exact (h.sound r hm).exists_decode (hid ▸ id.le_toInt) (hid ▸ id.toInt_lt)

theorem WellFormed.put (h : g.WellFormed) (hr : r.Sound) (hid : g.lastId < r.id) :
    (g.put r).WellFormed := by
  have hl : (g.put r).lastId = r.id := max_eq_right hid.le
  constructor
  · rw [show (g.put r).rows = g.rows ++ [r] from rfl, List.map_append, List.nodup_append]
    refine ⟨h.nodup, List.nodup_singleton _, ?_⟩
    intro a ha b hb
    obtain ⟨s, hs, rfl⟩ := List.mem_map.mp ha
    obtain rfl : b = r.id := by simpa using hb
    exact ((h.id_le s hs).trans_lt hid).ne
  · intro s hs
    rcases List.mem_append.mp hs with hs | hs
    · exact h.id_pos s hs
    · obtain rfl := List.mem_singleton.mp hs
      exact h.lastId_nonneg.trans_lt hid
  · intro s hs
    rw [hl]
    rcases List.mem_append.mp hs with hs | hs
    · exact (h.id_le s hs).trans hid.le
    · rw [List.mem_singleton.mp hs]
  · intro s hs
    rcases List.mem_append.mp hs with hs | hs
    · exact h.sound s hs
    · rwa [List.mem_singleton.mp hs]
  · rw [hl]
    exact h.lastId_nonneg.trans hid.le

theorem WellFormed.update (h : g.WellFormed)
    (hc : ∀ r, g.row? id.toInt = some r → (r.update c).Sound) : (g.update id c).2.WellFormed := by
  unfold Registry.update
  split
  · have hid : ∀ s : Row, (if s.id = id.toInt then s.update c else s).id = s.id := by
      intro s
      split <;> rfl
    constructor
    · simpa only [List.map_map, Function.comp_def, hid] using h.nodup
    · simpa only [List.forall_mem_map, hid] using h.id_pos
    · simpa only [List.forall_mem_map, hid] using h.id_le
    · intro s hs
      obtain ⟨t, ht, rfl⟩ := List.mem_map.mp hs
      split
      · exact hc t ((row?_eq_some_iff h).mpr ⟨ht, ‹_›⟩)
      · exact h.sound t ht
    · exact h.lastId_nonneg
  · exact h

theorem WellFormed.delete (h : g.WellFormed) (id : Int32) : (g.delete id).2.WellFormed := by
  unfold Registry.delete
  split
  · have hs : g.rows.filter (·.id != id.toInt) ⊆ g.rows := List.filter_subset_self _
    exact ⟨h.nodup.sublist (List.filter_sublist.map Row.id), fun s h' => h.id_pos s (hs h'),
      fun s h' => h.id_le s (hs h'), fun s h' => h.sound s (hs h'), h.lastId_nonneg⟩
  · exact h

/-- What of a registry is never taken back by what happens to it later. -/
structure Later (g g' : Registry) : Prop where
  lastId_le : g.lastId ≤ g'.lastId
  row? : ∀ k r', k ≤ g.lastId → g'.row? k = some r' →
    ∃ r, g.row? k = some r ∧ r.createdTs = r'.createdTs

theorem Later.refl (g : Registry) : g.Later g :=
  ⟨le_rfl, fun _ r' _ hr => ⟨r', hr, rfl⟩⟩

theorem Later.trans (h : g.Later g') (h' : g'.Later g'') : g.Later g'' where
  lastId_le := h.lastId_le.trans h'.lastId_le
  row? k r'' hk hr'' := by
    obtain ⟨r', hr', he'⟩ := h'.row? k r'' (hk.trans h.lastId_le) hr''
    obtain ⟨r, hr, he⟩ := h.row? k r' hk hr'
    exact ⟨r, hr, he.trans he'⟩

theorem later_put (hid : g.lastId < r.id) : g.Later (g.put r) where
  lastId_le := le_max_left _ _
  row? k r' hk hr' := by
    rw [row?_put_of_ne (hk.trans_lt hid).ne'] at hr'
    exact ⟨r', hr', rfl⟩

theorem lastId_update (g : Registry) (id : Int32) (c : Changes) :
    (g.update id c).2.lastId = g.lastId := by
  unfold update
  split <;> rfl

theorem lastId_delete (g : Registry) (id : Int32) : (g.delete id).2.lastId = g.lastId := by
  unfold delete
  split <;> rfl

theorem later_update (g : Registry) (id : Int32) (c : Changes) : g.Later (g.update id c).2 where
  lastId_le := (lastId_update g id c).ge
  row? k r' _ hr' := by
    rw [row?_update, Option.map_eq_some_iff] at hr'
    obtain ⟨r, hr, rfl⟩ := hr'
    exact ⟨r, hr, by split <;> rfl⟩

theorem later_delete (g : Registry) (id : Int32) : g.Later (g.delete id).2 where
  lastId_le := (lastId_delete g id).ge
  row? k r' _ hr' := by
    rw [row?_delete] at hr'
    split at hr'
    · cases hr'
    · exact ⟨r', hr', rfl⟩

end Registry

end PromptGateway
