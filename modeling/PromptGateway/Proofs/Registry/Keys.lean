import Mathlib.Data.List.Sort
import PromptGateway.Proofs.Except
import PromptGateway.Proofs.Registry.Listing

/-! # Sort keys

Listings are sorted by time of creation and number. No change writes either of them, and a new row
only adds a key, so the keys of a registry keep their order as long as nothing is deleted.
-/

namespace PromptGateway

/-- What listings are sorted by. -/
structure SortKey where
  created : Int
  id : Int

/-- The order of listings. -/
def SortKey.Before (a b : SortKey) : Prop :=
  b.created < a.created ∨ a.created = b.created ∧ b.id ≤ a.id

instance : Std.Antisymm SortKey.Before where
  antisymm a b h h' := by
    obtain ⟨_, _⟩ := a
    obtain ⟨_, _⟩ := b
    simp only [SortKey.Before, SortKey.mk.injEq] at *
    omega

def Platform.key (q : Platform) : SortKey := ⟨q.createdAt.seconds, q.id.toInt⟩

namespace Row

variable {r : Row} {rows : List Row}

def key (r : Row) : SortKey := ⟨r.createdTs, r.id⟩

theorem key_of_decode {q : Platform} (h : r.decode = .ok q) : q.key = r.key := by
  obtain ⟨hid, -, hc, -⟩ := decode_eq_ok_iff.mp h
  rw [Platform.key, key, hid, (moment_eq_ok_iff.mp hc).1]

theorem decode_of_decodeAll {qs : List Platform} (h : decodeAll rows = .ok qs) :
    List.Forall₂ (fun r q => r.decode = .ok q) rows qs := by
  unfold decodeAll at h
  cases hn : rows.mapM fun r => return (r, ← r.number) with
  | error e => rw [hn] at h; cases h
  | ok numbered =>
    rw [hn] at h
    have hs := mapM_eq_ok_iff.mp hn
    have hd : numbered.Forall₂ (fun x q => x.1.decodeAs x.2 = .ok q) qs := mapM_eq_ok_iff.mp h
    -- All numbers are read before the first time; the induction joins both passes row by row.
    clear h hn
    induction hs generalizing qs with
    | nil =>
      cases hd
      exact .nil
    | @cons r x _ _ hx _ ih =>
      cases hd with
      | cons hq hqs =>
        refine .cons ?_ (ih hqs)
        cases hr : r.number with
        | error e => rw [hr] at hx; cases hx
        | ok id =>
          rw [hr] at hx
          cases hx
          rw [decode, hr]
          exact hq

theorem key_of_decodeAll {qs : List Platform} (h : decodeAll rows = .ok qs) :
    qs.map Platform.key = rows.map key := by
  refine (map_eq_map_iff_forall₂.mpr ?_).symm
  exact (decode_of_decodeAll h).imp fun _ _ hq => (key_of_decode hq).symm

end Row

namespace Registry

variable {g g' : Registry} {c : Call}

def keys (g : Registry) : List SortKey := (g.rows.mergeSort Row.listedBefore).map Row.key

theorem keys_perm (g : Registry) : g.keys.Perm (g.rows.map Row.key) :=
  (List.mergeSort_perm g.rows Row.listedBefore).map Row.key

@[simp] theorem length_keys (g : Registry) : g.keys.length = g.rows.length := by
  rw [g.keys_perm.length_eq, List.length_map]

theorem pairwise_keys (g : Registry) : g.keys.Pairwise SortKey.Before := by
  exact List.pairwise_map.mpr ((Row.pairwise_mergeSort g.rows).imp Row.listedBefore_iff.mp)

theorem keys_sublist (h : (g.rows.map Row.key).Subperm (g'.rows.map Row.key)) :
    g.keys.Sublist g'.keys := by
  have hp : g.keys.Subperm g'.keys :=
    g.keys_perm.subperm_right.mpr (g'.keys_perm.subperm_left.mpr h)
  exact List.sublist_of_subperm_of_pairwise hp g.pairwise_keys g'.pairwise_keys

theorem keys_congr (h : g.rows.map Row.key = g'.rows.map Row.key) : g.keys = g'.keys := by
  have hp : g.keys.Perm g'.keys := g.keys_perm.trans (h ▸ g'.keys_perm.symm)
  exact hp.eq_of_pairwise (fun _ _ _ _ => Std.Antisymm.antisymm _ _) g.pairwise_keys
    g'.pairwise_keys

theorem keys_update (g : Registry) (id : Int32) (c : Changes) :
    (g.update id c).2.keys = g.keys := by
  unfold update
  split
  · refine keys_congr ?_
    rw [List.map_map]
    refine List.map_congr_left fun s _ => ?_
    dsimp only [Function.comp]
    split <;> rfl
  · rfl

theorem keys_insert (g : Registry) (e : Entry) : g.keys.Sublist (g.insert e).2.keys := by
  unfold insert
  split
  · refine keys_sublist (List.Sublist.subperm ?_)
    simp [put]
  · exact .refl _

/-- Without deletions the keys stay, and stay in order. -/
theorem keys_perform (h : c.method ≠ .delete) : g.keys.Sublist (g.perform c).2.keys := by
  cases c with
  | insert e => exact g.keys_insert e
  | find q => exact .refl _
  | get id => exact .refl _
  | update id c => exact (g.keys_update id c) ▸ .refl _
  | delete id => exact absurd rfl h

/-- Without insertions and deletions no key is added either. -/
theorem keys_perform_eq (hi : c.method ≠ .insert) (hd : c.method ≠ .delete) :
    (g.perform c).2.keys = g.keys := by
  cases c with
  | insert e => exact absurd rfl hi
  | find q => rfl
  | get id => rfl
  | update id c => exact g.keys_update id c
  | delete id => exact absurd rfl hd

/-- What is found for a cursor has the keys of the window that begins there. -/
theorem key_of_find {cursor : PageCursor} {qs : List Platform}
    (h : g.find (.ofCursor cursor) = .ok qs) :
    qs.map Platform.key = (g.keys.drop cursor.offset.toNat).take cursor.fetchLimit.toNat := by
  rw [find, select_ofCursor] at h
  rw [Row.key_of_decodeAll h, List.map_take, List.map_drop, keys]

end Registry

end PromptGateway
