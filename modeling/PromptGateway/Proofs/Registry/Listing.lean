import PromptGateway.Proofs.Moment
import PromptGateway.Proofs.Registry.Row
import PromptGateway.Registry

/-! # The listing of a registry

The listing holds the platforms of all rows, the youngest first, and of the same age the higher
number first. What a registry finds for a cursor is a window of it.
-/

namespace PromptGateway

/-- The order of listings: the youngest first, and of the same age the higher number first. -/
def Platform.ListedBefore (a b : Platform) : Prop :=
  a.createdAt.le b.createdAt = false ∨ a.createdAt = b.createdAt ∧ b.id < a.id

theorem mapM_eq_ok {α β ε : Type} {f : α → Except ε β} {g : α → β} {xs : List α}
    (h : ∀ x ∈ xs, f x = .ok (g x)) : xs.mapM f = .ok (xs.map g) := by
  induction xs with
  | nil => rfl
  | cons x xs ih =>
    obtain ⟨hx, hs⟩ := List.forall_mem_cons.mp h
    rw [List.mapM_cons, hx, ih hs]
    rfl

namespace Row

variable {r s : Row} {rows : List Row}

def platform (r : Row) : Platform :=
  { id := .ofInt r.id, profile := r.profile
    createdAt := (Moment.ofSeconds? r.createdTs 0).getD .epoch
    updatedAt := (Moment.ofSeconds? r.updatedTs 0).getD .epoch }

theorem getD_ofSeconds? {k : Int} {m : Moment} (h : moment k = .ok m) :
    (Moment.ofSeconds? k 0).getD .epoch = m := by
  unfold moment at h
  split at h
  · rename_i hm
    cases h
    rw [hm, Option.getD_some]
  · cases h

theorem eq_platform {q : Platform} (h : r.decode = .ok q) : q = r.platform := by
  obtain ⟨id, p, c, u⟩ := q
  obtain ⟨hid, hp, hc, hu⟩ := decode_eq_ok_iff.mp h
  rw [platform, ← hid, getD_ofSeconds? hc, getD_ofSeconds? hu, Int32.ofInt_toInt, ← hp]

theorem platforms_eq {records : List Platform} (h : rows.map decode = records.map .ok) :
    records = rows.map platform ∧ ∀ r ∈ rows, r.decode = .ok r.platform := by
  induction rows generalizing records with
  | nil => exact ⟨List.map_eq_nil_iff.mp h.symm, nofun⟩
  | cons r rows ih =>
    obtain ⟨q, records, rfl⟩ : ∃ q qs, records = q :: qs := by
      cases records with
      | nil => cases h
      | cons q qs => exact ⟨q, qs, rfl⟩
    obtain ⟨hr, hs⟩ := List.cons.inj h
    obtain rfl := eq_platform hr
    obtain ⟨rfl, hd⟩ := ih hs
    exact ⟨rfl, List.forall_mem_cons.mpr ⟨hr, hd⟩⟩

theorem decodeAll_eq_ok (h : ∀ r ∈ rows, r.decode = .ok r.platform) :
    decodeAll rows = .ok (rows.map platform) := by
  have hn : ∀ r ∈ rows, r.number = .ok r.platform.id := fun r hr =>
    number_eq_ok_iff.mpr (decode_eq_ok_iff.mp (h r hr)).1
  have hd : ∀ x ∈ rows.map fun r => (r, r.platform.id), x.1.decodeAs x.2 = .ok x.1.platform := by
    intro x hx
    obtain ⟨r, hr, rfl⟩ := List.mem_map.mp hx
    have hq := h r hr
    rwa [decode, hn r hr] at hq
  have hm : (rows.mapM fun r => return (r, ← r.number)) =
      (.ok (rows.map fun r => (r, r.platform.id)) : Except StoreError _) := by
    refine mapM_eq_ok fun r hr => ?_
    rw [hn r hr]
    rfl
  rw [decodeAll, hm]
  exact (mapM_eq_ok hd).trans (by rw [List.map_map]; rfl)

theorem listedBefore_iff : r.listedBefore s = true ↔
    s.createdTs < r.createdTs ∨ r.createdTs = s.createdTs ∧ s.id ≤ r.id := by
  simp [listedBefore]

theorem listedBefore_trans {t : Row} (h : r.listedBefore s = true) (h' : s.listedBefore t = true) :
    r.listedBefore t = true := by
  rw [listedBefore_iff] at *
  omega

theorem listedBefore_total (r s : Row) : (r.listedBefore s || s.listedBefore r) = true := by
  rw [Bool.or_eq_true, listedBefore_iff, listedBefore_iff]
  omega

theorem pairwise_mergeSort (rows : List Row) :
    (rows.mergeSort listedBefore).Pairwise fun r s => r.listedBefore s = true := by
  refine List.pairwise_mergeSort ?_ listedBefore_total rows
  exact fun _ _ _ => listedBefore_trans

theorem listedBefore_platform (hr : r.decode = .ok r.platform) (hs : s.decode = .ok s.platform)
    (h : r.listedBefore s = true) (hne : r.id ≠ s.id) : r.platform.ListedBefore s.platform := by
  obtain ⟨hri, -, hrc, -⟩ := decode_eq_ok_iff.mp hr
  obtain ⟨hsi, -, hsc, -⟩ := decode_eq_ok_iff.mp hs
  obtain ⟨hrc, hrn⟩ := moment_eq_ok_iff.mp hrc
  obtain ⟨hsc, hsn⟩ := moment_eq_ok_iff.mp hsc
  rcases listedBefore_iff.mp h with hlt | ⟨heq, hle⟩
  · left
    rw [← Bool.not_eq_true, Moment.le_iff_seconds_le hrn]
    omega
  · refine .inr ⟨Moment.ext_seconds (by omega) hrn hsn, Int32.lt_iff_toInt_lt.mpr ?_⟩
    omega

end Row

namespace Registry

variable {g : Registry}

def listing (g : Registry) : List Platform := (g.rows.mergeSort Row.listedBefore).map Row.platform

theorem listing_perm (g : Registry) : g.listing.Perm (g.rows.map Row.platform) :=
  (List.mergeSort_perm g.rows Row.listedBefore).map Row.platform

@[simp] theorem length_listing (g : Registry) : g.listing.length = g.rows.length := by
  rw [g.listing_perm.length_eq, List.length_map]

/-- Rows with numbers of their own are listed in a strict order. -/
theorem pairwise_listing (hd : ∀ r ∈ g.rows, r.decode = .ok r.platform)
    (hn : (g.rows.map Row.id).Nodup) : g.listing.Pairwise Platform.ListedBefore := by
  have hp := List.mergeSort_perm g.rows Row.listedBefore
  have hs := Row.pairwise_mergeSort g.rows
  have hne : (g.rows.mergeSort Row.listedBefore).Pairwise fun r s => r.id ≠ s.id :=
    List.pairwise_map.mp ((hp.map Row.id).nodup_iff.mpr hn)
  refine List.pairwise_map.mpr ((hs.and hne).imp_of_mem fun hr hs h => ?_)
  exact Row.listedBefore_platform (hd _ (hp.mem_iff.mp hr)) (hd _ (hp.mem_iff.mp hs)) h.1 h.2

theorem select_ofCursor (g : Registry) (c : PageCursor) : g.select (.ofCursor c) =
    ((g.rows.mergeSort Row.listedBefore).drop c.offset.toNat).take c.fetchLimit.toNat := by
  have hm : g.rows.filter (Query.ofCursor c).matches = g.rows :=
    List.filter_eq_self.mpr fun _ _ => rfl
  rw [select, hm]
  rfl

/-- What is found for a cursor is the window of the listing that begins there. -/
theorem find_ofCursor (hd : ∀ r ∈ g.rows, r.decode = .ok r.platform) (c : PageCursor) :
    g.find (.ofCursor c) = .ok ((g.listing.drop c.offset.toNat).take c.fetchLimit.toNat) := by
  rw [find, select_ofCursor, listing, ← List.map_drop, ← List.map_take]
  refine Row.decodeAll_eq_ok fun r hr => hd r ?_
  have hm := List.mem_of_mem_drop (List.mem_of_mem_take hr)
  exact (List.mergeSort_perm g.rows Row.listedBefore).mem_iff.mp hm

end Registry

end PromptGateway
