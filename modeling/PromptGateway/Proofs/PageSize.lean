import PromptGateway.Proofs.Concurrency.Calls
import PromptGateway.Proofs.Token
import PromptGateway.Proofs.Walk

/-! # The size of pages

A page holds no more rows than the limit of its cursor, for which one row more is fetched. A limit
that comes from a size is within the maximum, and the next page has the same limit, so no page of a
walk that begins with a size is larger. A token may hold any limit, and its pages are as large.
-/

namespace PromptGateway

/-- A call that fetches rows, and no more than a number of them. -/
def Call.FetchesAtMost (n : Nat) (c : Call) : Prop :=
  ∃ q limit, c = .find q ∧ q.limit? = some limit ∧ limit.toNat ≤ n

namespace Page

variable {α : Type} {rows : List α} {c : PageCursor} {token : String}

theorem length_items_ofRows (rows : List α) (c : PageCursor) :
    (ofRows rows c).items.length ≤ c.limit.toNat := by
  unfold ofRows
  split
  · exact List.length_take_le _ _
  · rename_i h
    exact not_lt.mp h

theorem eq_token_of_nextToken? (h : (ofRows rows c).nextToken? = some token) :
    token = c.next.token := by
  unfold ofRows at h
  split at h
  · exact (Option.some.inj h).symm
  · cases h

end Page

namespace PageRequest

variable {request : PageRequest} {c : PageCursor}

/-- A request that brings no token for more rows than the maximum. -/
def Modest (request : PageRequest) : Prop :=
  ∀ token, request.token? = some token → ∀ c, PageCursor.ofToken token = .ok c →
    c.limit.toNat ≤ PageCursor.maxSize.toNat

theorem modest_of_size (size : Int64) : Modest { size } := nofun

theorem Modest.limit_le (h : request.Modest) (hc : request.cursor = .ok c) :
    c.limit.toNat ≤ PageCursor.maxSize.toNat := by
  have hf (size : Int64) : (PageCursor.first size).limit.toNat ≤ PageCursor.maxSize.toNat := by
    rw [PageCursor.toNat_limit_first, PageCursor.wantedSize]
    split
    · decide
    · exact min_le_right _ _
  unfold cursor at hc
  split at hc
  · rename_i token ht
    split at hc
    · cases hc
      exact hf request.size
    · exact h token ht c hc
  · cases hc
    exact hf request.size

/-- The token of a page that follows holds the limit of this page. -/
theorem modest_next (hl : c.limit.toNat ≤ PageCursor.maxSize.toNat) (size : Int64) :
    Modest { size, token? := some c.next.token } := by
  rintro token ⟨⟩ d hd
  have ht := @PageCursor.ofToken_append c.next "" "" rfl rfl
  rw [String.empty_append, String.append_empty, hd] at ht
  split at ht
  · cases ht
  · cases ht
    exact hl

end PageRequest

namespace Platforms

variable {request : PageRequest} {w w' : World} {page : Page Platform} {n : Nat}

theorem calls_list (h : ∀ c, request.cursor = .ok c → c.limit.toNat ≤ n) :
    (list request).run.Calls (Call.FetchesAtMost (n + 1)) := by
  rw [run_list]
  cases hc : request.cursor with
  | error fault => trivial
  | ok c =>
    refine Program.calls_store ⟨_, c.fetchLimit, rfl, rfl, ?_⟩ fun r => ?_
    · rw [PageCursor.fetchLimit, PageCursor.toNat_saturatingAdd]
      exact (min_le_left _ _).trans (Nat.add_le_add_right (h c hc) 1)
    · cases r with
      | error e => trivial
      | ok rows => exact Program.calls_note trivial

/-- A page is made up of the rows that are fetched for the cursor of the request. -/
theorem exists_of_list (h : (list request).runIn w = (.ok page, w')) :
    ∃ c rows, request.cursor = .ok c ∧ page = .ofRows rows c := by
  obtain ⟨ha, -⟩ := Action.runIn_of_alone (alone_list request w w.registry)
  rw [h] at ha
  cases hc : request.cursor with
  | error fault =>
    rw [hc] at ha
    cases ha
  | ok c =>
    rw [hc] at ha
    dsimp only at ha
    cases hr : (w.ask (.find (.ofCursor c)) w.registry).1 with
    | error e =>
      rw [hr] at ha
      cases ha
    | ok rows =>
      rw [hr] at ha
      exact ⟨c, rows, rfl, Except.ok.inj ha⟩

theorem length_items_of_list (hm : request.Modest) (h : (list request).runIn w = (.ok page, w')) :
    page.items.length ≤ PageCursor.maxSize.toNat := by
  obtain ⟨c, rows, hc, rfl⟩ := exists_of_list h
  exact (Page.length_items_ofRows rows c).trans (hm.limit_le hc)

theorem modest_of_list (hm : request.Modest) (h : (list request).runIn w = (.ok page, w'))
    {token : String} (ht : page.nextToken? = some token) (size : Int64) :
    PageRequest.Modest { size, token? := some token } := by
  obtain ⟨c, rows, hc, rfl⟩ := exists_of_list h
  rw [Page.eq_token_of_nextToken? ht]
  exact PageRequest.modest_next (hm.limit_le hc) size

end Platforms

theorem Walk.length_items {w : World} {request : PageRequest} {pages : List (Page Platform)}
    (h : Walk w request pages) (hm : request.Modest) :
    ∀ page ∈ pages, page.items.length ≤ PageCursor.maxSize.toNat := by
  induction h with
  | last hr ht =>
    intro page hp
    rw [List.mem_singleton.mp hp]
    exact Platforms.length_items_of_list hm hr
  | more hr ht hw ih =>
    intro page hp
    rcases List.mem_cons.mp hp with rfl | hp
    · exact Platforms.length_items_of_list hm hr
    · exact ih 0 (Platforms.modest_of_list hm hr ht 0) page hp

namespace Platforms

/--
For a request that brings no token for more rows than the maximum, no more than the maximum and one
row are fetched, and neither its page nor any page of the walk from there on holds more than the
maximum.
-/
theorem list_within_maxSize {request : PageRequest} (hm : request.Modest) :
    (list request).run.Calls (Call.FetchesAtMost (PageCursor.maxSize.toNat + 1)) ∧
      (∀ w page w', (list request).runIn w = (.ok page, w') →
        page.items.length ≤ PageCursor.maxSize.toNat) ∧
      ∀ w pages, Walk w request pages →
        ∀ page ∈ pages, page.items.length ≤ PageCursor.maxSize.toNat := by
  refine ⟨calls_list fun c hc => hm.limit_le hc, ?_, fun w pages hw => hw.length_items hm⟩
  intro w page w' h
  exact length_items_of_list hm h

def crowd (n : Nat) : World :=
  let row (k : Nat) : Row :=
    { id := k + 1, kindTag := "OLLAMA", url := "u", accessKey := "k", displayName := "n"
      description := "", model := "m", createdTs := 0, updatedTs := 0 }
  { registry := { rows := (List.range n).map row, lastId := n } }

theorem lists_crowd {n : Nat} (hn : n < 2 ^ 31) : (crowd n).Lists where
  healthy := rfl
  length_lt := by simpa [crowd] using hn
  decode r hr := by
    obtain ⟨k, hk, rfl⟩ := List.mem_map.mp hr
    rw [List.mem_range] at hk
    have hb : -2 ^ 31 ≤ (k + 1 : Int) ∧ (k + 1 : Int) < 2 ^ 31 := by omega
    exact Row.decode_eq_ok_iff.mpr ⟨Int32.toInt_ofInt_of_le hb.1 hb.2, rfl, rfl, rfl⟩

theorem list_within_maxSize_crowd : PageRequest.Modest { size := 5000 } ∧
    ∃ page, ((list { size := 5000 }).runIn (crowd 2000)).1 = .ok page ∧
      page.items.length ≤ 1000 := by
  have hm := PageRequest.modest_of_size 5000
  have hc : PageRequest.cursor { size := 5000 } = .ok (.first 5000) := rfl
  obtain ⟨e, hr⟩ := (lists_crowd (n := 2000) (by decide)).runIn_list hc
  exact ⟨hm, _, by rw [hr], (list_within_maxSize hm).2.1 _ _ _ hr⟩

/-- A token for more rows than the maximum leads to a page that holds more. -/
theorem list_beyond_maxSize :
    ∃ page, ((list { token? := some (PageCursor.token ⟨1001, 0⟩) }).runIn (crowd 1001)).1 =
      .ok page ∧ page.items.length = 1001 := by
  have hw := lists_crowd (n := 1001) (by decide)
  have hl : (crowd 1001).registry.listing.length = 1001 := by
    rw [Registry.length_listing]
    simp [crowd]
  obtain ⟨e, hr⟩ := hw.runIn_list
    (PageRequest.cursor_token (c := ⟨1001, 0⟩) (by decide) 0)
  rw [Page.ofRows_window _ _ (by rw [hl]; decide), if_neg (by rw [hl]; decide)] at hr
  exact ⟨_, by rw [hr], by simpa using hl⟩

end Platforms

end PromptGateway
