import PromptGateway.Proofs.Page
import PromptGateway.Proofs.Registry.Listing
import PromptGateway.Proofs.Service

/-! # Walks through the listing

A walk asks for a page, and then with the token of each page for the next one, until a page has no
token. It comes to an end, and its pages hold every platform of the registry exactly once.
-/

namespace PromptGateway

/-- Pages of a size that hold some items between them, none of them shorter than it has to be. -/
structure Page.Cover {α : Type} (size : Nat) (xs : List α) (pages : List (Page α)) : Prop where
  items : pages.flatMap Page.items = xs
  full : ∀ page ∈ pages, page.nextToken?.isSome = true → page.items.length = size
  length : pages.length = max 1 ((xs.length + size - 1) / size)

namespace Page.Cover

variable {α : Type} {size : Nat} {xs : List α} {pages : List (Page α)}

theorem last (hs : 0 < size) (h : xs.length ≤ size) :
    Cover size xs [{ items := xs, nextToken? := none }] where
  items := List.append_nil xs
  full := by
    intro page hp ht
    rw [List.mem_singleton.mp hp] at ht
    cases ht
  length := by
    have hq : (xs.length + size - 1) / size < 2 := (Nat.div_lt_iff_lt_mul hs).mpr (by omega)
    rw [List.length_singleton]
    omega

theorem more (hs : 0 < size) (h : size < xs.length) (hp : Cover size (xs.drop size) pages)
    (token : String) :
    Cover size xs ({ items := xs.take size, nextToken? := some token } :: pages) where
  items := by
    rw [List.flatMap_cons, hp.items, List.take_append_drop]
  full := by
    intro page hm ht
    rcases List.mem_cons.mp hm with rfl | hm
    · exact List.length_take_of_le h.le
    · exact hp.full page hm ht
  length := by
    have hl : (xs.drop size).length = xs.length - size := List.length_drop
    have hq : (xs.length + size - 1) / size = (xs.length - size + size - 1) / size + 1 := by
      rw [← Nat.add_div_right _ hs]
      congr 1
      omega
    have h1 : 1 ≤ (xs.length - size + size - 1) / size := (Nat.one_le_div_iff hs).mpr (by omega)
    rw [List.length_cons, hp.length, hl, hq]
    omega

end Page.Cover

/--
The pages of a walk that begins in a world with a request. A page with a token leads to the page of
this token, whatever size is asked for along with it.
-/
inductive Walk : World → PageRequest → List (Page Platform) → Prop
  | last {w w' : World} {request : PageRequest} {page : Page Platform}
    (hr : (Platforms.list request).runIn w = (.ok page, w')) (ht : page.nextToken? = none) :
    Walk w request [page]
  | more {w w' : World} {request : PageRequest} {page : Page Platform} {token : String}
    {pages : List (Page Platform)} (hr : (Platforms.list request).runIn w = (.ok page, w'))
    (ht : page.nextToken? = some token)
    (hw : ∀ size, Walk w' { size, token? := some token } pages) : Walk w request (page :: pages)

/-- A world in which the registry lists platforms without fail. -/
structure World.Lists (w : World) : Prop where
  healthy : w.fault? .find = none
  decode : ∀ r ∈ w.registry.rows, r.decode = .ok r.platform
  length_lt : w.registry.rows.length < 2 ^ 31

/-- A request that leads to a cursor yields the window of the listing that begins there. -/
theorem World.runIn_list {w : World} (hf : w.fault? .find = none)
    (hd : ∀ r ∈ w.registry.rows, r.decode = .ok r.platform) {request : PageRequest} {c : PageCursor}
    (hc : request.cursor = .ok c) : ∃ e, (Platforms.list request).runIn w =
      (.ok (.ofRows ((w.registry.listing.drop c.offset.toNat).take c.fetchLimit.toNat) c),
        w.tell e) := by
  have hf : w.ask (.find (.ofCursor c)) w.registry =
      (.ok ((w.registry.listing.drop c.offset.toNat).take c.fetchLimit.toNat), w.registry) := by
    rw [World.ask_of_fault?_eq_none hf, Registry.perform, Registry.find_ofCursor hd]
  rw [Action.runIn, Platforms.run_list, hc]
  have hs := fun next : _ → Program (Except ServiceError (Page Platform)) =>
    Program.runIn_store (.find (.ofCursor c)) next w w.registry
  simp only [World.on_registry, hf] at hs
  exact ⟨_, hs _⟩

theorem World.Lists.runIn_list {w : World} (hw : w.Lists) {request : PageRequest} {c : PageCursor}
    (hc : request.cursor = .ok c) : ∃ e, (Platforms.list request).runIn w =
      (.ok (.ofRows ((w.registry.listing.drop c.offset.toNat).take c.fetchLimit.toNat) c),
        w.tell e) :=
  World.runIn_list hw.healthy hw.decode hc

namespace Walk

variable {w : World} {request request' : PageRequest} {c : PageCursor}
  {pages pages' : List (Page Platform)}

/-- A walk does not depend on more of its request than the cursor. -/
theorem congr (h : Walk w request pages) (hc : request'.cursor = request.cursor) :
    Walk w request' pages := by
  have hl : Platforms.list request' = Platforms.list request := by
    rw [Platforms.list, hc, Platforms.list]
  cases h with
  | last hr ht => exact .last (hl ▸ hr) ht
  | more hr ht hw => exact .more (hl ▸ hr) ht hw

/-- A walk from a cursor ends, and its pages hold the listing from there on. -/
theorem exists_of_cursor (hw : w.Lists) (hc : request.cursor = .ok c) (hl : c.limit ≠ 0) :
    ∃ pages, Walk w request pages ∧
      Page.Cover c.limit.toNat (w.registry.listing.drop c.offset.toNat) pages := by
  induction hk : w.registry.rows.length - c.offset.toNat using Nat.strong_induction_on
    generalizing w request c with
  | h k ih =>
    subst hk
    have hs : 0 < c.limit.toNat := by
      rw [Nat.pos_iff_ne_zero]
      exact fun h0 => hl (UInt32.toNat_inj.mp h0)
    have hlen := w.registry.length_listing
    have hlt := hw.length_lt
    obtain ⟨e, hr⟩ := hw.runIn_list hc
    rw [Page.ofRows_window _ _ (hlen ▸ hlt)] at hr
    by_cases hm : c.offset.toNat + c.limit.toNat < w.registry.listing.length
    · rw [if_pos hm] at hr
      have ho := c.toNat_offset_next (by omega)
      have hw' : (w.tell e).Lists := ⟨hw.healthy, hw.decode, hw.length_lt⟩
      have hl' : c.next.limit ≠ 0 := hl
      have hn := PageRequest.cursor_token hl' 0
      have hk : (w.tell e).registry.rows.length - c.next.offset.toNat <
          w.registry.rows.length - c.offset.toNat := by
        rw [World.registry_tell, ho]
        omega
      obtain ⟨pages, hp, hp'⟩ := ih _ hk hw' hn hl' rfl
      refine ⟨_ :: pages, .more hr rfl fun size => hp.congr ?_, ?_⟩
      · rw [PageRequest.cursor_token hl' size, hn]
      · refine Page.Cover.more hs ?_ ?_ c.next.token
        · rw [List.length_drop]
          omega
        · rw [List.drop_drop, ← ho]
          exact hp'
    · rw [if_neg hm] at hr
      refine ⟨_, .last hr rfl, Page.Cover.last hs ?_⟩
      rw [List.length_drop]
      omega

/-- A walk has only one course. -/
theorem unique (h : Walk w request pages) (h' : Walk w request pages') : pages = pages' := by
  induction h generalizing pages' with
  | last hr ht =>
    cases h' with
    | last hr' ht' =>
      obtain ⟨⟨⟩, -⟩ := Prod.mk.inj (hr.symm.trans hr')
      rfl
    | more hr' ht' hw' =>
      obtain ⟨⟨⟩, -⟩ := Prod.mk.inj (hr.symm.trans hr')
      cases ht.symm.trans ht'
  | more hr ht hw ih =>
    cases h' with
    | last hr' ht' =>
      obtain ⟨⟨⟩, -⟩ := Prod.mk.inj (hr.symm.trans hr')
      cases ht.symm.trans ht'
    | more hr' ht' hw' =>
      obtain ⟨⟨⟩, rfl⟩ := Prod.mk.inj (hr.symm.trans hr')
      obtain rfl := Option.some.inj (ht.symm.trans ht')
      rw [ih 0 (hw' 0)]

/--
A walk through the listing comes to an end, whatever size of page it begins with. Its pages hold the
platform of each row exactly once and in the order of listings, those with a token are full, and
there is no page too many. The numbers of the rows differ, since they are the key of the table.
-/
theorem visits_each_once {records : List Platform} (hf : w.fault? .find = none)
    (hd : w.registry.rows.map Row.decode = records.map .ok)
    (hn : (w.registry.rows.map Row.id).Nodup) (hl : records.length < 2 ^ 31) (size : Int64) :
    ∃ pages, Walk w { size } pages ∧ (∀ pages', Walk w { size } pages' → pages' = pages) ∧
      (pages.flatMap Page.items).Perm records ∧
      (pages.flatMap Page.items).Pairwise Platform.ListedBefore ∧
      (∀ page ∈ pages, page.nextToken?.isSome = true →
        page.items.length = PageCursor.wantedSize size) ∧
      pages.length = max 1
        ((records.length + PageCursor.wantedSize size - 1) / PageCursor.wantedSize size) := by
  obtain ⟨rfl, hr⟩ := Row.platforms_eq hd
  rw [List.length_map] at hl
  have hq : PageRequest.cursor { size } = .ok (.first size) := rfl
  obtain ⟨pages, hp, hc⟩ := exists_of_cursor ⟨hf, hr, hl⟩ hq (PageCursor.limit_first_ne_zero size)
  rw [PageCursor.toNat_limit_first] at hc
  have hi : pages.flatMap Page.items = w.registry.listing := hc.items
  have hlen : (w.registry.listing.drop (PageCursor.first size).offset.toNat).length =
      (w.registry.rows.map Row.platform).length := w.registry.listing_perm.length_eq
  refine ⟨pages, hp, fun _ h => h.unique hp, ?_, ?_, hc.full, ?_⟩
  · rw [hi]
    exact w.registry.listing_perm
  · rw [hi]
    exact Registry.pairwise_listing hr hn
  · rw [hc.length, hlen]

/-- A world with three platforms, two of which are of the same age. -/
def threeListed : World :=
  let row (id : Int) (created : Int) : Row :=
    { id, kindTag := "OLLAMA", url := "u", accessKey := "k", displayName := "n", description := ""
      model := "m", createdTs := created, updatedTs := created }
  { registry := { rows := [row 1 5, row 2 7, row 3 5], lastId := 3 } }

theorem visits_each_once_threeListed : ∃ pages, Walk threeListed { size := 2 } pages ∧
    (pages.flatMap Page.items).Perm (threeListed.registry.rows.map Row.platform) ∧
    pages.length = 2 := by
  have hf : threeListed.fault? .find = none := rfl
  have hd : threeListed.registry.rows.map Row.decode =
      (threeListed.registry.rows.map Row.platform).map .ok := by rfl
  have hn : (threeListed.registry.rows.map Row.id).Nodup := by decide
  obtain ⟨pages, hp, -, hi, -, -, hl⟩ := visits_each_once hf hd hn (by decide) 2
  exact ⟨pages, hp, hi, hl⟩

end Walk

end PromptGateway
