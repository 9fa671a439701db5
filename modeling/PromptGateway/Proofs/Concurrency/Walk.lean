import PromptGateway.Proofs.Concurrency.Calls
import PromptGateway.Proofs.Registry.Keys
import PromptGateway.Proofs.Walk

/-! # Walks among other jobs

A walk whose pages are asked for while other jobs create and change platforms. A row that was there
from the beginning never moves forward in the listing, so the walk does not pass it over.
-/

namespace PromptGateway

open scoped List

namespace System

variable {s : System} {moves moves' : List Move} {m : Method}

/-- Neither the jobs under way nor those that are started call a method. -/
structure Spares (m : Method) (s : System) (moves : List Move) : Prop where
  calls : s.Calls (·.method ≠ m)
  starts : ∀ j, .start j ∈ moves → m ∉ j.operation.methods

theorem Spares.starts_calls (h : s.Spares m moves) : Starts (·.method ≠ m) moves :=
  fun j hj => j.operation.calls_program.mono fun _ hc he => h.starts j hj (he ▸ hc)

theorem Spares.append (h : s.Spares m (moves ++ moves')) :
    s.Spares m moves ∧ (s.run moves).Spares m moves' := by
  have hm : s.Spares m moves := ⟨h.calls, fun j hj => h.starts j (List.mem_append_left _ hj)⟩
  refine ⟨hm, ?_, fun j hj => h.starts j (List.mem_append_right _ hj)⟩
  exact (registry_run (R := fun _ _ => True) (fun _ => trivial) (fun _ _ _ _ _ => trivial)
    (fun _ _ _ => trivial) hm.calls hm.starts_calls).2

/-- As long as nothing is deleted, the rows keep their places behind each other. -/
theorem Spares.keys_sublist (h : s.Spares .delete moves) :
    s.registry.keys.Sublist (s.run moves).registry.keys :=
  (registry_run (R := fun g g' => g.keys.Sublist g'.keys) (fun _ => .refl _)
    (fun _ _ _ => .trans) (fun _ _ hc => Registry.keys_perform hc) h.calls h.starts_calls).1

theorem Spares.length_le (h : s.Spares .delete moves) :
    s.registry.rows.length ≤ (s.run moves).registry.rows.length := by
  simpa using h.keys_sublist.length_le

/-- As long as nothing is deleted or inserted, the rows keep their places. -/
theorem Spares.keys_eq (hd : s.Spares .delete moves) (hi : s.Spares .insert moves) :
    (s.run moves).registry.keys = s.registry.keys := by
  refine (registry_run (R := fun g g' => g'.keys = g.keys)
    (P := fun c => c.method ≠ .insert ∧ c.method ≠ .delete) (fun _ => rfl)
    (fun _ _ _ h h' => h'.trans h) (fun _ _ hc => Registry.keys_perform_eq hc.1 hc.2) ?_ ?_).1
  · exact fun t ht => (hi.calls t ht).and (hd.calls t ht)
  · exact fun j hj => (hi.starts_calls j hj).and (hd.starts_calls j hj)

end System

namespace Walk

/--
The pages of a walk that begins in a system with a request. Between two pages the jobs under way,
and others that are started, make some moves.
-/
inductive Amid : System → PageRequest → List Move → List (Page Platform) → Prop
  | last {s : System} {request : PageRequest} {page : Page Platform} (w : World)
    (hr : ((Platforms.list request).runIn (w.on s.registry)).1 = .ok page)
    (ht : page.nextToken? = none) : Amid s request [] [page]
  | more {s : System} {request : PageRequest} {page : Page Platform} {token : String}
    {moves moves' : List Move} {pages : List (Page Platform)} (w : World) (size : Int64)
    (hr : ((Platforms.list request).runIn (w.on s.registry)).1 = .ok page)
    (ht : page.nextToken? = some token)
    (hw : Amid (s.run moves) { size, token? := some token } moves' pages) :
    Amid s request (moves ++ moves') (page :: pages)

variable {s : System} {request : PageRequest} {moves : List Move} {page : Page Platform}
  {pages quiet : List (Page Platform)} {c : PageCursor} {w : World}

/-- The keys of a page are those of the window of the registry's keys that begins at its cursor. -/
theorem key_of_list {g : Registry} (hr : ((Platforms.list request).runIn (w.on g)).1 = .ok page) :
    ∃ c, request.cursor = .ok c ∧ page.map Platform.key =
      .ofRows ((g.keys.drop c.offset.toNat).take c.fetchLimit.toNat) c := by
  have ha : .ok page = ((Platforms.list request).run.alone w g).1 := hr.symm
  rw [Platforms.alone_list] at ha
  cases hc : request.cursor with
  | error fault => rw [hc] at ha; cases ha
  | ok c =>
    rw [hc] at ha
    dsimp only at ha
    cases hf : (w.ask (.find (.ofCursor c)) g).1 with
    | error e => rw [hf] at ha; cases ha
    | ok rows =>
      rw [hf] at ha
      cases ha
      refine ⟨c, rfl, ?_⟩
      rw [World.ask_of_ok hf] at hf
      rw [Page.map_ofRows, Registry.key_of_find hf]

/-- A page holds the keys from its cursor on, and if it has a token, just as many as it may hold. -/
theorem key_of_page {g : Registry} (hr : ((Platforms.list request).runIn (w.on g)).1 = .ok page)
    (hc : request.cursor = .ok c) (hl : g.rows.length < 2 ^ 31) :
    (page.nextToken? = none → page.items.map Platform.key = g.keys.drop c.offset.toNat) ∧
    ∀ token, page.nextToken? = some token → token = c.next.token ∧
      c.next.offset.toNat = c.offset.toNat + c.limit.toNat ∧
      page.items.map Platform.key = (g.keys.drop c.offset.toNat).take c.limit.toNat := by
  obtain ⟨c', hc', hk⟩ := key_of_list hr
  obtain rfl : c = c' := Except.ok.inj (hc.symm.trans hc')
  rw [← g.length_keys] at hl
  rw [Page.ofRows_window _ _ hl] at hk
  obtain ⟨items, next?⟩ := page
  split at hk
  · obtain ⟨hi, hn⟩ := (Page.mk.injEq ..).mp hk
    refine ⟨fun ht => ?_, fun token ht => ⟨?_, ?_, hi⟩⟩
    · cases hn.symm.trans ht
    · exact Option.some.inj (ht.symm.trans hn)
    · exact c.toNat_offset_next (by omega)
  · obtain ⟨hi, hn⟩ := (Page.mk.injEq ..).mp hk
    refine ⟨fun _ => hi, fun token ht => ?_⟩
    cases hn.symm.trans ht

/-- What was behind the cursor of a walk in the beginning is on its pages, in this order. -/
theorem Amid.sublist (h : Amid s request moves pages) (hd : s.Spares .delete moves)
    (hl : (s.run moves).registry.rows.length < 2 ^ 31) (hc : request.cursor = .ok c)
    (hp : c.limit ≠ 0) :
    (s.registry.keys.drop c.offset.toNat).Sublist
      ((pages.flatMap Page.items).map Platform.key) := by
  induction h generalizing c with
  | last w hr ht =>
    rw [List.flatMap_singleton, (key_of_page hr hc hl).1 ht]
  | @more s _ _ _ _ _ _ w size hr ht hw ih =>
    obtain ⟨hd, hd'⟩ := hd.append
    rw [System.run_append] at hl
    have hlt : _ < 2 ^ 31 := Nat.lt_of_le_of_lt (hd.length_le.trans hd'.length_le) hl
    obtain ⟨rfl, ho, hi⟩ := (key_of_page hr hc hlt).2 _ ht
    have hs := ih hd' hl (PageRequest.cursor_token (c := c.next) hp size) hp
    rw [ho, ← List.drop_drop] at hs
    rw [List.flatMap_cons, List.map_append, hi]
    -- Whatever the others insert, a row behind the offset stays behind it until the next page.
    calc s.registry.keys.drop c.offset.toNat
      _ = (s.registry.keys.drop c.offset.toNat).take c.limit.toNat ++
          (s.registry.keys.drop c.offset.toNat).drop c.limit.toNat :=
        (List.take_append_drop _ _).symm
      _ <+ (s.registry.keys.drop c.offset.toNat).take c.limit.toNat ++ _ :=
        List.Sublist.append (.refl _) (((hd.keys_sublist.drop _).drop _).trans hs)

theorem map_key_of_list {v v' : World} {g : Registry} {page' : Page Platform}
    (hr : ((Platforms.list request).runIn (w.on g)).1 = .ok page)
    (hr' : (Platforms.list request).runIn v = (.ok page', v')) (hk : g.keys = v.registry.keys) :
    page.map Platform.key = page'.map Platform.key := by
  rw [← v.on_registry] at hr'
  obtain ⟨c, hc, hp⟩ := key_of_list hr
  obtain ⟨c', hc', hp'⟩ := key_of_list (congrArg Prod.fst hr')
  obtain rfl : c = c' := Except.ok.inj (hc.symm.trans hc')
  rw [hp, hp', hk]

theorem nextToken?_of_list {v v' : World} {g : Registry} {page' : Page Platform}
    (hr : ((Platforms.list request).runIn (w.on g)).1 = .ok page)
    (hr' : (Platforms.list request).runIn v = (.ok page', v')) (hk : g.keys = v.registry.keys) :
    page.nextToken? = page'.nextToken? := by
  have hp : (page.map Platform.key).nextToken? = (page'.map Platform.key).nextToken? :=
    congrArg Page.nextToken? (map_key_of_list hr hr' hk)
  exact hp

theorem registry_of_list {w' : World} {a : Except ServiceError (Page Platform)}
    (hr : (Platforms.list request).runIn w = (a, w')) : w'.registry = w.registry := by
  have ha : w'.registry = ((Platforms.list request).run.alone w w.registry).2 :=
    congrArg (·.2.registry) hr.symm
  rw [ha, Platforms.alone_list]
  cases request.cursor <;> rfl

/-- As long as there are only changes, the pages of a walk are those that it has by itself. -/
theorem Amid.map_key (h : Amid s request moves pages) (hd : s.Spares .delete moves)
    (hi : s.Spares .insert moves) (hk : s.registry.keys = w.registry.keys)
    (hq : Walk w request quiet) :
    pages.map (Page.map Platform.key) = quiet.map (Page.map Platform.key) := by
  induction h generalizing w quiet with
  | last v hr ht =>
    cases hq with
    | last hr' ht' =>
      rw [List.map_singleton, List.map_singleton, map_key_of_list hr hr' hk]
    | more hr' ht' hw' =>
      cases ht.symm.trans ((nextToken?_of_list hr hr' hk).trans ht')
  | more v size hr ht hw ih =>
    obtain ⟨hd, hd'⟩ := hd.append
    obtain ⟨hi, hi'⟩ := hi.append
    cases hq with
    | last hr' ht' =>
      cases ht.symm.trans ((nextToken?_of_list hr hr' hk).trans ht')
    | more hr' ht' hw' =>
      cases ht.symm.trans ((nextToken?_of_list hr hr' hk).trans ht')
      rw [List.map_cons, List.map_cons, map_key_of_list hr hr' hk, ih hd' hi' ?_ (hw' size)]
      rw [hd.keys_eq hi, hk, registry_of_list hr']

theorem map_map_items {α β : Type} (f : α → β) (pages : List (Page α)) :
    (pages.flatMap Page.items).map f = (pages.map (Page.map f)).flatMap Page.items := by
  rw [List.map_flatMap, List.flatMap_map]
  rfl

theorem map_id_of_map_key
    (h : pages.map (Page.map Platform.key) = quiet.map (Page.map Platform.key)) :
    pages.map (Page.map Platform.id) = quiet.map (Page.map Platform.id) := by
  have hid : Page.map Platform.id =
      Page.map (fun k => Int32.ofInt k.id) ∘ Page.map Platform.key := by
    funext page
    simp [Page.map, Platform.key]
  rw [hid, ← List.map_map, h, List.map_map]

/--
A walk among other jobs that delete nothing passes no platform over that was there when it began. If
they insert nothing either, its pages name each platform exactly once, and they are cut and ordered
as if the walk were by itself. The numbers of the rows differ, since they are the key of the table.
-/
theorem complete_amid {records : List Platform} {size : Int64}
    (hr : s.registry.rows.map Row.decode = records.map .ok)
    (hn : (s.registry.rows.map Row.id).Nodup)
    (hl : (s.run moves).registry.rows.length < 2 ^ 31) (hd : s.Spares .delete moves)
    (h : Amid s { size } moves pages) :
    (∀ q ∈ records, ∃ page ∈ pages, ∃ q' ∈ page.items, q'.id = q.id ∧
      q'.createdAt.seconds = q.createdAt.seconds) ∧
    (s.Spares .insert moves →
      ((pages.flatMap Page.items).map Platform.id).Perm (records.map Platform.id) ∧
      ((pages.flatMap Page.items).map Platform.id).Nodup ∧
      ∀ w quiet, w.registry = s.registry → Walk w { size } quiet →
        pages.map (Page.map Platform.id) = quiet.map (Page.map Platform.id)) := by
  obtain ⟨rfl, hdec⟩ := Row.platforms_eq hr
  have hc : PageRequest.cursor { size } = .ok (.first size) := rfl
  have hp := PageCursor.limit_first_ne_zero size
  refine ⟨fun q hq => ?_, fun hi => ?_⟩
  · obtain ⟨r, hm, rfl⟩ := List.mem_map.mp hq
    have hk : r.key ∈ s.registry.keys := s.registry.keys_perm.mem_iff.mpr (List.mem_map_of_mem hm)
    obtain ⟨q', hq', he⟩ := List.mem_map.mp ((h.sublist hd hl hc hp).subset hk)
    obtain ⟨page, hpage, hq'⟩ := List.mem_flatMap.mp hq'
    rw [← Row.key_of_decode (hdec r hm)] at he
    obtain ⟨hs, hid⟩ := (SortKey.mk.injEq ..).mp he
    exact ⟨page, hpage, q', hq', Int32.toInt_inj.mp hid, hs⟩
  · have hlt : _ < 2 ^ 31 := Nat.lt_of_le_of_lt hd.length_le hl
    obtain ⟨quiet, hq, hcover⟩ := exists_of_cursor (w := { registry := s.registry })
      ⟨rfl, hdec, hlt⟩ hc hp
    have hm := map_id_of_map_key (h.map_key hd hi rfl hq)
    have hperm : ((pages.flatMap Page.items).map Platform.id).Perm
        ((s.registry.rows.map Row.platform).map Platform.id) := by
      rw [map_map_items, hm, ← map_map_items, hcover.items]
      exact s.registry.listing_perm.map Platform.id
    refine ⟨hperm, hperm.nodup_iff.mpr (List.Nodup.of_map Int32.toInt ?_), fun w quiet hw hq => ?_⟩
    · have hid : ∀ r ∈ s.registry.rows, r.platform.id.toInt = r.id := fun r hm =>
        (Row.decode_eq_ok_iff.mp (hdec r hm)).1
      rw [List.map_map, List.map_map]
      exact (List.map_congr_left hid).symm ▸ hn
    · exact map_id_of_map_key (h.map_key hd hi (hw ▸ rfl) hq)

/-- A system in which three platforms are listed and no job is under way. -/
def threeAtRest : System := { registry := threeListed.registry }

def begun (o : Operation) (n : Nat) : List Move := .start ⟨o, {}⟩ :: List.replicate n (.advance 0)

theorem spares_begun {m : Method} {o : Operation} (hm : m ∉ o.methods) (n : Nat) :
    threeAtRest.Spares m (begun o n) := by
  refine ⟨List.forall_mem_nil _, fun j hj => ?_⟩
  rcases List.mem_cons.mp hj with he | hj
  · cases he
    exact hm
  · cases List.eq_of_mem_replicate hj

/-- A walk through the three platforms asks for the second page after some moves. -/
theorem exists_amid (hw : World.Lists { registry := (threeAtRest.run moves).registry })
    (hl : (threeAtRest.run moves).registry.rows.length ≤ 4) :
    ∃ pages, Amid threeAtRest { size := 2 } moves pages := by
  have hdec : threeAtRest.registry.rows.map Row.decode =
      (threeAtRest.registry.rows.map Row.platform).map .ok := by rfl
  have hf : World.Lists { registry := threeAtRest.registry } :=
    ⟨rfl, (Row.platforms_eq hdec).2, by decide⟩
  have hc : PageRequest.cursor { size := 2 } = .ok (.first 2) := rfl
  obtain ⟨e, hr⟩ := hf.runIn_list hc
  obtain ⟨e', hr'⟩ := hw.runIn_list (PageRequest.cursor_token (c := (PageCursor.first 2).next)
    (by decide) 0)
  rw [Page.ofRows_window _ _ (by rw [Registry.length_listing]; exact hf.length_lt),
    if_pos (by rw [Registry.length_listing]; decide)] at hr
  rw [Page.ofRows_window _ _ (by rw [Registry.length_listing]; exact hw.length_lt),
    if_neg (by rw [Registry.length_listing]; exact Nat.not_lt.mpr hl)] at hr'
  have hlast := Amid.last (s := threeAtRest.run moves) {} (congrArg Prod.fst hr') rfl
  have hmore := Amid.more (s := threeAtRest) {} 0 (congrArg Prod.fst hr) rfl hlast
  rw [List.append_nil] at hmore
  exact ⟨_, hmore⟩

/-- A platform is created by a clock that shows an earlier time than all rows. -/
def backdated : List Move :=
  begun
    (.create { kind := .ollama, url := "u", accessKey := "k", displayName := "n", model := "m" }) 3

def renamed : List Move := begun (.update 3 { displayName := "x" } ["displayName"]) 5

theorem complete_amid_threeAtRest :
    (∃ pages, Amid threeAtRest { size := 2 } backdated pages ∧
      ∀ q ∈ threeAtRest.registry.rows.map Row.platform, ∃ page ∈ pages, ∃ q' ∈ page.items,
        q'.id = q.id) ∧
    ∃ pages, Amid threeAtRest { size := 2 } renamed pages ∧
      ((pages.flatMap Page.items).map Platform.id).Perm [1, 2, 3] := by
  have hr : threeAtRest.registry.rows.map Row.decode =
      (threeAtRest.registry.rows.map Row.platform).map .ok := by rfl
  have hn : (threeAtRest.registry.rows.map Row.id).Nodup := by decide
  have hb : (threeAtRest.run backdated).registry.rows.map Row.decode =
      ((threeAtRest.run backdated).registry.rows.map Row.platform).map .ok := by rfl
  have hc : (threeAtRest.run renamed).registry.rows.map Row.decode =
      ((threeAtRest.run renamed).registry.rows.map Row.platform).map .ok := by rfl
  have hlb : (threeAtRest.run backdated).registry.rows.length < 2 ^ 31 := by decide
  have hlc : (threeAtRest.run renamed).registry.rows.length < 2 ^ 31 := by decide
  have hwb : World.Lists { registry := (threeAtRest.run backdated).registry } :=
    ⟨rfl, (Row.platforms_eq hb).2, hlb⟩
  have hwc : World.Lists { registry := (threeAtRest.run renamed).registry } :=
    ⟨rfl, (Row.platforms_eq hc).2, hlc⟩
  obtain ⟨pages, hp⟩ := exists_amid hwb (by decide)
  obtain ⟨pages', hp'⟩ := exists_amid hwc (by decide)
  refine ⟨⟨pages, hp, fun q hq => ?_⟩, pages', hp', ?_⟩
  · obtain ⟨page, hm, q', hq', hid, -⟩ := (complete_amid hr hn hlb
      (spares_begun (by decide) 3) hp).1 q hq
    exact ⟨page, hm, q', hq', hid⟩
  · exact ((complete_amid hr hn hlc (spares_begun (by decide) 5) hp').2
      (spares_begun (by decide) 5)).1

end Walk

end PromptGateway
