import PromptGateway.Proofs.Cli.Listing

/-! # Saying that nothing is registered

The command that lists platforms says that nothing is registered exactly if no platform is left from
the place where it begins. Where it begins at the front, that is if there is none. A token may lead
beyond the end of a listing that is not empty, and then it says so as well.
-/

namespace PromptGateway

theorem PageCursor.fetchLimit_pos (c : PageCursor) : 0 < c.fetchLimit.toNat := by
  have h1 : (1 : UInt32).toNat = 1 := rfl
  rw [fetchLimit, toNat_saturatingAdd]
  omega

namespace Page

variable {α : Type} {xs : List α} {c : PageCursor}

theorem items_ofRows_eq_nil_iff (hl : c.limit ≠ 0) : (ofRows xs c).items = [] ↔ xs = [] := by
  have hs := Nat.ne_of_gt (PageCursor.toNat_limit_pos hl)
  unfold ofRows
  split
  · simp [List.take_eq_nil_iff, hs]
  · rfl

/-- A page is empty exactly if it begins behind the last item of the listing. -/
theorem items_ofRows_window_eq_nil_iff (hl : c.limit ≠ 0) (xs : List α) :
    (ofRows ((xs.drop c.offset.toNat).take c.fetchLimit.toNat) c).items = [] ↔
      xs.length ≤ c.offset.toNat := by
  rw [items_ofRows_eq_nil_iff hl, List.take_eq_nil_iff, List.drop_eq_nil_iff]
  exact or_iff_right (Nat.ne_of_gt c.fetchLimit_pos)

end Page

/-- A request without a token begins at the front. -/
theorem PageRequest.offset_of_blank {size : Int64} {token? : Option String} {c : PageCursor}
    (hb : ∀ token ∈ token?, Text.allBlank token = true)
    (hc : PageRequest.cursor ⟨size, token?⟩ = .ok c) : c.offset.toNat = 0 := by
  cases token? with
  | none =>
    cases hc
    rfl
  | some token =>
    rw [cursor] at hc
    dsimp only at hc
    rw [if_pos (hb token rfl)] at hc
    cases hc
    rfl

namespace Cli

theorem header_append_ne_emptyText (text : String) : Table.header ++ text ≠ emptyText := by
  have hh : Table.header.toList.head? = some 'I' := by
    simp [Table.header, Table.line, Table.column]
  intro h
  have he := congrArg (·.toList.head?) h
  simp [hh, emptyText] at he

section First

variable {w w' : World} {request : PageRequest} {page : Page Platform}
  (hp : Program.runIn (serviceTask (Platforms.list request)).run w = (.ok page, w'))

include hp

/-- Where the first page is empty, nothing else is printed. -/
theorem runIn_printPages_empty (hi : page.items = []) (all : Bool) (n : Nat) :
    Program.runIn (printPages all 0 request (n + 1)).run w = (.ok (), w'.printing emptyText) := by
  rw [printPages, Program.runIn_bindExcept, hp]
  dsimp only
  rw [if_pos ⟨rfl, hi⟩]
  exact runIn_say emptyText w'

/-- Where the first page is not empty, the headings are printed before everything else. -/
theorem exists_output_printPages (hi : page.items ≠ []) (all : Bool) (n : Nat) :
    ∃ more, (Program.runIn (printPages all 0 request (n + 1)).run w).2.output =
      w'.output ++ (Table.header ++ more) := by
  rw [printPages, Program.runIn_bindExcept, hp]
  dsimp only
  rw [if_neg fun h => hi h.2, Program.runIn_bindExcept, runIn_say]
  dsimp only
  obtain ⟨rest, hr⟩ := Program.exists_output_runIn _ _
  refine ⟨String.join (page.items.map Table.row) ++ rest, hr.trans ?_⟩
  rw [World.printing, if_pos rfl]
  simp only [String.append_assoc]

end First

section Listing

variable {w : World} (hf : w.fault? .find = none)
  (hd : ∀ r ∈ w.registry.rows, r.decode = .ok r.platform) {size : Int64} {token? : Option String}
  {c : PageCursor} (hc : PageRequest.cursor ⟨size, token?⟩ = .ok c)

include hf hd hc

/-- The first page is empty exactly if it begins behind the last row. -/
theorem exists_firstPage : ∃ page e,
    Program.runIn (serviceTask (Platforms.list ⟨size, token?⟩)).run w = (.ok page, w.tell e) ∧
      (page.items = [] ↔ w.registry.rows.length ≤ c.offset.toNat) := by
  obtain ⟨e, he⟩ := World.runIn_list hf hd hc
  refine ⟨_, e, by rw [runIn_serviceTask, he]; rfl, ?_⟩
  rw [Page.items_ofRows_window_eq_nil_iff (PageRequest.limit_ne_zero_of_cursor hc),
    Registry.length_listing]

theorem output_listPlatforms_of_le (h : w.registry.rows.length ≤ c.offset.toNat) (all : Bool) :
    (Program.runIn (listPlatforms size token? all).run w).2.output = w.output ++ emptyText := by
  obtain ⟨page, e, hp, hi⟩ := exists_firstPage hf hd hc
  rw [listPlatforms, mostPages, runIn_printPages_empty hp (hi.mpr h)]
  rfl

theorem output_listPlatforms_of_lt (h : c.offset.toNat < w.registry.rows.length) (all : Bool) :
    ∃ more, (Program.runIn (listPlatforms size token? all).run w).2.output =
      w.output ++ (Table.header ++ more) := by
  obtain ⟨page, e, hp, hi⟩ := exists_firstPage hf hd hc
  exact exists_output_printPages hp (fun h0 => Nat.not_le_of_lt h (hi.mp h0)) all _

end Listing

/--
Whether it goes on to the other pages or not, the command that lists platforms prints that nothing
is registered exactly if it begins behind the last platform; otherwise it begins with the headings.
Without a token it says so exactly if nothing is registered.
-/
theorem lists_nothing_iff {w : World} {records : List Platform} (hf : w.fault? .find = none)
    (hd : w.registry.rows.map Row.decode = records.map .ok) {size : Int64} {token? : Option String}
    {c : PageCursor} (hc : PageRequest.cursor ⟨size, token?⟩ = .ok c) (all : Bool) :
    ∃ text, (Program.runIn (listPlatforms size token? all).run w).2.output = w.output ++ text ∧
      (text = emptyText ↔ records.length ≤ c.offset.toNat) ∧
      (text ≠ emptyText → ∃ more, text = Table.header ++ more) ∧
      ((∀ token ∈ token?, Text.allBlank token = true) → (text = emptyText ↔ records = [])) := by
  obtain ⟨rfl, hr⟩ := Row.platforms_eq hd
  rw [List.length_map]
  -- what is printed on a first page tells the two cases apart
  obtain ⟨text, ht, hi, hm⟩ : ∃ text,
      (Program.runIn (listPlatforms size token? all).run w).2.output = w.output ++ text ∧
        (text = emptyText ↔ w.registry.rows.length ≤ c.offset.toNat) ∧
        (text ≠ emptyText → ∃ more, text = Table.header ++ more) := by
    rcases Nat.lt_or_ge c.offset.toNat w.registry.rows.length with h | h
    · obtain ⟨more, hm⟩ := output_listPlatforms_of_lt hf hr hc h all
      have hne := header_append_ne_emptyText more
      exact ⟨_, hm, iff_of_false hne (Nat.not_le_of_lt h), fun _ => ⟨more, rfl⟩⟩
    · exact ⟨_, output_listPlatforms_of_le hf hr hc h all, iff_of_true rfl h, absurd rfl⟩
  refine ⟨text, ht, hi, hm, fun hb => ?_⟩
  rw [hi, PageRequest.offset_of_blank hb hc, Nat.le_zero, List.length_eq_zero_iff,
    List.map_eq_nil_iff]

open Walk (threeListed)

theorem decode_threeListed : threeListed.registry.rows.map Row.decode =
    (threeListed.registry.rows.map Row.platform).map .ok := by
  rfl

theorem lists_nothing_iff_threeListed : ∃ more,
    (Program.runIn (listPlatforms 0 (some (PageCursor.token ⟨1, 2⟩)) true).run
      threeListed).2.output = Table.header ++ more := by
  have hc := PageRequest.cursor_token (c := ⟨1, 2⟩) (by decide) 0
  obtain ⟨text, ht, hi, hm, -⟩ := lists_nothing_iff rfl decode_threeListed hc true
  have hne : text ≠ emptyText := fun h => absurd (hi.mp h) (by decide)
  obtain ⟨more, rfl⟩ := hm hne
  exact ⟨more, ht.trans String.empty_append⟩

/--
A token that leads to the third of three platforms leads nowhere once one of them has been removed.
That nothing is registered is printed then, although two platforms are.
-/
theorem lists_nothing_stale :
    let w : World := { threeListed with registry := (threeListed.registry.delete 3).2 }
    (∃ page, ((Platforms.list { size := 2 }).runIn threeListed).1 = .ok page ∧
        page.nextToken? = some (PageCursor.token ⟨2, 2⟩)) ∧
      w.registry.rows.length = 2 ∧
      (Program.runIn (listPlatforms 0 (some (PageCursor.token ⟨2, 2⟩)) false).run w).2.output =
        emptyText := by
  have hr := (Row.platforms_eq decode_threeListed).2
  refine ⟨?_, by decide, ?_⟩
  · have hc : PageRequest.cursor { size := 2 } = .ok ⟨2, 0⟩ := rfl
    obtain ⟨e, he⟩ := World.runIn_list rfl hr hc
    have hl : threeListed.registry.listing.length = 3 := Registry.length_listing _
    rw [Page.ofRows_window _ _ (by rw [hl]; decide), if_pos (by rw [hl]; decide)] at he
    exact ⟨_, congrArg Prod.fst he, rfl⟩
  · have hc := PageRequest.cursor_token (c := ⟨2, 2⟩) (by decide) 0
    refine (output_listPlatforms_of_le rfl (fun r hm => hr r ?_) hc (by decide) false).trans
      String.empty_append
    have hm : r ∈ threeListed.registry.rows.filter (·.id != 3) := hm
    exact List.mem_of_mem_filter hm

end Cli

end PromptGateway
