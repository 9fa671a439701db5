import PromptGateway.Proofs.Agreement
import PromptGateway.Proofs.Payload
import PromptGateway.Proofs.Walk

/-! # Listing everything

The command that lists all platforms goes from page to page until one has no token. It prints the
headings once, every platform from where it begins in the order of listings, and their number.
-/

namespace PromptGateway

def World.printing (w : World) (text : String) : World := { w with output := w.output ++ text }

@[simp] theorem World.printing_printing (w : World) (first second : String) :
    (w.printing first).printing second = w.printing (first ++ second) := by
  simp [printing, String.append_assoc]

namespace World.Lists

variable {w : World}

theorem tell (h : w.Lists) (e : Event) : (w.tell e).Lists := ⟨h.healthy, h.decode, h.length_lt⟩

theorem printing (h : w.Lists) (text : String) : (w.printing text).Lists :=
  ⟨h.healthy, h.decode, h.length_lt⟩

end World.Lists

theorem PageCursor.toNat_limit_pos {c : PageCursor} (h : c.limit ≠ 0) : 0 < c.limit.toNat :=
  Nat.pos_iff_ne_zero.mpr fun h0 => h (UInt32.toNat_inj.mp h0)

namespace Cli

variable {w w' : World} {request : PageRequest} {c : PageCursor} {page : Page Platform}
  {printed : Nat}

/-- The lines of platforms, below the headings if nothing has been printed before. -/
def linesText (printed : Nat) (items : List Platform) : String :=
  (if printed = 0 then Table.header else "") ++ String.join (items.map Table.row)

/-- What is printed of the platforms that are left: their lines, and the number of all. -/
def restText (printed : Nat) (items : List Platform) : String :=
  if printed = 0 ∧ items = [] then emptyText
  else linesText printed items ++ countText (printed + items.length)

/-- What is printed of a listing from its beginning: headings, lines and their number. -/
def listingText (items : List Platform) : String :=
  if items = [] then emptyText
  else Table.header ++ String.join (items.map Table.row) ++ countText items.length

theorem restText_zero (items : List Platform) : restText 0 items = listingText items := by
  simp [restText, listingText, linesText]

/-- Lines are printed page by page. -/
theorem restText_append {items : List Platform} (h : items ≠ []) (rest : List Platform) :
    restText printed (items ++ rest) =
      linesText printed items ++ restText (printed + items.length) rest := by
  have hl : items.length ≠ 0 := fun h0 => h (List.eq_nil_of_length_eq_zero h0)
  rw [restText, restText, if_neg (fun ha => h (List.append_eq_nil_iff.mp ha.2).1),
    if_neg (fun ha => hl (Nat.eq_zero_of_add_eq_zero_left ha.1)), linesText, linesText, linesText,
    if_neg (fun h0 => hl (Nat.eq_zero_of_add_eq_zero_left h0))]
  simp [String.join_append, String.append_assoc, Nat.add_assoc]

theorem runIn_say (text : String) (w : World) :
    Program.runIn (say text).run w = (.ok (), w.printing text) := rfl

/-! ## Single pages -/

section Pages

variable (hp : Program.runIn (serviceTask (Platforms.list request)).run w = (.ok page, w'))

include hp

/-- A page without a token is the last one: the number of all platforms is printed below it. -/
theorem runIn_printPages_last (ht : page.nextToken? = none) (n : Nat) :
    Program.runIn (printPages true printed request (n + 1)).run w =
      (.ok (), w'.printing (restText printed page.items)) := by
  rw [printPages, Program.runIn_bindExcept, hp, restText]
  dsimp only
  split
  · exact runIn_say emptyText w'
  · rw [Program.runIn_bindExcept, runIn_say, ht]
    dsimp only
    rw [runIn_say, World.printing_printing]
    rfl

/-- A page with a token leads to the page of this token. -/
theorem runIn_printPages_more {token : String} (ht : page.nextToken? = some token)
    (hi : page.items ≠ []) (n : Nat) :
    Program.runIn (printPages true printed request (n + 1)).run w =
      Program.runIn
        (printPages true (printed + page.items.length) { token? := some token } n).run
        (w'.printing (linesText printed page.items)) := by
  rw [printPages, Program.runIn_bindExcept, hp]
  dsimp only
  rw [if_neg fun h => hi h.2, Program.runIn_bindExcept, runIn_say, ht]
  rfl

end Pages

/-! ## All pages -/

/-- That so many pages, each told of by an event, have been printed as a text and nothing else. -/
structure Printed (w w' : World) (pages : Nat) (text : String) : Prop where
  registry : w'.registry = w.registry
  events : w'.events.length = w.events.length + pages
  output : w'.output = w.output ++ text

theorem printed_last (w : World) (e : Event) (text : String) :
    Printed w ((w.tell e).printing text) 1 text :=
  ⟨rfl, List.length_append, rfl⟩

theorem Printed.more {e : Event} {lines text : String} {n : Nat}
    (h : Printed ((w.tell e).printing lines) w' n text) : Printed w w' (n + 1) (lines ++ text) where
  registry := h.registry
  events := by
    have hl : (w.tell e).events.length = w.events.length + 1 := List.length_append
    have he : w'.events.length = (w.tell e).events.length + n := h.events
    omega
  output := by
    have ho : w'.output = w.output ++ lines ++ text := h.output
    rw [ho, String.append_assoc]

section Rest

variable {rest : List Platform} (hw : w.Lists) (hr : w.registry.listing.drop c.offset.toNat = rest)

include hw hr

/-- The page of a cursor: it holds what is left of the listing, or goes on with the next one. -/
theorem runIn_page (hc : request.cursor = .ok c) : ∃ e,
    Program.runIn (serviceTask (Platforms.list request)).run w =
      (.ok (if c.limit.toNat < rest.length then
        { items := rest.take c.limit.toNat, nextToken? := some c.next.token }
        else { items := rest, nextToken? := none }), w.tell e) := by
  obtain ⟨e, he⟩ := hw.runIn_list hc
  have hl : c.offset.toNat + c.limit.toNat < w.registry.listing.length ↔
      c.limit.toNat < rest.length := by
    rw [← hr, List.length_drop]
    omega
  rw [Page.ofRows_window _ _ (w.registry.length_listing ▸ hw.length_lt), hr] at he
  simp only [hl] at he
  exact ⟨e, by rw [runIn_serviceTask, he]; rfl⟩

/-- Where a page goes on, the next cursor begins behind it. -/
theorem drop_offset_next (hl : c.limit.toNat < rest.length) :
    w.registry.listing.drop c.next.offset.toNat = rest.drop c.limit.toNat := by
  have hlt := hw.length_lt
  rw [← hr, List.length_drop, Registry.length_listing] at hl
  rw [← hr, List.drop_drop, c.toNat_offset_next (by omega)]

end Rest

/-- From a cursor on, all pages are printed, and a greater bound on their number does not matter. -/
theorem exists_printed {rest : List Platform} (hw : w.Lists) (hc : request.cursor = .ok c)
    (hl : c.limit ≠ 0) (hr : w.registry.listing.drop c.offset.toNat = rest) (printed : Nat) :
    ∃ pages w', Page.Cover c.limit.toNat rest pages ∧
      Printed w w' pages.length (restText printed rest) ∧
      ∀ n, pages.length ≤ n →
        Program.runIn (printPages true printed request n).run w = (.ok (), w') := by
  have hs := PageCursor.toNat_limit_pos hl
  -- what is left grows shorter with each page that goes on, whatever its cursor is
  induction hk : rest.length using Nat.strong_induction_on
    generalizing w request c rest printed with
  | h k ih =>
    subst hk
    obtain ⟨e, hp⟩ := runIn_page hw hr hc
    by_cases hm : c.limit.toNat < rest.length
    · rw [if_pos hm] at hp
      have hi : rest.take c.limit.toNat ≠ [] := fun h => by
        rw [List.take_eq_nil_iff, List.eq_nil_iff_length_eq_zero] at h
        omega
      have hd : (rest.drop c.limit.toNat).length < rest.length := by
        rw [List.length_drop]
        omega
      have hw' := (hw.tell e).printing (linesText printed (rest.take c.limit.toNat))
      have hn : c.next.limit ≠ 0 := hl
      obtain ⟨pages, w', hcover, hprinted, hrun⟩ := ih _ hd hw' (PageRequest.cursor_token hn 0) hn
        (drop_offset_next hw' hr hm) (printed + (rest.take c.limit.toNat).length) hs rfl
      refine ⟨_, w', hcover.more hs hm c.next.token, ?_, fun n hn => ?_⟩
      · rw [← List.take_append_drop c.limit.toNat rest, restText_append hi,
          List.take_append_drop]
        exact hprinted.more
      · obtain ⟨n, rfl⟩ := Nat.exists_eq_succ_of_ne_zero (Nat.ne_of_gt (Nat.zero_lt_of_lt hn))
        rw [runIn_printPages_more hp rfl hi]
        exact hrun n (Nat.le_of_succ_le_succ hn)
    · rw [if_neg hm] at hp
      refine ⟨_, _, Page.Cover.last hs (Nat.not_lt.mp hm), printed_last w e _, fun n hn => ?_⟩
      obtain ⟨n, rfl⟩ := Nat.exists_eq_succ_of_ne_zero (Nat.ne_of_gt hn)
      exact runIn_printPages_last hp rfl n

/--
The command that lists all platforms comes to an end, wherever it begins, after no more pages than
it takes. It prints the platforms from there on in the order of listings and each exactly once. The
numbers of the rows differ, since they are the key of the table.
-/
theorem lists_each_once {records : List Platform} (hf : w.fault? .find = none)
    (hd : w.registry.rows.map Row.decode = records.map .ok)
    (hn : (w.registry.rows.map Row.id).Nodup) (hl : records.length < 2 ^ 31) {size : Int64}
    {token? : Option String} (hc : PageRequest.cursor ⟨size, token?⟩ = .ok c) :
    ∃ (listing : List Platform) (pages : Nat) (w' : World),
      listing.Perm records ∧ listing.Pairwise Platform.ListedBefore ∧
      pages = max 1 (((listing.drop c.offset.toNat).length + c.limit.toNat - 1) / c.limit.toNat) ∧
      Printed w w' pages (listingText (listing.drop c.offset.toNat)) ∧
      (∀ n, pages ≤ n →
        Program.runIn (printPages true 0 ⟨size, token?⟩ n).run w = (.ok (), w')) ∧
      Program.runIn (listPlatforms size token? true).run w = (.ok (), w') := by
  obtain ⟨rfl, hr⟩ := Row.platforms_eq hd
  rw [List.length_map] at hl
  obtain ⟨pages, w', hcover, hprinted, hrun⟩ :=
    exists_printed ⟨hf, hr, hl⟩ hc (PageRequest.limit_ne_zero_of_cursor hc) rfl 0
  rw [restText_zero] at hprinted
  have hs := PageCursor.toNat_limit_pos (PageRequest.limit_ne_zero_of_cursor hc)
  refine ⟨w.registry.listing, pages.length, w', w.registry.listing_perm,
    Registry.pairwise_listing hr hn, hcover.length, hprinted, hrun, hrun mostPages ?_⟩
  have hlen : (w.registry.listing.drop c.offset.toNat).length < 2 ^ 31 := by
    rw [List.length_drop, Registry.length_listing]
    omega
  have hq : ((w.registry.listing.drop c.offset.toNat).length + c.limit.toNat - 1) /
      c.limit.toNat < mostPages := by
    rw [Nat.div_lt_iff_lt_mul hs, mostPages]
    omega
  rw [hcover.length]
  unfold mostPages at *
  omega

open Walk (threeListed)

theorem lists_each_once_threeListed : ∃ (listing : List Platform) (w' : World),
    listing.Perm (threeListed.registry.rows.map Row.platform) ∧
      Program.runIn (listPlatforms 0 (some (PageCursor.token ⟨1, 1⟩)) true).run threeListed =
        (.ok (), w') ∧
      w'.events.length = 2 ∧ w'.output = listingText (listing.drop 1) := by
  have hf : threeListed.fault? .find = none := rfl
  have hd : threeListed.registry.rows.map Row.decode =
      (threeListed.registry.rows.map Row.platform).map .ok := by rfl
  have hn : (threeListed.registry.rows.map Row.id).Nodup := by decide
  have hc := PageRequest.cursor_token (c := ⟨1, 1⟩) (by decide) 0
  obtain ⟨listing, pages, w', hp, -, hpages, hw, -, hrun⟩ :=
    lists_each_once hf hd hn (by decide) hc
  have hl : listing.length = 3 := hp.length_eq
  have hpages : pages = 2 := by
    rw [hpages, List.length_drop, hl]
    rfl
  refine ⟨listing, w', hp, hrun, ?_, ?_⟩
  · rw [hw.events, hpages]
    rfl
  · rw [hw.output]
    exact String.empty_append

end Cli

end PromptGateway
