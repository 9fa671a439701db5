import PromptGateway.Proofs.Registry.Listing

/-! # Platforms of one kind

A query for a kind compares its tag with the tags that are stored, while a platform shows the kind
that its tag is read as. All that is found for a kind shows this kind. Nothing that shows it is
missed if and only if each row of this kind is stored with the very tag of the kind.
-/

namespace PromptGateway

namespace Row

variable {r : Row} {front back rows : List Row}

/-- Where a row has been sorted in, what stands before it and behind it is told apart by the row. -/
theorem filter_around
    (hs : (front ++ r :: back).Pairwise fun a b => a.listedBefore b = true)
    (hf : ∀ s ∈ front, (!r.listedBefore s) = true) :
    (front ++ back).filter (fun s => !r.listedBefore s) = front ∧
      (front ++ back).filter (fun s => r.listedBefore s) = back := by
  obtain ⟨hb, -⟩ := List.pairwise_cons.mp (List.pairwise_append.mp hs).2.1
  have hfb : front.filter (fun s => r.listedBefore s) = [] :=
    List.filter_eq_nil_iff.mpr fun s h => by simpa using hf s h
  have hbf : back.filter (fun s => !r.listedBefore s) = [] :=
    List.filter_eq_nil_iff.mpr fun s h => by simp [hb s h]
  constructor
  · rw [List.filter_append, List.filter_eq_self.mpr hf, hbf, List.append_nil]
  · rw [List.filter_append, List.filter_eq_self.mpr hb, hfb, List.nil_append]

/-- Rows can be picked out before they are sorted or afterwards. -/
theorem mergeSort_filter (p : Row → Bool) (rows : List Row) :
    (rows.filter p).mergeSort listedBefore = (rows.mergeSort listedBefore).filter p := by
  have ht : ∀ a b c : Row, a.listedBefore b → b.listedBefore c → a.listedBefore c :=
    fun _ _ _ => listedBefore_trans
  induction rows with
  | nil => simp
  | cons r rows ih =>
    obtain ⟨front, back, hs, hr, hf⟩ := List.mergeSort_cons ht listedBefore_total r rows
    cases hp : p r with
    | false =>
      have hn : ¬ p r = true := by simp [hp]
      rw [List.filter_cons_of_neg hn, ih, hr, hs, List.filter_append, List.filter_append,
        List.filter_cons_of_neg hn]
    | true =>
      -- the row splits either list, and tells by itself which rows stand before it
      obtain ⟨front', back', hs', hr', hf'⟩ :=
        List.mergeSort_cons ht listedBefore_total r (rows.filter p)
      have he : front' ++ back' = (front ++ back).filter p := by rw [← hr', ih, hr]
      obtain ⟨h₁, h₂⟩ := filter_around (hs ▸ pairwise_mergeSort (r :: rows)) hf
      obtain ⟨h₁', h₂'⟩ := filter_around (hs' ▸ pairwise_mergeSort (r :: rows.filter p)) hf'
      have hfront : front' = front.filter p := by rw [← h₁', he, List.filter_comm, h₁]
      have hback : back' = back.filter p := by rw [← h₂', he, List.filter_comm, h₂]
      rw [List.filter_cons_of_pos hp, hs', hs, hfront, hback, List.filter_append,
        List.filter_cons_of_pos hp]

theorem map_decode (h : ∀ r ∈ rows, r.decode = .ok r.platform) :
    rows.map decode = (rows.map platform).map .ok := by
  rw [List.map_map]
  exact List.map_congr_left h

end Row

/-- A window holds nothing but what it is cut out of. -/
theorem Query.window_sublist (q : Query) (rows : List Row) : (q.window rows).Sublist rows := by
  obtain ⟨_, _, limit?, offset?⟩ := q
  cases limit? with
  | none =>
    cases offset? with
    | none => exact List.Sublist.refl rows
    | some n => exact List.drop_sublist _ _
  | some n =>
    cases offset? with
    | none => exact List.take_sublist _ _
    | some m => exact (List.take_sublist _ _).trans (List.drop_sublist _ _)

namespace Registry

variable {g : Registry} {k : Kind}

/-- The rows that are stored with the tag of a kind, in the order of listings. -/
def tagged (g : Registry) (k : Kind) : List Row :=
  (g.rows.mergeSort Row.listedBefore).filter fun r => r.kindTag = k.tag

theorem mem_tagged_iff {r : Row} : r ∈ g.tagged k ↔ r ∈ g.rows ∧ r.kindTag = k.tag := by
  rw [tagged, List.mem_filter, List.mem_mergeSort, decide_eq_true_iff]

theorem select_of_kind {q : Query} (hi : q.id? = none) (hk : q.kind? = some k) :
    g.select q = q.window (g.tagged k) := by
  have hm : q.matches = fun r : Row => decide (r.kindTag = k.tag) := by
    funext r
    rw [Query.matches, hi, hk]
    exact Bool.true_and _
  rw [select, hm, Row.mergeSort_filter, tagged]

/-- What is found for a kind, in a window or as a whole. -/
theorem find_of_kind (hd : ∀ r ∈ g.rows, r.decode = .ok r.platform) {q : Query}
    (hi : q.id? = none) (hk : q.kind? = some k) :
    g.find q = .ok ((q.window (g.tagged k)).map Row.platform) := by
  have hw := q.window_sublist (g.tagged k)
  rw [find, select_of_kind hi hk]
  exact Row.decodeAll_eq_ok fun r hr => hd r (mem_tagged_iff.mp (hw.subset hr)).1

theorem find_all (hd : ∀ r ∈ g.rows, r.decode = .ok r.platform) : g.find {} = .ok g.listing := by
  have hs : g.select {} = g.rows.mergeSort Row.listedBefore :=
    congrArg (List.mergeSort · Row.listedBefore) (List.filter_eq_self.mpr fun _ _ => rfl)
  rw [find, hs]
  exact Row.decodeAll_eq_ok fun r hr => hd r (List.mem_mergeSort.mp hr)

/-- The rows that show a kind, in the order of listings. -/
def shown (g : Registry) (k : Kind) : List Row :=
  (g.rows.mergeSort Row.listedBefore).filter fun r => Kind.ofTag r.kindTag = k

theorem mem_shown_iff {r : Row} : r ∈ g.shown k ↔ r ∈ g.rows ∧ Kind.ofTag r.kindTag = k := by
  rw [shown, List.mem_filter, List.mem_mergeSort, decide_eq_true_iff]

theorem tagged_sublist_shown : (g.tagged k).Sublist (g.shown k) := by
  refine List.monotone_filter_right _ fun r ht => decide_eq_true ?_
  rw [of_decide_eq_true ht, Kind.ofTag_tag]

theorem tagged_eq_shown_iff :
    g.tagged k = g.shown k ↔ ∀ r ∈ g.rows, Kind.ofTag r.kindTag = k → r.kindTag = k.tag := by
  constructor
  · intro h r hr hk
    exact (mem_tagged_iff.mp (h ▸ mem_shown_iff.mpr ⟨hr, hk⟩)).2
  · intro h
    refine List.filter_congr fun r hr => decide_eq_decide.mpr ⟨fun ht => ?_, fun hk => ?_⟩
    · rw [ht, Kind.ofTag_tag]
    · exact h r (List.mem_mergeSort.mp hr) hk

theorem filter_listing : g.listing.filter (fun q => q.profile.kind = k) =
    (g.shown k).map Row.platform := by
  rw [listing, List.filter_map]
  rfl

/-- Platforms are missed if and only if rows are. -/
theorem map_tagged_eq_iff : (g.tagged k).map Row.platform = (g.shown k).map Row.platform ↔
    g.tagged k = g.shown k := by
  refine ⟨fun h => tagged_sublist_shown.eq_of_length ?_, congrArg (List.map Row.platform)⟩
  simpa using congrArg List.length h

/--
What is found for a kind are the platforms of the rows that are stored with its tag, in the order of
listings, and in a window the same ones. All of them show the kind. They are all that show it if and
only if no row is stored with another tag that is read as this kind.
-/
theorem finds_tagged (hd : ∀ r ∈ g.rows, ∃ q, r.decode = .ok q) (k : Kind) :
    ∃ (rows : List Row) (all found : List Platform),
      rows.Perm g.rows ∧ rows.Pairwise (fun r s => r.listedBefore s = true) ∧
      g.find {} = .ok all ∧ rows.map Row.decode = all.map .ok ∧
      g.find { kind? := some k } = .ok found ∧
      (rows.filter fun r => r.kindTag = k.tag).map Row.decode = found.map .ok ∧
      (∀ limit offset,
        g.find { kind? := some k, limit? := some limit, offset? := some offset } =
          .ok ((found.drop offset.toNat).take limit.toNat)) ∧
      (∀ q ∈ found, q.profile.kind = k) ∧
      (found = all.filter (fun q => q.profile.kind = k) ↔
        ∀ r ∈ g.rows, Kind.ofTag r.kindTag = k → r.kindTag = k.tag) := by
  have hp : ∀ r ∈ g.rows, r.decode = .ok r.platform := by
    intro r hr
    obtain ⟨q, hq⟩ := hd r hr
    exact Row.eq_platform hq ▸ hq
  have hs : ∀ r ∈ g.rows.mergeSort Row.listedBefore, r.decode = .ok r.platform :=
    fun r hr => hp r (List.mem_mergeSort.mp hr)
  refine ⟨g.rows.mergeSort Row.listedBefore, g.listing, (g.tagged k).map Row.platform,
    List.mergeSort_perm _ _, Row.pairwise_mergeSort g.rows, find_all hp, Row.map_decode hs,
    find_of_kind hp rfl rfl, ?_, fun limit offset => ?_, ?_, ?_⟩
  · exact Row.map_decode fun r hr => hp r (mem_tagged_iff.mp hr).1
  · rw [← List.map_drop, ← List.map_take]
    exact find_of_kind hp rfl rfl
  · intro q hq
    obtain ⟨r, hr, rfl⟩ := List.mem_map.mp hq
    change Kind.ofTag r.kindTag = k
    rw [(mem_tagged_iff.mp hr).2, Kind.ofTag_tag]
  · rw [filter_listing, map_tagged_eq_iff, tagged_eq_shown_iff]

/-- A registry in which a kind stands under its tag and in small letters, beside a foreign tag. -/
def spellings : Registry :=
  let row (id : Int) (kindTag : String) : Row :=
    { id, kindTag, url := "u", accessKey := "k", displayName := "n", description := ""
      model := "m", createdTs := 5, updatedTs := 5 }
  { rows := [row 1 "OLLAMA", row 2 " ollama", row 3 "OPENAI"], lastId := 3 }

theorem decode_spellings : ∀ r ∈ spellings.rows, r.decode = .ok r.platform := by
  simp only [spellings, List.forall_mem_cons]
  exact ⟨rfl, rfl, rfl, List.forall_mem_nil _⟩

theorem finds_tagged_spellings : (∀ r ∈ spellings.rows, ∃ q, r.decode = .ok q) ∧
    ∃ found, spellings.find { kind? := some .ollama } = .ok found ∧ found.length = 1 ∧
      (∀ q ∈ found, q.profile.kind = .ollama) ∧
      spellings.find { kind? := some .ollama, limit? := some 3, offset? := some 1 } =
        .ok ((found.drop 1).take 3) := by
  have hd : ∀ r ∈ spellings.rows, ∃ q, r.decode = .ok q :=
    fun r hr => ⟨_, decode_spellings r hr⟩
  obtain ⟨rows, -, found, hp, -, -, -, hf, hr, hw, hk, -⟩ := finds_tagged hd .ollama
  have hl : (rows.filter fun r => r.kindTag = Kind.ollama.tag).length = 1 :=
    (hp.filter _).length_eq.trans (by decide)
  exact ⟨hd, found, hf, by simpa [hl] using (congrArg List.length hr).symm, hk, hw 3 1⟩

/-- A platform is missed that shows its kind, but is stored with the kind in small letters. -/
theorem find_misses_spelling : ∃ all found, spellings.find {} = .ok all ∧
    spellings.find { kind? := some .ollama } = .ok found ∧
    found ≠ all.filter (fun q => q.profile.kind = .ollama) := by
  refine ⟨_, _, find_all decode_spellings,
    find_of_kind decode_spellings rfl rfl, ?_⟩
  rw [filter_listing]
  intro h
  have ht := tagged_eq_shown_iff.mp (map_tagged_eq_iff.mp h)
  simp only [spellings, List.forall_mem_cons] at ht
  exact absurd (ht.2.1 (by decide)) (by decide)

end Registry

end PromptGateway
