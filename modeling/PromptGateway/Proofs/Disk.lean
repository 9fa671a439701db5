import PromptGateway.Disk

/-! # Disks that keep their directories

Nothing that the gateway does to a disk takes a directory away, so a way that could be followed once
can be followed ever after, and making its directories a second time changes nothing.
-/

namespace PromptGateway.Disk

variable {d d' d'' : Disk} {p q place start : Place} {n : Node} {names : List String}

theorem node?_put : (d.put p n).node? q =
    if q = [] then some .directory else if q = p then some n else d.node? q := by
  unfold node? put
  by_cases hq : q = []
  · rw [if_pos hq, if_pos hq]
  · rw [if_neg hq, if_neg hq, if_neg hq, List.find?_append, List.find?_filter]
    by_cases hp : q = p
    · subst hp
      have hn : d.nodes.find? (fun x => decide ((x.1 != q) = true ∧ (x.1 == q) = true)) = none := by
        rw [List.find?_eq_none]
        simp
      rw [hn, if_pos rfl, List.find?_singleton, if_pos (by simp)]
      rfl
    · have hn : d.nodes.find? (fun x => decide ((x.1 != p) = true ∧ (x.1 == q) = true)) =
          d.nodes.find? (·.1 == q) := by
        congr 1
        funext x
        by_cases hx : x.1 = q <;> simp [hx, hp]
      rw [hn, if_neg hp, List.find?_singleton, if_neg (by simpa using Ne.symm hp), Option.or_none]

theorem node?_put_self (hp : p ≠ []) : (d.put p n).node? p = some n := by
  rw [node?_put, if_neg hp, if_pos rfl]

/-- What is put at a place last is what stands there. -/
@[simp] theorem put_put (d : Disk) (p : Place) (n n' : Node) :
    (d.put p n).put p n' = d.put p n' := by
  simp [put, List.filter_append, List.filter_filter]

@[simp] theorem home_put (d : Disk) (p : Place) (n : Node) : (d.put p n).home = d.home := rfl

/-- A later disk on which every directory still is what it was. -/
structure Keeps (d d' : Disk) : Prop where
  home : d'.home = d.home
  node? : ∀ q, d.isDirectory q = true → d'.node? q = d.node? q

theorem Keeps.refl (d : Disk) : d.Keeps d := ⟨rfl, fun _ _ => rfl⟩

theorem Keeps.start_eq (h : d.Keeps d') : d'.start = d.start := by
  funext path
  rw [Disk.start, Disk.start, h.home]

theorem Keeps.placeOf_eq (h : d.Keeps d') : d'.placeOf = d.placeOf := by
  funext path
  rw [Disk.placeOf, Disk.placeOf, h.start_eq]

theorem Keeps.isDirectory (h : d.Keeps d') (hq : d.isDirectory q = true) :
    d'.isDirectory q = true := by
  rw [Disk.isDirectory, h.node? q hq]
  exact hq

theorem Keeps.trans (h : d.Keeps d') (h' : d'.Keeps d'') : d.Keeps d'' where
  home := h'.home.trans h.home
  node? q hq := (h'.node? q (h.isDirectory hq)).trans (h.node? q hq)

theorem keeps_put (h : d.isDirectory p = false) (n : Node) : d.Keeps (d.put p n) where
  home := rfl
  node? q hq := by
    rw [node?_put]
    split
    · rename_i h0
      rw [Disk.node?, if_pos h0]
    · split
      · rename_i hp
        rw [hp, h] at hq
        cases hq
      · rfl

theorem Keeps.walk (h : d.Keeps d') (hw : d.walk place names = .ok q) :
    d'.walk place names = .ok q := by
  induction names generalizing place with
  | nil => exact hw
  | cons name rest ih =>
    unfold Disk.walk at hw ⊢
    cases hn : d.node? place with
    | none =>
      rw [hn] at hw
      cases hw
    | some m =>
      rw [hn] at hw
      cases m with
      | registry g => cases hw
      | _ =>
        rw [h.node? place (by rw [Disk.isDirectory, hn]), hn]
        dsimp only at hw ⊢
        split at hw
        · cases hw
        · rename_i hl
          rw [if_neg hl]
          exact ih hw

theorem make_eq (d : Disk) (start : Place) (names : List String) : d.make start names =
    match d.walk start names with
    | .error fault => .error fault
    | .ok p =>
      if (d.node? p).isSome then .error .taken
      else if d.isOpen p.dropLast then .ok (d.put p .directory) else .error .missing := by
  unfold make
  cases d.walk start names with
  | error fault => rfl
  | ok p =>
    dsimp only [bind, Except.bind]
    split <;> rfl

theorem make_eq_ok_iff : d.make start names = .ok d' ↔ ∃ p, d.walk start names = .ok p ∧
    d.node? p = none ∧ d.isOpen p.dropLast = true ∧ d' = d.put p .directory := by
  rw [make_eq]
  cases d.walk start names with
  | error e => simp
  | ok p =>
    cases hn : d.node? p with
    | some m => simp [hn]
    | none =>
      constructor
      · intro h
        simp only [hn] at h
        split at h
        · cases h
        · split at h
          · rename_i ho
            exact ⟨p, rfl, hn, ho, (Except.ok.inj h).symm⟩
          · cases h
      · rintro ⟨_, ⟨⟩, -, ho, rfl⟩
        simp [hn, ho]

/-- Names that lead to a directory, if there are any. -/
def Leads (d : Disk) (start : Place) (names : List String) : Prop :=
  names ≠ [] → ∃ p, d.walk start names = .ok p ∧ d.isDirectory p = true

theorem Keeps.leads (h : d.Keeps d') (hl : d.Leads start names) : d'.Leads start names := by
  intro hn
  obtain ⟨p, hw, hp⟩ := hl hn
  exact ⟨p, h.walk hw, h.isDirectory hp⟩

theorem ensure_of_leads (h : d.Leads start names) (hn : names ≠ []) :
    d.make start names = .error .taken ∧ d.ensure start names = (.ok (), d) := by
  obtain ⟨p, hw, hp⟩ := h hn
  have hs : (d.node? p).isSome = true := by
    cases hm : d.node? p with
    | some m => rfl
    | none =>
      rw [isDirectory, hm] at hp
      cases hp
  have hm : d.make start names = .error .taken := by
    simp only [make_eq, hw, hs, if_true]
  refine ⟨hm, ?_⟩
  simp only [ensure, hm, hw, hp, if_true]

theorem ensureAll_of_leads (h : d.Leads start names.reverse) :
    d.ensureAll start names = (.ok (), d) := by
  cases names with
  | nil => rfl
  | cons name front =>
    obtain ⟨hm, he⟩ := ensure_of_leads h (by simp)
    simp only [ensureAll, hm, he]

theorem leads_of_ensure (h : d.ensure start names = (.ok (), d')) :
    d.Keeps d' ∧ d'.Leads start names := by
  unfold ensure at h
  cases hm : d.make start names with
  | ok e =>
    rw [hm] at h
    obtain ⟨p, hw, hn, -, rfl⟩ := make_eq_ok_iff.mp hm
    cases h
    have hk : d.Keeps (d.put p .directory) := keeps_put (by rw [isDirectory, hn]) _
    refine ⟨hk, fun _ => ⟨p, hk.walk hw, ?_⟩⟩
    rw [isDirectory, node?_put]
    simp
  | error fault =>
    rw [hm] at h
    dsimp only at h
    cases hw : d.walk start names with
    | error e =>
      rw [hw] at h
      cases h
    | ok p =>
      rw [hw] at h
      dsimp only at h
      split at h
      · rename_i hp
        cases h
        exact ⟨.refl d, fun _ => ⟨p, hw, hp⟩⟩
      · cases h

/-- Directories that were made are there, and so are all that were there before. -/
theorem leads_of_ensureAll (h : d.ensureAll start names = (.ok (), d')) :
    d.Keeps d' ∧ d'.Leads start names.reverse := by
  -- the last name comes first: what is missing in front of it is made before it is tried again
  induction names generalizing d d' with
  | nil =>
    cases h
    exact ⟨.refl d, fun hn => absurd rfl hn⟩
  | cons name front ih =>
    simp only [ensureAll] at h
    split at h
    · split at h
      · rename_i e hf
        obtain ⟨hk, -⟩ := ih hf
        obtain ⟨hk', hl⟩ := leads_of_ensure h
        exact ⟨hk.trans hk', hl⟩
      · rename_i hne
        exact absurd h (hne _)
    · exact leads_of_ensure h

theorem ensurePath_of_leads {path : Path} (h : d.Leads (d.start path) path.names) :
    d.ensurePath path = (.ok (), d) :=
  ensureAll_of_leads (by rwa [List.reverse_reverse])

theorem leads_of_ensurePath {path : Path} (h : d.ensurePath path = (.ok (), d')) :
    d.Keeps d' ∧ d'.Leads (d'.start path) path.names := by
  obtain ⟨hk, hl⟩ := leads_of_ensureAll h
  rw [List.reverse_reverse] at hl
  exact ⟨hk, by rwa [hk.start_eq]⟩

end PromptGateway.Disk
