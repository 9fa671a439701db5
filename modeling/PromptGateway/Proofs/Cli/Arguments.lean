import PromptGateway.Cli.Arguments
import PromptGateway.Proofs.Except
import PromptGateway.Proofs.Text.Search

/-! # Flags with a value

A flag is given a value by the argument that follows it, unless this begins with a hyphen, or by
what follows an equals sign. Either way the value is taken as it stands on the command line.
-/

namespace PromptGateway.Cli

theorem Scope.flag?_long {s : Scope} {f : Flag} (h : f ∈ s.flags) :
    s.flag? f.long.toList = some f := by
  rcases s with _ | v
  · revert f
    decide
  · cases v <;> revert f <;> decide

theorem Flag.notMem_long (f : Flag) : '=' ∉ f.long.toList := by
  cases f <;> decide

theorem Flag.long_ne_nil (f : Flag) : f.long.toList ≠ [] := by
  cases f <;> decide

namespace Taken

variable {s : Scope} {t : Taken} {f : Flag} {argument : String}

theorem step_long {text : List Char} (ht : t.onlyWords = false) (hn : text ≠ [])
    (ha : argument.toList = '-' :: '-' :: text) : t.step s argument = t.takeLong s text := by
  obtain ⟨c, text, rfl⟩ := List.exists_cons_of_ne_nil hn
  rw [step, ht, ha]
  rfl

theorem step_flag (ht : t.onlyWords = false) (hf : f ∈ s.flags) (hv : f.takesValue = true) :
    t.step s ("--" ++ f.long) = t.settle.map fun t => { t with pending? := some ⟨f, none⟩ } := by
  rw [step_long ht f.long_ne_nil (String.toList_append.trans rfl), takeLong]
  simp only [Text.cutAt?_eq_none f.notMem_long, Scope.flag?_long hf, hv, attach]
  cases t.settle <;> rfl

theorem step_flag_value (ht : t.onlyWords = false) (hf : f ∈ s.flags) (hv : f.takesValue = true)
    (value : String) :
    t.step s ("--" ++ f.long ++ "=" ++ value) = t.settle.bind (·.take f (some value)) := by
  have ha : ("--" ++ f.long ++ "=" ++ value).toList =
      '-' :: '-' :: (f.long.toList ++ '=' :: value.toList) := by
    simp only [String.toList_append, List.append_assoc]
    rfl
  rw [step_long ht (by simp) ha, takeLong]
  simp only [Text.cutAt?_append f.notMem_long, Scope.flag?_long hf, hv, attach,
    String.ofList_toList]
  cases t.settle <;> rfl

theorem step_value {value : String} (ht : t.onlyWords = false) (hp : t.pending? = some ⟨f, none⟩)
    (hn : value.toList.head? ≠ some '-') :
    t.step s value = .ok { t with pending? := some ⟨f, some value⟩ } := by
  rw [step, ht]
  cases hl : value.toList with
  | nil => simp [hp]
  | cons c rest =>
    have hc : c ≠ '-' := by
      rintro rfl
      exact hn (by rw [hl]; rfl)
    split <;> simp_all

end Taken

def Known.withToken (k : Known) (token : String) : Known :=
  { k with given := [(.pageToken, token)] }

variable {env : Environment} {token : String} {f : Flag} {k : Known}

theorem Known.value?_withToken (hk : k.given = []) (hf : f ≠ .pageToken) :
    (k.withToken token).value? f = k.value? f := by
  have hb : (f == .pageToken) = false := beq_eq_false_iff_ne.mpr hf
  simp [value?, withToken, hk, List.lookup_cons, hb]

theorem lend?_pageToken (env : Environment) (f : Flag) :
    lend? env { given := [(.pageToken, token)] } f = lend? env {} f := by
  cases f <;> rfl

theorem eq_of_lend? {t : Taken} {p : Flag × String} (h : lend? env t f = .ok (some p)) :
    p.1 = f ∧ f.environmentName? ≠ none := by
  unfold lend? at h
  split at h
  · cases h
  · rename_i he
    split at h
    · cases h
    split at h
    · cases h
      refine ⟨rfl, fun hn => ?_⟩
      rw [hn] at he
      cases he
    · cases h

theorem lookup_lent {t : Taken} {flags : List Flag} {lent : List (Option (Flag × String))}
    (h : flags.mapM (lend? env t) = .ok lent) (hf : f.environmentName? = none) :
    (lent.filterMap id).lookup f = none := by
  rw [List.lookup_eq_none_iff]
  intro p hp
  obtain ⟨p', hp', rfl : p' = some p⟩ := List.mem_filterMap.mp hp
  obtain ⟨g, -, hg⟩ := exists_of_mem_mapM h hp'
  obtain ⟨rfl, hn⟩ := eq_of_lend? hg
  rw [bne_iff_ne]
  rintro rfl
  exact hn hf

theorem readVerb_eq {v : Verb} {arguments : List String} {t : Taken}
    (ha : arguments.foldlM (Taken.step (some v)) {} >>= Taken.settle = .ok t) :
    readVerb env v arguments = (Scope.flags (some v)).mapM (lend? env t) >>= fun lent =>
      Known.complete v { given := t.given, lent := lent.filterMap id, words := t.words } := by
  cases hf : arguments.foldlM (Taken.step (some v)) {} with
  | error e => rw [hf] at ha; cases ha
  | ok t' =>
    rw [hf] at ha
    have hs : t'.settle = .ok t := ha
    simp only [readVerb, hf, Taken.finish, hs, bind, Except.bind]
    cases (Scope.flags (some v)).mapM (lend? env t) <;> rfl

theorem readVerb_pageToken {arguments : List String}
    (ha : arguments.foldlM (Taken.step (some .list)) {} >>= Taken.settle =
      .ok { given := [(.pageToken, token)] }) :
    readVerb env .list arguments = (readVerb env .list []).map (·.withToken token) := by
  have hl : lend? env { given := [(.pageToken, token)] } = lend? env {} :=
    funext (lend?_pageToken env)
  have he : readVerb env .list [] = _ := readVerb_eq (t := {}) rfl
  rw [readVerb_eq ha, he, hl]
  cases (Scope.flags (some .list)).mapM (lend? env {}) <;> rfl

theorem readVerb_nil (h : readVerb env .list [] = .ok k) :
    k.given = [] ∧ ∀ f : Flag, f.environmentName? = none → k.value? f = none := by
  rw [readVerb_eq (t := {}) rfl] at h
  cases hm : (Scope.flags (some .list)).mapM (lend? env {}) with
  | error e => rw [hm] at h; cases h
  | ok lent =>
    rw [hm] at h
    cases h
    refine ⟨rfl, fun f hf => ?_⟩
    rw [Known.value?, lookup_lent hm hf]
    rfl

/-- The token of a page given to `list` reaches the command as it stands, and changes no more. -/
theorem readArguments_pageToken {arguments : List String}
    (ha : arguments.foldlM (Taken.step (some .list)) {} >>= Taken.settle =
      .ok { given := [(.pageToken, token)] }) :
    readArguments env ("list" :: arguments) = (readArguments env ["list"]).map fun i =>
      { i with command? := some (.list 10 (some token) false) } := by
  have hf (rest : List String) : readFrom env {} ("list" :: rest) =
      readVerb env .list rest >>= fun own =>
        Taken.finish none env {} >>= fun front => pure (front, some (.list, own)) := by
    rw [readFrom]
    rfl
  rw [readArguments, readArguments, hf, hf, readVerb_pageToken ha]
  cases hv : readVerb env .list [] with
  | error e => rfl
  | ok own =>
    obtain ⟨hg, hl⟩ := readVerb_nil hv
    cases Taken.finish none env {} with
    | error e => rfl
    | ok front =>
      have hs {f : Flag} (hf : f ≠ .pageToken) :
          sharedText? front (some (own.withToken token)) f = sharedText? front (some own) f := by
        simp only [sharedText?, Option.bind_some, Known.value?_withToken hg hf]
      have hc : commandOf .list (own.withToken token) = .list 10 (some token) false := by
        have ht : (own.withToken token).value? .pageToken = some (.commandLine, token) := rfl
        simp [commandOf, Known.text?, Known.has, ht, Known.value?_withToken hg, hl .pageSize rfl,
          hl .all rfl]
      simp only [bind, Except.bind, Except.map, pure, Except.pure, Option.map_some]
      rw [hs (by decide), hs (by decide), hs (by decide), hc]

theorem settled_pageToken (hn : token.toList.head? ≠ some '-') :
    ["--page-token", token].foldlM (Taken.step (some .list)) {} >>= Taken.settle =
      .ok { given := [(.pageToken, token)] } := by
  have hs : Taken.step (some .list) {} "--page-token" =
      .ok { pending? := some ⟨.pageToken, none⟩ } :=
    Taken.step_flag (f := .pageToken) rfl (by decide) rfl
  have hv : Taken.step (some .list) { pending? := some ⟨.pageToken, none⟩ } token =
      .ok { pending? := some ⟨.pageToken, some token⟩ } := Taken.step_value rfl rfl hn
  simp only [List.foldlM_cons, List.foldlM_nil, hs, hv, bind, Except.bind, pure, Except.pure]
  rfl

theorem settled_pageToken_attached (token : String) :
    ["--page-token=" ++ token].foldlM (Taken.step (some .list)) {} >>= Taken.settle =
      .ok { given := [(.pageToken, token)] } := by
  have hs : Taken.step (some .list) {} ("--page-token=" ++ token) =
      .ok { given := [(.pageToken, token)] } :=
    Taken.step_flag_value (f := .pageToken) rfl (by decide) rfl token
  simp only [List.foldlM_cons, List.foldlM_nil, hs, bind, Except.bind, pure, Except.pure]
  rfl

end PromptGateway.Cli
