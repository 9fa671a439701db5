import PromptGateway.Platform.Reference
import PromptGateway.Proofs.Except
import PromptGateway.Proofs.Text.Blank
import PromptGateway.Proofs.Text.Integer
import PromptGateway.Proofs.Text.Search

/-! # What refers to a platform

A reference is the number of a platform in plain digits, or the name of the collection, a slash and
a number that may have a sign. Blanks around it do not count. A text of this form without a number
that fits is told apart from a text of another form, and every name is read as its number.
-/

namespace PromptGateway.Reference

open Text (Digits Signed splitAt)

/-- The texts that refer to the platform with a number. -/
inductive Refers : List Char → Int32 → Prop
  | number {cs : List Char} {n : Nat} {id : Int32} (h : Digits cs n) (hn : id.toInt = n) :
    Refers cs id
  | name {cs : List Char} {id : Int32} (h : Signed cs id.toInt) :
    Refers (collection.toList ++ '/' :: cs) id

/-- The texts that have the form of a reference, whether or not there is a number that fits. -/
inductive Formed : List Char → Prop
  | number {cs : List Char} (hn : cs ≠ []) (hd : ∀ c ∈ cs, Text.isDigit c = true) : Formed cs
  | name {cs : List Char} (h : '/' ∉ cs) : Formed (collection.toList ++ '/' :: cs)

variable {cs parent number : List Char} {id : Int32}

theorem Refers.formed (h : Refers cs id) : Formed cs := by
  cases h with
  | number hd _ => exact .number hd.ne_nil hd.digits
  | name hs => exact .name (hs.notMem rfl (by decide) (by decide))

theorem slash_notMem_collection : '/' ∉ collection.toList := by decide

theorem slash_notMem_of_digits (h : ∀ c ∈ cs, Text.isDigit c = true) : '/' ∉ cs :=
  fun hs => nomatch h '/' hs

/-- A text is the name of the collection, a slash and a rest in one way only. -/
theorem eq_of_append_eq_collection (hp : '/' ∉ parent)
    (h : parent ++ '/' :: number = collection.toList ++ '/' :: cs) :
    parent = collection.toList ∧ number = cs := by
  have hc := Text.cutAt?_append hp number
  rw [h, Text.cutAt?_append slash_notMem_collection] at hc
  cases hc
  exact ⟨rfl, rfl⟩

/-! ## The form of references -/

theorem formed_append_iff (hp : '/' ∉ parent) :
    Formed (parent ++ '/' :: number) ↔ parent = collection.toList ∧ '/' ∉ number := by
  constructor
  · intro h
    generalize hcs : parent ++ '/' :: number = cs at h
    cases h with
    | number hn hd =>
      exact absurd (hcs ▸ List.mem_append_right _ List.mem_cons_self) (slash_notMem_of_digits hd)
    | name hs =>
      obtain ⟨rfl, rfl⟩ := eq_of_append_eq_collection hp hcs
      exact ⟨rfl, hs⟩
  · rintro ⟨rfl, hs⟩
    exact .name hs

theorem formed_iff_of_notMem (h : '/' ∉ cs) :
    Formed cs ↔ cs ≠ [] ∧ cs.all Text.isDigit = true := by
  rw [List.all_eq_true]
  constructor
  · rintro (⟨hn, hd⟩ | -)
    · exact ⟨hn, hd⟩
    · exact absurd (List.mem_append_right _ List.mem_cons_self) h
  · rintro ⟨hn, hd⟩
    exact .number hn hd

theorem refers_append_iff :
    Refers (collection.toList ++ '/' :: number) id ↔ Signed number id.toInt := by
  constructor
  · intro h
    generalize hcs : collection.toList ++ '/' :: number = cs at h
    cases h with
    | number hd hn =>
      exact absurd (hcs ▸ List.mem_append_right _ List.mem_cons_self) (hd.notMem (c := '/') rfl)
    | name hs =>
      obtain ⟨-, rfl⟩ := eq_of_append_eq_collection slash_notMem_collection hcs
      exact hs
  · exact .name

theorem refers_iff_of_digits (h : ∀ c ∈ cs, Text.isDigit c = true) :
    Refers cs id ↔ Signed cs id.toInt := by
  have hs (c : Char) (hc : Text.isDigit c = false) : cs.head? ≠ some c := by
    intro hh
    rw [h c (List.mem_of_mem_head? hh)] at hc
    cases hc
  rw [Text.signed_bare_iff (hs '+' rfl) (hs '-' rfl)]
  constructor
  · intro hr
    cases hr with
    | number hd hn => exact ⟨_, hd, hn⟩
    | name _ => exact absurd (List.mem_append_right _ List.mem_cons_self) (slash_notMem_of_digits h)
  · rintro ⟨n, hd, hn⟩
    exact .number hd hn

/-! ## Reading references -/

/-- A text of this form is read as the number in it, and no other text is. -/
theorem readTrimmed_cases (cs : List Char) :
    (Formed cs ∧ ∃ number, readTrimmed cs = readNumber number ∧
      ∀ id : Int32, Refers cs id ↔ Signed number id.toInt) ∨
    (¬ Formed cs ∧ readTrimmed cs = .error (.format (String.ofList cs))) := by
  by_cases h : '/' ∈ cs
  · obtain ⟨parent, number, rfl, hp⟩ := List.eq_append_cons_of_mem h
    rw [formed_append_iff hp, readTrimmed, Text.splitAt_append, Text.splitAt_eq_singleton hp]
    by_cases hs : '/' ∈ number
    · obtain ⟨first, rest, rfl, hf⟩ := List.eq_append_cons_of_mem hs
      obtain ⟨piece, pieces, he⟩ := List.exists_cons_of_ne_nil (Text.splitAt_ne_nil '/' rest)
      rw [Text.splitAt_append, Text.splitAt_eq_singleton hf, he]
      exact .inr ⟨fun hn => hn.2 hs, rfl⟩
    · rw [Text.splitAt_eq_singleton hs]
      dsimp only [List.singleton_append]
      by_cases hc : parent = collection.toList
      · subst hc
        exact .inl ⟨⟨rfl, hs⟩, number, if_pos rfl, fun _ => refers_append_iff⟩
      · exact .inr ⟨fun hn => hc hn.1, if_neg hc⟩
  · rw [formed_iff_of_notMem h, readTrimmed, Text.splitAt_eq_singleton h]
    by_cases hd : cs ≠ [] ∧ cs.all Text.isDigit = true
    · exact .inl ⟨hd, cs, if_pos hd, fun _ => refers_iff_of_digits (List.all_eq_true.mp hd.2)⟩
    · exact .inr ⟨hd, if_neg hd⟩

theorem readNumber_eq_ok_iff : readNumber cs = .ok id ↔ Signed cs id.toInt := by
  rw [readNumber, mapError_eq_ok_iff, Text.readInt32_eq_ok_iff]

/-- A text refers to a platform exactly if it is read as the number of this platform. -/
theorem read_eq_ok_iff {s : String} : read s = .ok id ↔ Refers (Text.trimChars s.toList) id := by
  rw [read]
  obtain ⟨-, number, he, hr⟩ | ⟨hf, he⟩ := readTrimmed_cases (Text.trimChars s.toList)
  · rw [he, readNumber_eq_ok_iff, hr]
  · rw [he]
    exact ⟨nofun, fun h => absurd h.formed hf⟩

/-- A number in plain digits refers to its platform. -/
theorem read_toString (h : 0 ≤ id.toInt) : read (toString id.toInt) = .ok id := by
  obtain ⟨n, hn⟩ := Int.eq_ofNat_of_zero_le h
  have hd : Digits (toString id.toInt).toList n := by
    rw [hn]
    exact Text.digits_toString n
  rw [read_eq_ok_iff, Text.trimChars_eq_self fun c hc => Text.isBlank_of_isDigit (hd.digits c hc)]
  exact .number hd hn

/-! ## Texts that refer to no platform -/

theorem readNumber_cases (cs : List Char) :
    (∃ id, readNumber cs = .ok id) ∨
      ∃ fault, readNumber cs = .error (.number (String.ofList cs) fault) := by
  rw [readNumber]
  cases Text.readInt32 cs with
  | ok id => exact .inl ⟨id, rfl⟩
  | error fault => exact .inr ⟨fault, rfl⟩

/-- What a trimmed text has to be read as: the number that it refers to, or why it has none. -/
structure Decided (cs : List Char) (result : Except Fault Int32) : Prop where
  ok_iff : ∀ id, result = .ok id ↔ Refers cs id
  number_iff : (∃ given fault, result = .error (.number given fault)) ↔
    Formed cs ∧ ∀ id, ¬ Refers cs id
  format_iff : result = .error (.format (String.ofList cs)) ↔ ¬ Formed cs

theorem decided_read (s : String) : Decided (Text.trimChars s.toList) (read s) := by
  have hok (id : Int32) : read s = .ok id ↔ _ := read_eq_ok_iff
  rw [read] at hok ⊢
  generalize Text.trimChars s.toList = cs at hok ⊢
  obtain ⟨hf, number, he, -⟩ | ⟨hf, he⟩ := readTrimmed_cases cs
  · obtain ⟨id, hr⟩ | ⟨fault, hr⟩ := readNumber_cases number
    · rw [hr] at he
      have hid := (hok id).mp he
      rw [he] at hok ⊢
      exact ⟨hok, ⟨nofun, fun h => absurd hid (h.2 id)⟩, ⟨nofun, fun h => absurd hf h⟩⟩
    · rw [hr] at he
      rw [he] at hok ⊢
      have hn (id : Int32) : ¬ Refers cs id := fun h => nomatch (hok id).mpr h
      exact ⟨hok, ⟨fun _ => ⟨hf, hn⟩, fun _ => ⟨_, _, rfl⟩⟩, ⟨nofun, fun h => absurd hf h⟩⟩
  · rw [he] at hok ⊢
    exact ⟨hok, ⟨nofun, fun h => absurd h.1 hf⟩, ⟨fun _ => hf, fun _ => rfl⟩⟩

theorem read_name (id : Int32) : read (name id) = .ok id := by
  have hs := Text.signed_toString id.toInt
  have hl : (name id).toList = collection.toList ++ '/' :: (toString id.toInt).toList := by
    rw [name, String.toList_append, String.toList_append, List.append_assoc]
    rfl
  have hb : ∀ c ∈ (name id).toList, Text.isBlank c = false := by
    have ha : collection.toList.all (fun c => !Text.isBlank c) = true := by decide
    have hc (c : Char) (hm : c ∈ collection.toList) : Text.isBlank c = false := by
      simpa using List.all_eq_true.mp ha c hm
    rw [hl, List.forall_mem_append, List.forall_mem_cons]
    exact ⟨hc, rfl, hs.isBlank_eq_false⟩
  rw [read_eq_ok_iff, Text.trimChars_eq_self hb, hl]
  exact .name hs

/-- A text is read as the number that it refers to, and else it is told why there is none. -/
theorem read_exact : (∀ s, Decided (Text.trimChars s.toList) (read s)) ∧
    ∀ id, read (name id) = .ok id :=
  ⟨decided_read, read_name⟩

example : read "\u3000ai-platforms/-02147483648\n" = .ok (-2147483648) := by decide +kernel

end PromptGateway.Reference
