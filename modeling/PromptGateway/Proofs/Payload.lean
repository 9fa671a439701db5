import PromptGateway.Proofs.Encoding.Canonical
import PromptGateway.Proofs.Json.Clean
import PromptGateway.Proofs.Json.Completeness.Shape
import PromptGateway.Proofs.Page
import PromptGateway.Proofs.Service

/-! # What a token may hold

A text is a token exactly if it is canonical base 64 of the text of a cursor whose pages hold
something. The text of a cursor is an object with its two numbers in any order and nothing else, or
the list of both; the numbers are written by their digits alone.
-/

namespace PromptGateway

open Json (Document ListText ObjectText StringText symbols textsOf)
open Utf8 (Symbol)

namespace PageCursor

variable {c : PageCursor} {t : List Symbol} {bytes : List UInt8} {s : String}

/-- The text of a number: its digits, of which the first is a zero only for zero itself. -/
def numeral (n : UInt32) : List Symbol := symbols (Nat.toDigits 10 n.toNat)

def Spelled (c : PageCursor) (t : List Symbol) : Prop :=
  (∃ members : List (String × List Symbol), ObjectText StringText members t ∧
    members.Perm [("limit", numeral c.limit), ("offset", numeral c.offset)]) ∨
  ListText (· = ·) [numeral c.limit, numeral c.offset] t

/-- That some bytes are those of a whole text of a cursor. -/
def Written (c : PageCursor) (bytes : List UInt8) : Prop :=
  ∃ text : String, bytes = Utf8.encode text ∧ Document c.Spelled (symbols text.toList)

theorem textsOf_eq_singleton_iff {members : List (String × List Symbol)} {k : String}
    {a : List Symbol} :
    textsOf k members = [a] ↔ members.filter (fun m => m.1 = k) = [(k, a)] := by
  rw [textsOf, List.map_eq_singleton_iff]
  constructor
  · rintro ⟨m, hf, rfl⟩
    have hm : m ∈ members.filter fun m => m.1 = k := hf ▸ List.mem_singleton_self m
    rw [hf, ← of_decide_eq_true (List.mem_filter.mp hm).2]
  · intro hf
    exact ⟨(k, a), hf, rfl⟩

/-- Members with two names, one of each, are these two in one order or the other. -/
theorem perm_pair_iff {members : List (String × List Symbol)} {k l : String} {a b : List Symbol}
    (hkl : k ≠ l) : members.Perm [(k, a), (l, b)] ↔
      textsOf k members = [a] ∧ textsOf l members = [b] ∧ ∀ m ∈ members, m.1 = k ∨ m.1 = l := by
  simp only [textsOf_eq_singleton_iff]
  constructor
  · intro h
    have hk := h.filter fun m => m.1 = k
    have hl := h.filter fun m => m.1 = l
    simp only [List.filter_cons, decide_true, if_true, hkl, hkl.symm, decide_false,
      Bool.false_eq_true, if_false, List.filter_nil, List.perm_singleton] at hk hl
    refine ⟨hk, hl, fun m hm => ?_⟩
    have hm' := h.subset hm
    simp only [List.mem_cons, List.not_mem_nil, or_false] at hm'
    obtain rfl | rfl := hm'
    · exact .inl rfl
    · exact .inr rfl
  · rintro ⟨hk, hl, hm⟩
    have hrest : members.filter (fun m => !decide (m.1 = k)) = [(l, b)] := by
      rw [← hl]
      refine List.filter_congr fun m hmem => ?_
      obtain h | h := hm m hmem
      · simp [h, hkl]
      · simp [h, hkl.symm]
    have hp := List.filter_append_perm (fun m => decide (m.1 = k)) members
    rw [hk, hrest] at hp
    exact hp.symm

/-- The texts of a cursor are those that its shape is read from. -/
theorem spelled_iff : shape.Spelled c.toCarrier t ↔ c.Spelled t := by
  constructor
  · rintro (⟨items, hl, hi⟩ | ⟨members, ⟨limit, offset, ⟨⟩⟩, ho, hh, hf, hu⟩)
    · match items, hi with
      | [], ⟨h, _⟩ => cases h
      | [_], ⟨_, h, _⟩ => cases h
      | [_, _], ⟨rfl, rfl, _⟩ => exact .inr hl
      | _ :: _ :: _ :: _, ⟨_, _, h⟩ => cases h
    · obtain ⟨hfl, hf⟩ := Json.Fields.fill_cons_eq_ok_iff.mp hf
      obtain ⟨hfo, -⟩ := Json.Fields.fill_cons_eq_ok_iff.mp hf
      have hrest := (Json.Fields.holds_filter_iff _ (by decide)).mp hh.2
      have hlimit : textsOf "limit" members = [numeral c.limit] := by
        match limit, hh.1, hfl with
        | some _, ⟨_, ht, rfl⟩, rfl => exact ht
      have hoffset : textsOf "offset" members = [numeral c.offset] := by
        match offset, hrest.1, hfo with
        | some _, ⟨_, ht, rfl⟩, rfl => exact ht
      refine .inl ⟨members, ho, (perm_pair_iff (by decide)).mpr ⟨hlimit, hoffset, ?_⟩⟩
      intro m hm
      by_cases hk : m.1 ∈ ["limit", "offset"]
      · simpa using hk
      · cases (hu m hm hk).1
  · rintro (⟨members, ho, hp⟩ | hl)
    · obtain ⟨hlimit, hoffset, hm⟩ := (perm_pair_iff (by decide)).mp hp
      refine .inr ⟨members, (some c.limit, some c.offset, ()), ho, ⟨⟨_, hlimit, rfl⟩,
        (Json.Fields.holds_filter_iff _ (by decide)).mpr ⟨⟨_, hoffset, rfl⟩, trivial⟩⟩, rfl, ?_⟩
      intro m hmem hk
      have hm' : m.1 ∈ ["limit", "offset"] := by simpa using hm m hmem
      exact absurd hm' hk
    · exact .inl ⟨_, hl, rfl, rfl, rfl⟩

theorem Spelled.clean (h : c.Spelled t) : Json.Clean t := by
  obtain ⟨members, ho, hp⟩ | hl := h
  · refine ho.clean fun m hm => ?_
    have hm' := hp.subset hm
    simp only [List.mem_cons, List.not_mem_nil, or_false] at hm'
    obtain rfl | rfl := hm' <;> exact Json.clean_symbols _
  · refine hl.clean fun i hi => ?_
    simp only [List.mem_cons, List.not_mem_nil, or_false] at hi
    obtain rfl | rfl := hi <;> exact Json.clean_symbols _

/-- The bytes from which a cursor is read. -/
theorem readAll_eq_ok_iff :
    shape.readAll (.ofBytes bytes) = .ok c.toCarrier ↔ c.Written bytes := by
  rw [Json.Shape.readAll_eq_ok_iff (by decide) (by decide)]
  constructor
  · rintro ⟨b, t, b', hb, ht, hb', hl⟩
    have hd : Document c.Spelled (Utf8.symbols bytes) := ⟨b, t, b', hb, spelled_iff.mp ht, hb', hl⟩
    obtain ⟨cs, hcs⟩ := hd.clean fun t ht => ht.clean
    rw [hcs] at hd
    refine ⟨String.ofList cs, ?_, by rwa [String.toList_ofList]⟩
    rw [Utf8.encode, String.toList_ofList]
    exact Utf8.eq_encodeChars_of_symbols hcs
  · rintro ⟨text, rfl, b, t, b', hb, ht, hb', hl⟩
    refine ⟨b, t, b', hb, spelled_iff.mpr ht, hb', ?_⟩
    rw [Json.Cursor.ofBytes, Utf8.encode, Utf8.symbols_encodeChars]
    exact hl

/-! ## Reading tokens -/

/-- The bytes of a token either hold one cursor, or they hold none and are refused. -/
theorem ofToken_cases (h : Base64Url.encode bytes = Text.trim s) :
    (∃ c : PageCursor, (∀ d : PageCursor, d.Written bytes ↔ d = c) ∧
      ofToken s = if c.limit = 0 then .error .zeroLimit else .ok c) ∨
    (∀ d : PageCursor, ¬ d.Written bytes) ∧ ∃ failure, ofToken s = .error (.payload failure) := by
  rw [ofToken_of_encode h]
  simp only [← readAll_eq_ok_iff]
  cases shape.readAll (.ofBytes bytes) with
  | error failure => exact .inr ⟨nofun, failure, rfl⟩
  | ok m =>
    refine .inl ⟨ofCarrier m, fun d => ⟨fun hd => ?_, ?_⟩, rfl⟩
    · rw [Except.ok.inj hd]
      rfl
    · rintro rfl
      rfl

/-- What is decided of the bytes of a token. -/
structure Decided (s : String) (bytes : List UInt8) : Prop where
  accepted : ∀ c : PageCursor, ofToken s = .ok c ↔ c.Written bytes ∧ c.limit ≠ 0
  zero : ofToken s = .error .zeroLimit ↔ ∃ offset, Written ⟨0, offset⟩ bytes
  refused : (∃ failure, ofToken s = .error (.payload failure)) ↔ ¬ ∃ c : PageCursor, c.Written bytes

theorem decided_of_encode (h : Base64Url.encode bytes = Text.trim s) : Decided s bytes := by
  obtain ⟨c, hc, he⟩ | ⟨hn, failure, he⟩ := ofToken_cases h
  · by_cases h0 : c.limit = 0
    · rw [if_pos h0] at he
      have hz : ∃ offset, (⟨0, offset⟩ : PageCursor) = c := ⟨c.offset, by rw [← h0]⟩
      have ha (d : PageCursor) : ¬ (d = c ∧ d.limit ≠ 0) := fun ⟨hd, hl⟩ => hl (hd ▸ h0)
      constructor <;> simp [he, hc, hz, ha]
    · rw [if_neg h0] at he
      have hz : ¬ ∃ offset, (⟨0, offset⟩ : PageCursor) = c := by
        rintro ⟨offset, rfl⟩
        exact h0 rfl
      have ha (d : PageCursor) : d = c ∧ d.limit ≠ 0 ↔ c = d :=
        ⟨fun h => h.1.symm, fun h => ⟨h.symm, h ▸ h0⟩⟩
      constructor <;> simp [he, hc, hz, ha]
  · constructor <;> simp [he, hn]

theorem canonical_trim_iff :
    Base64Url.Canonical (Text.trim s).toList ↔ ∃ bytes, Base64Url.encode bytes = Text.trim s := by
  simp only [Base64Url.canonical_iff, Base64Url.encode, ← String.toList_inj, String.toList_ofList]

theorem ofToken_eq_encoding_iff :
    (∃ fault, ofToken s = .error (.encoding fault)) ↔
      ¬ Base64Url.Canonical (Text.trim s).toList := by
  rw [canonical_trim_iff]
  constructor
  · rintro ⟨fault, he⟩ ⟨bytes, hb⟩
    obtain ⟨c, -, hc⟩ | ⟨-, failure, hc⟩ := ofToken_cases hb
    · rw [hc] at he
      split at he <;> cases he
    · rw [hc] at he
      cases he
  · intro hn
    rw [ofToken]
    cases hd : Base64Url.decode (Utf8.encode (Text.trim s)) with
    | ok bytes => exact absurd ⟨bytes, (Base64Url.decode_eq_ok_iff.mp hd).symm⟩ hn
    | error fault => exact ⟨fault, rfl⟩

theorem limit_ne_zero_of_ofToken (h : ofToken s = .ok c) : c.limit ≠ 0 := by
  by_cases hs : Base64Url.Canonical (Text.trim s).toList
  · obtain ⟨bytes, hb⟩ := canonical_trim_iff.mp hs
    exact (((decided_of_encode hb).accepted c).mp h).2
  · obtain ⟨fault, he⟩ := ofToken_eq_encoding_iff.mpr hs
    rw [h] at he
    cases he

end PageCursor

/-! ## Requests for pages -/

/-- A page is fetched for a cursor whose pages hold something, and for no other. -/
theorem PageRequest.limit_ne_zero_of_cursor {r : PageRequest} {c : PageCursor}
    (h : r.cursor = .ok c) : c.limit ≠ 0 := by
  have hf (hc : .ok (.first r.size) = (.ok c : Except PageCursor.TokenFault PageCursor)) :
      c.limit ≠ 0 :=
    Except.ok.inj hc ▸ PageCursor.limit_first_ne_zero r.size
  unfold cursor at h
  split at h
  · split at h
    · exact hf h
    · exact PageCursor.limit_ne_zero_of_ofToken h
  · exact hf h

theorem PageRequest.cursor_cases (r : PageRequest) :
    (∃ c, r.cursor = .ok c ∧ c.limit ≠ 0) ∨
    ∃ fault, r.cursor = .error fault ∧ (ServiceError.ofToken fault).cls = .invalidArgument ∧
      (Platforms.list r).run = .done (.error (.ofToken fault)) := by
  cases h : r.cursor with
  | ok c => exact .inl ⟨c, rfl, limit_ne_zero_of_cursor h⟩
  | error fault => exact .inr ⟨fault, rfl, rfl, by rw [Platforms.run_list, h]⟩

/--
A text is refused as a token if it is not canonical, and otherwise for what its bytes are; so each
request for a page leads to a cursor whose pages hold something, or fails before anything is asked.
-/
theorem PageCursor.ofToken_exact :
    (∀ s, ((∃ fault, ofToken s = .error (.encoding fault)) ↔
        ¬ Base64Url.Canonical (Text.trim s).toList) ∧
      (Base64Url.Canonical (Text.trim s).toList →
        ∃ bytes, Base64Url.encode bytes = Text.trim s ∧ Decided s bytes)) ∧
    ∀ r : PageRequest, (∃ c, r.cursor = .ok c ∧ c.limit ≠ 0) ∨
      ∃ fault, r.cursor = .error fault ∧ (ServiceError.ofToken fault).cls = .invalidArgument ∧
        (Platforms.list r).run = .done (.error (.ofToken fault)) := by
  refine ⟨fun s => ⟨ofToken_eq_encoding_iff, fun h => ?_⟩, PageRequest.cursor_cases⟩
  obtain ⟨bytes, hb⟩ := canonical_trim_iff.mp h
  exact ⟨bytes, hb, decided_of_encode hb⟩

/-- The list of a cursor's numbers makes a token, and blanks around the token do not count. -/
theorem PageCursor.ofToken_exact_list : Base64Url.Canonical (Text.trim " WzEsMF0\n").toList ∧
    ∃ bytes, Base64Url.encode bytes = Text.trim " WzEsMF0\n" ∧ Written ⟨1, 0⟩ bytes := by
  have hc : Base64Url.Canonical (Text.trim " WzEsMF0\n").toList :=
    canonical_trim_iff.mpr ⟨Utf8.encode "[1,0]", by decide +kernel⟩
  have hr : ofToken " WzEsMF0\n" = .ok ⟨1, 0⟩ := by rfl
  obtain ⟨bytes, hb, hd⟩ := (ofToken_exact.1 _).2 hc
  exact ⟨hc, bytes, hb, ((hd.accepted _).mp hr).1⟩

end PromptGateway
