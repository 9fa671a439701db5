import PromptGateway.Proofs.Encoding.Base64Url
import PromptGateway.Proofs.Json.Written
import PromptGateway.Page

/-! # Cursors and pages

The token of a cursor stands for this cursor, and the rows that are fetched for a cursor make up the
page that begins there.
-/

namespace PromptGateway

namespace PageCursor

variable {c : PageCursor} {bytes : List UInt8} {s : String}

theorem writes (c : PageCursor) : shape.Writes c.toCarrier := by
  refine Json.Shape.writes_record ?_ ?_ "PageCursor" true
  · decide
  · exact ⟨fun _ => Json.Shape.writes_number .word32 c.limit,
      fun _ => Json.Shape.writes_number .word32 c.offset, trivial⟩

theorem readAll_chars (c : PageCursor) :
    shape.readAll (.ofBytes (Utf8.encodeChars (shape.chars c.toCarrier))) = .ok c.toCarrier := by
  rw [Json.Cursor.ofBytes, Utf8.symbols_encodeChars]
  exact Json.Shape.readAll_of_spelled c.writes (by decide) (by decide) _

theorem trim_token (c : PageCursor) : Text.trim c.token = c.token :=
  Base64Url.trim_encode _

theorem token_ne_empty (c : PageCursor) : c.token ≠ "" := by
  intro he
  have hd := Base64Url.decode_encode (Utf8.encodeChars (shape.chars c.toCarrier))
  rw [show Base64Url.encode (Utf8.encodeChars (shape.chars c.toCarrier)) = "" from he] at hd
  have hn : Utf8.encodeChars (shape.chars c.toCarrier) = [] := (Except.ok.inj hd).symm
  have hs := congrArg Utf8.symbols hn
  rw [Utf8.symbols_encodeChars] at hs
  cases hs

/-- What becomes of a token whose bytes are known. -/
theorem ofToken_of_encode (h : Base64Url.encode bytes = Text.trim s) :
    ofToken s = match shape.readAll (.ofBytes bytes) with
      | .error failure => .error (.payload failure)
      | .ok m => if (ofCarrier m).limit = 0 then .error .zeroLimit else .ok (ofCarrier m) := by
  rw [ofToken, ← h, Base64Url.decode_encode]
  simp only [Except.mapError, bind, Except.bind]
  cases shape.readAll (.ofBytes bytes) <;> rfl

theorem ofToken_of_trim (h : Text.trim s = c.token) :
    ofToken s = if c.limit = 0 then .error .zeroLimit else .ok c := by
  rw [ofToken_of_encode h.symm, readAll_chars]
  rfl

/-- The token of a cursor stands for it, unless its pages would hold nothing. -/
theorem ofToken_token (h : c.limit ≠ 0) : ofToken c.token = .ok c := by
  rw [ofToken_of_trim c.trim_token, if_neg h]

/-- The number of rows of a page for which a size is asked. -/
def wantedSize (size : Int64) : Nat := if size ≤ 0 then 10 else min size.toInt.toNat 1000

theorem wantedSize_pos (size : Int64) : 0 < wantedSize size := by
  unfold wantedSize
  split
  · decide
  · rename_i h
    have ht : ¬ size.toInt ≤ 0 := fun ht => h (Int64.le_iff_toInt_le.mpr ht)
    omega

theorem toNat_limit_first (size : Int64) : (first size).limit.toNat = wantedSize size := by
  unfold first wantedSize
  dsimp only
  split
  · rfl
  · split
    · rename_i h
      have ht : size.toInt ≤ 1000 := Int64.le_iff_toInt_le.mp h
      rw [UInt32.toNat_ofNat', Nat.mod_eq_of_lt (by omega), Nat.min_eq_left (by omega)]
    · rename_i h
      have ht : ¬ size.toInt ≤ 1000 := fun ht => h (Int64.le_iff_toInt_le.mpr ht)
      rw [Nat.min_eq_right (by omega)]
      rfl

theorem limit_first_ne_zero (size : Int64) : (first size).limit ≠ 0 := by
  intro h
  have hs := toNat_limit_first size
  rw [h] at hs
  exact (wantedSize_pos size).ne hs

theorem toNat_saturatingAdd (a b : UInt32) :
    (saturatingAdd a b).toNat = min (a.toNat + b.toNat) 4294967295 := by
  rw [saturatingAdd, UInt32.toNat_ofNat']
  exact Nat.mod_eq_of_lt (by omega)

theorem toNat_offset_next (h : c.offset.toNat + c.limit.toNat < 2 ^ 32) :
    c.next.offset.toNat = c.offset.toNat + c.limit.toNat := by
  rw [next, toNat_saturatingAdd]
  omega

end PageCursor

/-- A request with the token of a page leads to this page, whatever size it asks for. -/
theorem PageRequest.cursor_token {c : PageCursor} (h : c.limit ≠ 0) (size : Int64) :
    PageRequest.cursor { size, token? := some c.token } = .ok c := by
  have hb : ¬ Text.allBlank c.token = true := by
    rw [← Text.trim_eq_empty_iff, c.trim_token]
    exact c.token_ne_empty
  rw [PageRequest.cursor]
  exact (if_neg hb).trans (PageCursor.ofToken_token h)

def Page.map {α β : Type} (f : α → β) (page : Page α) : Page β :=
  { items := page.items.map f, nextToken? := page.nextToken? }

theorem Page.map_ofRows {α β : Type} (f : α → β) (rows : List α) (c : PageCursor) :
    (Page.ofRows rows c).map f = .ofRows (rows.map f) c := by
  unfold Page.ofRows
  rw [List.length_map]
  split <;> simp [Page.map, List.map_take]

/-- The page that begins at a cursor: it is cut off, and has a token, if more rows follow. -/
theorem Page.ofRows_window {α : Type} (xs : List α) (c : PageCursor)
    (hl : xs.length < 2 ^ 31) :
    Page.ofRows ((xs.drop c.offset.toNat).take c.fetchLimit.toNat) c =
      if c.offset.toNat + c.limit.toNat < xs.length then
        { items := (xs.drop c.offset.toNat).take c.limit.toNat, nextToken? := some c.next.token }
      else { items := xs.drop c.offset.toNat, nextToken? := none } := by
  have hf : c.fetchLimit.toNat = min (c.limit.toNat + 1) 4294967295 :=
    PageCursor.toNat_saturatingAdd c.limit 1
  have hn : ((xs.drop c.offset.toNat).take c.fetchLimit.toNat).length =
      min c.fetchLimit.toNat (xs.length - c.offset.toNat) := by
    rw [List.length_take, List.length_drop]
  unfold Page.ofRows
  by_cases hm : c.offset.toNat + c.limit.toNat < xs.length
  · rw [if_pos hm, if_pos (by omega), List.take_take, Nat.min_eq_left (by omega)]
  · rw [if_neg hm, if_neg (by omega), List.take_of_length_le]
    rw [List.length_drop]
    omega

end PromptGateway
