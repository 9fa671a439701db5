import PromptGateway.Api.Request
import PromptGateway.Proofs.Encoding.Percent
import PromptGateway.Proofs.Json.Written
import PromptGateway.Proofs.Text.Integer

/-! # Targets, queries, references and bodies

A target is cut at its question mark, and a token of plain characters in the query of a listing is
the token of the page that is asked for. A segment of a path that encodes a reference leads to the
routes of this reference. A body of JSON is read as what was written, if it is not too long.
-/

namespace PromptGateway.Api

variable {path query token : List Char}

theorem fromPath_slash (rest : List Char) : fromPath ('/' :: rest) = '/' :: rest := rfl

/-- A target is its path, a question mark and its query. -/
theorem Target.of_query (hp : '?' ∉ path) (hf : '#' ∉ path) (hq : '#' ∉ query) :
    Target.of (String.ofList ('/' :: path ++ '?' :: query)) = ⟨'/' :: path, some query⟩ := by
  have hs : Text.spanUntil (· == '#') ('/' :: path ++ '?' :: query) =
      ('/' :: path ++ '?' :: query, []) := by
    refine Text.spanUntil_eq_self fun c hc => beq_eq_false_iff_ne.mpr ?_
    rintro rfl
    simp [hf, hq] at hc
  have hc : Text.cutAt? '?' ('/' :: path ++ '?' :: query) = some ('/' :: path, query) :=
    Text.cutAt?_append (by simpa using hp) query
  rw [of, String.toList_ofList, List.cons_append, fromPath_slash, ← List.cons_append, hs]
  simp only [hc]

theorem plain_pageToken : Percent.Plain "pageToken".toList := by
  have h : "pageToken".toList.all Percent.isPlain = true := by decide
  exact List.all_eq_true.mp h

/-- A plain token in a query is read as it stands there. -/
theorem pageRequest_token (h : Percent.Plain token) :
    pageRequest (some ("pageToken".toList ++ '=' :: token)) =
      .ok { token? := some (String.ofList token) } := by
  rw [pageRequest, Option.getD_some, Percent.decodeForm_plain plain_pageToken h,
    String.ofList_toList]
  rfl

theorem Target.of_path (hq : '?' ∉ path) (hf : '#' ∉ path) :
    Target.of (String.ofList ('/' :: path)) = ⟨'/' :: path, none⟩ := by
  have hs : Text.spanUntil (· == '#') ('/' :: path) = ('/' :: path, []) := by
    refine Text.spanUntil_eq_self fun c hc => beq_eq_false_iff_ne.mpr ?_
    rintro rfl
    simp [hf] at hc
  have hc : Text.cutAt? '?' ('/' :: path) = none := Text.cutAt?_eq_none (by simpa using hq)
  rw [of, String.toList_ofList, fromPath_slash, hs]
  simp only [hc]

section References

variable {reference segment : String}

/-- That a segment of a path stands for a reference. -/
def Spells (segment reference : String) : Prop :=
  Percent.Encodes (Utf8.encode reference) segment.toList

theorem Spells.decodeReference? (h : Spells segment reference) :
    decodeReference? segment.toList = some reference := by
  rw [Api.decodeReference?, Percent.Encodes.decode h, Utf8.decode?_encode]

theorem Spells.ne_empty (h : Spells segment reference) (hr : reference ≠ "") : segment ≠ "" := by
  intro he
  have hd := h.decodeReference?
  rw [he] at hd
  exact hr (Option.some.inj hd).symm

theorem Spells.notMem (h : Spells segment reference) {c : Char}
    (hc : c = '/' ∨ c = '?' ∨ c = '#') : c ∉ segment.toList := by
  rcases hc with rfl | rfl | rfl <;>
    exact Percent.Encodes.notMem h (by decide) (by decide) (by decide)

/-- The path of a platform is the segment of its reference behind the collection. -/
theorem Spells.ofPath?_platform (h : Spells segment reference) (hr : reference ≠ "") :
    Route.ofPath? (Target.of ("/api/ai-platforms/" ++ segment)).path =
      some (.platform segment.toList) := by
  have ht : "/api/ai-platforms/" ++ segment =
      String.ofList ('/' :: ("api/ai-platforms/".toList ++ segment.toList)) := by
    simp [← String.toList_inj]
  have hs : Text.splitAt '/' ('/' :: ("api/ai-platforms/".toList ++ segment.toList)) =
      ["".toList, "api".toList, "ai-platforms".toList, segment.toList] := by
    rw [show '/' :: ("api/ai-platforms/".toList ++ segment.toList) =
      "/api/ai-platforms".toList ++ '/' :: segment.toList from rfl, Text.splitAt_append,
      Text.splitAt_eq_singleton (h.notMem (by simp))]
    rfl
  rw [ht, Target.of_path (by simpa using h.notMem (by simp)) (by simpa using h.notMem (by simp)),
    Route.ofPath?, hs]
  simp [Route.ofSegments?, h.ne_empty hr]

/-- The path to the answers of a platform goes on behind its reference. -/
theorem Spells.ofPath?_answers (h : Spells segment reference) (hr : reference ≠ "") :
    Route.ofPath? (Target.of ("/api/ai-platforms/" ++ segment ++ "/generate")).path =
      some (.answers segment.toList) := by
  have ht : "/api/ai-platforms/" ++ segment ++ "/generate" =
      String.ofList ('/' :: ("api/ai-platforms/".toList ++ segment.toList ++
        '/' :: "generate".toList)) := by
    simp [← String.toList_inj]
  have hs : Text.splitAt '/' ('/' :: ("api/ai-platforms/".toList ++ segment.toList ++
        '/' :: "generate".toList)) =
      ["".toList, "api".toList, "ai-platforms".toList, segment.toList, "generate".toList] := by
    rw [← List.cons_append, Text.splitAt_append,
      show '/' :: ("api/ai-platforms/".toList ++ segment.toList) =
      "/api/ai-platforms".toList ++ '/' :: segment.toList from rfl, Text.splitAt_append,
      Text.splitAt_eq_singleton (h.notMem (by simp))]
    rfl
  rw [ht, Target.of_path (by simpa using h.notMem (by simp)) (by simpa using h.notMem (by simp)),
    Route.ofPath?, hs]
  simp [Route.ofSegments?, h.ne_empty hr]

/-- Every reference is spelled by a segment. -/
theorem spells_encodeSet (reference : String) :
    Spells (String.ofList (Percent.encodeSet (fun c => !Percent.isSegmentChar c)
      reference.toList)) reference := by
  rw [Spells, String.toList_ofList]
  exact Percent.encodes_encodeSet reference.toList

/-- A number in plain digits spells itself. -/
theorem spells_toString (n : Nat) : Spells (toString (n : Int)) (toString (n : Int)) := by
  refine Percent.encodes_self fun c hc => ?_
  simp [Percent.isSegmentChar, Percent.isPlain, (Text.digits_toString n).digits c hc]

end References

section Bodies

variable {r : Request} {s : Json.Shape}

/-- A body whose text is one of a value is understood as this value. -/
theorem Request.json_of_spelled {v : s.Carrier} {text : String}
    (h : s.Spelled v (Json.symbols text.toList)) (hs : s.definite = true)
    (hd : s.depth ≤ Json.maxDepth) (hj : r.isJson = true) (hl : r.body.length ≤ maxBodySize)
    (hb : r.body = Utf8.encode text) : r.json s = .ok v := by
  have hr : s.readAll (.ofBytes r.body) = .ok v := by
    rw [hb, Utf8.encode, Json.Cursor.ofBytes, Utf8.symbols_encodeChars]
    exact Json.Shape.readAll_of_spelled h hs hd _
  rw [json, hj, if_neg (by simp), if_neg (Nat.not_lt.mpr hl), hr]
  rfl

/-- What was written into a body is read out of it. -/
theorem Request.json_write {v : s.Carrier} (h : s.Writes v) (hs : s.definite = true)
    (hd : s.depth ≤ Json.maxDepth) (hj : r.isJson = true) (hl : r.body.length ≤ maxBodySize)
    (hb : r.body = Utf8.encode (s.write v)) : r.json s = .ok v := by
  refine json_of_spelled ?_ hs hd hj hl hb
  rw [Json.Shape.write, String.toList_ofList]
  exact h

/-- Of a body that is too long nothing is read. -/
theorem Request.json_of_maxBodySize_lt (h : maxBodySize < r.body.length) (s : Json.Shape) :
    ∃ reason, r.json s = .error reason := by
  rw [json, if_pos h]
  split <;> exact ⟨_, rfl⟩

end Bodies

end PromptGateway.Api
