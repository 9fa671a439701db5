import PromptGateway.Proofs.Api.Request
import PromptGateway.Proofs.Cli.Arguments
import PromptGateway.Proofs.Page

/-! # Tokens on their way

The token of a cursor is made for being handed around: in the query of an address and on a command
line it needs no quoting, blanks around it do no harm, and whoever hands it back gets the very page
that was announced.
-/

namespace PromptGateway

theorem Base64Url.plain_encode (bytes : List UInt8) : Percent.Plain (encode bytes).toList := by
  have hs : ∀ n < 64, Percent.isPlain (symbol n) = true := by decide
  intro c hc
  rw [encode, String.toList_ofList] at hc
  obtain ⟨n, hn, rfl⟩ := exists_symbol hc
  exact hs n hn

theorem Base64Url.encode_injective : Function.Injective encode := by
  intro a b h
  have hd := decode_encode a
  rw [h, decode_encode] at hd
  exact (Except.ok.inj hd).symm

theorem Base64Url.head?_encodeChars (b : UInt8) (bytes : List UInt8) :
    (encodeChars (b :: bytes)).head? = some (symbol (b.toNat / 4)) := by
  rcases bytes with _ | ⟨_, _ | ⟨_, _⟩⟩ <;> rfl

namespace PageCursor

variable (c : PageCursor)

theorem plain_token : Percent.Plain c.token.toList := Base64Url.plain_encode _

theorem head?_token : c.token.toList.head? = some 'e' := by
  rw [token, Base64Url.encode, String.toList_ofList]
  exact Base64Url.head?_encodeChars _ _

theorem ofToken_append {before after : String} (hb : Text.allBlank before = true)
    (ha : Text.allBlank after = true) :
    ofToken (before ++ c.token ++ after) = if c.limit = 0 then .error .zeroLimit else .ok c :=
  ofToken_of_trim (by rw [Text.trim_append hb ha, trim_token])

theorem token_injective : Function.Injective token := by
  intro c d h
  have hb : Utf8.encodeChars (shape.chars c.toCarrier) =
      Utf8.encodeChars (shape.chars d.toCarrier) := Base64Url.encode_injective h
  have hc := c.readAll_chars
  rw [hb, d.readAll_chars] at hc
  exact congrArg ofCarrier (Except.ok.inj hc).symm

theorem decodeForm_token (before after : List Char) :
    Percent.decodeForm (before ++ "&pageToken=".toList ++ c.token.toList ++ '&' :: after) =
      Percent.decodeForm before ++ ("pageToken", c.token) :: Percent.decodeForm after := by
  have he : before ++ "&pageToken=".toList ++ c.token.toList ++ '&' :: after =
      before ++ '&' :: (("pageToken".toList ++ '=' :: c.token.toList) ++ '&' :: after) := by
    simp
  rw [he, Percent.decodeForm_append, Percent.decodeForm_append,
    Percent.decodeForm_plain Api.plain_pageToken c.plain_token]
  simp

theorem pageRequest_query_token :
    Api.pageRequest (Api.Target.of ("/api/ai-platforms?pageToken=" ++ c.token)).query? =
      .ok { token? := some c.token } := by
  have he : "/api/ai-platforms?pageToken=" ++ c.token = String.ofList ('/' ::
      "api/ai-platforms".toList ++ '?' :: ("pageToken".toList ++ '=' :: c.token.toList)) := by
    rw [← String.toList_inj]
    simp
  have hq : '#' ∉ "pageToken".toList ++ '=' :: c.token.toList := by
    rw [List.mem_append, List.mem_cons]
    rintro (h | h | h)
    · exact Api.plain_pageToken.notMem (by decide) h
    · cases h
    · exact c.plain_token.notMem (by decide) h
  rw [he, Api.Target.of_query (by decide) (by decide) hq, Api.pageRequest_token c.plain_token,
    String.ofList_toList]

/-- What makes a text good to hand around for a cursor. -/
structure Travels (c : PageCursor) (token : String) : Prop where
  ne_empty : token ≠ ""
  plain : Percent.Plain token.toList
  form : ∀ before after : List Char,
    Percent.decodeForm (before ++ "&pageToken=".toList ++ token.toList ++ '&' :: after) =
      Percent.decodeForm before ++ ("pageToken", token) :: Percent.decodeForm after
  query : Api.pageRequest (Api.Target.of ("/api/ai-platforms?pageToken=" ++ token)).query? =
    .ok { token? := some token }
  argument : ∀ env, Cli.readArguments env ["list", "--page-token", token] =
    (Cli.readArguments env ["list"]).map fun i =>
      { i with command? := some (.list 10 (some token) false) }
  attached : ∀ env, Cli.readArguments env ["list", "--page-token=" ++ token] =
    (Cli.readArguments env ["list"]).map fun i =>
      { i with command? := some (.list 10 (some token) false) }
  read : ∀ before after : String, Text.allBlank before = true → Text.allBlank after = true →
    ofToken (before ++ token ++ after) = if c.limit = 0 then .error .zeroLimit else .ok c
  unique : ∀ d : PageCursor, d.token = token → d = c

/-- Every cursor has a token that can be handed around for it, and for no other cursor. -/
theorem travels_token : c.Travels c.token where
  ne_empty := c.token_ne_empty
  plain := c.plain_token
  form before after := c.decodeForm_token before after
  query := c.pageRequest_query_token
  argument env :=
    Cli.readArguments_pageToken (Cli.settled_pageToken (by rw [c.head?_token]; decide))
  attached env := Cli.readArguments_pageToken (Cli.settled_pageToken_attached c.token)
  read _ _ hb ha := c.ofToken_append hb ha
  unique _ h := token_injective h

end PageCursor

end PromptGateway
