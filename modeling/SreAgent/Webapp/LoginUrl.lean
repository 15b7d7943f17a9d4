import SreAgent.Lib.PercentEncoding
import SreAgent.Webapp.LoginSafety

/-!
# What the provider is told

`begin_login` tells the provider in the query of a URL what it remembers in the transaction cookie. The
provider reads its eight parameters there, whatever is in the configuration, less those without a
value; and `complete_login` will find their `state`, `nonce` and challenge again in the cookie as long
as it is fresh (`login_delivers`). The `?` is put after the endpoint as it was discovered: an endpoint
that has a query of its own, or a fragment, gives a URL that is read as something else.
-/

namespace SreAgent.Webapp

open Py (Json)

/-! ## Reading a query

What the provider's side does, as Python's own `parse_qsl` does it: split at `&`, split at the first
`=`, drop the blank values, and undo the percent encoding. -/

/-- A name or a value of a form. -/
def readField (cs : List Char) : Option String := decode (PercentEncoding.decode true cs)

/-- The part of a pair behind `=`, if there is one. -/
def valueText (part : List Char) : List Char := (part.dropWhile (· != '=')).drop 1

/-- `name=value`. -/
def readPair (part : List Char) : Option (String × String) := do
  let name ← readField (part.takeWhile (· != '='))
  let value ← readField (valueText part)
  return (name, value)

/-- `parse_qsl`: the fields of a query, in order. A pair without a value, or without a `=`, is
skipped, as blank values are unless they are asked for. -/
def parseQsl (query : String) : Option (List (String × String)) :=
  ((Py.splitOn '&' query.toList).filter fun part => !(valueText part).isEmpty).mapM readPair

/-- The query of a URL: behind the first `?` and before the fragment. -/
def queryOf (url : String) : String :=
  String.ofList (((url.toList.takeWhile (· != '#')).dropWhile (· != '?')).drop 1)

/-! ## The round trip

Encoding leaves none of the separators in a name or a value. So splitting finds the pairs that were
joined, and each is decoded to what it was. -/

/-- The case distinction of the code is that of percent encoding, on every byte. -/
theorem quotePlus_byte : ∀ n < 256,
    (let c := Char.ofNat n
     if c.isAlphanum || c == '_' || c == '.' || c == '-' || c == '~' then [c]
     else if c == ' ' then ['+']
     else ['%', (Py.hexDigit (n / 16)).toUpper, (Py.hexDigit (n % 16)).toUpper]) =
      PercentEncoding.encodeByte true (UInt8.ofNat n) := by decide +kernel

/-- `quote_plus` is percent-encoding for forms. -/
theorem quotePlus_toList (s : String) :
    (quotePlus s).toList = PercentEncoding.encode true (encode s) := by
  rw [quotePlus, String.toList_ofList]
  apply List.flatMap_congr
  intro b _
  have hbyte := quotePlus_byte b.toNat b.toNat_lt
  rw [UInt8.ofNat_toNat] at hbyte
  exact hbyte

/-- A field is read as what was quoted. -/
theorem readField_quotePlus (s : String) : readField (quotePlus s).toList = some s := by
  rw [readField, quotePlus_toList, PercentEncoding.decode_encode, decode_encode]

/-- No separator is in a field. -/
theorem quotePlus_plain {s : String} {c : Char} (h : c ∈ (quotePlus s).toList) :
    c ≠ '&' ∧ c ≠ '=' ∧ c ≠ '#' := by
  have hplain : PercentEncoding.IsPlain true c := by
    rw [quotePlus_toList] at h
    exact PercentEncoding.plain_of_mem_encode h
  refine ⟨?_, ?_, ?_⟩ <;> rintro rfl <;> revert hplain <;> unfold PercentEncoding.IsPlain <;> decide

def pairText (kv : String × String) : List Char :=
  (quotePlus kv.1).toList ++ '=' :: (quotePlus kv.2).toList

/-- A pair is cut at its first `=`, and read back. -/
theorem pairText_parts (kv : String × String) :
    (pairText kv).takeWhile (· != '=') = (quotePlus kv.1).toList ∧
      valueText (pairText kv) = (quotePlus kv.2).toList := by
  -- a quoted name has no `=`, so the first one is the separator
  have hname : ∀ c ∈ (quotePlus kv.1).toList, (c != '=') = true := fun c hc => by
    simpa using (quotePlus_plain hc).2.1
  constructor
  · rw [pairText, List.takeWhile_append_of_pos hname]
    simp
  · rw [valueText, pairText, List.dropWhile_append_of_pos hname]
    simp

theorem readPair_pairText (kv : String × String) : readPair (pairText kv) = some kv := by
  obtain ⟨hname, hvalue⟩ := pairText_parts kv
  unfold readPair
  rw [hname, hvalue, readField_quotePlus]
  show (readField (quotePlus kv.2).toList >>= fun value => some (kv.1, value)) = some kv
  rw [readField_quotePlus]
  rfl

/-- Only an empty text is written as nothing. -/
theorem isEmpty_quotePlus (s : String) : (quotePlus s).toList.isEmpty = (s == "") := by
  rw [Bool.eq_iff_iff, List.isEmpty_iff, beq_iff_eq]
  constructor
  · intro h
    -- what is quoted can be read back, and nothing is read from nothing
    have hread := readField_quotePlus s
    rw [h] at hread
    exact (Option.some.inj hread).symm
  · rintro rfl
    rfl

/-- All pairs are read but the blank ones. -/
theorem mapM_readPair (params : List (String × String)) :
    ((params.map pairText).filter fun part => !(valueText part).isEmpty).mapM readPair =
      some (params.filter fun kv => kv.2 != "") := by
  induction params with
  | nil => rfl
  | cons kv params ih =>
      -- what is blank before quoting is blank afterwards
      have hblank : (!(valueText (pairText kv)).isEmpty) = (kv.2 != "") := by
        rw [(pairText_parts kv).2, isEmpty_quotePlus]
        rfl
      rw [List.map_cons, List.filter_cons, List.filter_cons, hblank]
      split
      · rw [List.mapM_cons, readPair_pairText, ih]
        rfl
      · exact ih

/-- An encoded form is its pairs, joined. -/
theorem urlencode_toList (params : List (String × String)) :
    (urlencode params).toList = ['&'].intercalate (params.map pairText) := by
  unfold urlencode Py.join
  rw [String.toList_ofList, List.map_map]
  congr 1
  apply List.map_congr_left
  intro kv _
  simp [pairText]

/-- Neither `&` nor `#` is in a pair. -/
theorem pairText_plain {kv : String × String} {c : Char} (h : c ∈ pairText kv) :
    c ≠ '&' ∧ c ≠ '#' := by
  rcases List.mem_append.mp h with h | h
  · exact ⟨(quotePlus_plain h).1, (quotePlus_plain h).2.2⟩
  rcases List.mem_cons.mp h with rfl | h
  · decide
  · exact ⟨(quotePlus_plain h).1, (quotePlus_plain h).2.2⟩

/-- **What is encoded is read back**, pair for pair, less the blank ones. -/
theorem parseQsl_urlencode (params : List (String × String)) :
    parseQsl (urlencode params) = some (params.filter fun kv => kv.2 != "") := by
  cases params with
  | nil => rfl
  | cons kv params =>
      -- no pair has an `&`, so splitting gives the pairs back
      have hparts : ∀ part ∈ (kv :: params).map pairText, '&' ∉ part := by
        intro part hpart hamp
        obtain ⟨kv', -, rfl⟩ := List.mem_map.mp hpart
        exact (pairText_plain hamp).1 rfl
      rw [parseQsl, urlencode_toList, Py.splitOn_intercalate (by simp) hparts]
      exact mapM_readPair (kv :: params)

/-- **A query put behind an endpoint** is the query of the URL, if the endpoint has none. -/
theorem queryOf_append {endpoint : String} (params : List (String × String))
    (hquery : '?' ∉ endpoint.toList) (hfragment : '#' ∉ endpoint.toList) :
    queryOf (endpoint ++ "?" ++ urlencode params) = urlencode params := by
  have hplain : ∀ c ∈ (urlencode params).toList, (c != '#') = true := by
    intro c hc
    rw [urlencode_toList] at hc
    rw [bne_iff_ne]
    rintro rfl
    rcases Py.mem_of_mem_intercalate hc with hsep | ⟨part, hpart, hmem⟩
    · exact absurd hsep (by decide)
    obtain ⟨kv, -, rfl⟩ := List.mem_map.mp hpart
    exact (pairText_plain hmem).2 rfl
  -- the first `?` is the one that was put between them
  have hbefore : ∀ c ∈ endpoint.toList, (c != '?') = true := by
    rintro c hc
    rw [bne_iff_ne]
    rintro rfl
    exact hquery hc
  -- and no `#` cuts the URL short
  have hwhole : ∀ c ∈ (endpoint ++ "?" ++ urlencode params).toList, (c != '#') = true := by
    intro c hc
    simp only [String.toList_append, List.mem_append] at hc
    rcases hc with (hc | hc) | hc
    · rw [bne_iff_ne]
      rintro rfl
      exact hfragment hc
    · rw [List.mem_singleton.mp hc]
      decide
    · exact hplain c hc
  have hshape : (endpoint ++ "?" ++ urlencode params).toList =
      endpoint.toList ++ '?' :: (urlencode params).toList := by simp
  rw [queryOf, List.takeWhile_eq_self_iff.mpr hwhole, hshape, List.dropWhile_append_of_pos hbefore]
  simp

/-! ## Both sides of a login

Eight parameters go to the provider and three things stay in the cookie. They share the state and
the nonce, and the challenge is the digest of the verifier. -/

def loginParams (cfg : AuthConfig) (secrets : LoginSecrets) : List (String × String) :=
  [("response_type", "code"), ("client_id", cfg.clientId), ("redirect_uri", cfg.redirectUri),
   ("scope", "openid profile email"), ("state", secrets.state), ("nonce", secrets.nonce),
   ("code_challenge", b64 (Sha256.digest (encode secrets.verifier))),
   ("code_challenge_method", "S256")]

/-- A transaction that stands behind the parameters: the same state and nonce, and a verifier for the
challenge. -/
structure StandsBehind (tx : Payload) (params : List (String × String)) : Prop where
  state     : ∃ state, requiredText tx "state" = .ok state ∧ ("state", state) ∈ params
  nonce     : ∃ nonce, requiredText tx "nonce" = .ok nonce ∧ ("nonce", nonce) ∈ params
  challenge : ∃ verifier, requiredText tx "verifier" = .ok verifier ∧
    ("code_challenge", b64 (Sha256.digest (encode verifier))) ∈ params

/-- The transaction that is signed stands behind the parameters that are sent. -/
theorem standsBehind_loginParams (cfg : AuthConfig) (secrets : LoginSecrets) (now : Time) :
    StandsBehind (txPayload secrets now) (loginParams cfg secrets) where
  state := ⟨secrets.state, rfl, by simp [loginParams]⟩
  nonce := ⟨secrets.nonce, rfl, by simp [loginParams]⟩
  challenge := ⟨secrets.verifier, rfl, by simp [loginParams]⟩

/-- **The provider reads what the cookie keeps**: behind an endpoint without a query and a fragment,
the query of the URL is read as the eight parameters, less those that are blank, and for ten minutes
the cookie unsigns to the transaction that stands behind them. -/
theorem login_delivers {cfg : AuthConfig} {idp : Idp} {disco : Option Discovery}
    {secrets : LoginSecrets} {now : Time} {url cookie : String}
    (h : (beginLogin cfg idp disco secrets now).1 = .ok (url, cookie)) :
    ∃ found endpoint, (discover idp disco).1 = .ok found ∧
      found.authorizationEndpoint = some endpoint ∧
      url = endpoint ++ "?" ++ urlencode (loginParams cfg secrets) ∧
      ('?' ∉ endpoint.toList → '#' ∉ endpoint.toList →
        parseQsl (queryOf url) = some ((loginParams cfg secrets).filter fun kv => kv.2 != "")) ∧
      ∀ later : Time, later.value ≤ now.value + 600 →
        ∃ tx, unsign (some cookie) cfg.secretKey later = .ok (some tx) ∧
          StandsBehind tx (loginParams cfg secrets) := by
  have hcookie := beginLogin_ok h
  unfold beginLogin at h
  obtain ⟨found, hfound, h⟩ := bind_ok h
  obtain ⟨endpoint, hendpoint, h⟩ := bind_ok h
  obtain ⟨hurl, -⟩ := Prod.mk.inj (Except.ok.inj h)
  -- the lookup of the endpoint succeeded, so it is in the document
  have hkey : found.authorizationEndpoint = some endpoint := by
    unfold required at hendpoint
    split at hendpoint
    · next heq => rw [heq, Except.ok.inj hendpoint]
    · cases hendpoint
  refine ⟨found, endpoint, hfound, hkey, hurl.symm, ?_, ?_⟩
  · intro hquery hfragment
    rw [← hurl]
    show parseQsl (queryOf (endpoint ++ "?" ++ urlencode (loginParams cfg secrets))) = _
    rw [queryOf_append _ hquery hfragment, parseQsl_urlencode]
  · intro later hlater
    -- the deadline of the transaction has not passed
    have hfresh : expired (txPayload secrets now) later = .ok false := by
      rw [expired_txPayload, decide_eq_false (not_lt.mpr hlater)]
    refine ⟨txPayload secrets now, ?_, standsBehind_loginParams cfg secrets now⟩
    rw [hcookie]
    exact unsign_fresh hfresh cfg.secretKey

/-- A login at a provider with an endpoint, of a client without an id: seven parameters arrive. -/
theorem login_delivers_once :
    ∃ url cookie,
      (beginLogin ⟨"https://idp", "", "", "https://dash", [], [1]⟩
        ⟨.ok ⟨some "https://idp/auth", none, none⟩, fun _ _ => .ok none, fun _ _ _ _ => .ok []⟩ none
        ⟨"s t&te", "nonce", "verifier"⟩ (Time.ofSeconds 1000)).1 = .ok (url, cookie) ∧
      ((parseQsl (queryOf url)).map fun fields => fields.map Prod.fst) =
        some ["response_type", "redirect_uri", "scope", "state", "nonce", "code_challenge",
          "code_challenge_method"] := by
  obtain ⟨found, endpoint, hfound, hendpoint, hurl, hquery, -⟩ := @login_delivers
    ⟨"https://idp", "", "", "https://dash", [], [1]⟩
    ⟨.ok ⟨some "https://idp/auth", none, none⟩, fun _ _ => .ok none, fun _ _ _ _ => .ok []⟩ none
    ⟨"s t&te", "nonce", "verifier"⟩ (Time.ofSeconds 1000) _ _ rfl
  obtain rfl := Except.ok.inj hfound
  obtain rfl := Option.some.inj hendpoint
  refine ⟨_, _, rfl, ?_⟩
  rw [hquery (by decide) (by decide)]
  decide +kernel

end SreAgent.Webapp
