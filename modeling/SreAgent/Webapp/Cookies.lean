import SreAgent.Webapp.Server

/-!
# Signed cookies

What `unsign` makes of a cookie. Two things are not looked into: the code of HMAC-SHA256, and what
`json.loads` takes for JSON. `signWith` and `unsignWith` are `sign` and `unsign` with any message
authentication code and any `JsonModule` in their place, so that what is proved of them does not depend
on the encodings `json.loads` detects, on surrogates or on `NaN`, which the texts of `Lib.Json` leave
out.

* If the code is injective, an issued cookie cannot be altered in one place (`Rigid`).
* A payload that the interpreter is able to write and to read comes back, from a header too
  (`RoundTrips`). It gives up on integers of more than 4300 digits and on deep nesting
  (`long_number_unsigned`), and then nothing is signed.
-/

namespace SreAgent.Webapp

open Py (Json)

/-! ## Bytes and text

The steps of signing, undone one after the other: UTF-8, base64 without padding, JSON. Each is
inverted by its counterpart on what the step writes. -/

/-- UTF-8 is decoded as what was encoded. -/
theorem decode_encode (s : String) : decode (encode s) = some s := by
  have hbytes : (⟨(encode s).toArray⟩ : ByteArray) = s.toUTF8 := by
    rw [encode, Array.toArray_toList]
  rw [decode, hbytes, String.toUTF8_eq_toByteArray, String.fromUTF8?, dif_pos s.isValidUTF8]
  rfl

/-- Base64 without its padding is base64 as the library has it, and that is what the code writes. -/
theorem rstrip_encode (raw : List UInt8) :
    Py.rstrip '=' (Base64.urlsafeEncode raw) = Base64.encode raw := by
  have hpads : ∀ c ∈ (Base64.padding (Base64.encode raw).length).reverse, (c == '=') = true := by
    intro c hc
    rw [List.mem_reverse] at hc
    simpa using List.eq_of_mem_replicate hc
  -- no letter is a padding character, so only the padding goes
  have hstop : ∀ l : List Char, (∀ c ∈ l, c ≠ '=') → l.dropWhile (· == '=') = l := by
    intro l hl
    cases l with
    | nil => rfl
    | cons c l => exact List.dropWhile_cons_of_neg (by simpa using hl c (List.mem_cons_self ..))
  rw [Py.rstrip, Base64.urlsafeEncode, List.reverse_append, List.dropWhile_append_of_pos hpads,
    hstop, List.reverse_reverse]
  intro c hc
  exact (Base64.encode_letters raw c (List.mem_reverse.mp hc)).ne_pad

theorem b64_eq (raw : List UInt8) : b64 raw = String.ofList (Base64.encode raw) := by
  rw [b64, rstrip_encode]

/-- The characters of base64 are ASCII, and they are decoded to the bytes. -/
theorem toList_b64 (raw : List UInt8) : (b64 raw).toList = Base64.encode raw := by
  rw [b64_eq, String.toList_ofList]

theorem isAscii_b64 (raw : List UInt8) : isAscii (b64 raw) = true := by
  rw [isAscii, toList_b64, List.all_eq_true]
  intro c hc
  simpa using (Base64.encode_letters raw c hc).toNat_lt

theorem unb64_b64 (raw : List UInt8) : unb64 (b64 raw) = some raw := by
  rw [unb64, if_pos (isAscii_b64 raw), toList_b64]
  exact Base64.urlsafeDecode_padded raw

/-- What was written as JSON is read back. -/
theorem loadsBytes_dumps (payload : Payload) :
    loadsBytes (encode (dumpsPayload payload)) = some (.obj payload) := by
  rw [loadsBytes, decode_encode, Option.bind_some, dumpsPayload, String.toList_ofList]
  exact Py.loads_dumps (by simp) _

/-- Base64 has the characters of its alphabet only. -/
theorem notMem_b64 {c : Char} (hc : Base64.sextet c = none) (raw : List UInt8) :
    c ∉ (b64 raw).toList := by
  intro h
  rw [toList_b64] at h
  exact Base64.not_isLetter hc (Base64.encode_letters raw c h)

/-! ## Any `json` module

Two things are said of all modules: what makes the server raise, and that nothing but a right
signature gets a cookie read. Where a payload has to come back, a module that writes and reads is
needed, and `textModule` is one. -/

/-- What `auth.py` uses of `json` and of the values it reads: `json.loads` on bytes, `json.dumps` with
compact separators, `payload.get("exp", 0) < time.time()`, and `bool(payload)`. Each may raise; a
`JSONDecodeError` and a `UnicodeDecodeError` are a `ValueError`. -/
structure JsonModule where
  Value   : Type
  loads   : List UInt8 → Except Exc Value
  dumps   : Value → Except Exc String
  expired : Value → Time → Except Exc Bool
  truthy  : Value → Bool

def refusalExc : Py.Refusal → Exc
  | .digits => .valueError
  | .depth  => .other "RecursionError"

/-- A result, unless the value is refused. -/
def unlessRefused {α : Type} (refusal : Option Py.Refusal) (a : α) : Except Exc α :=
  match refusal with
  | none   => .ok a
  | some r => .error (refusalExc r)

/-- The module of the texts of `Lib.Json`, which refuses some values. -/
def textModule (refusal : Json → Option Py.Refusal) : JsonModule where
  Value := Json
  loads raw :=
    match loadsBytes raw with
    | none   => .error .valueError
    | some v => unlessRefused (refusal v) v
  dumps v := unlessRefused (refusal v) (String.ofList (v.dumps []))
  expired v now :=
    match v with
    | .obj payload => Webapp.expired payload now
    | _            => .error (.attributeError "object has no attribute 'get'")
  truthy := Json.truthy

/-- The module with so many levels of recursion left. -/
def withLevels (levels : Nat) : JsonModule := textModule (Json.refusal levels)

/-- The module of an interpreter that never gives up. -/
def unlimited : JsonModule := textModule fun _ => none

/-! ## Any message authentication code

The code is a parameter for the same reason. What is proved for an injective code says nothing about
SHA-256, of which that is not true, but it says what the format adds: nothing that could be altered. -/

/-- A code of a key and a message. -/
abbrev Mac := List UInt8 → List UInt8 → List UInt8

variable {J : JsonModule} {mac : Mac} {secret : List UInt8}

def signatureWith (mac : Mac) (secret : List UInt8) (body : String) : String :=
  b64 (mac secret (encode body))

def tokenOf (mac : Mac) (secret raw : List UInt8) : String :=
  b64 raw ++ "." ++ signatureWith mac secret (b64 raw)

/-- `sign`, with any module and code. -/
def signWith (J : JsonModule) (mac : Mac) (payload : J.Value) (secret : List UInt8) :
    Except Exc String := (J.dumps payload).map fun text => tokenOf mac secret (encode text)

/-- `readBody`, with any module. Only a `ValueError` is caught, and only around `json.loads`. -/
def readBodyWith (J : JsonModule) (body : String) (now : Time) : Except Exc (Option J.Value) :=
  match unb64 body with
  | none     => .ok none
  | some raw =>
    match J.loads raw with
    | .error .valueError => .ok none
    | .error e           => .error e
    | .ok v              => (J.expired v now).map fun old => if old then none else some v

/-- `unsign`, with any module and code. -/
def unsignWith (J : JsonModule) (mac : Mac) (token : Option String) (secret : List UInt8)
    (now : Time) : Except Exc (Option J.Value) :=
  match token with
  | none => .ok none
  | some token =>
    if token = "" ∨ '.' ∉ token.toList then .ok none
    else
      let (body, sig) := partitionDot token
      match compareDigest sig (signatureWith mac secret body) with
      | .error e   => .error e
      | .ok false  => .ok none
      | .ok true   => readBodyWith J body now

/-- `sign` is the instance where nothing is refused, and so are the reading of a body and `unsign`.
-/
theorem sign_eq (payload : Payload) (secret : List UInt8) :
    signWith unlimited Sha256.hmac (Json.obj payload) secret = .ok (sign payload secret) := rfl

theorem readBody_eq (body : String) (now : Time) :
    readBodyWith unlimited body now = (readBody body now).map (Option.map Json.obj) := by
  unfold readBodyWith readBody
  cases unb64 body with
  | none => rfl
  | some raw =>
      dsimp only [unlimited, textModule]
      rw [Option.bind_some]
      cases loadsBytes raw with
      | none => rfl
      | some v =>
          cases v with
          | obj payload =>  -- any other value has no `.get`, and both versions answer alike
              show (expired payload now).map _ = ((expired payload now).map _).map _
              cases expired payload now with
              | error e => rfl
              | ok old => cases old <;> rfl
          | _ => rfl

theorem unsign_eq (token : Option String) (secret : List UInt8) (now : Time) :
    unsignWith unlimited Sha256.hmac token secret now =
      (unsign token secret now).map (Option.map Json.obj) := by
  cases token with
  | none => rfl
  | some token =>
      unfold unsignWith unsign
      dsimp only
      split
      · rfl
      · unfold signatureWith signature
        cases compareDigest (partitionDot token).2
          (b64 (Sha256.hmac secret (encode (partitionDot token).1))) with
        | error e => rfl
        | ok same =>
            cases same with
            | false => rfl
            -- the body is only read once the code has been compared
            | true => exact readBody_eq _ _

/-! ## Tokens taken apart

The alphabet of base64 has no point, so the first point of a token is the one that was put in. A
token is therefore taken apart into what it was made of. -/

/-- A token is cut at its first point. -/
theorem partitionDot_append {body : String} (h : '.' ∉ body.toList) (sig : String) :
    partitionDot (body ++ "." ++ sig) = (body, sig) := by
  have hne : ∀ c ∈ body.toList, (c != '.') = true := by
    intro c hc
    rw [bne_iff_ne]
    rintro rfl
    exact h hc
  have htext : (body ++ "." ++ sig).toList = body.toList ++ '.' :: sig.toList := by simp
  rw [partitionDot, htext, List.takeWhile_append_of_pos hne, List.dropWhile_append_of_pos hne,
    List.takeWhile_cons_of_neg (by simp), List.dropWhile_cons_of_neg (by simp), List.append_nil]
  simp

/-- What a token with a point is made of. -/
theorem exists_partition {token : String} (h : '.' ∈ token.toList) :
    ∃ body sig, token = body ++ "." ++ sig ∧ '.' ∉ body.toList ∧ partitionDot token = (body, sig) := by
  obtain ⟨before, after, htext, hbefore⟩ := List.eq_append_cons_of_mem h
  have htoken : token = String.ofList before ++ "." ++ String.ofList after := by
    rw [← String.toList_inj, htext]
    simp
  have hbody : '.' ∉ (String.ofList before).toList := by rwa [String.toList_ofList]
  exact ⟨_, _, htoken, hbody, by rw [htoken, partitionDot_append hbody]⟩

/-- Base64 has no point in it, so a token is cut where it was joined. -/
theorem dot_notMem_b64 (raw : List UInt8) : '.' ∉ (b64 raw).toList := notMem_b64 (by decide) raw

theorem partitionDot_tokenOf (raw : List UInt8) :
    partitionDot (tokenOf mac secret raw) = (b64 raw, signatureWith mac secret (b64 raw)) :=
  partitionDot_append (dot_notMem_b64 _) _

/-- The characters of a token. -/
theorem toList_tokenOf (raw : List UInt8) : (tokenOf mac secret raw).toList =
    (b64 raw).toList ++ '.' :: (signatureWith mac secret (b64 raw)).toList := by
  simp [tokenOf]

/-- A token fits into a `Cookie` header. -/
theorem noSemicolon_tokenOf (raw : List UInt8) : ';' ∉ (tokenOf mac secret raw).toList := by
  have hletters : ∀ raw, ';' ∉ (b64 raw).toList := notMem_b64 (by decide)
  rw [toList_tokenOf]
  simp [signatureWith, hletters]

/-- Comparing is equality, where it returns at all. -/
theorem compareDigest_self {s : String} (h : isAscii s = true) : compareDigest s s = .ok true := by
  simp [compareDigest, h]

theorem eq_of_compareDigest {a b : String} (h : compareDigest a b = .ok true) : a = b := by
  unfold compareDigest at h
  split at h
  · exact beq_iff_eq.mp (Except.ok.inj h)
  · cases h

/-- **Unsigning a token** reads what is under its signature, with the same key and the same code. -/
theorem unsignWith_tokenOf (J : JsonModule) (mac : Mac) (raw secret : List UInt8) (now : Time) :
    unsignWith J mac (some (tokenOf mac secret raw)) secret now = readBodyWith J (b64 raw) now := by
  have hdot : '.' ∈ (tokenOf mac secret raw).toList := by
    rw [toList_tokenOf]
    simp
  have hne : tokenOf mac secret raw ≠ "" := by
    intro h
    rw [h] at hdot
    cases hdot
  rw [unsignWith, if_neg (by simp [hne, hdot]), partitionDot_tokenOf]
  dsimp only
  have hascii : isAscii (signatureWith mac secret (b64 raw)) = true := isAscii_b64 _
  rw [compareDigest_self hascii]

/-- A payload that can be written gets a token, and one that cannot makes `sign` raise. -/
theorem signWith_written {refusal : Json → Option Py.Refusal} {v : Json} (h : refusal v = none) :
    signWith (textModule refusal) mac v secret =
      .ok (tokenOf mac secret (encode (String.ofList (v.dumps [])))) := by
  dsimp only [signWith, textModule]
  rw [h]
  rfl

theorem signWith_refused {refusal : Json → Option Py.Refusal} {v : Json} {r : Py.Refusal}
    (h : refusal v = some r) : signWith (textModule refusal) mac v secret = .error (refusalExc r) := by
  dsimp only [signWith, textModule]
  rw [h]
  rfl

theorem loads_written {refusal : Json → Option Py.Refusal} {v : Json} (h : refusal v = none) :
    (textModule refusal).loads (encode (String.ofList (v.dumps []))) = .ok v := by
  dsimp only [textModule]
  rw [loadsBytes, decode_encode, Option.bind_some, String.toList_ofList, Py.loads_dumps (by simp)]
  dsimp only
  rw [h]
  rfl

/-- What is written is read back, by whatever interpreter is able to. -/
theorem readBodyWith_b64 {refusal : Json → Option Py.Refusal} {v : Json} (h : refusal v = none)
    (now : Time) : readBodyWith (textModule refusal) (b64 (encode (String.ofList (v.dumps [])))) now =
      ((textModule refusal).expired v now).map fun old => if old then none else some v := by
  rw [readBodyWith, unb64_b64]
  dsimp only
  rw [loads_written h]
  rfl

/-- What a token that unsigns to something is made of. -/
theorem unsignWith_some {token : String} {now : Time} {payload : J.Value}
    (h : unsignWith J mac (some token) secret now = .ok (some payload)) :
    ∃ body, token = body ++ "." ++ signatureWith mac secret body ∧
      readBodyWith J body now = .ok (some payload) := by
  unfold unsignWith at h
  dsimp only at h
  split at h
  · cases h
  · next hcond =>
    obtain ⟨body, sig, htoken, -, hparts⟩ := exists_partition (not_not.mp (not_or.mp hcond).2)
    rw [hparts] at h
    dsimp only at h
    split at h
    · cases h
    · cases h
    · -- the digest agreed, so the part behind the point is the code of the part before it
      next hcompare => exact ⟨body, eq_of_compareDigest hcompare ▸ htoken, h⟩

/-- Something was read, and it has not expired. -/
theorem readBodyWith_some {body : String} {now : Time} {payload : J.Value}
    (h : readBodyWith J body now = .ok (some payload)) :
    ∃ raw, unb64 body = some raw ∧ J.loads raw = .ok payload ∧ J.expired payload now = .ok false := by
  unfold readBodyWith at h
  split at h
  · cases h
  · next raw hraw =>
    split at h
    · cases h
    · cases h
    · next v hloads =>
      -- the payload comes back exactly when it has not expired
      cases hexpired : J.expired v now with
      | error e => rw [hexpired] at h; cases h
      | ok old =>
          rw [hexpired] at h
          cases old with
          | false =>
              obtain rfl := Option.some.inj (Except.ok.inj h)
              exact ⟨raw, hraw, hloads, hexpired⟩
          | true => cases h

/-! ## Altered tokens

If one character of a token is another one, either the body is another body, and the code no longer
fits it, or the code is another code. Where the changed character is the point, or becomes one, the
places are shifted, and this is the delicate case. -/

/-- Different keys or messages have different codes. No function into 32 bytes has this, so the
codes are a parameter wherever it is assumed. -/
def MacInjective (mac : Mac) : Prop :=
  ∀ {key message key' message'}, mac key message = mac key' message' → key = key' ∧ message = message'

/-- Different texts are different bytes, so different bodies have different codes. -/
theorem encode_injective {s t : String} (h : encode s = encode t) : s = t := by
  have hdecode := congrArg decode h
  rw [decode_encode, decode_encode] at hdecode
  exact Option.some.inj hdecode

theorem signatureWith_injective (hmac : MacInjective mac) {body body' : String}
    (h : signatureWith mac secret body = signatureWith mac secret body') : body = body' := by
  have hraw := congrArg unb64 h
  rw [signatureWith, signatureWith, unb64_b64, unb64_b64] at hraw
  exact encode_injective (hmac (Option.some.inj hraw)).2

/-- A text with one point has one way to be cut there. -/
theorem point_unique {u v u' v' : List Char} (hu : '.' ∉ u) (hu' : '.' ∉ u')
    (h : u ++ '.' :: v = u' ++ '.' :: v') : u = u' ∧ v = v' := by
  rcases Py.place_of_notMem hu h with ⟨hu, hv⟩ | ⟨w, rfl, -⟩
  · exact ⟨hu.symm, hv.symm⟩
  · exact absurd (by simp) hu'

/-- Two tokens with right signatures do not differ in one character. -/
theorem eq_of_one_character (hmac : MacInjective mac) {body body' : String} {x y : List Char} {c d : Char}
    (hbody : '.' ∉ body.toList) (hbody' : '.' ∉ body'.toList)
    (h : x ++ c :: y = body.toList ++ '.' :: (signatureWith mac secret body).toList)
    (h' : x ++ d :: y = body'.toList ++ '.' :: (signatureWith mac secret body').toList) : c = d := by
  have hsig : ∀ body, '.' ∉ (signatureWith mac secret body).toList := fun _ => dot_notMem_b64 _
  -- the point is in the same place in both: it occurs once
  rcases Py.place_cases h with ⟨hx, hc, hy⟩ | ⟨w, hx, hv⟩ | ⟨w, hu, hy⟩
  · rcases Py.place_cases h' with ⟨-, hd, -⟩ | ⟨w', hx', -⟩ | ⟨w', -, hy'⟩
    · rw [hc, hd]
    · exact absurd (by rw [← hx, hx']; simp) hbody
    · exact absurd (by rw [← hy, hy']; simp) (hsig body)
  · rcases Py.place_cases h' with ⟨hx', -, -⟩ | ⟨w', hx', hv'⟩ | ⟨w', hu', -⟩
    · exact absurd (by rw [← hx', hx]; simp) hbody'
    · have hsame := point_unique hbody hbody' (hx.symm.trans hx')
      obtain rfl := String.toList_inj.mp hsame.1
      rw [hsame.2, hv'] at hv
      exact (List.cons.inj (List.append_cancel_left hv)).1.symm
    · exact absurd (by rw [hu', hx]; simp) hbody'
  · rcases Py.place_cases h' with ⟨-, -, hy'⟩ | ⟨w', -, hv'⟩ | ⟨w', hu', hy'⟩
    · exact absurd (by rw [← hy', hy]; simp) (hsig body')
    · exact absurd (by rw [hv', hy]; simp) (hsig body')
    · have hw : '.' ∉ w := fun hmem => hbody (by rw [hu]; simp [hmem])
      have hw' : '.' ∉ w' := fun hmem => hbody' (by rw [hu']; simp [hmem])
      have hsame := point_unique hw hw' (hy.symm.trans hy')
      obtain rfl := signatureWith_injective hmac (String.toList_inj.mp hsame.2)
      rw [hu'] at hu
      exact (List.cons.inj (List.append_cancel_left hu)).1.symm

/-- The first cookie is an issued token, and the second one differs from it in one character. -/
structure Altered (J : JsonModule) (mac : Mac) (secret : List UInt8) (token token' : String) :
    Prop where
  issued  : ∃ payload, signWith J mac payload secret = .ok token
  ascii   : isAscii token' = true
  differs : ∃ x y c d, token.toList = x ++ c :: y ∧ token'.toList = x ++ d :: y ∧ c ≠ d

/-- What is issued is the token of some bytes. -/
theorem signWith_ok {payload : J.Value} {token : String}
    (h : signWith J mac payload secret = .ok token) :
    ∃ text, J.dumps payload = .ok text ∧ token = tokenOf mac secret (encode text) := by
  unfold signWith at h
  cases hdumps : J.dumps payload with
  | error e => rw [hdumps] at h; cases h
  | ok text =>
      rw [hdumps] at h
      exact ⟨text, rfl, (Except.ok.inj h).symm⟩

/-- **An altered token is noticed**: a token that differs from an issued one in one character
unsigns to nothing. -/
theorem unsignWith_altered (hmac : MacInjective mac) {token token' : String}
    (h : Altered J mac secret token token') (now : Time) :
    unsignWith J mac (some token') secret now = .ok none := by
  obtain ⟨⟨payload, hissued⟩, hascii, x, y, c, d, htoken, htoken', hne⟩ := h
  obtain ⟨text, -, rfl⟩ := signWith_ok hissued
  unfold unsignWith
  dsimp only
  split
  · rfl
  · next hcond =>
    obtain ⟨body, sig, rfl, hbody, hparts⟩ := exists_partition (not_not.mp (not_or.mp hcond).2)
    rw [hparts]
    dsimp only
    -- one character differs, either in the body or in its code: they cannot match any more
    have hwrong : sig ≠ signatureWith mac secret body := by
      rintro rfl
      rw [toList_tokenOf] at htoken
      have htext : x ++ d :: y = body.toList ++ '.' :: (signatureWith mac secret body).toList := by
        rw [← htoken']
        simp
      exact hne (eq_of_one_character hmac (dot_notMem_b64 _) hbody htoken.symm htext)
    -- `compare_digest` takes ASCII text, which the altered token still is
    have hsig : isAscii sig = true := by
      unfold isAscii at hascii ⊢
      rw [List.all_eq_true] at hascii ⊢
      exact fun c hc => hascii c (by simp [hc])
    have hcompare : compareDigest sig (signatureWith mac secret body) = .ok false := by
      rw [compareDigest, hsig, signatureWith, isAscii_b64]
      exact congrArg Except.ok (beq_eq_false_iff_ne.mpr hwrong)
    rw [hcompare]

/-! ## In a header

A browser sends its cookies in one header, separated by semicolons and blanks. A value without a
semicolon is found there whole, unless another cookie of the name comes behind it. -/

/-- A part of a `Cookie` header that is no cookie of this name. -/
structure OtherCookie (name : String) (part : List Char) : Prop where
  whole : ';' ∉ part
  other : ∀ pair, cookiePair part = some pair → pair.1 ≠ name

/-- The headers carry a cookie, among cookies of other names. -/
inductive Carries (name value : String) : List (String × String) → Prop
  | cookie {first rest : List (String × String)} {before after : List (List Char)} {blank : List Char}
      (headers : ∀ kv ∈ first, kv.1 ≠ "cookie") (others : ∀ part ∈ before ++ after, OtherCookie name part)
      (spaces : ∀ c ∈ blank, Py.isSpace c = true) :
      Carries name value (first ++ ("cookie", String.ofList ([';'].intercalate
        (before ++ (blank ++ name.toList ++ '=' :: value.toList) :: after))) :: rest)

/-- A part of the header is taken apart at its first `=`, with the blanks in front taken off. -/
theorem cookiePair_blank {name value : String} {blank : List Char} (hname : '=' ∉ name.toList)
    (hstrip : Py.strip name.toList = name.toList) (hblank : ∀ c ∈ blank, Py.isSpace c = true) :
    cookiePair (blank ++ name.toList ++ '=' :: value.toList) = some (name, value) := by
  -- the name has no `=`, so the first one in the part is the separator
  have hne : ∀ c ∈ blank ++ name.toList, (c != '=') = true := by
    intro c hc
    rw [bne_iff_ne]
    rintro rfl
    rcases List.mem_append.mp hc with hc | hc
    · exact absurd (hblank _ hc) (by decide)
    · exact hname hc
  rw [cookiePair, if_pos (by simp), List.takeWhile_append_of_pos hne, List.dropWhile_append_of_pos hne,
    List.takeWhile_cons_of_neg (by simp), List.dropWhile_cons_of_neg (by simp), List.append_nil,
    (Py.strip_append_eq_iff blank name.toList).mpr hblank, hstrip]
  simp

/-- **A cookie is found** in the header it travels in. -/
theorem cookie_of_carries {name value : String} {headers : List (String × String)}
    (hname : '=' ∉ name.toList) (hsemi : ';' ∉ name.toList) (hstrip : Py.strip name.toList = name.toList)
    (hvalue : ';' ∉ value.toList) (h : Carries name value headers) :
    cookie headers name = some value := by
  obtain ⟨hheaders, hothers, hspaces⟩ := h
  rename_i first rest before after blank
  simp only [List.mem_append] at hothers
  -- no part has a semicolon, so splitting the header gives the parts back
  have hparts : ∀ part ∈ before ++ (blank ++ name.toList ++ '=' :: value.toList) :: after, ';' ∉ part := by
    intro part hpart
    rcases List.mem_append.mp hpart with hpart | hpart
    · exact (hothers part (.inl hpart)).whole
    rcases List.mem_cons.mp hpart with rfl | hpart
    · have hblank : ';' ∉ blank := fun hmem => absurd (hspaces _ hmem) (by decide)
      simp [hblank, hsemi, hvalue]
    · exact (hothers part (.inr hpart)).whole
  -- the last pair of the name wins, and none stands behind ours
  have hnone : ∀ kv ∈ (after.filterMap cookiePair).reverse, ¬ (kv.1 == name) = true := by
    intro kv hkv
    obtain ⟨part, hpart, hpair⟩ := List.mem_filterMap.mp (List.mem_reverse.mp hkv)
    simpa using (hothers part (.inr hpart)).other kv hpair
  unfold cookie
  rw [List.find?_append, List.find?_eq_none.mpr (by simpa using hheaders), Option.none_or,
    List.find?_cons_of_pos (by simp)]
  dsimp only
  rw [String.toList_ofList, Py.splitOn_intercalate (by simp) hparts, List.filterMap_append,
    List.filterMap_cons, cookiePair_blank hname hstrip hspaces, List.reverse_append, List.reverse_cons,
    List.append_assoc, List.find?_append, List.find?_eq_none.mpr hnone, Option.none_or,
    List.singleton_append, List.find?_cons_of_pos (by simp)]
  rfl

/-! ## With HMAC-SHA256

The instance the server uses. What it signs is read back, and nothing else is accepted. -/

/-- What `sign` writes is a token, which tells its payload, and fits into a header. -/
theorem sign_eq_tokenOf (payload : Payload) (secret : List UInt8) :
    sign payload secret = tokenOf Sha256.hmac secret (encode (dumpsPayload payload)) := rfl

theorem sign_injective {payload payload' : Payload} {secret : List UInt8}
    (h : sign payload secret = sign payload' secret) : payload = payload' := by
  have hparts := congrArg partitionDot h
  rw [sign_eq_tokenOf, sign_eq_tokenOf, partitionDot_tokenOf, partitionDot_tokenOf] at hparts
  have hraw := congrArg unb64 (Prod.mk.inj hparts).1
  rw [unb64_b64, unb64_b64] at hraw
  -- both bodies are written payloads, so they read back
  have hread := congrArg loadsBytes (Option.some.inj hraw)
  rw [loadsBytes_dumps, loadsBytes_dumps] at hread
  exact Json.obj.inj (Option.some.inj hread)

theorem noSemicolon_sign (payload : Payload) (secret : List UInt8) :
    ';' ∉ (sign payload secret).toList := noSemicolon_tokenOf _

/-- Nothing is lost in `Except Exc (Option Payload)` by making JSON of the payload. -/
theorem map_obj_injective {a b : Except Exc (Option Payload)}
    (h : a.map (Option.map Json.obj) = b.map (Option.map Json.obj)) : a = b := by
  cases a with
  | error e =>
      cases b with
      | error e' => exact congrArg Except.error (Except.error.inj h)
      | ok o => cases h
  | ok o =>
      cases b with
      | error e => cases h
      | ok o' =>
          have hobj : Function.Injective Json.obj := fun _ _ => Json.obj.inj
          exact congrArg Except.ok (Option.map_injective hobj (Except.ok.inj h))

/-- A signed payload unsigns to itself, unless it has expired or its expiry cannot be compared. -/
theorem unsign_sign (payload : Payload) (secret : List UInt8) (now : Time) :
    unsign (some (sign payload secret)) secret now =
      (expired payload now).map fun old => if old then none else some payload := by
  apply map_obj_injective
  rw [← unsign_eq, sign_eq_tokenOf, unsignWith_tokenOf]
  refine (@readBodyWith_b64 (fun _ => none) (Json.obj payload) rfl now).trans ?_
  show (expired payload now).map _ = ((expired payload now).map _).map _
  cases expired payload now with
  | error e => rfl
  | ok old => cases old <;> rfl

/-- A signed payload unsigns until it expires. -/
theorem unsign_fresh {payload : Payload} {now : Time} (h : expired payload now = .ok false)
    (secret : List UInt8) : unsign (some (sign payload secret)) secret now = .ok (some payload) := by
  rw [unsign_sign, h]
  rfl

/-- What was signed is all that comes back, and only while it is fresh. -/
theorem unsign_sign_some {payload user : Payload} {secret : List UInt8} {now : Time}
    (h : unsign (some (sign payload secret)) secret now = .ok (some user)) :
    user = payload ∧ expired payload now = .ok false := by
  rw [unsign_sign] at h
  cases hexpired : expired payload now with
  | error e => rw [hexpired] at h; cases h
  | ok old =>
      rw [hexpired] at h
      cases old with
      | false => exact ⟨(Option.some.inj (Except.ok.inj h)).symm, rfl⟩
      | true => cases h

/-- A token with the right signature under its body. -/
def ValidlySigned (secret : List UInt8) (token : String) : Prop :=
  '.' ∈ token.toList ∧
    compareDigest (partitionDot token).2 (signature secret (partitionDot token).1) = .ok true

/-- Whatever unsigns to something is validly signed. -/
theorem validlySigned_of_unsign {token : Option String} {secret : List UInt8} {now : Time}
    {payload : Payload} (h : unsign token secret now = .ok (some payload)) :
    ∃ t, token = some t ∧ ValidlySigned secret t := by
  cases token with
  | none => cases h
  | some t =>
      refine ⟨t, rfl, ?_⟩
      unfold unsign at h
      dsimp only at h
      split at h
      · cases h
      · next hcond =>
        split at h
        · cases h
        · cases h
        · -- a payload is only returned behind a successful comparison
          next hcompare => exact ⟨not_not.mp (not_or.mp hcond).2, hcompare⟩

/-! ## What signed cookies are for

The two things that are expected of them: that a payload comes back, and that nobody can change it.
The first is about the interpreter and its limits, the second about the code. -/

/-- A name that is found again in a header. -/
structure IsCookieName (name : String) : Prop where
  whole    : '=' ∉ name.toList
  single   : ';' ∉ name.toList
  stripped : Py.strip name.toList = name.toList

/-- A payload that the interpreter writes and reads, with the levels it has left at either time,
comes back until it expires, from a header too. -/
structure RoundTrips (secret : List UInt8) : Prop where
  unsigned : ∀ levels levels' payload now, (Json.obj payload).refusal levels = none →
    (Json.obj payload).refusal levels' = none → expired payload now = .ok false →
    ∃ token, signWith (withLevels levels) Sha256.hmac (Json.obj payload) secret = .ok token ∧
      unsignWith (withLevels levels') Sha256.hmac (some token) secret now =
        .ok (some (Json.obj payload)) ∧
      ∀ name headers, IsCookieName name → Carries name token headers →
        unsignWith (withLevels levels') Sha256.hmac (cookie headers name) secret now =
          .ok (some (Json.obj payload))

/-- A token is a body with its code, and cannot be altered: a token that differs from an issued one
in a single character does not open. -/
structure Rigid (J : JsonModule) (mac : Mac) (secret : List UInt8) : Prop where
  shape   : ∀ token now payload, unsignWith J mac (some token) secret now = .ok (some payload) →
    ∃ body raw, token = body ++ "." ++ b64 (mac secret (encode body)) ∧ unb64 body = some raw ∧
      J.loads raw = .ok payload
  altered : ∀ token token', Altered J mac secret token token' → ∀ now,
    unsignWith J mac (some token') secret now = .ok none

/-- For every payload that can be written and read, in every header that carries it. -/
theorem roundTrips (secret : List UInt8) : RoundTrips secret where
  unsigned levels levels' payload now hwritten hread hfresh := by
    -- the payload could be written, so the token is the body, a point and the code
    have hsign : signWith (withLevels levels) Sha256.hmac (Json.obj payload) secret =
        .ok (tokenOf Sha256.hmac secret (encode (dumpsPayload payload))) := signWith_written hwritten
    -- it can be read too, and then the deadline alone decides
    have hunsign : unsignWith (withLevels levels') Sha256.hmac
        (some (tokenOf Sha256.hmac secret (encode (dumpsPayload payload)))) secret now =
          .ok (some (Json.obj payload)) := by
      rw [unsignWith_tokenOf]
      refine (@readBodyWith_b64 (Json.refusal levels') (Json.obj payload) hread now).trans ?_
      show (expired payload now).map _ = _
      rw [hfresh]
      rfl
    refine ⟨_, hsign, hunsign, fun name headers hname hcarries => ?_⟩
    -- the token has no semicolon, so the cookie header carries it whole
    rw [cookie_of_carries hname.whole hname.single hname.stripped (noSemicolon_tokenOf _) hcarries]
    exact hunsign

/-- **Signed cookies round-trip and are not malleable**, if the code is injective, whatever the
`json` module reads. -/
theorem signedCookies (hmac : MacInjective mac) (secret : List UInt8) :
    RoundTrips secret ∧ ∀ J, Rigid J mac secret := by
  refine ⟨roundTrips secret, fun J => ⟨?_, ?_⟩⟩
  · intro token now payload h
    obtain ⟨body, htoken, hbody⟩ := unsignWith_some h
    obtain ⟨raw, hraw, hloads, -⟩ := readBodyWith_some hbody
    exact ⟨body, raw, htoken, hraw, hloads⟩
  · intro token token' haltered now
    exact unsignWith_altered hmac haltered now

/-! ## An injective code

An injective code exists, with keys and messages of any length, and it may agree with HMAC-SHA256
where a test looks. So the assumption of `signedCookies` can be met. -/

/-- The key, marked byte by byte, and the message. -/
def pairCode (key message : List UInt8) : List UInt8 := key.flatMap (fun b => [0, b]) ++ 1 :: message

/-- Marking the bytes of the key keeps key and message apart, and a real code has 32 bytes. -/
theorem pairCode_injective {key message key' message' : List UInt8}
    (h : pairCode key message = pairCode key' message') : key = key' ∧ message = message' := by
  -- the code marks each byte of the key, and ends it with a byte that marks none
  induction key generalizing key' with
  | nil =>
      cases key' with
      | nil => exact ⟨rfl, (List.cons.inj h).2⟩
      | cons b key' => exact absurd (List.cons.inj h).1 (by decide)
  | cons b key ih =>
      cases key' with
      | nil => exact absurd (List.cons.inj h).1 (by decide)
      | cons b' key' =>
          obtain ⟨rfl, hrest⟩ := List.cons.inj (List.cons.inj h).2
          obtain ⟨rfl, hmessage⟩ := ih hrest
          exact ⟨rfl, hmessage⟩

theorem length_hmac (key message : List UInt8) : (Sha256.hmac key message).length = 32 := by
  simp [Sha256.hmac, Sha256.digest, Sha256.bytesOf]

/-- HMAC-SHA256 on one input, and longer codes on all others. -/
def macAt (key₀ message₀ : List UInt8) : Mac := fun key message =>
  if key = key₀ ∧ message = message₀ then Sha256.hmac key message
  else List.replicate 33 0 ++ pairCode key message

/-- The code on the one input has 32 bytes, so it is none of the longer ones. -/
theorem macAt_injective (key₀ message₀ : List UInt8) : MacInjective (macAt key₀ message₀) := by
  -- every other pair is coded by more bytes than a digest has
  have hlong : ∀ key message key' message', Sha256.hmac key message ≠
      List.replicate 33 0 ++ pairCode key' message' := by
    intro key message key' message' h
    have hlength := congrArg List.length h
    rw [length_hmac, List.length_append, List.length_replicate] at hlength
    omega
  intro key message key' message' h
  unfold macAt at h
  split at h
  · next hfirst =>
    split at h
    · next hsecond => exact ⟨hfirst.1.trans hsecond.1.symm, hfirst.2.trans hsecond.2.symm⟩
    · exact absurd h (hlong _ _ _ _)
  · split at h
    · exact absurd h.symm (hlong _ _ _ _)
    · exact pairCode_injective (List.append_cancel_left h)

/-- The payload of somebody who has just logged in. -/
def demoSession : Payload := [("sub", .str "alice"), ("exp", (Time.ofSeconds 3600).json)]

/-- With that code the cookies of a session just begun round-trip and are rigid. -/
theorem signedCookies_demo : RoundTrips [107, 101, 121] ∧ ∀ J, Rigid J
    (macAt [107, 101, 121] (encode (b64 (encode (dumpsPayload demoSession))))) [107, 101, 121] :=
  signedCookies (macAt_injective _ _) _

/-! ## A number that is not written

Python converts integers of up to 4300 digits to text and raises beyond that. A payload with a
longer one has a value and no token. -/

/-- A payload with the least integer of 4301 digits. -/
def longNumber : Payload :=
  [("n", .num { whole := 10 ^ Py.maxDigits }), ("exp", (Time.ofSeconds 3600).json)]

/-- `json.dumps` raises a `ValueError` on it, so `sign` returns no token, though the payload has not
expired. -/
theorem long_number_unsigned :
    ¬ (∀ levels payload now secret, expired payload now = .ok false →
        ∃ token, signWith (withLevels levels) Sha256.hmac (Json.obj payload) secret = .ok token) ∧
      signWith (withLevels 1000) Sha256.hmac (Json.obj longNumber) [107, 101, 121] =
        .error .valueError := by
  -- for any number that large, so that nothing computes its digits
  have hlarge : ∀ w, 10 ^ Py.maxDigits ≤ w → ∀ rest : Payload,
      (Json.obj (("n", .num { whole := w }) :: rest)).refusal 1000 = some .digits := fun w hw rest =>
    Py.refusal_firstMember (Py.refusal_int rfl hw) _ _
  have hraises : signWith (withLevels 1000) Sha256.hmac (Json.obj longNumber) [107, 101, 121] =
      .error .valueError := signWith_refused (hlarge (10 ^ Py.maxDigits) le_rfl _)
  refine ⟨fun h => ?_, hraises⟩
  have hfresh : expired longNumber (Time.ofSeconds 1000) = .ok false := by
    rw [expired_num (t := Time.ofSeconds 3600) rfl]
    norm_num [Time.ofSeconds, Time.value, Py.fractionValue]
  obtain ⟨token, htoken⟩ := h 1000 longNumber (Time.ofSeconds 1000) [107, 101, 121] hfresh
  rw [hraises] at htoken
  cases htoken

end SreAgent.Webapp
