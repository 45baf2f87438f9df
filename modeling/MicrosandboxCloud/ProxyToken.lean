import MicrosandboxCloud.Ssh
import MicrosandboxCloud.Text.Base64
import MicrosandboxCloud.Text.JsonParse
import MicrosandboxCloud.Text.Utf8

/-!
# Microsandbox — proxy tokens

`ProxyTokenService`: a token is the base64url text of a JSON payload, a dot, and the base64url text
of its HMAC. Strings are code units. The digest is a parameter.

* **`sign` / `verify`** — `verify` looks at the first two parts between dots only.
* **`verify_sign`** — a token is accepted for its sandbox until it expires, and only then.
* **`proxy_token_exact_iff`** — of the strings that hold no MAC but issued ones, `verify` accepts
  just the issued unexpired tokens and what goes on with another dot after one.
-/

namespace Microsandbox

open Text Text.Base64 Text.JsonParse

/-- A string of JavaScript: any code units, also halves of characters. -/
abbrev JsString := List UInt16

/-- `Buffer.from(s)` -/
def buffer (s : JsString) : List UInt8 := encodeUtf8 (toScalars s)

/-- The string of a literal. -/
def jsString (s : String) : JsString := codeUnits s.toList

/-- The fields of the payload. -/
structure ProxyTokenPayload where
  sub : JsString
  aud : JsString
  sandboxId : JsString
  sandbox : JsString
  runtimeId : JsString
  exp : Int

namespace ProxyTokenPayload

/-- The members in the order of the object literal. -/
def members (payload : ProxyTokenPayload) : List (JsString × Flat) :=
  [(jsString "sub", .string payload.sub), (jsString "aud", .string payload.aud),
    (jsString "sandboxId", .string payload.sandboxId),
    (jsString "sandbox", .string payload.sandbox),
    (jsString "runtimeId", .string payload.runtimeId), (jsString "exp", .number payload.exp)]

/-- The payload as `JSON.parse` returns it. -/
def toValue (payload : ProxyTokenPayload) : Value := .object (readFields payload.members)

end ProxyTokenPayload

/-- A keyed digest, `createHmac('sha256', key).update(message).digest()`. -/
structure Hmac where
  digest : (key message : List UInt8) → List UInt8
  digest_ne_nil : ∀ key message, digest key message ≠ []

/-- The settings of the service. -/
structure ProxyTokenService where
  connectionTtlSeconds : Int
  proxyTokenSecret : JsString
  hmac : Hmac
  /-- what the engine says of a text that `JSON.parse` refuses -/
  syntaxError : List Char → String

/-- What `sign` returns. -/
structure SignedToken where
  token : JsString
  expiresAt : Int

namespace ProxyTokenService

variable (svc : ProxyTokenService)

/-- The audience of every token. -/
def audience : JsString := jsString "microsandbox-cloud-proxy"

/-- `'.'` -/
def dot : UInt16 := 46

/-- The base64url text of the bytes of a text. -/
def base64Url (value : List Char) : List Char := encodeUrl (encodeUtf8 value)

/-- The signature is of the encoded text, and not of the payload. -/
def signPayload (payload : JsString) : List Char :=
  encodeUrl (svc.hmac.digest (buffer svc.proxyTokenSecret) (buffer payload))

/-! ## Signing

`sign` puts the payload together, encodes it and appends the MAC of the encoded text after a dot. -/

/-- The expiry is in seconds, rounded down. -/
def payload (now : Int) (sandboxId runtimeId sandboxName : JsString) : ProxyTokenPayload :=
  { sub := sandboxId
    aud := audience
    sandboxId := sandboxId
    sandbox := sandboxName
    runtimeId := runtimeId
    exp := (now + svc.connectionTtlSeconds * 1000) / 1000 }

/-- The JSON text, encoded. -/
def encodePayload (payload : ProxyTokenPayload) : List Char :=
  base64Url (objectText payload.members)

/-- `` `${encodedPayload}.${signature}` `` -/
def tokenOf (payload : ProxyTokenPayload) : JsString :=
  codeUnits (encodePayload payload) ++
    dot :: codeUnits (svc.signPayload (codeUnits (encodePayload payload)))

/-- `sign` at the time `now`, in milliseconds. `toISOString` may throw. -/
def sign (now : Int) (sandboxId runtimeId sandboxName : JsString) :
    Except ServiceError SignedToken :=
  (SshSession.toISOString (now + svc.connectionTtlSeconds * 1000)).map fun expiresAt =>
    ⟨svc.tokenOf (svc.payload now sandboxId runtimeId sandboxName), expiresAt⟩

/-! ## Verifying

`verify` splits the token at its dots and looks at the first two parts. The signature is compared
before the payload is parsed, and the checks of the payload come last. -/

/-- Every exception is rethrown so. -/
def invalidToken (reason : String) : ServiceError :=
  ⟨.unauthorized, "Invalid proxy token: " ++ reason⟩

/-- The lengths and the bytes are equal. -/
def signatureEquals (actual : JsString) (expected : List Char) : Bool :=
  buffer actual == encodeUtf8 expected

/-- The value is this string. -/
def isString (value : Option Value) (s : JsString) : Bool :=
  match value with
  | some (.string t) => t == s
  | _ => false

/-- From here on a decimal number is read as infinite. -/
def infinity : Int := (Nat.pow 2 1024 - Nat.pow 2 970 : Nat)

/-- `!Number.isFinite(exp) || exp <= Math.floor(now / 1000)` -/
def hasExpired (exp : Option Value) (now : Int) : Bool :=
  match exp with
  | some (.number x) =>
    !(decide ((-infinity : Int) < x) && decide (x < (infinity : Int))) ||
      decide (x ≤ (now / 1000 : Int))
  | _ => true

/-- The checks of a payload that was signed. -/
def checkPayload (now : Int) (sandboxId : JsString) (payload : Value) : Except ServiceError Value :=
  match payload with
  | .null => .error (invalidToken "Cannot read properties of null (reading 'aud')")
  | .object fields =>
    if isString (Value.get fields (jsString "aud")) audience = false then
      .error (invalidToken "audience_mismatch")
    else if isString (Value.get fields (jsString "sandboxId")) sandboxId = false ∨
        isString (Value.get fields (jsString "sub")) sandboxId = false then
      .error (invalidToken "sandbox_id_mismatch")
    else if hasExpired (Value.get fields (jsString "exp")) now then
      .error (invalidToken "expired_token")
    else .ok (.object fields)
  | _ => .error (invalidToken "audience_mismatch")

/-- `JSON.parse(Buffer.from(encodedPayload, 'base64url').toString('utf8'))` -/
def readPayload (encodedPayload : JsString) : Except ServiceError Value :=
  match parse (decodeUtf8 (decodeLenient (toScalars encodedPayload))) with
  | none =>
    .error (invalidToken (svc.syntaxError (decodeUtf8 (decodeLenient (toScalars encodedPayload)))))
  | some payload => .ok payload

/-- `verify` at the time `now`. Only the first two parts are looked at. -/
def verify (now : Int) (token sandboxId : JsString) : Except ServiceError Value :=
  match token.splitOn dot with
  | encodedPayload :: signature :: _ =>
    if encodedPayload = [] ∨ signature = [] then .error (invalidToken "malformed_token")
    else if signatureEquals signature (svc.signPayload encodedPayload) = false then
      .error (invalidToken "bad_signature")
    else do
      let payload ← svc.readPayload encodedPayload
      checkPayload now sandboxId payload
  | _ => .error (invalidToken "malformed_token")

/-! ## The parts of a token

Both parts of an issued token are texts of the URL-safe alphabet, in which there is no dot. So the
dot between them is where `split` cuts, and the two parts are read back. -/

section Parts

variable {svc : ProxyTokenService} {s : List Char} {payload : ProxyTokenPayload}

/-- A text of the URL-safe alphabet. -/
def IsUrlText (s : List Char) : Prop := ∀ c ∈ s, IsUrlChar c

/-- The payload is written in the URL-safe alphabet. -/
theorem isUrlText_encodePayload (payload : ProxyTokenPayload) : IsUrlText (encodePayload payload) :=
  fun _ hc => isUrlChar_of_mem hc

theorem isUrlText_signPayload (encodedPayload : JsString) :
    IsUrlText (svc.signPayload encodedPayload) :=
  fun _ hc => isUrlChar_of_mem hc

theorem IsUrlText.dot_not_mem (h : IsUrlText s) : dot ∉ codeUnits s := by
  have hdot : dot ∈ codeUnits s ↔ '.' ∈ s := mem_codeUnits (c := '.') (by decide) s
  rw [hdot]
  exact fun hmem => (h '.' hmem).ne_dot rfl

/-- Nor has it the replacement character, which would stand for something else. -/
theorem IsUrlText.replacement_not_mem (h : IsUrlText s) : Char.ofNat 0xFFFD ∉ s := by
  intro hmem
  exact absurd (h _ hmem).lt (by decide)

/-- A text that is not empty has units. -/
theorem codeUnits_ne_nil (h : s ≠ []) : codeUnits s ≠ [] := by
  intro hnil
  exact h (codeUnits_injective hnil)

theorem encodePayload_ne_nil (payload : ProxyTokenPayload) : encodePayload payload ≠ [] := by
  refine encodeUrl_ne_nil fun hnil => ?_
  have htext : objectText payload.members = [] :=
    encodeUtf8_injective (hnil.trans (show [] = encodeUtf8 [] from rfl))
  cases htext

theorem signPayload_ne_nil (encodedPayload : JsString) : svc.signPayload encodedPayload ≠ [] :=
  encodeUrl_ne_nil (svc.hmac.digest_ne_nil _ _)

/-- The signature has to be the MAC, character for character. -/
theorem signatureEquals_iff {actual : JsString} (h : IsUrlText s) :
    signatureEquals actual s = true ↔ actual = codeUnits s := by
  rw [signatureEquals, beq_iff_eq, buffer]
  constructor
  · intro heq
    exact eq_codeUnits_of_toScalars (encodeUtf8_injective heq) h.replacement_not_mem
  · rintro rfl
    rw [toScalars_codeUnits]

/-- An issued payload is read back. -/
theorem readPayload_encodePayload :
    svc.readPayload (codeUnits (encodePayload payload)) = .ok payload.toValue := by
  rw [readPayload, toScalars_codeUnits, encodePayload, base64Url, decodeLenient_encodeUrl,
    decodeUtf8_encodeUtf8, parse_objectText]
  rfl

/-- What follows the signature: nothing, or a dot and any text. -/
def IsTokenTail (rest : JsString) : Prop := rest = [] ∨ ∃ more, rest = dot :: more

/-- What `verify` accepts: a payload, its MAC, and perhaps more after another dot. -/
theorem verify_ok_iff {now : Int} {token sandboxId : JsString} {value : Value} :
    svc.verify now token sandboxId = .ok value ↔
      ∃ encodedPayload rest, IsTokenTail rest ∧
        token = encodedPayload ++ dot :: (codeUnits (svc.signPayload encodedPayload) ++ rest) ∧
        dot ∉ encodedPayload ∧ encodedPayload ≠ [] ∧
        ∃ read, svc.readPayload encodedPayload = .ok read ∧
          checkPayload now sandboxId read = .ok value := by
  have hurl : ∀ e, IsUrlText (svc.signPayload e) := fun e => isUrlText_signPayload e
  constructor
  · intro h
    unfold verify at h
    split at h
    case h_2 => cases h
    case h_1 e s more hsplit =>
      obtain ⟨he, hs, rest, rfl, hrest⟩ := splitOn_eq_cons_cons.mp ⟨more, hsplit⟩
      split at h
      case isTrue => cases h
      case isFalse hempty =>
        split at h
        case isTrue => cases h
        case isFalse hmac =>
          -- the second part must be the signature of the first
          rw [Bool.not_eq_false, signatureEquals_iff (hurl e)] at hmac
          subst hmac
          refine ⟨e, rest, hrest, rfl, he, (not_or.mp hempty).1, ?_⟩
          cases hread : svc.readPayload e with
          | error err => rw [hread] at h; cases h
          | ok read => rw [hread] at h; exact ⟨read, rfl, h⟩
  · rintro ⟨e, rest, hrest, rfl, he, hne, read, hread, hcheck⟩
    obtain ⟨more, hsplit⟩ := splitOn_eq_cons_cons.mpr ⟨he, (hurl e).dot_not_mem, rest, rfl, hrest⟩
    have hparts : ¬ (e = [] ∨ codeUnits (svc.signPayload e) = []) :=
      not_or.mpr ⟨hne, codeUnits_ne_nil (signPayload_ne_nil e)⟩
    have hmac : ¬ signatureEquals (codeUnits (svc.signPayload e)) (svc.signPayload e) = false := by
      rw [Bool.not_eq_false]
      exact (signatureEquals_iff (hurl e)).mpr rfl
    rw [verify, hsplit]
    simp only [if_neg hparts, if_neg hmac, hread]
    exact hcheck

/-! ## The checks of a signed payload

A payload that was signed has all its fields, so that two checks are left: the sandbox it is for,
and the time. -/

/-- The seconds in which a date can lie. -/
def InRange (exp : Int) : Prop := -8640000000000 ≤ exp ∧ exp ≤ 8640000000000

/-- A number of seconds has not expired until the second it names. -/
theorem hasExpired_number {exp now : Int} (hexp : InRange exp) :
    hasExpired (some (.number exp)) now = false ↔ now / 1000 < exp := by
  have hbound : (8640000000000 : Int) < infinity := by decide +kernel
  have hlow : -infinity < exp := by have := hexp.1; omega
  have hhigh : exp < infinity := by have := hexp.2; omega
  simp only [hasExpired, Rat.intCast_lt_intCast, Rat.intCast_le_intCast, hlow, hhigh, decide_true,
    Bool.and_self, Bool.not_true, Bool.false_or, decide_eq_false_iff_not, Int.not_le]

/-- A signed payload passes the checks for its sandbox until it expires. -/
theorem checkPayload_toValue {now : Int} {sandboxId : JsString} {value : Value}
    (haud : payload.aud = audience) (hsub : payload.sub = payload.sandboxId)
    (hexp : InRange payload.exp) :
    checkPayload now sandboxId payload.toValue = .ok value ↔
      (sandboxId = payload.sandboxId ∧ now / 1000 < payload.exp) ∧ value = payload.toValue := by
  have hget : Value.get (readFields payload.members) (jsString "aud") =
        some (.string payload.aud) ∧
      Value.get (readFields payload.members) (jsString "sandboxId") =
        some (.string payload.sandboxId) ∧
      Value.get (readFields payload.members) (jsString "sub") = some (.string payload.sub) ∧
      Value.get (readFields payload.members) (jsString "exp") = some (.number payload.exp) :=
    ⟨rfl, rfl, rfl, rfl⟩
  obtain ⟨haud', hid', hsub', hexp'⟩ := hget
  rw [ProxyTokenPayload.toValue, checkPayload]
  simp only [haud', hid', hsub', hexp', isString, haud, hsub]
  -- another sandbox is refused, whatever else the payload says
  by_cases hid : payload.sandboxId = sandboxId
  · subst hid
    -- the two clocks are compared in whole seconds
    by_cases hlive : now / 1000 < payload.exp
    · have hunexpired : hasExpired (some (.number payload.exp)) now = false :=
        (hasExpired_number hexp).mpr hlive
      simp [hunexpired, hlive, eq_comm]
    · have hexpired : hasExpired (some (.number payload.exp)) now = true := by
        rw [← Bool.not_eq_false]
        exact mt (hasExpired_number hexp).mp hlive
      simp [hexpired, hlive]
  · simp [hid, Ne.symm hid]

/-! ## Issued tokens

What `sign` returns, `verify` accepts for the right sandbox until it expires; and since the parts
after the second are not looked at, so it does with any tail. -/

/-- A token with a tail is accepted like the token itself. -/
theorem verify_tokenOf_append {now : Int} {sandboxId rest : JsString} {value : Value}
    (haud : payload.aud = audience) (hsub : payload.sub = payload.sandboxId)
    (hexp : InRange payload.exp) (hrest : IsTokenTail rest) :
    svc.verify now (svc.tokenOf payload ++ rest) sandboxId = .ok value ↔
      (sandboxId = payload.sandboxId ∧ now / 1000 < payload.exp) ∧ value = payload.toValue := by
  have henc : dot ∉ codeUnits (encodePayload payload) :=
    (isUrlText_encodePayload payload).dot_not_mem
  have htoken : svc.tokenOf payload ++ rest = codeUnits (encodePayload payload) ++
      dot :: (codeUnits (svc.signPayload (codeUnits (encodePayload payload))) ++ rest) := by
    rw [tokenOf, List.append_assoc, List.cons_append]
  rw [verify_ok_iff, ← checkPayload_toValue haud hsub hexp, htoken]
  constructor
  · rintro ⟨e, rest', -, heq, he, -, read, hread, hcheck⟩
    -- the first part ends at the first dot
    have hsplit := congrArg (List.splitOn dot) heq
    rw [List.splitOn_append_cons_self_of_not_mem henc,
      List.splitOn_append_cons_self_of_not_mem he, List.cons.injEq] at hsplit
    rw [← hsplit.1, readPayload_encodePayload] at hread
    rw [Except.ok.inj hread]
    exact hcheck
  · intro hcheck
    exact ⟨_, rest, hrest, rfl, henc, codeUnits_ne_nil (encodePayload_ne_nil payload), _,
      readPayload_encodePayload, hcheck⟩

/-- What `sign` returns. -/
theorem sign_eq_ok {now : Int} {sandboxId runtimeId sandboxName : JsString} {signed : SignedToken}
    (h : svc.sign now sandboxId runtimeId sandboxName = .ok signed) :
    signed.token = svc.tokenOf (svc.payload now sandboxId runtimeId sandboxName) ∧
      signed.expiresAt / 1000 = (svc.payload now sandboxId runtimeId sandboxName).exp ∧
      InRange (svc.payload now sandboxId runtimeId sandboxName).exp := by
  unfold sign SshSession.toISOString at h
  split at h
  case isTrue hdate =>
    rw [← Except.ok.inj h]
    refine ⟨rfl, rfl, ?_⟩
    simp only [SshSession.maxDate] at hdate
    simp only [InRange, payload]
    omega
  case isFalse => cases h

end Parts

/-! ### A service to try it on

The digest is a parameter, for which the real one is put in on one message: the HMAC of the test
payload. On all other messages it only has to tell them apart. -/

/-- What `testService` signs. -/
def testPayload : ProxyTokenPayload :=
  { sub := jsString "runtime-1"
    aud := audience
    sandboxId := jsString "runtime-1"
    sandbox := jsString "sandbox-1"
    runtimeId := jsString "id-1"
    exp := 3600 }

/-- HMAC-SHA256 of the test payload under the key `test-secret`. -/
def testMac : List UInt8 :=
  [234, 111, 48, 171, 9, 199, 169, 133, 83, 226, 77, 56, 69, 217, 150, 68, 235, 93, 45, 82, 28,
    197, 63, 227, 17, 55, 231, 122, 162, 112, 131, 56]

/-- A digest that is right for the test payload and tells all messages apart. -/
def testDigest (message : List UInt8) : List UInt8 :=
  if message = encodeUtf8 (encodePayload testPayload) then testMac
  else List.replicate 33 0 ++ message

theorem testDigest_injective : Function.Injective testDigest := by
  intro m m' h
  unfold testDigest at h
  split_ifs at h with hm hm'
  · rw [hm, hm']
  · exact absurd (congrArg List.length h) (by simp [testMac])
  · exact absurd (congrArg List.length h) (by simp [testMac])
  · exact List.append_cancel_left h

/-- A service with this digest. -/
def testService : ProxyTokenService where
  connectionTtlSeconds := 3600
  proxyTokenSecret := jsString "test-secret"
  hmac :=
    { digest := fun _ => testDigest
      digest_ne_nil := by
        intro _ message
        unfold testDigest
        split <;> simp [testMac] }
  syntaxError := fun _ => "Unexpected end of JSON input"

/-- A call of `sign`. -/
structure SignCall where
  now : Int
  sandboxId : JsString
  runtimeId : JsString
  sandboxName : JsString

/-- What the call returns. -/
def SignCall.result (svc : ProxyTokenService) (call : SignCall) : Except ServiceError SignedToken :=
  svc.sign call.now call.sandboxId call.runtimeId call.sandboxName

/-- What it signs. -/
def SignCall.payload (svc : ProxyTokenService) (call : SignCall) : ProxyTokenPayload :=
  svc.payload call.now call.sandboxId call.runtimeId call.sandboxName

/-- One of the calls returned `token` for this sandbox, and it has not expired. -/
def Issued (calls : List SignCall) (now : Int) (sandboxId token : JsString) : Prop :=
  ∃ call ∈ calls, ∃ signed, call.result svc = .ok signed ∧ call.sandboxId = sandboxId ∧
    signed.token = token ∧ now / 1000 < signed.expiresAt / 1000

/-- Only `sign` evaluates the MAC: where the string has one between its dots, it is the one of a
payload that was signed. -/
def OnlySigned (calls : List SignCall) (token : JsString) : Prop :=
  ∀ e, codeUnits (svc.signPayload e) ∈ token.splitOn dot →
    ∃ call ∈ calls, (∃ signed, call.result svc = .ok signed) ∧
      svc.signPayload e = svc.signPayload (codeUnits (encodePayload (call.payload svc)))

section Unforged

variable {svc : ProxyTokenService} {calls : List SignCall} {now : Int} {sandboxId token : JsString}

/-- A call that returns has returned the token of its payload. -/
theorem SignCall.result_eq_ok {call : SignCall} {signed : SignedToken}
    (h : call.result svc = .ok signed) :
    signed.token = svc.tokenOf (call.payload svc) ∧
      signed.expiresAt / 1000 = (call.payload svc).exp ∧ InRange (call.payload svc).exp :=
  sign_eq_ok h

/-- With an injective digest the MAC tells the payload. -/
theorem eq_of_signPayload
    (hinj : Function.Injective (svc.hmac.digest (buffer svc.proxyTokenSecret)))
    {e : JsString} {payload : ProxyTokenPayload}
    (h : svc.signPayload e = svc.signPayload (codeUnits (encodePayload payload))) :
    e = codeUnits (encodePayload payload) := by
  have hbuffer : buffer e = buffer (codeUnits (encodePayload payload)) :=
    hinj (encodeUrl_injective h)
  have hscalars := encodeUtf8_injective hbuffer
  rw [toScalars_codeUnits] at hscalars
  exact eq_codeUnits_of_toScalars hscalars
    (isUrlText_encodePayload payload).replacement_not_mem

/-- What is accepted begins with an issued token. -/
theorem issued_of_verify
    (hinj : Function.Injective (svc.hmac.digest (buffer svc.proxyTokenSecret)))
    (honly : svc.OnlySigned calls token) {value : Value}
    (h : svc.verify now token sandboxId = .ok value) :
    ∃ issued rest, svc.Issued calls now sandboxId issued ∧ IsTokenTail rest ∧
      token = issued ++ rest := by
  obtain ⟨e, rest, hrest, htoken, he, -⟩ := verify_ok_iff.mp h
  have hmacText : IsUrlText (svc.signPayload e) := isUrlText_signPayload e
  have hpart : codeUnits (svc.signPayload e) ∈ token.splitOn dot := by
    obtain ⟨more, hsplit⟩ := splitOn_eq_cons_cons.mpr
      ⟨he, hmacText.dot_not_mem, rest, htoken, hrest⟩
    rw [hsplit]
    simp
  -- the part was signed for an issued token, and equal signatures have equal texts
  obtain ⟨call, hcall, ⟨signed, hsigned⟩, hmac⟩ := honly e hpart
  obtain ⟨hsignedToken, hexpires, hrange⟩ := SignCall.result_eq_ok hsigned
  have htail : token = svc.tokenOf (call.payload svc) ++ rest := by
    rw [htoken, eq_of_signPayload hinj hmac, tokenOf, List.append_assoc, List.cons_append]
  rw [htail, verify_tokenOf_append rfl rfl hrange hrest] at h
  refine ⟨_, rest, ⟨call, hcall, signed, hsigned, h.1.1.symm, hsignedToken, ?_⟩, hrest, htail⟩
  rw [hexpires]
  exact h.1.2

/-- An issued token has one dot. -/
theorem Issued.count_dot (h : svc.Issued calls now sandboxId token) : token.count dot = 1 := by
  obtain ⟨call, -, signed, hsigned, -, rfl, -⟩ := h
  rw [(SignCall.result_eq_ok hsigned).1, tokenOf, List.count_append, List.count_cons_self,
    List.count_eq_zero_of_not_mem (isUrlText_encodePayload _).dot_not_mem,
    List.count_eq_zero_of_not_mem (isUrlText_signPayload _).dot_not_mem]

/-- An issued token is accepted with any tail. -/
theorem Issued.verify_append (h : svc.Issued calls now sandboxId token) {rest : JsString}
    (hrest : IsTokenTail rest) : ∃ value, svc.verify now (token ++ rest) sandboxId = .ok value := by
  obtain ⟨call, -, signed, hsigned, rfl, rfl, hlive⟩ := h
  obtain ⟨htoken, hexpires, hrange⟩ := SignCall.result_eq_ok hsigned
  rw [hexpires] at hlive
  rw [htoken]
  exact ⟨_, (verify_tokenOf_append rfl rfl hrange hrest).mpr ⟨⟨rfl, hlive⟩, rfl⟩⟩

/-- **When a string is accepted only if it was issued.** An accepted string is an issued unexpired
token of the sandbox exactly if it does not go on with a dot after one. -/
theorem proxy_token_exact_iff
    (hinj : Function.Injective (svc.hmac.digest (buffer svc.proxyTokenSecret)))
    (honly : svc.OnlySigned calls token) :
    ((∃ value, svc.verify now token sandboxId = .ok value) →
        svc.Issued calls now sandboxId token) ↔
      ¬ ∃ issued rest, svc.Issued calls now sandboxId issued ∧ token = issued ++ dot :: rest := by
  constructor
  · rintro hexact ⟨issued, rest, hissued, rfl⟩
    have hone := (hexact (hissued.verify_append (Or.inr ⟨rest, rfl⟩))).count_dot
    rw [List.count_append, hissued.count_dot, List.count_cons_self] at hone
    omega
  · rintro hno ⟨value, hvalue⟩
    obtain ⟨issued, rest, hissued, rfl | ⟨more, rfl⟩, rfl⟩ := issued_of_verify hinj honly hvalue
    · rwa [List.append_nil]
    · exact absurd ⟨issued, more, hissued, rfl⟩ hno

end Unforged

/-! ### A string that was not issued

The tail `.x` after an issued token. -/

/-- The one call of the test. -/
def testCall : SignCall := ⟨0, jsString "runtime-1", jsString "id-1", jsString "sandbox-1"⟩

/-- What it returns. -/
def testToken : JsString := testService.tokenOf testPayload

theorem testToken_issued : testService.Issued [testCall] 0 (jsString "runtime-1") testToken :=
  ⟨testCall, List.mem_singleton_self _, ⟨testToken, 3600000⟩, rfl, rfl, rfl, by decide⟩

/-- A payload begins with a brace, and the MACs of the test service do not. -/
theorem head_encodePayload (payload : ProxyTokenPayload) :
    (encodePayload payload).head? = some 'e' := rfl

/-- The signatures of the test service begin with one of two letters. -/
theorem head_signPayload (e : JsString) : (testService.signPayload e).head? = some '6' ∨
    (testService.signPayload e).head? = some 'A' := by
  show (encodeUrl (testDigest (buffer e))).head? = some '6' ∨
    (encodeUrl (testDigest (buffer e))).head? = some 'A'
  unfold testDigest
  split
  · exact Or.inl rfl
  · exact Or.inr rfl

/-- The token with `.x` after it holds one MAC, which was issued. -/
theorem onlySigned_appended :
    testService.OnlySigned [testCall] (testToken ++ dot :: jsString "x") := by
  intro e he
  -- neither the payload nor the MAC has a dot in it
  have hsplit : (testToken ++ dot :: jsString "x").splitOn dot =
      [codeUnits (encodePayload testPayload),
        codeUnits (testService.signPayload (codeUnits (encodePayload testPayload))),
        jsString "x"] := by
    rw [testToken, tokenOf, List.append_assoc, List.cons_append,
      List.splitOn_append_cons_self_of_not_mem (isUrlText_encodePayload _).dot_not_mem,
      List.splitOn_append_cons_self_of_not_mem (isUrlText_signPayload _).dot_not_mem]
    rfl
  rw [hsplit] at he
  have hhead := head_signPayload e
  -- of the three parts, only the second begins as a MAC does
  rcases List.mem_cons.mp he with heq | he
  · rw [codeUnits_injective heq, head_encodePayload] at hhead
    simp at hhead
  · rcases List.mem_cons.mp he with heq | he
    · exact ⟨testCall, List.mem_singleton_self _, ⟨⟨testToken, 3600000⟩, rfl⟩,
        codeUnits_injective heq⟩
    · rw [codeUnits_injective (List.mem_singleton.mp he)] at hhead
      simp at hhead

/-- The condition fails for an issued token with `.x` after it. -/
theorem proxy_token_exact_iff_appended :
    ((∃ value, testService.verify 0 (testToken ++ dot :: jsString "x") (jsString "runtime-1") =
        .ok value) →
      testService.Issued [testCall] 0 (jsString "runtime-1") (testToken ++ dot :: jsString "x")) ↔
    ¬ ∃ issued rest, testService.Issued [testCall] 0 (jsString "runtime-1") issued ∧
      testToken ++ dot :: jsString "x" = issued ++ dot :: rest :=
  proxy_token_exact_iff testDigest_injective onlySigned_appended

/-- An issued token with `.x` after it is accepted, and it was never issued. -/
theorem appended_text_accepted :
    Function.Injective (testService.hmac.digest (buffer testService.proxyTokenSecret)) ∧
    testService.OnlySigned [testCall] (testToken ++ dot :: jsString "x") ∧
    (∃ value, testService.verify 0 (testToken ++ dot :: jsString "x") (jsString "runtime-1") =
      .ok value) ∧
    ¬ testService.Issued [testCall] 0 (jsString "runtime-1")
      (testToken ++ dot :: jsString "x") := by
  refine ⟨testDigest_injective, onlySigned_appended,
    testToken_issued.verify_append (Or.inr ⟨_, rfl⟩), fun hissued => ?_⟩
  have hone := hissued.count_dot
  rw [List.count_append, testToken_issued.count_dot, List.count_cons_self] at hone
  omega

end ProxyTokenService

end Microsandbox
