import MicrosandboxCloud.ProxyToken
import MicrosandboxCloud.Routes
import MicrosandboxCloud.SessionLimits
import MicrosandboxCloud.Process.Refine
import MicrosandboxCloud.Text.Instant
import MicrosandboxCloud.Text.Query

/-!
# Microsandbox — the SSH gateway in front of the API

`handleConnection` and `validateToken` of the gateway, with the API's handler in between. The user
name of a client travels to the API as a query parameter, and the session comes back as JSON whose
expiry is a text.

* **`clientDo`** — a request to the API: it may not get there, and its answer may not come back.
* **`readTarget`** — what the gateway reads of an answer; `readTarget_validateBody` says which
  sessions it takes.
* **`handleConnection`** — one connection, from the handshake to the last `Close`.
* **`Bridging`** — connections and requests to the API interleave at their awaits.
-/

namespace Microsandbox

open Process Data Text

namespace SshGateway

/-! ## What a connection asks for

The gateway, the API and the clients run side by side, so that what `handleConnection` awaits is one
kind of request with what the handlers of the API await. `client.Do` runs the handler of the API in
between. -/

/-- What `handleConnection` closes. -/
inductive Link where
  | tcp
  | client
  | sandbox
  deriving DecidableEq

/-- The requests of an API handler are the gateway's too, while it waits for the answer. -/
inductive GatewayRequest where
  /-- a request of a handler of the API -/
  | api (op : Request)
  /-- `gossh.NewServerConn`: the user name of a client that gets through -/
  | handshake
  /-- a request gets to the API -/
  | send
  /-- its answer comes back within the ten seconds of the client -/
  | receive
  | now
  /-- `gossh.Dial` -/
  | dial (address : List Char)
  /-- the channels of the client until it is gone, under `enforceSessionLimits` -/
  | serve (limits : SessionLimits)
  | close (link : Link)

/-- The handshake returns the user name of the client, as the bytes it sent. -/
@[reducible] def GatewayRequest.Reply : GatewayRequest → Type
  | .api op => op.Reply
  | .handshake => Option (List UInt8)
  | .send => Bool
  | .receive => Bool
  | .now => Int
  | .dial _ => Bool
  | .serve _ => Unit
  | .close _ => Unit

abbrev gatewayRequests : Signature := ⟨GatewayRequest, GatewayRequest.Reply⟩

abbrev Gatewaying (α : Type) := Prog gatewayRequests ServiceError α

abbrev awaitGateway (op : GatewayRequest) : Gatewaying op.Reply :=
  Prog.request (σ := gatewayRequests) op

/-- A handler of the API. -/
def handled {α : Type} (p : Async α) : Gatewaying α := p.implement fun op => awaitGateway (.api op)

/-- `client.Do(req)`: the answer, if one comes back in time. -/
def clientDo (api : ApiConfig) (req : HttpRequest) :
    Gatewaying (Option (Except ServiceError HttpReply)) := do
  if ← awaitGateway .send then
    let answer ← handled (req.prog api).attempt
    if ← awaitGateway .receive then return some answer else return none
  else return none

/-! ## The request

A token goes from the user name of a client into a query parameter: the bytes are escaped in Go and
unescaped in JavaScript. -/

/-- The settings of the gateway. -/
structure GatewayConfig where
  apiKey : String
  idleTimeout : Int

/-- What `textproto` trims. -/
def isHeaderSpace (c : Char) : Bool := c ∈ [' ', '\t', '\n', '\r']

/-- `textproto.TrimString(s)`, which a header's value goes through. -/
def trimString (s : List Char) : List Char :=
  ((s.dropWhile isHeaderSpace).reverse.dropWhile isHeaderSpace).reverse

/-- The value of the header, trimmed as it is sent. -/
def authorization (cfg : GatewayConfig) : HeaderValue :=
  .single (String.ofList (trimString ("Bearer " ++ cfg.apiKey).toList))

/-- The name of the parameter. -/
def tokenKey : List Char := "token".toList

/-- The query that the gateway writes. -/
def validateQuery (token : List UInt8) : List Char := Query.encode tokenKey token

/-- `@Query('token')` -/
def queryToken (query : List Char) : String := (Query.parameter tokenKey query).getD ""

/-- The one request of the gateway to the API. -/
def validateRequest (cfg : GatewayConfig) (token : List UInt8) : HttpRequest where
  authorization := some (authorization cfg)
  route := .validateToken (queryToken (validateQuery token))

/-! ## The answer

The session comes back as the JSON text of an object. Go reads the fields that it knows by their
names, and refuses a field of another type. -/

/-- The object that the handler returns. -/
def validateMembers (result : SshValidateResult) : List (JsString × JsonParse.Flat) :=
  [(jsString "sandboxId", .string (jsString result.sandboxId)),
    (jsString "hostPort", .number result.hostPort),
    (jsString "expiresAt", .string (codeUnits (Instant.toISOString result.expiresAt)))]

/-- The text that `res.json` sends. -/
def validateBody (result : SshValidateResult) : List Char :=
  JsonParse.objectText (validateMembers result)

/-- The body of an answer with status 200. -/
def okBody : Except ServiceError HttpReply → Option (List Char)
  | .ok (.sessionValid result) => some (validateBody result)
  | _ => none

/-- The fields that the gateway decodes. -/
structure ValidateResponse where
  sandboxID : List Char
  hostPort : Int
  expiresAt : List Char

/-- A field of type `string`: `null` and a missing member leave it empty. -/
def stringField : Option JsonParse.Value → Option (List Char)
  | none => some []
  | some .null => some []
  | some (.string s) => some (toScalars s)
  | some _ => none

/-- The range of Go's `int`. -/
def IsInt64 (n : Int) : Prop := -9223372036854775808 ≤ n ∧ n ≤ 9223372036854775807

instance (n : Int) : Decidable (IsInt64 n) := by
  unfold IsInt64
  infer_instance

/-- A field of type `int`. -/
def intField : Option JsonParse.Value → Option Int
  | none => some 0
  | some .null => some 0
  | some (.number x) => if x.den = 1 ∧ IsInt64 x.num then some x.num else none
  | some _ => none

/-- `json.NewDecoder(resp.Body).Decode(&result)` -/
def decodeResponse (body : List Char) : Option ValidateResponse :=
  match JsonParse.parse body with
  | some .null => some ⟨[], 0, []⟩
  | some (.object fields) => do
    let sandboxID ← stringField (JsonParse.Value.get fields (jsString "sandboxId"))
    let hostPort ← intField (JsonParse.Value.get fields (jsString "hostPort"))
    let expiresAt ← stringField (JsonParse.Value.get fields (jsString "expiresAt"))
    return ⟨sandboxID, hostPort, expiresAt⟩
  | _ => none

/-- The end of `validateToken`. -/
def readTarget (body : List Char) : Option ValidateResponse :=
  match decodeResponse body with
  | none => none
  | some result => if result.hostPort = 0 then none else some result

/-- An answer other than 200, a body that cannot be decoded and the port 0 all come to nothing. -/
def validateToken (api : ApiConfig) (cfg : GatewayConfig) (token : List UInt8) :
    Gatewaying (Option ValidateResponse) := do
  match ← clientDo api (validateRequest cfg token) with
  | none => return none
  | some answer =>
    match okBody answer with
    | none => return none
    | some body => return readTarget body

/-! ## A connection

`handleConnection` from the handshake to the end: validate the token, dial the sandbox, and serve
the client under the limits of the session. Whatever is opened is closed by a deferred call. -/

/-- `fmt.Sprintf("127.0.0.1:%d", target.HostPort)` -/
def sandboxAddr (hostPort : Int) : List Char := "127.0.0.1:".toList ++ Json.intText hostPort

/-- The zero `time.Time`, in nanoseconds of Unix time. -/
def zeroTime : Int := -62135596800000000000

/-- The zero time is no expiry. -/
def sessionLimits (cfg : GatewayConfig) (expiresAt : Int) : SessionLimits where
  expiresAt := if expiresAt = zeroTime then none else some expiresAt
  idleTimeout := cfg.idleTimeout

/-- `conn.Close(); return`, with the deferred `tcpConn.Close()`. -/
def refuse : Gatewaying Unit := do
  awaitGateway (.close .client)
  awaitGateway (.close .tcp)

/-- Dial the sandbox and serve the client, with the deferred calls in reverse. -/
def serveSandbox (cfg : GatewayConfig) (target : ValidateResponse) (expiresAt : Int) :
    Gatewaying Unit := do
  if ← awaitGateway (.dial (sandboxAddr target.hostPort)) then
    awaitGateway (.serve (sessionLimits cfg expiresAt))
    awaitGateway (.close .sandbox)
    awaitGateway (.close .tcp)
  else refuse

/-- From the validated token on. -/
def connectTarget (cfg : GatewayConfig) (target : ValidateResponse) : Gatewaying Unit := do
  match Instant.parseRFC3339 target.expiresAt with
  | none => refuse
  | some expiresAt => do
    let now ← awaitGateway .now
    -- `!expiresAt.After(time.Now())`
    if now < expiresAt then serveSandbox cfg target expiresAt else refuse

/-- Without a handshake there is nothing to serve. -/
def handleConnection (api : ApiConfig) (cfg : GatewayConfig) : Gatewaying Unit := do
  match ← awaitGateway .handshake with
  | none => awaitGateway (.close .tcp)
  | some token => do
    match ← validateToken api cfg token with
    | none => refuse
    | some target => connectTarget cfg target

/-! ## Connections and requests together

Connections of the gateway and requests to the API are parties of one pool. The store is the API's,
and the gateway has no state of its own. -/

/-- What the environment decides for the gateway. -/
structure GatewayAnswer where
  api : Answer := {}
  user : Option (List UInt8) := none
  arrives : Bool := true
  clock : Int := 0
  connects : Bool := true

instance : Inhabited GatewayAnswer := ⟨{}⟩

/-- Requests of the API act on its world; the rest is decided by the environment alone. -/
def gatewayAct : (op : GatewayRequest) → GatewayAnswer → World → Option (op.Reply × World)
  | .api op, a, s => act op a.api s
  | .handshake, a, s => some (a.user, s)
  | .send, a, s => some (a.arrives, s)
  | .receive, a, s => some (a.arrives, s)
  | .now, a, s => some (a.clock, s)
  | .dial _, a, s => some (a.connects, s)
  | .serve _, _, s => some ((), s)
  | .close _, _, s => some ((), s)

/-- The world behind both. -/
def gatewayBackend : Handler gatewayRequests World GatewayAnswer := ⟨gatewayAct⟩

/-- A connection of the gateway, or a request to the API from elsewhere. -/
inductive Party where
  | connection
  | request (req : HttpRequest)

/-- What a party ends with. -/
inductive PartyEnd where
  | disconnected
  | answered (answer : Except ServiceError HttpReply)

/-- A connection runs the gateway's code, and a request the API's. -/
def Party.prog (api : ApiConfig) (cfg : GatewayConfig) : Party → Gatewaying PartyEnd
  | .connection => do
    handleConnection api cfg
    return .disconnected
  | .request req => return .answered (← handled (req.prog api).attempt)

/-- The steps of all parties, oldest first. -/
abbrev GatewayHistory (ι : Type) := List (ι × Event gatewayRequests World GatewayAnswer)

/-- The parties of `ι`, all at their start in `s`. -/
def meeting {ι : Type} (api : ApiConfig) (cfg : GatewayConfig) (parties : ι → Party) (s : World) :
    Pool gatewayRequests ServiceError PartyEnd World ι :=
  ⟨fun i => (parties i).prog api cfg, s⟩

/-- The pools that connections and requests reach when they interleave at their awaits. -/
def Bridging {ι : Type} [DecidableEq ι] (api : ApiConfig) (cfg : GatewayConfig)
    (parties : ι → Party) (s : World) (tr : GatewayHistory ι)
    (c : Pool gatewayRequests ServiceError PartyEnd World ι) : Prop :=
  Pool.Run gatewayBackend (fun _ _ _ => True) (meeting api cfg parties s) tr c

/-! ## Which sessions the gateway takes

The writer and the reader of a session put together. The port is a number of digits for both, as
long as JavaScript prints all of them; the expiry is a date that RFC 3339 can write in the years
from 0 to 9999 only. -/

/-- The years that RFC 3339 can write, in milliseconds of Unix time. -/
def HasYear (ms : Int) : Prop := -62167219200000 ≤ ms ∧ ms < 253402300800000

/-- In days and years, the expiry has a year of four digits. -/
theorem hasYear_iff (ms : Int) :
    HasYear ms ↔ 0 ≤ Calendar.yearFromDay (ms / Instant.msPerDay) ∧
      Calendar.yearFromDay (ms / Instant.msPerDay) ≤ 9999 := by
  rw [Calendar.le_yearFromDay, Calendar.yearFromDay_le]
  have hfirst : Calendar.dayFromYear 0 = -719528 := by decide
  have hlast : Calendar.dayFromYear (9999 + 1) = 2932897 := by decide
  rw [hfirst, hlast, HasYear, Instant.msPerDay]
  omega

/-- Of a session, the gateway takes a port that is not zero and a year of four digits. -/
def Takes (result : SshValidateResult) : Prop :=
  result.hostPort ≠ 0 ∧ IsInt64 result.hostPort ∧ HasYear result.expiresAt

/-- The instant at which a session expires, in nanoseconds. -/
def expiryNs (result : SshValidateResult) : Int := result.expiresAt * 1000000

/-- The session as the gateway has it. -/
def targetOf (result : SshValidateResult) : ValidateResponse where
  sandboxID := result.sandboxId.toList
  hostPort := result.hostPort
  expiresAt := Instant.toISOString result.expiresAt

/-- What the API writes the gateway reads, if the port is one of Go's. -/
theorem readTarget_validateBody (result : SshValidateResult) :
    readTarget (validateBody result) =
      if result.hostPort ≠ 0 ∧ IsInt64 result.hostPort then some (targetOf result) else none := by
  have hget : JsonParse.Value.get (JsonParse.readFields (validateMembers result))
          (jsString "sandboxId") = some (.string (jsString result.sandboxId)) ∧
      JsonParse.Value.get (JsonParse.readFields (validateMembers result)) (jsString "hostPort") =
        some (.number result.hostPort) ∧
      JsonParse.Value.get (JsonParse.readFields (validateMembers result)) (jsString "expiresAt") =
        some (.string (codeUnits (Instant.toISOString result.expiresAt))) :=
    ⟨rfl, rfl, rfl⟩
  obtain ⟨hid, hport, hexpiry⟩ := hget
  -- Go decodes a number into an `int`, and refuses one that is none
  have hint : intField (some (.number result.hostPort)) =
      if IsInt64 result.hostPort then some result.hostPort else none := by
    simp [intField]
  have hdecoded : decodeResponse (validateBody result) =
      if IsInt64 result.hostPort then some (targetOf result) else none := by
    rw [decodeResponse, validateBody, JsonParse.parse_objectText]
    dsimp only
    rw [hid, hport, hexpiry, hint]
    simp only [stringField, jsString, toScalars_codeUnits]
    split_ifs <;> rfl
  rw [readTarget, hdecoded]
  -- a session without a port is refused after decoding
  by_cases hint : IsInt64 result.hostPort
  · rw [if_pos hint]
    by_cases hzero : result.hostPort = 0
    · rw [if_neg (fun h => h.1 hzero)]
      exact if_pos hzero
    · rw [if_pos ⟨hzero, hint⟩]
      exact if_neg hzero
  · rw [if_neg hint, if_neg (fun h => hint h.2)]

/-- The expiry is read exactly when its year has four digits, and as the instant that was written. -/
theorem parse_expiry (result : SshValidateResult) :
    (HasYear result.expiresAt →
      Instant.parseRFC3339 (targetOf result).expiresAt = some (expiryNs result)) ∧
    (¬ HasYear result.expiresAt → Instant.parseRFC3339 (targetOf result).expiresAt = none) := by
  rw [targetOf, Instant.parseRFC3339_toISOString, hasYear_iff]
  exact ⟨fun h => if_pos h, fun h => if_neg h⟩

instance (ms : Int) : Decidable (HasYear ms) := inferInstanceAs (Decidable (_ ∧ _))

instance (result : SshValidateResult) : Decidable (Takes result) :=
  inferInstanceAs (Decidable (_ ∧ _ ∧ _))

/-- `Number.isSafeInteger`: from here on `JSON.stringify` prints the shortest digits that read back,
and not all of them. -/
def IsSafeInteger (n : Int) : Prop := -9007199254740991 ≤ n ∧ n ≤ 9007199254740991

instance (n : Int) : Decidable (IsSafeInteger n) := inferInstanceAs (Decidable (_ ∧ _))

/-- What the gateway makes of an answer: where to dial, and until when. -/
def readSession (body : List Char) : Option (List Char × Int) :=
  (readTarget body).bind fun target =>
    (Instant.parseRFC3339 target.expiresAt).map fun expiresAt =>
      (sandboxAddr target.hostPort, expiresAt)

/-- Read back is what was written, or nothing. -/
theorem readSession_validateBody (result : SshValidateResult) :
    readSession (validateBody result) =
      if Takes result then some (sandboxAddr result.hostPort, expiryNs result) else none := by
  rw [readSession, readTarget_validateBody]
  by_cases hport : result.hostPort ≠ 0 ∧ IsInt64 result.hostPort
  · rw [if_pos hport, Option.bind_some]
    by_cases hyear : HasYear result.expiresAt
    · rw [(parse_expiry result).1 hyear, if_pos ⟨hport.1, hport.2, hyear⟩]
      rfl
    · rw [(parse_expiry result).2 hyear, if_neg fun h => hyear h.2.2]
      rfl
  · rw [if_neg hport, if_neg fun h => hport ⟨h.1, h.2.1⟩]
    rfl

/-- **The session on the wire.** What the gateway dials and when it will stop are those of the
session that the API has put into its answer, or it refuses: just when the port is zero or the year
of the expiry has not four digits. -/
theorem session_on_the_wire (result : SshValidateResult) (hport : IsSafeInteger result.hostPort) :
    readSession (validateBody result) =
      if result.hostPort ≠ 0 ∧ HasYear result.expiresAt then
        some (sandboxAddr result.hostPort, expiryNs result) else none := by
  have hint : IsInt64 result.hostPort := by
    unfold IsSafeInteger at hport
    unfold IsInt64
    omega
  rw [readSession_validateBody]
  refine if_congr ⟨fun h => ⟨h.1, h.2.2⟩, fun h => ⟨h.1, hint, h.2⟩⟩ rfl rfl

/-- A session that ends with the year 9999, and one that ends a millisecond later. -/
theorem session_on_the_wire_9999 :
    readSession (validateBody ⟨"a", 31000, 253402300799999⟩) =
        some ("127.0.0.1:31000".toList, 253402300799999000000) ∧
      readSession (validateBody ⟨"a", 31000, 253402300800000⟩) = none := by
  constructor
  · exact session_on_the_wire ⟨"a", 31000, 253402300799999⟩ (by decide)
  · exact session_on_the_wire ⟨"a", 31000, 253402300800000⟩ (by decide)

/-- **The token on the wire.** Whatever text a client gives as its user name, that text is the token
that the API looks up. -/
theorem token_on_the_wire (token : String) :
    queryToken (validateQuery (encodeUtf8 token.toList)) = token := by
  have hkey : ∀ c ∈ tokenKey, c ≠ '=' ∧ c ≠ '&' := by
    simp [tokenKey]
  rw [queryToken, validateQuery, Query.parameter_encode hkey, Option.getD_some,
    String.ofList_toList]

end SshGateway

end Microsandbox
