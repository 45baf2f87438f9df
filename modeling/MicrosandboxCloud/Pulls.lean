import MicrosandboxCloud.Entities
import MicrosandboxCloud.Process.Transcript

/-!
# Microsandbox — image pulls and registry credentials

`pullImage` of `MicrosandboxAdapterService`. `msb registry login` and `logout` set and clear the
host's one credential for a registry server, and every `msb pull` uses what is set.

* **`pullImage`** — the cached image, else an anonymous pull, and when that fails a second pull
  between a login and a logout.
* **`NoCrossing`** — no login or logout takes effect while another request is between its login and
  its second pull, and no anonymous pull starts before every login for its server is undone.
* **`credentials_stay`** — then every second pull runs with the request's own credential, and every
  anonymous one with nobody's.
-/

namespace Microsandbox

open Process Text

/-! ## The requests

`msb` keeps one credential for each registry server on the host. A login sets it, a logout clears
it, and a pull uses what is there at the time. Each command is an await, and other requests come in
between. -/

/-- What a command fails with. -/
inductive PullError where
  | serviceUnavailable (message : String)
  | error (message : String)

/-- What is known of an image on the host. -/
structure CachedImage where
  reference : String
  architecture : Option String := none
  os : Option String := none
  sizeBytes : Option Int := none
  layerCount : Int := 1

/-- What `pullImage` awaits. The last three are runs of the `msb` command. -/
inductive PullRequest where
  | getImage (reference : String)
  | isInstalled
  | pull (reference : String)
  | login (auth : RuntimeRegistryAuthDto)
  | logout (server : String)

/-- A command returns nothing and may throw. -/
@[reducible] def PullRequest.Reply : PullRequest → Type
  | .getImage _ => Except PullError CachedImage
  | .isInstalled => Bool
  | .pull _ => Except PullError Unit
  | .login _ => Except PullError Unit
  | .logout _ => Except PullError Unit

abbrev pullRequests : Signature := ⟨PullRequest, PullRequest.Reply⟩

abbrev PullAsync (α : Type) := Prog pullRequests PullError α

abbrev awaitPull (op : PullRequest) : PullAsync op.Reply := Prog.request (σ := pullRequests) op

/-- What a registry knows a user by. -/
structure Credential where
  username : String
  password : String
  deriving DecidableEq

/-- The server is the key under which the credential is kept. -/
def RuntimeRegistryAuthDto.credential (auth : RuntimeRegistryAuthDto) : Credential :=
  ⟨auth.username, auth.password⟩

/-- The credentials of the host, by registry server. -/
structure MsbHost where
  credentials : String → Option Credential

/-- Nobody is logged in. -/
def MsbHost.loggedOut : MsbHost := ⟨fun _ => none⟩

/-- The environment's choices. The defaults are those of a command that succeeds. -/
structure PullAnswer extends Uncertain PullError where
  image : CachedImage := { reference := "image" }
  installed : Bool := true

instance : Inhabited PullAnswer := ⟨{}⟩

/-- The meaning of each request. -/
def PullRequest.act : (op : PullRequest) → PullAnswer → MsbHost → Option (op.Reply × MsbHost)
  | .getImage _, a, s => some (a.outcome a.image, s)
  | .isInstalled, a, s => some (a.installed, s)
  | .pull _, a, s => some (a.outcome (), s)
  | .login auth, a, s =>
    some (a.outcome (), if a.effective then
      ⟨Function.update s.credentials auth.server (some auth.credential)⟩ else s)
  | .logout server, a, s =>
    some (a.outcome (), if a.effective then ⟨Function.update s.credentials server none⟩ else s)

/-- The host with its credentials as a handler of requests. -/
def msb : Handler pullRequests MsbHost PullAnswer := ⟨PullRequest.act⟩

/-! ## The code

An image that is cached is not pulled. Otherwise it is pulled without a login first, and only if
that fails and the request has credentials with a login before it and a logout after it. -/

namespace MicrosandboxAdapter

/-- Without the runtime nothing is pulled. -/
def ensureMicrosandboxRuntimeInstalled : PullAsync Unit := do
  let installed : Bool ← awaitPull .isInstalled
  if installed then return ()
  else throw (.serviceUnavailable ("Microsandbox runtime is not installed on this host. " ++
    "Install Microsandbox before pulling or provisioning images."))

/-- One run of `msb pull`. -/
def pullCli (reference : String) : PullAsync Unit := do
  let done ← awaitPull (.pull reference)
  Prog.ofExcept done

/-- One run of `msb registry login`. -/
def loginRegistry (registryAuth : RuntimeRegistryAuthDto) : PullAsync Unit := do
  let done ← awaitPull (.login registryAuth)
  Prog.ofExcept done

/-- One run of `msb registry logout`. -/
def logoutRegistry (server : String) : PullAsync Unit := do
  let done ← awaitPull (.logout server)
  Prog.ofExcept done

/-- The second pull. `finally` logs out whether it succeeds or not; a failing logout is swallowed,
and the exception of the pull goes on. -/
def pullWithAuth (reference : String) (registryAuth : RuntimeRegistryAuthDto) : PullAsync Unit := do
  let logout : PullAsync Unit :=
    tryCatch (logoutRegistry registryAuth.server) fun _ => return ()
  tryCatch (pullCli reference) fun error => do
    logout
    throw error
  logout

/-- The image, and whether it was there before. -/
structure PulledImage extends CachedImage where
  cached : Bool

/-- The exception of the first pull is rethrown when there are no credentials to try. -/
def pullImage (reference : String) (registryAuth : Option RuntimeRegistryAuthDto) :
    PullAsync PulledImage := do
  match trimmed (some reference) with
  | none => throw (.error "Image reference is required")
  | some normalized =>
    match ← awaitPull (.getImage normalized) with
    | .ok cached => return ⟨cached, true⟩
    | .error _ => do
      ensureMicrosandboxRuntimeInstalled
      tryCatch (pullCli normalized) fun anonymousError =>
        match registryAuth with
        -- without credentials the failure of the first pull is that of the call
        | none => throw anonymousError
        | some registryAuth => do
          loginRegistry registryAuth
          pullWithAuth normalized registryAuth
      let found ← awaitPull (.getImage normalized)
      let pulled ← Prog.ofExcept found
      return ⟨pulled, false⟩

end MicrosandboxAdapter

/-! ## What a request may ask for next

The rule of one request, checked by recursion on its program: it has made no login before its first
pull, and its second pull comes right after its own login. -/

/-- A request for an image. -/
structure PullCall where
  reference : String
  registryAuth : Option RuntimeRegistryAuthDto := none

/-- No login was asked for. -/
def Anonymous (t : Transcript pullRequests) : Prop :=
  ∀ auth r, (⟨.login auth, r⟩ : Σ op : pullRequests.Op, pullRequests.Reply op) ∉ t

/-- The login has just returned. -/
def JustLoggedIn (t : Transcript pullRequests) (auth : RuntimeRegistryAuthDto) : Prop :=
  t.getLast? = some ⟨.login auth, .ok ()⟩

/-- Pulls are anonymous or come right after the request's own login. -/
def PullRule (call : PullCall) (t : Transcript pullRequests) : PullRequest → Prop
  | .pull _ => Anonymous t ∨ ∃ auth, call.registryAuth = some auth ∧ JustLoggedIn t auth
  | .login auth => call.registryAuth = some auth
  | _ => True

section Rule

variable {call : PullCall} {t : Transcript pullRequests} {α : Type}
  {post : Transcript pullRequests → Except PullError α → Prop}

theorem Anonymous.snoc {op : PullRequest} {r : op.Reply} (h : Anonymous t)
    (hop : ∀ auth, op ≠ .login auth) : Anonymous (t ++ [⟨op, r⟩]) := by
  intro auth r' hmem
  rcases List.mem_append.mp hmem with hmem | hmem
  · exact h auth r' hmem
  · cases List.mem_singleton.mp hmem
    exact hop auth rfl

theorem justLoggedIn_snoc {op : PullRequest} {r : op.Reply} {auth : RuntimeRegistryAuthDto}
    (h : JustLoggedIn (t ++ [⟨op, r⟩]) auth) :
    (⟨op, r⟩ : Σ op : pullRequests.Op, pullRequests.Reply op) = ⟨.login auth, .ok ()⟩ := by
  unfold JustLoggedIn at h
  rw [List.getLast?_append] at h
  exact Option.some.inj h

/-- The second pull comes right after the login. -/
theorem pullWithAuth_follows (reference : String) {auth : RuntimeRegistryAuthDto}
    (hauth : call.registryAuth = some auth) (hlogin : JustLoggedIn t auth) :
    (MicrosandboxAdapter.pullWithAuth reference auth).Follows (PullRule call) (fun _ _ => True)
      t := by
  -- the logout runs in a `finally`, and its own failure is dropped
  have hlogout : ∀ {post : Transcript pullRequests → Except PullError Unit → Prop}
      (t : Transcript pullRequests) (k : Unit → PullAsync Unit),
      (∀ t, (k ()).Follows (PullRule call) post t) →
      ((tryCatch (MicrosandboxAdapter.logoutRegistry auth.server) fun _ => return ()) >>=
        k).Follows (PullRule call) post t := by
    intro post t k hk
    refine Prog.Follows.bind (Prog.Follows.catchError ?_)
    refine Prog.Follows.request trivial fun r => Prog.Follows.ofExcept ?_
    cases r with
    | ok _ => exact hk _
    | error e => exact Prog.Follows.pure (hk _)
  refine Prog.Follows.bind (Prog.Follows.catchError ?_)
  refine Prog.Follows.request (Or.inr ⟨auth, hauth, hlogin⟩) fun r => Prog.Follows.ofExcept ?_
  cases r with
  | ok _ =>
    rw [← Prog.bind_pure (tryCatch _ _)]
    exact hlogout _ Prog.pure fun t => Prog.Follows.pure trivial
  | error e => exact hlogout _ (fun _ => .throw e) fun t => Prog.Follows.throw trivial

/-- A request pulls anonymously or right after its own login. -/
theorem pullImage_follows (call : PullCall) :
    (MicrosandboxAdapter.pullImage call.reference call.registryAuth).Follows (PullRule call)
      (fun _ _ => True) [] := by
  unfold MicrosandboxAdapter.pullImage
  cases trimmed (some call.reference) with
  | none => exact Prog.Follows.throw trivial
  | some normalized =>
  refine Prog.Follows.request trivial fun cached => ?_
  cases cached with
  | ok image => exact Prog.Follows.pure trivial
  | error e =>
  refine Prog.Follows.request trivial fun installed => ?_
  cases installed with
  | false => exact Prog.Follows.throw trivial
  | true =>
  -- so far nobody has logged in
  have hanonymous :
      Anonymous (([] ++ [⟨.getImage normalized, .error e⟩]) ++ [⟨.isInstalled, true⟩]) := by
    refine Anonymous.snoc (Anonymous.snoc ?_ nofun) nofun
    exact fun auth r hmem => absurd hmem List.not_mem_nil
  have hrest : ∀ t, (awaitPull (.getImage normalized) >>= fun found =>
      Prog.ofExcept found >>= fun pulled =>
        (Prog.pure ⟨pulled, false⟩ : PullAsync MicrosandboxAdapter.PulledImage)).Follows
      (PullRule call) (fun _ _ => True) t := fun t =>
    Prog.Follows.request trivial fun found =>
      Prog.Follows.sync (fun _ _ => Prog.Follows.pure trivial) fun _ _ => trivial
  show Prog.Follows _ _ _ (tryCatch (MicrosandboxAdapter.pullCli normalized) _ >>= _)
  refine Prog.Follows.bind (Prog.Follows.catchError ?_)
  refine Prog.Follows.request (Or.inl hanonymous) fun pulled => Prog.Follows.ofExcept ?_
  cases pulled with
  | ok _ => exact hrest _
  | error anonymousError =>
  -- the second pull, which needs the credentials of this request
  cases hauth : call.registryAuth with
  | none => exact Prog.Follows.throw trivial
  | some auth =>
  refine Prog.Follows.request hauth fun done => ?_
  cases done with
  | error e => exact Prog.Follows.throw trivial
  | ok _ =>
  refine (pullWithAuth_follows normalized hauth ?_).mono fun t x _ => ?_
  · rw [JustLoggedIn, List.getLast?_append]
    rfl
  · cases x with
    | ok _ => exact hrest t
    | error e => trivial

end Rule

/-! ## Requests in flight

Any number of requests on one host. `NoCrossing` is the condition on a step: it does not touch the
credential that another request is about to pull with, and no anonymous pull is made while a login
is not undone. -/

section Pulls

variable {ι : Type} [DecidableEq ι]

/-- The history of requests in flight. -/
abbrev PullHistory (ι : Type) := List (ι × Event pullRequests MsbHost PullAnswer)

/-- The requests, all at their start on a host where nobody is logged in. -/
def pulling (calls : ι → PullCall) :
    Pool pullRequests PullError MicrosandboxAdapter.PulledImage MsbHost ι :=
  ⟨fun i => MicrosandboxAdapter.pullImage (calls i).reference (calls i).registryAuth, .loggedOut⟩

/-- The event sets a credential for the server. -/
def logsIn (server : String) (ev : Event pullRequests MsbHost PullAnswer) : Bool :=
  match ev.op with
  | .login auth => auth.server == server && ev.answer.effective
  | _ => false

/-- The event clears the credential for the server. -/
def logsOut (server : String) (ev : Event pullRequests MsbHost PullAnswer) : Bool :=
  match ev.op with
  | .logout server' => server' == server && ev.answer.effective
  | _ => false

/-- Every login for the server has been undone. -/
def LoginsUndone (tr : PullHistory ι) (server : String) : Prop :=
  ∀ x mid, Since tr x mid → logsIn server x.2 = true → ∃ y ∈ mid, logsOut server y.2 = true

/-- Request `i` is between its login and its second pull. -/
def AboutToPull (tr : PullHistory ι) (i : ι) (auth : RuntimeRegistryAuthDto) : Prop :=
  JustLoggedIn (Pool.transcript msb i tr) auth

/-- The step crosses no other request's login. `serverOf` is the registry server of an image
reference. -/
structure NoCrossing (serverOf : String → String) (tr : PullHistory ι) (i : ι)
    (ev : Event pullRequests MsbHost PullAnswer) : Prop where
  /-- nobody else's credential replaces one that is about to be used -/
  login : ∀ auth, ev.op = .login auth → ev.answer.effective = true →
    ∀ j own, AboutToPull tr j own → own.server = auth.server → own.credential = auth.credential
  /-- and no logout clears it -/
  logout : ∀ server, ev.op = .logout server → ev.answer.effective = true →
    ∀ j own, AboutToPull tr j own → own.server ≠ server
  /-- an anonymous pull starts when every login for its server is undone -/
  anonymous : ∀ reference, ev.op = .pull reference → Anonymous (Pool.transcript msb i tr) →
    LoginsUndone tr (serverOf reference)

/-- A second pull runs with the request's own credential stored, and an anonymous one with no other
request's. -/
structure PullsApart (serverOf : String → String) (calls : ι → PullCall) (tr : PullHistory ι)
    (i : ι) (ev : Event pullRequests MsbHost PullAnswer) : Prop where
  own : ∀ reference auth, ev.op = .pull reference → ¬ Anonymous (Pool.transcript msb i tr) →
    (calls i).registryAuth = some auth →
    ev.before.credentials auth.server = some auth.credential
  apart : ∀ reference, ev.op = .pull reference → Anonymous (Pool.transcript msb i tr) →
    ∀ j auth, j ≠ i → (calls j).registryAuth = some auth → auth.server = serverOf reference →
    ev.before.credentials auth.server ≠ some auth.credential

/-! ## The invariant

A stored credential is that of a login which no logout has undone, and a request that is about to
pull finds its own. -/

/-- What the stored credentials owe to the history. -/
structure CredentialsKept (tr : PullHistory ι) (s : MsbHost) : Prop where
  /-- a request that is about to pull has its credential stored -/
  ready : ∀ i own, AboutToPull tr i own → s.credentials own.server = some own.credential
  /-- whatever is stored comes from a login that was not undone -/
  left : ∀ server, s.credentials server ≠ none → ¬ LoginsUndone tr server

section Step

variable {serverOf : String → String} {calls : ι → PullCall} {tr : PullHistory ι} {i : ι}
  {op : PullRequest} {a : PullAnswer} {s s' : MsbHost} {r : op.Reply}

/-- What a request does to the credential of a server. -/
theorem PullRequest.act_credentials (hact : op.act a s = some (r, s')) (server : String) :
    (∃ auth, op = .login auth ∧ auth.server = server ∧ a.effective = true ∧
        s'.credentials server = some auth.credential) ∨
      (op = .logout server ∧ a.effective = true ∧ s'.credentials server = none) ∨
      (logsIn server ⟨s, op, a⟩ = false ∧ logsOut server ⟨s, op, a⟩ = false ∧
        s'.credentials server = s.credentials server) := by
  cases op with
  | login auth =>
    cases hact
    -- a login that failed may have stored its credential all the same
    by_cases heffective : a.effective = true
    · by_cases hserver : auth.server = server
      · subst hserver
        rw [if_pos heffective]
        exact Or.inl ⟨auth, rfl, rfl, heffective, Function.update_self _ _ _⟩
      · rw [if_pos heffective]
        refine Or.inr (Or.inr ⟨by simp [logsIn, hserver], rfl, ?_⟩)
        exact Function.update_of_ne (Ne.symm hserver) _ _
    · rw [if_neg heffective]
      exact Or.inr (Or.inr ⟨by simp [logsIn, heffective], rfl, rfl⟩)
  | logout server' =>
    cases hact
    by_cases heffective : a.effective = true
    · by_cases hserver : server' = server
      · subst hserver
        rw [if_pos heffective]
        exact Or.inr (Or.inl ⟨rfl, heffective, Function.update_self _ _ _⟩)
      · rw [if_pos heffective]
        refine Or.inr (Or.inr ⟨rfl, by simp [logsOut, hserver], ?_⟩)
        exact Function.update_of_ne (Ne.symm hserver) _ _
    · rw [if_neg heffective]
      exact Or.inr (Or.inr ⟨rfl, by simp [logsOut, heffective], rfl⟩)
  | getImage reference | isInstalled | pull reference =>
    cases hact
    exact Or.inr (Or.inr ⟨rfl, rfl, rfl⟩)

/-- Who is about to pull after a step: who was before and did not step, or who has just logged
in. -/
theorem aboutToPull_step (hact : op.act a s = some (r, s')) {j : ι} {own : RuntimeRegistryAuthDto}
    (h : AboutToPull (tr ++ [(i, ⟨s, op, a⟩)]) j own) :
    AboutToPull tr j own ∨ (op = .login own ∧ a.effective = true) := by
  unfold AboutToPull at h ⊢
  by_cases hij : i = j
  · subst hij
    rw [Pool.transcript_self hact] at h
    have hlast := justLoggedIn_snoc h
    right
    cases hlast
    simp only [PullRequest.act, Option.some.injEq, Prod.mk.injEq] at hact
    exact ⟨rfl, Uncertain.effective_of_ok hact.1⟩
  · left
    rwa [Pool.transcript_other _ hij] at h

theorem CredentialsKept.step (h : CredentialsKept tr s)
    (hsafe : NoCrossing serverOf tr i ⟨s, op, a⟩) (hact : op.act a s = some (r, s')) :
    CredentialsKept (tr ++ [(i, ⟨s, op, a⟩)]) s' where
  ready := by
    intro j own hown
    -- a call that is about to pull with a credential has logged in before this step, or by it
    rcases aboutToPull_step hact hown with hbefore | ⟨rfl, heffective⟩
    · rcases PullRequest.act_credentials hact own.server with
        ⟨auth, rfl, hserver, heffective, hset⟩ | ⟨rfl, heffective, -⟩ | ⟨-, -, hsame⟩
      · rw [hset, hsafe.login auth rfl heffective j own hbefore hserver.symm]
      -- a logout of another call would cross
      · exact absurd rfl (hsafe.logout own.server rfl heffective j own hbefore)
      · rw [hsame]
        exact h.ready j own hbefore
    · simp only [PullRequest.act, heffective, if_true, Option.some.injEq, Prod.mk.injEq] at hact
      rw [← hact.2]
      exact Function.update_self _ _ _
  left := by
    intro server hstored hundone
    rcases PullRequest.act_credentials hact server with
      ⟨auth, rfl, hserver, heffective, hset⟩ | ⟨rfl, heffective, hcleared⟩ | ⟨hin, hout, hsame⟩
    · -- the login itself is not undone
      obtain ⟨y, hy, -⟩ := hundone _ [] (since_snoc.mpr (Or.inl ⟨rfl, rfl⟩))
        (by simp [logsIn, hserver, heffective])
      cases hy
    · exact hstored hcleared
    · rw [hsame] at hstored
      refine h.left server hstored fun x mid hsince hlogin => ?_
      obtain ⟨y, hy, hlogout⟩ := hundone x (mid ++ [(i, ⟨s, op, a⟩)])
        (since_snoc.mpr (Or.inr ⟨mid, rfl, hsince⟩)) hlogin
      rcases List.mem_append.mp hy with hold | hnew
      · exact ⟨y, hold, hlogout⟩
      · rw [List.mem_singleton.mp hnew, hout] at hlogout
        cases hlogout

/-- What the invariant says about a pull. -/
theorem CredentialsKept.pullsApart (h : CredentialsKept tr s)
    (hsafe : NoCrossing serverOf tr i ⟨s, op, a⟩)
    (hrule : PullRule (calls i) (Pool.transcript msb i tr) op) :
    PullsApart serverOf calls tr i ⟨s, op, a⟩ where
  own := by
    rintro reference auth rfl hlogin hauth
    rcases hrule with hanonymous | ⟨own, hown, hjust⟩
    · exact absurd hanonymous hlogin
    · obtain rfl : own = auth := Option.some.inj (hown.symm.trans hauth)
      exact h.ready i own hjust
  apart := by
    rintro reference rfl hanonymous j auth - - hserver hstored
    have hundone := hsafe.anonymous reference rfl hanonymous
    refine h.left auth.server ?_ (hserver ▸ hundone)
    intro hnone
    cases hnone.symm.trans hstored

end Step

/-! ## Every run

The step lemma, and the induction over the run from a host where nobody is logged in. -/

/-- **Credentials stay with their request.** However requests for images interleave, and whatever
their commands do, as long as no step crosses another request's login every second pull runs with
the request's own credential and every anonymous one with no other request's. -/
theorem credentials_stay (serverOf : String → String) (calls : ι → PullCall) {tr : PullHistory ι}
    {c : Pool pullRequests PullError MicrosandboxAdapter.PulledImage MsbHost ι}
    (hrun : Pool.Run msb (NoCrossing serverOf) (pulling calls) tr c) :
    ∀ pre x rest, tr = pre ++ x :: rest → PullsApart serverOf calls pre x.1 x.2 := by
  have hinv := Pool.Run.every_step (J := CredentialsKept) (P := PullsApart serverOf calls)
    (fun i => pullImage_follows (calls i)) ?_ ?_ hrun
  · exact hinv.1.2
  · refine ⟨fun i own hown => ?_, fun server hstored => absurd rfl hstored⟩
    cases hown
  · intro tr s i op a r s' hJ hruled hsafe hact hrule
    exact ⟨hJ.step hsafe hact, hJ.pullsApart hsafe hrule⟩

end Pulls

/-! ## Runs

Two requests for one registry by different users. In turn each pulls with its own credential;
crossed, the first one pulls with that of the second. -/

/-- The registry server of a reference that names one. -/
def imageServer (reference : String) : String :=
  String.ofList (reference.toList.takeWhile (· ≠ '/'))

/-- Two requests for an image of one registry, by different users. -/
def twoUsers (second : Bool) : PullCall where
  reference := "registry.example/app"
  registryAuth := some (if second then ⟨"registry.example", "bob", "b"⟩
    else ⟨"registry.example", "alice", "a"⟩)

/-- A request up to the end of its login: the image is not cached, and the anonymous pull fails. -/
def upToLogin (i : Bool) : List (Bool × PullAnswer) :=
  [(i, { failure := some (.error "image not found") }), (i, {}),
    (i, { failure := some (.error "unauthorized") }), (i, {})]

/-- `n` steps of a request, each of which succeeds. -/
def onward (i : Bool) (n : Nat) : List (Bool × PullAnswer) := List.replicate n (i, {})

/-- Every login for the server is followed by a logout. -/
def loginsUndone (server : String) : PullHistory Bool → Bool
  | [] => true
  | x :: rest => (!logsIn server x.2 || rest.any fun y => logsOut server y.2) &&
      loginsUndone server rest

theorem loginsUndone_of_check {tr : PullHistory Bool} {server : String}
    (h : loginsUndone server tr = true) : LoginsUndone tr server := by
  rintro x mid ⟨pre, rfl⟩ hlogin
  induction pre with
  | nil =>
    rw [List.nil_append, loginsUndone, hlogin, Bool.and_eq_true, Bool.not_true,
      Bool.false_or] at h
    exact List.any_eq_true.mp h.1
  | cons y pre ih =>
    rw [List.cons_append, loginsUndone, Bool.and_eq_true] at h
    exact ih h.2

/-- `NoCrossing`, evaluated: nobody is about to pull when a credential is set or cleared, and all
logins are undone before an anonymous pull. -/
def noCrossing (tr : PullHistory Bool) (i : Bool) (ev : Event pullRequests MsbHost PullAnswer) :
    Bool :=
  let aboutToPull (j : Bool) : Bool :=
    match (Pool.transcript msb j tr).getLast? with
    | some ⟨.login _, .ok _⟩ => true
    | _ => false
  match ev.op with
  | .login _ | .logout _ => !aboutToPull false && !aboutToPull true
  | .pull reference => aboutToPull i || loginsUndone (imageServer reference) tr
  | _ => true

/-- And a step that it finds not to cross does not. -/
theorem noCrossing_of_check (tr : PullHistory Bool) (i : Bool)
    (ev : Event pullRequests MsbHost PullAnswer) (h : noCrossing tr i ev = true) :
    NoCrossing imageServer tr i ev := by
  obtain ⟨s, op, a⟩ := ev
  -- the check looks at the last answer of the call, which is its login
  have hnobody : ∀ j own, AboutToPull tr j own →
      (match (Pool.transcript msb j tr).getLast? with
        | some ⟨.login _, .ok _⟩ => true
        | _ => false) = true := by
    intro j own hown
    rw [AboutToPull, JustLoggedIn] at hown
    rw [hown]
  refine ⟨?_, ?_, ?_⟩
  -- one part for each kind of step that may cross
  · rintro auth rfl - j own hown -
    simp only [noCrossing, Bool.and_eq_true, Bool.not_eq_true'] at h
    cases j with
    | false => cases h.1.symm.trans (hnobody false own hown)
    | true => cases h.2.symm.trans (hnobody true own hown)
  · rintro server rfl - j own hown -
    simp only [noCrossing, Bool.and_eq_true, Bool.not_eq_true'] at h
    cases j with
    | false => cases h.1.symm.trans (hnobody false own hown)
    | true => cases h.2.symm.trans (hnobody true own hown)
  · rintro reference rfl hanonymous
    simp only [noCrossing, Bool.or_eq_true] at h
    rcases h with habout | hundone
    · split at habout
      · rename_i auth u hlast
        exact absurd (List.mem_of_getLast? hlast) (hanonymous auth (.ok u))
      · cases habout
    · exact loginsUndone_of_check hundone

/-- One request after the other. -/
theorem credentials_stay_in_turn : ∃ tr c,
    Pool.Run msb (NoCrossing imageServer) (pulling twoUsers) tr c ∧ tr.length = 14 ∧
      ∀ pre x rest, tr = pre ++ x :: rest → PullsApart imageServer twoUsers pre x.1 x.2 := by
  obtain ⟨tr, c, hrun, hlength⟩ := Pool.exists_safe_run_of_schedule msb (pulling twoUsers)
    noCrossing_of_check
    (upToLogin false ++ onward false 3 ++ upToLogin true ++ onward true 3)
    (fun tr _ => tr.length == 14) (by decide +kernel)
  exact ⟨tr, c, hrun, beq_iff_eq.mp hlength, credentials_stay imageServer twoUsers hrun⟩

/-- The first request pulls with the credential of the second. -/
def pullsAsOther (tr : PullHistory Bool) : Bool :=
  tr.any fun x => !x.1 &&
    match x.2.op with
    | .pull reference => imageServer reference == "registry.example" &&
        x.2.before.credentials "registry.example" == some ⟨"bob", "b"⟩
    | _ => false

/-- Both requests log in before the first one pulls again. -/
theorem logins_cross : ¬ ∀ (serverOf : String → String) (calls : Bool → PullCall)
    (tr : PullHistory Bool)
    (c : Pool pullRequests PullError MicrosandboxAdapter.PulledImage MsbHost Bool),
    Pool.Run msb (fun _ _ _ => True) (pulling calls) tr c →
    ∀ pre x rest, tr = pre ++ x :: rest → PullsApart serverOf calls pre x.1 x.2 := by
  intro hclaim
  obtain ⟨tr, c, hrun, hother⟩ := Pool.exists_run_of_schedule (h := msb)
    (upToLogin false ++ upToLogin true ++ onward false 1)
    (fun tr (_ : Pool pullRequests PullError MicrosandboxAdapter.PulledImage MsbHost Bool) =>
      pullsAsOther tr)
    (show (Pool.schedule msb _ (pulling twoUsers)).any _ = true by decide +kernel)
  obtain ⟨⟨i, ev⟩, hmem, hpull⟩ := List.any_eq_true.mp hother
  rw [Bool.and_eq_true, Bool.not_eq_true'] at hpull
  obtain ⟨rfl, hpull⟩ : i = false ∧ _ := hpull
  obtain ⟨pre, rest, htr⟩ := List.append_of_mem hmem
  obtain ⟨hown, hapart⟩ := hclaim imageServer twoUsers tr c hrun pre (false, ev) rest htr
  split at hpull
  · rename_i reference hop
    rw [Bool.and_eq_true, beq_iff_eq, beq_iff_eq] at hpull
    -- the credential that the pull finds is that of the other user
    by_cases hanonymous : Anonymous (Pool.transcript msb false pre)
    · exact hapart reference hop hanonymous true ⟨"registry.example", "bob", "b"⟩
        (show true ≠ false by decide) rfl hpull.1.symm hpull.2
    · have hstored := hown reference ⟨"registry.example", "alice", "a"⟩ hop hanonymous rfl
      exact absurd (hstored.symm.trans hpull.2) (by decide)
  · cases hpull

end Microsandbox
