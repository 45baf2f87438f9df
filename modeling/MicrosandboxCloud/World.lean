import MicrosandboxCloud.Identity
import MicrosandboxCloud.Data.Table
import MicrosandboxCloud.Process.Pool

/-!
# Microsandbox — the world the services act on

The database tables, the in-memory map of SSH sessions and the VM backend, and what each awaited
call does to them.

* **`World`** — the shared state. Its tables carry the unique constraints of the schema, and the
  ids of runtimes and leases are among those handed out so far, so a fresh id is really fresh.
* **`Request`** — everything the services await: one repository call, one backend call, one
  reading of the clock or of random bytes. A synchronous segment over the session map is one
  request, since nothing can come between its steps.
* **`Answer`** — what the environment decides: outcomes of backend calls, times, random texts, and
  which row a query without an order returns when several match.
* **`backend`** — the meaning of each request. Each repository call is atomic, and `saveRuntime`
  inserts an entity whose id is not stored.
-/

namespace Microsandbox

open Process Data

/-! ## Unique constraints

A table refuses a row that clashes with a stored one. These are the constraints of the entities,
with the columns in the order in which the decorators name them. -/

/-- `runtimes`: the primary key, `@Unique(['sandboxId'])` and `@Unique(['name'])`, where `null`
names do not clash. -/
def runtimeKeys : Constraint RuntimeEntity where
  clash a b := a.id = b.id ∨ a.sandboxId = b.sandboxId ∨ (a.name ≠ none ∧ a.name = b.name)
  decidable := inferInstance
  symm := by
    rintro a b (h | h | ⟨hne, h⟩)
    · exact Or.inl h.symm
    · exact Or.inr (Or.inl h.symm)
    · exact Or.inr (Or.inr ⟨h ▸ hne, h.symm⟩)

/-- `port_leases`: `@Unique(['runtimeHostId', 'port'])`. -/
def portLeaseKeys : Constraint PortLeaseEntity where
  clash a b := a.runtimeHostId = b.runtimeHostId ∧ a.port = b.port
  decidable := inferInstance
  symm := fun ⟨h, h'⟩ => ⟨h.symm, h'.symm⟩

/-- `volumes`: the primary key, `@Unique(['name'])` and `@Unique(['backendName'])`. -/
def volumeKeys : Constraint VolumeEntity where
  clash a b := a.id = b.id ∨ a.name = b.name ∨ a.backendName = b.backendName
  decidable := inferInstance
  symm := by
    rintro a b (h | h | h)
    · exact Or.inl h.symm
    · exact Or.inr (Or.inl h.symm)
    · exact Or.inr (Or.inr h.symm)

/-- `signed_preview_tokens`: `@Unique(['token', 'port'])`. -/
def signedTokenKeys : Constraint SignedPreviewTokenEntity where
  clash a b := a.token = b.token ∧ a.port = b.port
  decidable := inferInstance
  symm := fun ⟨h, h'⟩ => ⟨h.symm, h'.symm⟩

/-! ## The shared state

The database and what the process and its host hold besides: one map, and the VMs. Everything that
two calls can both reach is in it. -/

/-- An entry of the in-memory map of SSH sessions. -/
structure SessionEntry where
  sandboxId : String
  hostPort : Int
  expiresAt : Int

/-- The in-memory map of SSH sessions, by token hash. -/
abbrev SessionMap := String → Option SessionEntry

/-- The shared state. `vms` maps the name of each VM to the input it was last created from. -/
structure World where
  runtimes : Table RuntimeEntity runtimeKeys
  portLeases : Table PortLeaseEntity portLeaseKeys
  nextRuntimeId : RuntimeId
  runtimes_lt : ∀ r ∈ runtimes, r.id < nextRuntimeId
  portLeases_lt : ∀ l ∈ portLeases, l.runtimeId < nextRuntimeId
  volumes : Table VolumeEntity volumeKeys
  signedTokens : Table SignedPreviewTokenEntity signedTokenKeys
  revokedSessions : List String
  sessions : SessionMap
  vms : String → Option CreateRuntimeInput

namespace World

/-- Nothing stored, no session, no VM; only volumes. -/
def fresh (volumes : Table VolumeEntity volumeKeys) : World where
  runtimes := .empty
  portLeases := .empty
  nextRuntimeId := 0
  runtimes_lt := fun r hr => absurd hr (Table.not_mem_empty r)
  portLeases_lt := fun l hl => absurd hl (Table.not_mem_empty l)
  volumes := volumes
  signedTokens := .empty
  revokedSessions := []
  sessions := fun _ => none
  vms := fun _ => none

/-- `save` of an entity without an id: the row gets the next id. -/
def insertRuntime (s : World) (draft : RuntimeEntity) : Option World :=
  match h : s.runtimes.insert (draft.withId s.nextRuntimeId) with
  | none => none
  | some t => some { s with
      runtimes := t
      nextRuntimeId := s.nextRuntimeId + 1
      runtimes_lt := by
        intro r hr
        rcases (Table.mem_insert h).mp hr with hr | rfl
        · exact Nat.lt_succ_of_lt (s.runtimes_lt r hr)
        · exact Nat.lt_succ_self _
      portLeases_lt := fun l hl => Nat.lt_succ_of_lt (s.portLeases_lt l hl) }

/-- `save` of an entity with an id: the row with that id is overwritten, or inserted when there
is none. -/
def saveRuntime (s : World) (runtime : RuntimeEntity) : Option World :=
  match h : s.runtimes.save (fun r => r.id == runtime.id) runtime with
  | none => none
  | some t => some { s with
      runtimes := t
      nextRuntimeId := max s.nextRuntimeId (runtime.id + 1)
      runtimes_lt := by
        intro r hr
        rcases (Table.mem_save h).mp hr with rfl | ⟨hr, _⟩
        · exact lt_of_lt_of_le (Nat.lt_succ_self _) (le_max_right _ _)
        · exact lt_of_lt_of_le (s.runtimes_lt r hr) (le_max_left _ _)
      portLeases_lt := fun l hl => lt_of_lt_of_le (s.portLeases_lt l hl) (le_max_left _ _) }

/-- Deleting a row takes no id back. -/
def deleteRuntime (s : World) (id : RuntimeId) : World :=
  { s with
    runtimes := s.runtimes.delete fun r => r.id == id
    runtimes_lt := fun r hr => s.runtimes_lt r (Table.mem_delete.mp hr).1 }

/-- A lease may be inserted for any runtime id, so the ids handed out go beyond it. -/
def insertPortLease (s : World) (lease : PortLeaseEntity) : Option World :=
  match h : s.portLeases.insert lease with
  | none => none
  | some t => some { s with
      portLeases := t
      nextRuntimeId := max s.nextRuntimeId (lease.runtimeId + 1)
      runtimes_lt := fun r hr => lt_of_lt_of_le (s.runtimes_lt r hr) (le_max_left _ _)
      portLeases_lt := by
        intro l hl
        rcases (Table.mem_insert h).mp hl with hl | rfl
        · exact lt_of_lt_of_le (s.portLeases_lt l hl) (le_max_left _ _)
        · exact lt_of_lt_of_le (Nat.lt_succ_self _) (le_max_right _ _) }

/-- All the leases of a runtime, on every host. -/
def deletePortLeases (s : World) (runtimeId : RuntimeId) : World :=
  { s with
    portLeases := s.portLeases.delete fun l => l.runtimeId == runtimeId
    portLeases_lt := fun l hl => s.portLeases_lt l (Table.mem_delete.mp hl).1 }

/-- Put a VM under a name, or take it away. -/
def setVm (s : World) (name : String) (vm : Option CreateRuntimeInput) : World :=
  { s with vms := Function.update s.vms name vm }

/-! What each write leaves alone. -/

/-- The worlds agree on what is neither a runtime nor a lease nor a VM. -/
structure SameRest (s s' : World) : Prop where
  volumes : s'.volumes = s.volumes
  signedTokens : s'.signedTokens = s.signedTokens
  revokedSessions : s'.revokedSessions = s.revokedSessions
  sessions : s'.sessions = s.sessions

section Writes

variable {s s' : World}

/-- An insertion that is not refused: the row with its new id, and nothing else but the id. -/
theorem insertRuntime_spec {draft : RuntimeEntity} (h : s.insertRuntime draft = some s') :
    s.runtimes.insert (draft.withId s.nextRuntimeId) = some s'.runtimes ∧
      s'.portLeases = s.portLeases ∧ s'.vms = s.vms := by
  unfold insertRuntime at h
  split at h
  · cases h
  · rename_i t ht
    cases h
    exact ⟨ht, rfl, rfl⟩

/-- A save that is not refused: the row, and nothing else. -/
theorem saveRuntime_spec {runtime : RuntimeEntity} (h : s.saveRuntime runtime = some s') :
    s.runtimes.save (fun r => r.id == runtime.id) runtime = some s'.runtimes ∧
      s'.portLeases = s.portLeases ∧ s'.vms = s.vms := by
  unfold saveRuntime at h
  split at h
  · cases h
  · rename_i t ht
    cases h
    exact ⟨ht, rfl, rfl⟩

/-- An insertion that is not refused: the lease, and nothing else. -/
theorem insertPortLease_spec {lease : PortLeaseEntity} (h : s.insertPortLease lease = some s') :
    s.portLeases.insert lease = some s'.portLeases ∧ s'.runtimes = s.runtimes ∧
      s'.vms = s.vms := by
  unfold insertPortLease at h
  split at h
  · cases h
  · rename_i t ht
    cases h
    exact ⟨ht, rfl, rfl⟩

theorem insertRuntime_rest {draft : RuntimeEntity} (h : s.insertRuntime draft = some s') :
    SameRest s s' := by
  unfold insertRuntime at h
  split at h <;> cases h
  exact ⟨rfl, rfl, rfl, rfl⟩

theorem saveRuntime_rest {runtime : RuntimeEntity} (h : s.saveRuntime runtime = some s') :
    SameRest s s' := by
  unfold saveRuntime at h
  split at h <;> cases h
  exact ⟨rfl, rfl, rfl, rfl⟩

theorem insertPortLease_rest {lease : PortLeaseEntity} (h : s.insertPortLease lease = some s') :
    SameRest s s' := by
  unfold insertPortLease at h
  split at h <;> cases h
  exact ⟨rfl, rfl, rfl, rfl⟩

theorem insertRuntime_eq_none {draft : RuntimeEntity} :
    s.insertRuntime draft = none ↔
      s.runtimes.insert (draft.withId s.nextRuntimeId) = none := by
  unfold insertRuntime
  split <;> rename_i ht <;> simp [ht]

theorem saveRuntime_eq_none {runtime : RuntimeEntity} :
    s.saveRuntime runtime = none ↔
      s.runtimes.save (fun r => r.id == runtime.id) runtime = none := by
  unfold saveRuntime
  split <;> rename_i ht <;> simp [ht]

theorem insertPortLease_eq_none {lease : PortLeaseEntity} :
    s.insertPortLease lease = none ↔ s.portLeases.insert lease = none := by
  unfold insertPortLease
  split <;> rename_i ht <;> simp [ht]

/-- The row stored under an entity's id, when there is one. -/
theorem eq_of_id {a b : RuntimeEntity} (ha : a ∈ s.runtimes) (hb : b ∈ s.runtimes)
    (hid : a.id = b.id) : a = b :=
  Table.eq_of_clash ha hb (Or.inl hid)

/-- A sandbox id is that of one row. -/
theorem eq_of_sandboxId {a b : RuntimeEntity} (ha : a ∈ s.runtimes) (hb : b ∈ s.runtimes)
    (hid : a.sandboxId = b.sandboxId) : a = b :=
  Table.eq_of_clash ha hb (Or.inr (Or.inl hid))

theorem eq_of_name {a b : RuntimeEntity} {name : String} (ha : a ∈ s.runtimes)
    (hb : b ∈ s.runtimes) (han : a.name = some name) (hbn : b.name = some name) : a = b :=
  Table.eq_of_clash ha hb (Or.inr (Or.inr ⟨by simp [han], han.trans hbn.symm⟩))

/-- After a save the row is stored in place of the one with its id. -/
theorem mem_saveRuntime {runtime : RuntimeEntity} (h : s.saveRuntime runtime = some s')
    {r : RuntimeEntity} :
    r ∈ s'.runtimes ↔ r = runtime ∨ (r ∈ s.runtimes ∧ r.id ≠ runtime.id) := by
  rw [Table.mem_save (saveRuntime_spec h).1]
  simp

/-- After an insertion the row is stored beside the others. -/
theorem mem_insertRuntime {draft : RuntimeEntity} (h : s.insertRuntime draft = some s')
    {r : RuntimeEntity} :
    r ∈ s'.runtimes ↔ r ∈ s.runtimes ∨ r = (draft.withId s.nextRuntimeId) :=
  Table.mem_insert (insertRuntime_spec h).1

/-- Saving an entity under the keys of a stored row is never refused: whatever clashed with the
entity would clash with that row. -/
theorem exists_saveRuntime (runtime : RuntimeEntity) {row : RuntimeEntity}
    (hrow : row ∈ s.runtimes) (hid : runtime.id = row.id)
    (hsandbox : runtime.sandboxId = row.sandboxId)
    (hname : runtime.name = row.name) : ∃ s', s.saveRuntime runtime = some s' := by
  rw [← Option.ne_none_iff_exists', ne_eq, saveRuntime_eq_none, Table.save_eq_none]
  rintro ⟨x, hx, hne, hclash⟩
  have hrowx : runtimeKeys.clash x row := by
    change x.id = runtime.id ∨ x.sandboxId = runtime.sandboxId ∨
      (x.name ≠ none ∧ x.name = runtime.name) at hclash
    rw [hid, hsandbox, hname] at hclash
    exact hclash
  have hxr : x = row := Table.eq_of_clash hx hrow hrowx
  simp [hxr, hid] at hne

end Writes

end World

/-! ## Requests

One constructor for each await of the services. What a synchronous stretch of code does between two
awaits is done by the program itself, except on the session map, which other calls share. -/

/-- A `where` clause on `runtimes`. -/
inductive RuntimeQuery where
  | bySandboxId (value : String)
  | bySandboxIdOrName (value : String)

def RuntimeQuery.selects : RuntimeQuery → RuntimeEntity → Bool
  | .bySandboxId value, r => r.sandboxId == value
  | .bySandboxIdOrName value, r => r.sandboxId == value || r.name == some value

/-- A `where` clause on `signed_preview_tokens`. -/
inductive SignedTokenQuery where
  | bySandbox (sandboxId : String)
  | bySandboxPort (sandboxId : String) (port : Int)
  | byTokenPort (token : String) (port : Int)

def SignedTokenQuery.selects : SignedTokenQuery → SignedPreviewTokenEntity → Bool
  | .bySandbox sandboxId, r => r.sandboxId == sandboxId
  | .bySandboxPort sandboxId port, r => r.sandboxId == sandboxId && r.port == port
  | .byTokenPort token port, r => r.token == token && r.port == port

/-- What a command printed. -/
structure ExecResult where
  stdout : String
  stderr : String
  exitCode : Int

/-- What the creation of a session returns. -/
structure SshSessionResult where
  token : String
  sandboxId : String
  hostPort : Int
  expiresAt : Int
  sshCommand : String

/-- What the validation of a token returns. -/
structure SshValidateResult where
  sandboxId : String
  hostPort : Int
  expiresAt : Int

/-- What a synchronous segment over the session map hands back. -/
inductive SessionReply where
  | created (session : SshSessionResult)
  | validated (result : Option SshValidateResult)
  | done

/-- What a synchronous segment over the session map draws on: two readings of the clock and
random bytes. -/
structure SessionDraw where
  now : Int
  later : Int
  random : String

/-- Everything the services await. -/
inductive Request where
  | findRuntime (query : RuntimeQuery)
  | insertRuntime (draft : RuntimeEntity)
  | saveRuntime (runtime : RuntimeEntity)
  | deleteRuntime (id : RuntimeId)
  | findPortLease (runtimeHostId : String) (port : Int)
  | insertPortLease (lease : PortLeaseEntity)
  | deletePortLeases (runtimeId : RuntimeId)
  | findVolume (id name : String)
  | findSignedToken (token : String) (port : Int)
  | insertSignedToken (record : SignedPreviewTokenEntity)
  | deleteSignedTokens (query : SignedTokenQuery)
  | findRevokedSession (tokenHash : String)
  | saveRevokedSession (tokenHash : String)
  | sessions (segment : SessionDraw → SessionMap → Except ServiceError SessionReply × SessionMap)
  | now
  | randomBytes
  | createDetachedRuntime (input : CreateRuntimeInput)
  | start (name : String) (command : Option (List String)) (workingDir : Option String)
  | stop (name : String)
  | remove (name : String)
  | exec (name command : String) (args : List String)
  | refreshActivity (name : String)
  | writeFiles (name : String) (files : List RuntimeFileDto)
  | readFiles (name : String) (paths : List String)
  | getStatus (name : String)
  | isHealthy (port : Int)
  | waitForHealthy (port : Int)

/-- The type of the reply to each request. -/
@[reducible] def Request.Reply : Request → Type
  | .findRuntime _ => Option RuntimeEntity
  | .insertRuntime _ => Except ServiceError RuntimeEntity
  | .saveRuntime _ => Except ServiceError Unit
  | .deleteRuntime _ => Unit
  | .findPortLease _ _ => Option PortLeaseEntity
  | .insertPortLease _ => Except ServiceError Unit
  | .deletePortLeases _ => Unit
  | .findVolume _ _ => Option VolumeEntity
  | .findSignedToken _ _ => Option SignedPreviewTokenEntity
  | .insertSignedToken _ => Except ServiceError Unit
  | .deleteSignedTokens _ => Unit
  | .findRevokedSession _ => Bool
  | .saveRevokedSession _ => Except ServiceError Unit
  | .sessions _ => Except ServiceError SessionReply
  | .now => Int
  | .randomBytes => String
  | .createDetachedRuntime _ => Except ServiceError Unit
  | .start _ _ _ => Except ServiceError Unit
  | .stop _ => Except ServiceError Unit
  | .remove _ => Except ServiceError Unit
  | .exec _ _ _ => Except ServiceError ExecResult
  | .refreshActivity _ => Except ServiceError Unit
  | .writeFiles _ _ => Except ServiceError Unit
  | .readFiles _ _ => Except ServiceError (List RuntimeFileDto)
  | .getStatus _ => Option String
  | .isHealthy _ => Bool
  | .waitForHealthy _ => Bool

/-- The requests with their replies. -/
abbrev requests : Signature := ⟨Request, Request.Reply⟩

/-- An `async` function of the services. -/
abbrev Async (α : Type) := Prog requests ServiceError α

/-- Await one request. -/
abbrev await (op : Request) : Async op.Reply := Prog.request (σ := requests) op

/-- A synchronous computation that may throw. -/
abbrev sync {α : Type} (x : Except ServiceError α) : Async α := Prog.ofExcept x

/-! ## What requests mean

The function `act` is the specification of the database and of the SDK as the services rely on them.
Where the outside world has a choice, the answer makes it, and nothing is said about which one is
likely. -/

/-- The environment's choices. The defaults are those of a healthy backend. -/
structure Answer extends Fallible ServiceError where
  /-- which of several matching rows a query returns -/
  pick : Nat := 0
  /-- a failed `createDetachedRuntime` has already taken the earlier VM away -/
  createLosesVm : Bool := false
  /-- `remove` left the VM in place -/
  removeKeepsVm : Bool := false
  status : Option String := some "running"
  healthy : Bool := true
  time : Int := 0
  later : Int := 0
  random : String := "0123456789abcdef"
  output : ExecResult := ⟨"", "", 0⟩
  contents : List RuntimeFileDto := []

instance : Inhabited Answer := ⟨{}⟩

/-- A query without an order returns any of the matching rows. -/
def pickRow {ρ : Type} (rows : List ρ) (selects : ρ → Bool) (pick : Nat) : Option ρ :=
  (rows.filter selects)[pick % (rows.filter selects).length]?

/-- A row that was picked is a row that matches. -/
theorem pickRow_some {ρ : Type} {rows : List ρ} {selects : ρ → Bool} {pick : Nat} {r : ρ}
    (h : pickRow rows selects pick = some r) : r ∈ rows ∧ selects r = true :=
  List.mem_filter.mp (List.mem_of_getElem? h)

theorem pickRow_none {ρ : Type} {rows : List ρ} {selects : ρ → Bool} {pick : Nat}
    (h : pickRow rows selects pick = none) : ∀ r ∈ rows, selects r = false := by
  intro r hr
  by_contra hsel
  have hmem : r ∈ rows.filter selects := List.mem_filter.mpr ⟨hr, by simpa using hsel⟩
  have hlen := List.getElem?_eq_none_iff.mp h
  have hlt := Nat.mod_lt pick (List.length_pos_of_mem hmem)
  omega

theorem exists_pickRow {ρ : Type} {rows : List ρ} {selects : ρ → Bool} {r : ρ} (hr : r ∈ rows)
    (hsel : selects r = true) : ∃ pick, pickRow rows selects pick = some r := by
  obtain ⟨i, hi, hget⟩ := List.getElem_of_mem (List.mem_filter.mpr ⟨hr, hsel⟩)
  refine ⟨i, ?_⟩
  unfold pickRow
  rw [Nat.mod_eq_of_lt hi, List.getElem?_eq_getElem hi, hget]

/-- The exception of a write that breaks a unique constraint. -/
def uniqueViolation : ServiceError := ⟨.error, "SQLITE_CONSTRAINT: UNIQUE constraint failed"⟩

/-- `isTransientDetachedSetupError`: the VM was created, only the setup after it was cut short. -/
def isTransientDetachedSetupError (e : ServiceError) : Bool :=
  Text.includes e.message "exec session ended without exit event"
    || Text.includes e.message "sandbox exec timed out"

/-- `createDetachedRuntime` replaces any VM of that name when it returns or throws a transient
error; on any other error the earlier VM stays or is lost. -/
def createVm (a : Answer) (input : CreateRuntimeInput) (s : World) : World :=
  match a.failure with
  | none => s.setVm input.sandboxName (some input)
  | some e =>
    if isTransientDetachedSetupError e then s.setVm input.sandboxName (some input)
    else if a.createLosesVm then s.setVm input.sandboxName none
    else s

/-- Creating a VM writes no table. -/
theorem createVm_tables (a : Answer) (input : CreateRuntimeInput) (s : World) :
    (createVm a input s).runtimes = s.runtimes ∧
      (createVm a input s).portLeases = s.portLeases := by
  unfold createVm
  split
  · exact ⟨rfl, rfl⟩
  · split_ifs <;> exact ⟨rfl, rfl⟩

/-- Nor does it touch tokens, sessions or volumes. -/
theorem createVm_rest (a : Answer) (input : CreateRuntimeInput) (s : World) :
    s.SameRest (createVm a input s) := by
  unfold createVm
  split
  · exact ⟨rfl, rfl, rfl, rfl⟩
  · split_ifs <;> exact ⟨rfl, rfl, rfl, rfl⟩

/-- Creating a VM leaves every other VM alone. -/
theorem createVm_vms_of_ne {a : Answer} {input : CreateRuntimeInput} {s : World} {name : String}
    (hne : name ≠ input.sandboxName) : (createVm a input s).vms name = s.vms name := by
  unfold createVm
  split
  · exact Function.update_of_ne hne _ _
  · split_ifs
    · exact Function.update_of_ne hne _ _
    · exact Function.update_of_ne hne _ _
    · rfl

/-- The meaning of each request. A status other than `null` needs a VM, and the second reading of
a clock is not before the first. -/
def act : (op : Request) → Answer → World → Option (op.Reply × World)
  | .findRuntime query, a, s => some (pickRow s.runtimes.rows query.selects a.pick, s)
  | .insertRuntime draft, _, s =>
    match s.insertRuntime draft with
    | some s' => some (.ok (draft.withId s.nextRuntimeId), s')
    | none => some (.error uniqueViolation, s)
  | .saveRuntime runtime, _, s =>
    match s.saveRuntime runtime with
    | some s' => some (.ok (), s')
    | none => some (.error uniqueViolation, s)
  | .deleteRuntime id, _, s => some ((), s.deleteRuntime id)
  | .findPortLease host port, a, s =>
    some (pickRow s.portLeases.rows (fun l => l.runtimeHostId == host && l.port == port) a.pick, s)
  | .insertPortLease lease, _, s =>
    match s.insertPortLease lease with
    | some s' => some (.ok (), s')
    | none => some (.error uniqueViolation, s)
  | .deletePortLeases runtimeId, _, s => some ((), s.deletePortLeases runtimeId)
  | .findVolume id name, a, s =>
    some (pickRow s.volumes.rows (fun v => v.id == id || v.name == name) a.pick, s)
  | .findSignedToken token port, a, s =>
    some (pickRow s.signedTokens.rows (SignedTokenQuery.byTokenPort token port).selects a.pick, s)
  | .insertSignedToken record, _, s =>
    match s.signedTokens.insert record with
    | some t => some (.ok (), { s with signedTokens := t })
    | none => some (.error uniqueViolation, s)
  | .deleteSignedTokens query, _, s =>
    some ((), { s with signedTokens := s.signedTokens.delete query.selects })
  | .findRevokedSession tokenHash, _, s => some (s.revokedSessions.contains tokenHash, s)
  | .saveRevokedSession tokenHash, a, s =>
    if s.revokedSessions.contains tokenHash then some (.error uniqueViolation, s)
    else match a.failure with
      | some e => some (.error e, s)
      | none => some (.ok (), { s with revokedSessions := tokenHash :: s.revokedSessions })
  | .sessions segment, a, s =>
    if a.time ≤ a.later then
      some ((segment ⟨a.time, a.later, a.random⟩ s.sessions).1,
        { s with sessions := (segment ⟨a.time, a.later, a.random⟩ s.sessions).2 })
    else none
  | .now, a, s => some (a.time, s)
  | .randomBytes, a, s => some (a.random, s)
  | .createDetachedRuntime input, a, s => some (a.outcome (), createVm a input s)
  | .start _ _ _, a, s => some (a.outcome (), s)
  | .stop _, a, s => some (a.outcome (), s)
  | .remove name, a, s =>
    some (a.outcome (), if a.removeKeepsVm then s else s.setVm name none)
  | .exec _ _ _, a, s => some (a.outcome a.output, s)
  | .refreshActivity _, a, s => some (a.outcome (), s)
  | .writeFiles _ _, a, s => some (a.outcome (), s)
  | .readFiles _ _, a, s => some (a.outcome a.contents, s)
  -- a sandbox that is not there has no status
  | .getStatus name, a, s =>
    if a.status ≠ none ∧ s.vms name = none then none else some (a.status, s)
  | .isHealthy _, a, s => some (a.healthy, s)
  | .waitForHealthy _, a, s => some (a.healthy, s)

/-- The world as a handler of requests. -/
def backend : Handler requests World Answer := ⟨act⟩

end Microsandbox
