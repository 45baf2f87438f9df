import MicrosandboxCloud.Comparison
import MicrosandboxCloud.NormalForms
import MicrosandboxCloud.Process.Twin
import MicrosandboxCloud.Strangers

/-!
# Microsandbox — secret values

The values of secrets and the passwords of registries pass through the service, into the rows and
into the input of each VM. Nothing else depends on them.

* **`Mask`** — another value for every secret, different ones for different secrets, and another
  password for every password, which is empty only for the empty one.
* **`World.mask`** and its like — the same data with the masked values in it.
* **`maskDisguise_respected`** — the backend treats masked requests in the masked world alike.
* **`secrets_do_not_interfere`** — masking the values in all requests changes no answer, no error
  and no step; the world that is left is the masked one.

`requiresRecreate` compares secrets, so it matters which values are equal, and only that.
-/

namespace Microsandbox

open Process Data Text RuntimeControl Registry ProxyService

/-! ## Masks

A mask says what the other world has in place of each secret value and of each registry password. It
is carried through every type that holds such a value, from the bodies of requests to the columns of
a row and the input of a VM. -/

/-- Secret values are renamed injectively, so that comparisons of two of them come out the same. A
password is only tested for being empty. -/
structure Mask where
  secret : String → String
  secret_injective : Function.Injective secret
  password : String → String
  password_empty : ∀ p, password p = "" ↔ p = ""

section Masks

variable (m : Mask)

/-- A secret of a request. -/
def RuntimeSecretDto.mask (secret : RuntimeSecretDto) : RuntimeSecretDto :=
  { secret with value := m.secret secret.value }

/-- A secret as it is stored in a row. -/
def RuntimeSecretRecord.mask (secret : RuntimeSecretRecord) : RuntimeSecretRecord :=
  { secret with value := m.secret secret.value }

/-- The password of a registry login; its server and user name are no secrets. -/
def RuntimeRegistryAuthDto.mask (auth : RuntimeRegistryAuthDto) : RuntimeRegistryAuthDto :=
  { auth with password := m.password auth.password }

/-- The specification in the body of a request. -/
def SandboxSpecDto.mask (input : SandboxSpecDto) : SandboxSpecDto :=
  { input with
    secrets := input.secrets.map fun secrets => secrets.map (·.mask m)
    registryAuth := input.registryAuth.map (·.mask m) }

/-- The body of `ensure`. -/
def EnsureRuntimeDto.mask (input : EnsureRuntimeDto) : EnsureRuntimeDto :=
  { input with toSandboxSpecDto := input.toSandboxSpecDto.mask m }

/-- The body of `update`, where absent fields stay absent. -/
def UpdateSandboxDto.mask (input : UpdateSandboxDto) : UpdateSandboxDto :=
  { input with toSandboxSpecDto := input.toSandboxSpecDto.mask m }

/-- The input of `provision`. -/
def RuntimeControl.ProvisionInput.mask (input : ProvisionInput) : ProvisionInput :=
  { input with toSandboxSpecDto := input.toSandboxSpecDto.mask m }

/-- The spec that `buildSpec` makes of it. -/
def RuntimeControl.RuntimeSpec.mask (spec : RuntimeSpec) : RuntimeSpec :=
  { spec with
    secrets := spec.secrets.map (·.mask m)
    registryAuth := spec.registryAuth.map (·.mask m) }

/-- A stored row: its secrets are renamed, and its keys and everything that queries compare stay. -/
def RuntimeEntity.mask (row : RuntimeEntity) : RuntimeEntity :=
  { row with secrets := row.secrets.map fun secrets => secrets.map (·.mask m) }

/-- What the backend is given for a new VM. -/
def CreateRuntimeInput.mask (input : CreateRuntimeInput) : CreateRuntimeInput :=
  { input with
    secrets := input.secrets.map (·.mask m)
    registryAuth := input.registryAuth.map (·.mask m) }

/-- The world with masked rows and masked VM inputs. -/
def World.mask (s : World) : World :=
  { s with
    runtimes := s.runtimes.map (·.mask m) fun _ _ => Iff.rfl
    runtimes_lt := by
      intro r hr
      obtain ⟨row, hrow, rfl⟩ := Table.mem_map.mp hr
      exact s.runtimes_lt row hrow
    vms := fun name => (s.vms name).map (·.mask m) }

/-- The requests that carry secrets, masked. -/
def Request.mask : Request → Request
  | .insertRuntime draft => .insertRuntime (draft.mask m)
  | .saveRuntime runtime => .saveRuntime (runtime.mask m)
  | .createDetachedRuntime input => .createDetachedRuntime (input.mask m)
  | op => op

/-- The replies that carry rows, masked. -/
def Request.maskReply : (op : Request) → op.Reply → (op.mask m).Reply
  | .findRuntime _, row => Option.map (RuntimeEntity.mask m) row
  | .insertRuntime _, saved => Except.map (RuntimeEntity.mask m) saved
  | .saveRuntime _, r | .deleteRuntime _, r | .findPortLease _ _, r | .insertPortLease _, r
  | .deletePortLeases _, r | .findVolume _ _, r | .findSignedToken _ _, r
  | .insertSignedToken _, r | .deleteSignedTokens _, r | .findRevokedSession _, r
  | .saveRevokedSession _, r | .sessions _, r | .now, r | .randomBytes, r
  | .createDetachedRuntime _, r | .start _ _ _, r | .stop _, r | .remove _, r | .exec _ _ _, r
  | .refreshActivity _, r | .writeFiles _ _, r | .readFiles _ _, r | .getStatus _, r
  | .isHealthy _, r | .waitForHealthy _, r => r

/-- The same system with masked secrets. -/
def maskDisguise : Disguise requests World where
  op := Request.mask m
  reply op r r' := r' = op.maskReply m r
  state s t := t = s.mask m

end Masks

/-! ## The backend

The world of the other side is the masked world. Each write commutes with masking, since the keys of
the tables are left alone, and so does each request with its reply. -/

section Backend

variable {m : Mask}

/-- Two worlds with the same fields are one. -/
theorem World.eq_of_fields {s t : World} (hruntimes : s.runtimes = t.runtimes)
    (hleases : s.portLeases = t.portLeases) (hnext : s.nextRuntimeId = t.nextRuntimeId)
    (hrest : s.SameRest t) (hvms : s.vms = t.vms) : s = t := by
  obtain ⟨hvolumes, hsigned, hrevoked, hsessions⟩ := hrest
  cases s
  cases t
  simp_all

/-- The draft gets the same id, and the same row refuses it. -/
theorem World.insertRuntime_mask (s : World) (draft : RuntimeEntity) :
    (s.mask m).insertRuntime (draft.mask m) = (s.insertRuntime draft).map (·.mask m) := by
  -- the unique keys of a row are not secrets, so masked rows clash where the rows do
  have htable : (s.mask m).runtimes.insert ((draft.mask m).withId s.nextRuntimeId) =
      (s.runtimes.insert (draft.withId s.nextRuntimeId)).map fun t =>
        t.map (·.mask m) fun _ _ => Iff.rfl :=
    Table.insert_map s.runtimes (draft.withId s.nextRuntimeId)
  unfold World.insertRuntime
  split
  · rename_i hmasked
    rw [show (s.mask m).nextRuntimeId = s.nextRuntimeId from rfl, htable, Option.map_eq_none_iff]
      at hmasked
    split
    · rfl
    · rename_i t ht
      rw [hmasked] at ht
      cases ht
  · rename_i t hmasked
    rw [show (s.mask m).nextRuntimeId = s.nextRuntimeId from rfl, htable] at hmasked
    split
    · rename_i ht
      rw [ht] at hmasked
      cases hmasked
    · rename_i t' ht
      rw [ht] at hmasked
      cases hmasked
      rfl

/-- A masked row is saved over the masked row of the same id. -/
theorem World.saveRuntime_mask (s : World) (runtime : RuntimeEntity) :
    (s.mask m).saveRuntime (runtime.mask m) = (s.saveRuntime runtime).map (·.mask m) := by
  -- as for an insertion: masking changes no key and no id
  have htable : (s.mask m).runtimes.save (fun r => r.id == runtime.id) (runtime.mask m) =
      (s.runtimes.save (fun r => r.id == runtime.id) runtime).map fun t =>
        t.map (·.mask m) fun _ _ => Iff.rfl :=
    Table.save_map s.runtimes runtime fun _ => rfl
  unfold World.saveRuntime
  split
  · rename_i hmasked
    rw [show (runtime.mask m).id = runtime.id from rfl, htable, Option.map_eq_none_iff] at hmasked
    split
    · rfl
    · rename_i t ht
      rw [hmasked] at ht
      cases ht
  · rename_i t hmasked
    rw [show (runtime.mask m).id = runtime.id from rfl, htable] at hmasked
    split
    · rename_i ht
      rw [ht] at hmasked
      cases hmasked
    · rename_i t' ht
      rw [ht] at hmasked
      cases hmasked
      rfl

theorem World.deleteRuntime_mask (s : World) (id : RuntimeId) :
    (s.mask m).deleteRuntime id = (s.deleteRuntime id).mask m := by
  have htable : (s.mask m).runtimes.delete (fun r => r.id == id) =
      (s.runtimes.delete fun r => r.id == id).map (·.mask m) fun _ _ => Iff.rfl :=
    Table.delete_map s.runtimes fun _ => rfl
  exact World.eq_of_fields htable rfl rfl ⟨rfl, rfl, rfl, rfl⟩ rfl

theorem World.insertPortLease_mask (s : World) (lease : PortLeaseEntity) :
    (s.mask m).insertPortLease lease = (s.insertPortLease lease).map (·.mask m) := by
  -- leases have nothing to mask
  unfold World.insertPortLease
  split
  · rename_i hmasked
    split
    · rfl
    · rename_i t ht
      rw [show (s.mask m).portLeases = s.portLeases from rfl, ht] at hmasked
      cases hmasked
  · rename_i t hmasked
    split
    · rename_i ht
      rw [show (s.mask m).portLeases = s.portLeases from rfl, ht] at hmasked
      cases hmasked
    · rename_i t' ht
      rw [show (s.mask m).portLeases = s.portLeases from rfl, ht] at hmasked
      cases hmasked
      rfl

/-- The masked input is put under the same VM name. -/
theorem World.setVm_mask (s : World) (name : String) (vm : Option CreateRuntimeInput) :
    (s.mask m).setVm name (vm.map (·.mask m)) = (s.setVm name vm).mask m := by
  refine World.eq_of_fields rfl rfl rfl ⟨rfl, rfl, rfl, rfl⟩ ?_
  funext other
  by_cases hother : other = name
  · subst hother
    simp [World.setVm, World.mask]
  · simp [World.setVm, World.mask, Function.update_of_ne hother]

/-- What a failed creation leaves depends on the exception and not on the input. -/
theorem createVm_mask (a : Answer) (input : CreateRuntimeInput) (s : World) :
    createVm a (input.mask m) (s.mask m) = (createVm a input s).mask m := by
  have hset : (s.mask m).setVm input.sandboxName (some (input.mask m)) =
      (s.setVm input.sandboxName (some input)).mask m := s.setVm_mask _ (some input)
  have hdrop : (s.mask m).setVm input.sandboxName none =
      (s.setVm input.sandboxName none).mask m := s.setVm_mask _ none
  unfold createVm
  split
  · exact hset
  · split_ifs
    · exact hset
    · exact hdrop
    · rfl

/-- The rows that a query picks among the masked rows are the masked ones. -/
theorem pickRow_mask {ρ : Type} (f : ρ → ρ) (rows : List ρ) {p : ρ → Bool} (hp : ∀ r, p (f r) = p r)
    (pick : Nat) : pickRow (rows.map f) p pick = (pickRow rows p pick).map f := by
  have hfilter : (rows.map f).filter p = (rows.filter p).map f := by
    rw [List.filter_map]
    congr 1
    exact List.filter_congr fun r _ => hp r
  unfold pickRow
  rw [hfilter, List.length_map, List.getElem?_map]

/-- The backend treats the masked system as it treats the system. -/
theorem maskDisguise_respected (m : Mask) :
    (maskDisguise m).Respected (fun _ => True) backend := by
  intro op a s t r s' _ ht hact
  obtain rfl : t = s.mask m := ht
  change act op a s = some (r, s') at hact
  suffices h : act (op.mask m) a (s.mask m) = some (op.maskReply m r, s'.mask m) from
    ⟨_, _, h, rfl, rfl⟩
  cases op with
  | findRuntime query =>
    cases hact
    -- lookups are by id and name
    have hselects : ∀ r : RuntimeEntity, query.selects (r.mask m) = query.selects r := by
      intro r
      cases query <;> rfl
    exact congrArg (fun row => some (row, s.mask m)) (pickRow_mask _ _ hselects a.pick)
  | insertRuntime draft =>
    simp only [act, Request.mask] at hact ⊢
    rw [World.insertRuntime_mask]
    cases hinsert : s.insertRuntime draft <;> rw [hinsert] at hact <;> cases hact <;> rfl
  | saveRuntime runtime =>
    simp only [act, Request.mask] at hact ⊢
    rw [World.saveRuntime_mask]
    cases hsave : s.saveRuntime runtime <;> rw [hsave] at hact <;> cases hact <;> rfl
  | deleteRuntime id =>
    cases hact
    exact congrArg (fun s => some ((), s)) (s.deleteRuntime_mask id)
  | insertPortLease lease =>
    simp only [act, Request.mask] at hact ⊢
    rw [World.insertPortLease_mask]
    cases hinsert : s.insertPortLease lease <;> rw [hinsert] at hact <;> cases hact <;> rfl
  -- tokens and sessions are not masked
  | insertSignedToken record =>
    simp only [act, Request.mask] at hact ⊢
    rw [show (s.mask m).signedTokens = s.signedTokens from rfl]
    cases hinsert : s.signedTokens.insert record <;> rw [hinsert] at hact <;> cases hact <;> rfl
  | saveRevokedSession tokenHash =>
    simp only [act, Request.mask] at hact ⊢
    rw [show (s.mask m).revokedSessions = s.revokedSessions from rfl]
    split_ifs at hact ⊢
    · cases hact
      rfl
    · cases hfailure : a.failure <;> rw [hfailure] at hact <;> cases hact <;> rfl
  | sessions segment =>
    simp only [act, Request.mask] at hact ⊢
    split_ifs at hact ⊢
    cases hact
    rfl
  -- the VM keeps the input it was made from, secrets included
  | createDetachedRuntime input =>
    cases hact
    exact congrArg (fun s => some (a.outcome (), s)) (createVm_mask a input s)
  | remove name =>
    cases hact
    simp only [act, Request.mask, Request.maskReply]
    split_ifs
    · rfl
    · exact congrArg (fun s => some (a.outcome (), s)) (s.setVm_mask name none)
  | getStatus name =>
    have hvm : (s.mask m).vms name = none ↔ s.vms name = none := Option.map_eq_none_iff
    simp only [act, Request.mask, hvm] at hact ⊢
    split_ifs at hact ⊢
    cases hact
    rfl
  | _ =>
    cases hact
    rfl

end Backend

/-! ## Values computed from rows and requests

The pure functions of the services on both sides. Those that look at a secret do so in two ways
only: `requiresRecreate` compares the texts of all secrets, and `normalizeRegistryAuth` tests a
password for being empty. -/

section Values

variable {m : Mask}

/-- A row has secrets on both sides or on neither. -/
theorem mask_secrets_isEmpty (row : RuntimeEntity) :
    ((row.mask m).secrets.getD []).isEmpty = (row.secrets.getD []).isEmpty := by
  cases hsecrets : row.secrets <;> simp [RuntimeEntity.mask, hsecrets]

/-- A summary says whether there are secrets, and no more. -/
theorem runtimeStatusSummary_mask (row : RuntimeEntity) :
    runtimeStatusSummary (row.mask m) = runtimeStatusSummary row := by
  unfold runtimeStatusSummary
  rw [mask_secrets_isEmpty]
  rfl

/-- A login is dropped on both sides or on neither, since masking keeps an empty password empty. -/
theorem normalizeRegistryAuth_mask (input : Option RuntimeRegistryAuthDto) :
    RuntimeControl.normalizeRegistryAuth (input.map (·.mask m)) =
      (RuntimeControl.normalizeRegistryAuth input).map (·.mask m) := by
  cases input with
  | none => rfl
  | some auth =>
    simp only [RuntimeControl.normalizeRegistryAuth, Option.map_some]
    rw [show (auth.mask m).server = auth.server from rfl,
      show (auth.mask m).username = auth.username from rfl,
      show (auth.mask m).password = m.password auth.password from rfl]
    cases trimmed (some auth.server) with
    | none => rfl
    | some server =>
      cases trimmed (some auth.username) with
      | none => rfl
      | some username =>
        dsimp only
        -- an incomplete login is dropped, and an empty password makes it incomplete
        by_cases hempty : auth.password = ""
        · rw [if_pos hempty, if_pos ((m.password_empty _).mpr hempty)]
          rfl
        · rw [if_neg hempty, if_neg (mt (m.password_empty _).mp hempty)]
          rfl

/-- The spec of the masked request is the masked spec. -/
theorem specOf_mask (cfg : AppConfig) (input : SandboxSpecDto)
    (mounts : List RuntimeVolumeMountRecord) (mountInputs : List MountInput) :
    specOf cfg (input.mask m) mounts mountInputs =
      (specOf cfg input mounts mountInputs).mask m := by
  have hauth := normalizeRegistryAuth_mask (m := m) input.registryAuth
  have hsecrets : buildRuntimeSecrets ((input.mask m).secrets.getD []) =
      (buildRuntimeSecrets (input.secrets.getD [])).map (·.mask m) := by
    cases hinput : input.secrets with
    | none => simp [SandboxSpecDto.mask, hinput, buildRuntimeSecrets]
    | some secrets =>
      simp [SandboxSpecDto.mask, hinput, buildRuntimeSecrets, RuntimeSecretDto.mask,
        RuntimeSecretRecord.mask]
  unfold specOf RuntimeSpec.mask
  rw [hsecrets, ← hauth]
  rfl

/-- The mask of the values is injective, so the mask of the records is. -/
theorem RuntimeSecretRecord.mask_injective : Function.Injective (RuntimeSecretRecord.mask m) := by
  intro a b h
  cases a
  cases b
  simp only [RuntimeSecretRecord.mask, RuntimeSecretRecord.mk.injEq] at h ⊢
  exact ⟨h.1, m.secret_injective h.2.1, h.2.2⟩

/-- Lists of secrets have the same JSON text when they are the same. -/
theorem textsDiffer_secrets (a b : List RuntimeSecretRecord) :
    textsDiffer (.arr (a.map (·.toJson))) (.arr (b.map (·.toJson))) = false ↔ a = b := by
  constructor
  · intro h
    exact List.map_injective_iff.mpr RuntimeSecretRecord.toJson_injective
      (Json.arr.inj (textsDiffer_eq_false h))
  · rintro rfl
    simp [textsDiffer]

/-- Masking keeps apart the secrets that differ, and no others. -/
theorem requiresRecreate_mask (row : RuntimeEntity) (spec : RuntimeSpec) (name : Option String) :
    requiresRecreate (row.mask m) (spec.mask m) name = requiresRecreate row spec name := by
  have hrow : (row.mask m).secrets.getD [] = (row.secrets.getD []).map (·.mask m) := by
    cases hsecrets : row.secrets <;> simp [RuntimeEntity.mask, hsecrets]
  -- the only column that differs; its texts differ where the secrets do
  have hsecrets : textsDiffer (.arr (((row.mask m).secrets.getD []).map (·.toJson)))
        (.arr ((spec.mask m).secrets.map (·.toJson))) =
      textsDiffer (.arr ((row.secrets.getD []).map (·.toJson)))
        (.arr (spec.secrets.map (·.toJson))) := by
    have hiff : (row.mask m).secrets.getD [] = (spec.mask m).secrets ↔
        row.secrets.getD [] = spec.secrets := by
      rw [hrow]
      exact (List.map_injective_iff.mpr RuntimeSecretRecord.mask_injective).eq_iff
    rw [← Bool.not_inj_iff, Bool.eq_iff_iff]
    simp only [Bool.not_eq_true', textsDiffer_secrets]
    exact hiff
  unfold requiresRecreate
  rw [hsecrets]
  rfl

/-- The stored secrets in a request of their own are masked like the row. -/
theorem buildUpdateInput_mask (row : RuntimeEntity) (input : UpdateSandboxDto) :
    buildUpdateInput (row.mask m) (input.mask m) = (buildUpdateInput row input).mask m := by
  have hsecrets : ((input.mask m).secrets <|>
        some (((row.mask m).secrets.getD []).map secretDto)) =
      (input.secrets <|> some ((row.secrets.getD []).map secretDto)).map fun secrets =>
        secrets.map (·.mask m) := by
    cases hinput : input.secrets with
    | some secrets => simp [UpdateSandboxDto.mask, SandboxSpecDto.mask, hinput]
    | none =>
      cases hrow : row.secrets with
      | none => simp [UpdateSandboxDto.mask, SandboxSpecDto.mask, RuntimeEntity.mask, hinput, hrow]
      | some secrets =>
        simp [UpdateSandboxDto.mask, SandboxSpecDto.mask, RuntimeEntity.mask, hinput, hrow,
          secretDto, RuntimeSecretRecord.mask, RuntimeSecretDto.mask]
  unfold buildUpdateInput
  rw [hsecrets]
  rfl

end Values

/-! ## Programs

The two sides run the same program on masked data. `Masked m f p q` says so of two programs: their
requests correspond under the mask, and what they return corresponds under `f`. The rules follow the
program, and there is one lemma for each function of the services. -/

/-- The second program is the first in the masked system; it returns what `f` makes of its value. -/
abbrev Masked (m : Mask) {α β : Type} (f : α → β) (p : Async α) (q : Async β) : Prop :=
  p.Twin (maskDisguise m) (fun _ => True) (fun a b => b = f a) q

section Programs

variable {m : Mask} {α α' β β' : Type} {f : α → β} {g : α' → β'}

theorem Masked.pure {a : α} {b : β} (h : b = f a) : Masked m f (.pure a) (.pure b) :=
  Prog.Twin.pure h

/-- Both throw the same exception: no message contains a secret. -/
theorem Masked.throw (e : ServiceError) : Masked m f (.throw e) (.throw e) := Prog.Twin.throw e

/-- Programs that correspond, followed by programs that correspond for every value of the first. -/
theorem Masked.bind {p : Async α} {q : Async β} {k : α → Async α'} {k' : β → Async β'}
    (h : Masked m f p q) (hk : ∀ a, Masked m g (k a) (k' (f a))) :
    Masked m g (p >>= k) (q >>= k') :=
  Prog.Twin.bind h fun a _ hab => hab ▸ hk a

/-- A request and its masked counterpart, whose replies are masked too. -/
theorem Masked.request (op : Request) {k : op.Reply → Async α} {k' : (op.mask m).Reply → Async β}
    (hk : ∀ r, Masked m f (k r) (k' (op.maskReply m r))) :
    Masked m f (await op >>= k) (await (op.mask m) >>= k') :=
  Prog.Twin.request_bind (d := maskDisguise m) trivial fun r _ hr => hr ▸ hk r

/-- A request that ends the program. -/
theorem Masked.last (op : Request) :
    Masked m (op.maskReply m) (await op) (await (op.mask m)) :=
  Prog.Twin.request (d := maskDisguise m) trivial

/-- A computation on what carries no secrets. -/
theorem Masked.sync {γ : Type} (x : Except ServiceError γ) {k : γ → Async α} {k' : γ → Async β}
    (hk : ∀ c, x = .ok c → Masked m f (k c) (k' c)) :
    Masked m f (Microsandbox.sync x >>= k) (Microsandbox.sync x >>= k') := by
  cases x with
  | error e => exact .throw e
  | ok c => exact hk c rfl

/-- A synchronous step that has no secret in it. -/
theorem Masked.ofExcept (x : Except ServiceError α) :
    Masked m id (Microsandbox.sync x) (Microsandbox.sync x) := by
  cases x with
  | error e => exact .throw e
  | ok c => exact .pure rfl

end Programs

/-! ### The registry

What is read from the tables is masked on the other side. The functions that only handle ids,
leases, volumes or tokens return the same on both. -/

section Registry

variable {m : Mask}

/-- The row that is found is the masked one. -/
theorem findRuntimeBySandboxIdOrName_masked (value : String) :
    Masked m (Option.map (RuntimeEntity.mask m)) (findRuntimeBySandboxIdOrName value)
      (findRuntimeBySandboxIdOrName value) :=
  Masked.sync _ fun v _ => Masked.last (.findRuntime (.bySandboxIdOrName v))

theorem findRuntimeBySandboxId_masked (sandboxId : String) :
    Masked m (Option.map (RuntimeEntity.mask m)) (findRuntimeBySandboxId sandboxId)
      (findRuntimeBySandboxId sandboxId) :=
  Masked.sync _ fun v _ => Masked.last (.findRuntime (.bySandboxId v))

theorem saveRuntime_masked (draft : RuntimeEntity) :
    Masked m (RuntimeEntity.mask m) (Registry.saveRuntime draft)
      (Registry.saveRuntime (draft.mask m)) := by
  refine Masked.request (.insertRuntime draft) fun saved => ?_
  cases saved with
  | error e => exact .throw e
  | ok row => exact .pure rfl

/-- A row is returned as it was to be saved. -/
theorem updateRuntime_masked (row : RuntimeEntity) :
    Masked m (RuntimeEntity.mask m) (updateRuntime row) (updateRuntime (row.mask m)) := by
  refine Masked.request (.saveRuntime row) fun saved => ?_
  exact Masked.sync saved fun _ _ => .pure rfl

theorem deleteRuntime_masked (row : RuntimeEntity) :
    Masked m id (Registry.deleteRuntime row) (Registry.deleteRuntime (row.mask m)) := by
  refine Masked.request (.deleteRuntime row.id) fun _ => ?_
  refine Masked.request (.deletePortLeases row.id) fun _ => ?_
  exact Masked.last (.deleteSignedTokens (.bySandbox row.sandboxId))

theorem setRuntimeStatus_masked (row : RuntimeEntity) (status : RuntimeStatus) (reason : String) :
    Masked m (RuntimeEntity.mask m) (setRuntimeStatus row status reason)
      (setRuntimeStatus (row.mask m) status reason) := by
  unfold setRuntimeStatus
  split_ifs
  · exact Masked.request .now fun now => updateRuntime_masked { row with
      status := status, statusReason := some reason, lastActiveAt := some now }
  · exact updateRuntime_masked { row with status := status, statusReason := some reason }

/-- Leasing has no secrets in it. Induction on the ports left to try. -/
theorem leaseLoop_masked (runtimeId : RuntimeId) (count left : Nat) (port : Int)
    (ports : List Int) :
    Masked m id (leaseLoop runtimeId count left port ports)
      (leaseLoop runtimeId count left port ports) := by
  induction left generalizing port ports with
  | zero => exact .pure rfl
  | succ left ih =>
    unfold leaseLoop
    -- a port is looked up and inserted, or passed over
    split_ifs
    · refine Masked.request (.findPortLease localHostId port) fun found => ?_
      cases found with
      | some lease => exact ih _ _
      | none =>
        refine Masked.request (.insertPortLease ⟨localHostId, port, runtimeId⟩) fun saved => ?_
        cases saved with
        | ok _ => exact ih _ _
        | error e => exact ih _ _
    · exact .pure rfl

theorem leasePorts_masked (cfg : AppConfig) (runtimeId : RuntimeId) (count : Nat) :
    Masked m id (leasePorts cfg runtimeId count) (leasePorts cfg runtimeId count) := by
  refine (leaseLoop_masked runtimeId count _ _ []).bind fun ports => ?_
  dsimp only [id]
  split_ifs
  · exact Masked.request (.deletePortLeases runtimeId) fun _ => .throw _
  · exact .pure rfl

theorem findVolumeByIdOrName_masked (value : String) :
    Masked m id (findVolumeByIdOrName value) (findVolumeByIdOrName value) := by
  refine Masked.sync _ fun name _ => ?_
  cases name with
  | none => exact .pure rfl
  | some normalized => exact Masked.last (.findVolume value normalized)

/-- Preview tokens are not masked: they are drawn at random and depend on no secret. -/
theorem createSignedPreviewToken_masked (sandboxId : String) (port ttlSeconds : Int) :
    Masked m id (createSignedPreviewToken sandboxId port ttlSeconds)
      (createSignedPreviewToken sandboxId port ttlSeconds) := by
  refine Masked.request (.deleteSignedTokens (.bySandboxPort sandboxId port)) fun _ => ?_
  refine Masked.request .randomBytes fun token => ?_
  refine Masked.request .now fun now => ?_
  refine Masked.request
    (.insertSignedToken ⟨token, sandboxId, port, now + ttlSeconds * 1000⟩) fun saved => ?_
  exact Masked.sync saved fun _ _ => .pure rfl

end Registry

/-! ### The stages of provisioning

The stages of `provision` in the order of the code. Each takes its masked row, spec or input on the
other side. -/

section Stages

variable {m : Mask} (cfg : AppConfig)

/-- The message of the exception names the value that was asked for. -/
theorem requireRuntime_masked (value : String) :
    Masked m (RuntimeEntity.mask m) (requireRuntime value) (requireRuntime value) := by
  refine (findRuntimeBySandboxIdOrName_masked value).bind fun found => ?_
  cases found with
  | none => exact .throw _
  | some row => exact .pure rfl

/-- The status comes from the backend, which has the same VMs under the same names. -/
theorem syncStatus_masked (row : RuntimeEntity) :
    Masked m (RuntimeEntity.mask m) (syncStatus row) (syncStatus (row.mask m)) := by
  refine Masked.request (.getStatus row.sandboxName) fun status => ?_
  dsimp only [Request.maskReply]
  rw [show (row.mask m).status = row.status from rfl]
  split_ifs
  · exact updateRuntime_masked { row with status := normalizeStatus status }
  · exact .pure rfl

theorem requireRunningRuntime_masked (value : String) :
    Masked m (RuntimeEntity.mask m) (requireRunningRuntime value)
      (requireRunningRuntime value) := by
  refine (requireRuntime_masked value).bind fun row => ?_
  refine (syncStatus_masked row).bind fun row => ?_
  rw [show (row.mask m).status = row.status from rfl]
  split_ifs
  · exact .throw _
  · exact .pure rfl

/-- Looks at the bindings of the row only. -/
theorem ensurePreviewable_masked (value : String) (port : Int) :
    Masked m (RuntimeEntity.mask m) (ensurePreviewable value port)
      (ensurePreviewable value port) := by
  refine (requireRunningRuntime_masked value).bind fun row => ?_
  exact Masked.sync (findBinding row port) fun _ _ => .pure rfl

theorem checkName_masked (name : Option String) (sandboxId : String) :
    Masked m id (checkName name sandboxId) (checkName name sandboxId) := by
  cases name with
  | none => exact .pure rfl
  | some name =>
    refine (findRuntimeBySandboxIdOrName_masked name).bind fun found => ?_
    cases found with
    | none => exact .pure rfl
    | some row =>
      dsimp only [Option.map_some]
      rw [show (row.mask m).sandboxId = row.sandboxId from rfl]
      split_ifs
      · exact .throw _
      · exact .pure rfl

theorem checkFreeName_masked (name : Option String) :
    Masked m id (checkFreeName name) (checkFreeName name) := by
  cases name with
  | none => exact .pure rfl
  | some name =>
    refine (findRuntimeBySandboxIdOrName_masked name).bind fun found => ?_
    cases found with
    | none => exact .pure rfl
    | some row => exact .throw _

theorem chooseSandboxId_masked (seed : Option String) :
    Masked m id (chooseSandboxId seed) (chooseSandboxId seed) := by
  unfold chooseSandboxId
  split_ifs
  · exact Masked.request .randomBytes fun hex => Masked.ofExcept _
  · exact Masked.ofExcept _

theorem resolveVolumes_masked (mounts : List RuntimeVolumeMountDto) :
    Masked m id (resolveVolumes mounts) (resolveVolumes mounts) := by
  induction mounts with
  | nil => exact .pure rfl
  | cons mount rest ih =>
    refine Masked.bind (f := id) ?_ fun volume => ?_
    · refine (findVolumeByIdOrName_masked mount.volumeId).bind fun found => ?_
      cases found with
      | none => exact .throw _
      | some volume => exact .pure rfl
    · dsimp only [id]
      split_ifs
      · exact .throw _
      · exact ih.bind fun _ => .pure rfl

/-- The spec of a masked request is the masked spec. -/
theorem buildSpec_masked (input : SandboxSpecDto) :
    Masked m (RuntimeSpec.mask m) (buildSpec cfg input) (buildSpec cfg (input.mask m)) := by
  refine (resolveVolumes_masked (input.volumes.getD [])).bind fun mounts => ?_
  exact .pure (specOf_mask cfg input mounts.1 mounts.2)

theorem nextActivity_masked (input : ProvisionInput) (row : RuntimeEntity) :
    Masked m id (nextActivity input row) (nextActivity (input.mask m) (row.mask m)) := by
  unfold nextActivity
  rw [show (input.mask m).refreshActivity = input.refreshActivity from rfl]
  split_ifs
  · exact .pure rfl
  · exact Masked.request .now fun now => .pure rfl

/-- The VM name and the primary port are no secrets. -/
theorem existingHealthy_masked (row : RuntimeEntity) :
    Masked m id (existingHealthy row) (existingHealthy (row.mask m)) := by
  refine Masked.request (.getStatus row.sandboxName) fun status => ?_
  dsimp only [Request.maskReply]
  split_ifs
  · exact Masked.last (.isHealthy (primaryHostPort row))
  · exact .pure rfl

/-- Files are written as they are: a file is no secret of this kind. -/
theorem syncFiles_masked (spec : RuntimeSpec) (row : RuntimeEntity) :
    Masked m id (syncFiles spec row) (syncFiles (spec.mask m) (row.mask m)) := by
  unfold syncFiles
  rw [show (spec.mask m).files = spec.files from rfl]
  split_ifs
  · exact Masked.request (.writeFiles row.sandboxName spec.files) fun written =>
      Masked.ofExcept written
  · exact .pure rfl

theorem syncExisting_masked (input : ProvisionInput) (name : Option String) (spec : RuntimeSpec)
    (row : RuntimeEntity) :
    Masked m id (syncExisting input name spec row)
      (syncExisting (input.mask m) name (spec.mask m) (row.mask m)) := by
  refine (syncFiles_masked spec row).bind fun _ => ?_
  refine (nextActivity_masked input row).bind fun activity => ?_
  refine (updateRuntime_masked (syncedRow name spec row activity)).bind fun updated => ?_
  exact .pure (runtimeStatusSummary_mask updated)

/-- Only the row's id and bindings are used. -/
theorem assignPorts_masked (row : RuntimeEntity) (ports : List RuntimePortBindingRecord) :
    Masked m id (assignPorts cfg row ports) (assignPorts cfg (row.mask m) ports) := by
  unfold assignPorts
  rw [show (row.mask m).portBindings = row.portBindings from rfl,
    show (row.mask m).id = row.id from rfl]
  split_ifs
  · exact (leasePorts_masked cfg row.id _).bind fun leased => .pure rfl
  · exact (leasePorts_masked cfg row.id _).bind fun leased => .pure rfl
  · exact .pure rfl

/-- The masked input goes to the backend, which answers the same. -/
theorem createVm_masked (input : CreateRuntimeInput) :
    Masked m id (RuntimeControl.createVm input) (RuntimeControl.createVm (input.mask m)) := by
  refine Masked.request (.createDetachedRuntime input) fun created => ?_
  cases created with
  | ok _ => exact .pure rfl
  | error e =>
    dsimp only [Request.maskReply]
    split_ifs
    · exact .pure rfl
    · exact .throw e

theorem sshHealth_masked (spec : RuntimeSpec) (ports : List RuntimePortBindingRecord) :
    Masked m id (sshHealth spec ports) (sshHealth (spec.mask m) ports) := by
  unfold sshHealth
  rw [show (spec.mask m).ssh = spec.ssh from rfl]
  split_ifs
  · cases findSshBinding ports with
    | none => exact .pure rfl
    | some binding => exact Masked.last (.waitForHealthy binding.hostPort)
  · exact .pure rfl

/-- From the ports on, with the masked input for the VM and the masked row in the end. -/
theorem launch_masked (input : ProvisionInput) (name : Option String) (spec : RuntimeSpec)
    (row : RuntimeEntity) :
    Masked m id (launch cfg input name spec row)
      (launch cfg (input.mask m) name (spec.mask m) (row.mask m)) := by
  refine (assignPorts_masked cfg row spec.ports).bind fun ports => ?_
  refine (createVm_masked (createInput row spec ports)).bind fun _ => ?_
  refine Masked.sync (firstPortBinding ports) fun primary _ => ?_
  refine Masked.request (.waitForHealthy primary.hostPort) fun appHealthy => ?_
  refine (sshHealth_masked spec ports).bind fun sshHealthy => ?_
  refine (nextActivity_masked input row).bind fun activity => ?_
  have hsave := updateRuntime_masked (m := m)
    (provisionedRow name spec row ports primary appHealthy sshHealthy activity)
  exact hsave.bind fun updated => .pure (runtimeStatusSummary_mask updated)

/-- The row that is taken back is found by its id. -/
theorem leaseForNewRow_masked (row : RuntimeEntity) (count : Nat) :
    Masked m id (leaseForNewRow cfg row count) (leaseForNewRow cfg (row.mask m) count) := by
  refine (leasePorts_masked cfg row.id count).catchError fun e => ?_
  exact (deleteRuntime_masked row).bind fun _ => .throw e

/-- A new row is drafted from the masked spec. -/
theorem provisionNew_masked (input : ProvisionInput) (name : Option String) (spec : RuntimeSpec)
    (primary : RuntimePortBindingRecord) :
    Masked m id (provisionNew cfg input name spec primary)
      (provisionNew cfg (input.mask m) name (spec.mask m) primary) := by
  refine Masked.request .randomBytes fun authToken => ?_
  refine Masked.sync (sandboxName cfg input.sandboxId) fun vmName _ => ?_
  refine Masked.request .now fun now => ?_
  have hsave := saveRuntime_masked (m := m)
    (newRow input.sandboxId vmName authToken name spec primary now)
  refine hsave.bind fun row => ?_
  refine (leaseForNewRow_masked cfg row spec.ports.length).bind fun leased => ?_
  exact launch_masked cfg input name { spec with ports := setHostPorts spec.ports leased } row

/-- The row is saved with the masked spec before the VM is replaced. -/
theorem provisionReplace_masked (input : ProvisionInput) (name : Option String)
    (spec : RuntimeSpec) (row : RuntimeEntity) :
    Masked m id (provisionReplace cfg input name spec row)
      (provisionReplace cfg (input.mask m) name (spec.mask m) (row.mask m)) := by
  refine (updateRuntime_masked (replacingRow input name spec row)).bind fun replaced => ?_
  exact launch_masked cfg input name spec replaced

/-- The health of a VM depends on no secret, so the row is kept on both sides or on neither. -/
theorem provisionExisting_masked (input : ProvisionInput) (name : Option String)
    (spec : RuntimeSpec) (row : RuntimeEntity) :
    Masked m id (provisionExisting cfg input name spec row)
      (provisionExisting cfg (input.mask m) name (spec.mask m) (row.mask m)) := by
  refine (existingHealthy_masked row).bind fun healthy => ?_
  dsimp only [id]
  split_ifs
  · exact syncExisting_masked input name spec row
  · exact launch_masked cfg input name spec row

/-- Provisioning takes the same way, since the comparison of row and spec comes out the same. -/
theorem provision_masked (input : ProvisionInput) :
    Masked m id (provision cfg input) (provision cfg (input.mask m)) := by
  refine Masked.sync (normalizeName input.name) fun name _ => ?_
  refine (checkName_masked name input.sandboxId).bind fun _ => ?_
  refine (findRuntimeBySandboxId_masked input.sandboxId).bind fun found => ?_
  refine (buildSpec_masked cfg input.toSandboxSpecDto).bind fun spec => ?_
  refine Masked.sync (firstPortBinding spec.ports) fun primary _ => ?_
  cases found with
  | none => exact provisionNew_masked cfg input name spec primary
  | some row =>
    dsimp only [Option.map_some]
    rw [requiresRecreate_mask,
      show (input.mask m).forceRecreate = input.forceRecreate from rfl]
    split_ifs
    · exact provisionReplace_masked cfg input name spec row
    · exact provisionExisting_masked cfg input name spec row

end Stages

/-! ### The calls

The calls of the controllers. Their answers hold no secret values, so that they are the same on both
sides. -/

section Calls

variable {m : Mask} (cfg : AppConfig)

theorem create_masked (input : SandboxSpecDto) :
    Masked m id (RuntimeControl.create cfg input) (RuntimeControl.create cfg (input.mask m)) := by
  refine Masked.sync (normalizeName input.name) fun name _ => ?_
  refine (checkFreeName_masked name).bind fun _ => ?_
  refine (chooseSandboxId_masked name).bind fun sandboxId => ?_
  exact provision_masked cfg (createRequest input sandboxId)

theorem ensure_masked (input : EnsureRuntimeDto) :
    Masked m id (RuntimeControl.ensure cfg input) (RuntimeControl.ensure cfg (input.mask m)) := by
  refine (chooseSandboxId_masked (input.sandboxId <|> input.name)).bind fun sandboxId => ?_
  exact provision_masked cfg (ensureRequest input sandboxId)

/-- The merged input of the masked row and the masked patch is the masked merged input. -/
theorem update_masked (sandboxId : String) (input : UpdateSandboxDto) :
    Masked m id (RuntimeControl.update cfg sandboxId input)
      (RuntimeControl.update cfg sandboxId (input.mask m)) := by
  refine (findRuntimeBySandboxId_masked sandboxId).bind fun found => ?_
  cases found with
  | none => exact .throw _
  | some row =>
    dsimp only [Option.map_some]
    rw [buildUpdateInput_mask]
    exact provision_masked cfg (buildUpdateInput row input)

theorem get_masked (value : String) :
    Masked m id (RuntimeControl.get value) (RuntimeControl.get value) := by
  refine (requireRuntime_masked value).bind fun row => ?_
  refine (syncStatus_masked row).bind fun row => ?_
  exact .pure (runtimeStatusSummary_mask row)

theorem start_masked (value : String) :
    Masked m id (RuntimeControl.start value) (RuntimeControl.start value) := by
  refine (requireRuntime_masked value).bind fun row => ?_
  refine Masked.request (.start row.sandboxName row.command row.workingDir) fun started => ?_
  refine Masked.sync started fun _ _ => ?_
  refine (setRuntimeStatus_masked row .running "manual:start").bind fun row => ?_
  exact .pure (runtimeStatusSummary_mask row)

theorem stop_masked (value : String) :
    Masked m id (RuntimeControl.stop value) (RuntimeControl.stop value) := by
  refine (requireRuntime_masked value).bind fun row => ?_
  refine Masked.request (.stop row.sandboxName) fun stopped => ?_
  refine Masked.sync stopped fun _ _ => ?_
  refine (setRuntimeStatus_masked row .stopped "manual:stop").bind fun row => ?_
  exact .pure (runtimeStatusSummary_mask row)

theorem delete_masked (value : String) :
    Masked m id (RuntimeControl.delete value) (RuntimeControl.delete value) := by
  refine (requireRuntime_masked value).bind fun row => ?_
  refine (setRuntimeStatus_masked row .deleting "delete_requested").bind fun row => ?_
  refine Masked.request (.remove row.sandboxName) fun removed => ?_
  refine Masked.sync removed fun _ _ => ?_
  refine Masked.request (.deletePortLeases row.id) fun _ => ?_
  exact (deleteRuntime_masked row).bind fun _ => .pure rfl

/-- The row is saved as it was loaded, but for the time of its last activity. -/
theorem touch_masked (row : RuntimeEntity) :
    Masked m (RuntimeEntity.mask m) (touch row) (touch (row.mask m)) :=
  Masked.request .now fun now => updateRuntime_masked { row with lastActiveAt := some now }

/-- The output comes from the backend, the same on both sides. -/
theorem exec_masked (value command : String) (args : List String) :
    Masked m id (RuntimeControl.exec value command args)
      (RuntimeControl.exec value command args) := by
  refine (requireRunningRuntime_masked value).bind fun row => ?_
  refine Masked.request (.exec row.sandboxName command args) fun result => ?_
  refine Masked.sync result fun _ _ => ?_
  exact (touch_masked row).bind fun _ => .pure rfl

theorem refreshActivity_masked (value : String) :
    Masked m id (RuntimeControl.refreshActivity value)
      (RuntimeControl.refreshActivity value) := by
  refine (requireRunningRuntime_masked value).bind fun row => ?_
  refine Masked.request (.refreshActivity row.sandboxName) fun refreshed => ?_
  refine Masked.sync refreshed fun _ _ => ?_
  exact (touch_masked row).bind fun row => .pure (runtimeStatusSummary_mask row)

theorem writeFiles_masked (value : String) (files : List RuntimeFileDto) :
    Masked m id (RuntimeControl.writeFiles value files)
      (RuntimeControl.writeFiles value files) := by
  refine (requireRunningRuntime_masked value).bind fun row => ?_
  refine Masked.request (.writeFiles row.sandboxName (buildRuntimeFiles files)) fun written => ?_
  refine Masked.sync written fun _ _ => ?_
  exact (touch_masked row).bind fun row => .pure (runtimeStatusSummary_mask row)

theorem downloadFiles_masked (value : String) (paths : List String) :
    Masked m id (RuntimeControl.downloadFiles value paths)
      (RuntimeControl.downloadFiles value paths) := by
  refine (requireRunningRuntime_masked value).bind fun row => ?_
  refine Masked.request (.readFiles row.sandboxName paths) fun files => ?_
  refine Masked.sync files fun _ _ => ?_
  exact (touch_masked row).bind fun _ => .pure rfl

theorem getSignedPreviewUrl_masked (value : String) (port : Int) :
    Masked m id (getSignedPreviewUrl cfg value port) (getSignedPreviewUrl cfg value port) := by
  refine (ensurePreviewable_masked value port).bind fun row => ?_
  exact createSignedPreviewToken_masked row.sandboxId port cfg.connectionTtlSeconds

theorem expireSignedPreviewUrl_masked (value : String) (port : Int) (token : String) :
    Masked m id (RuntimeControl.expireSignedPreviewUrl value port token)
      (RuntimeControl.expireSignedPreviewUrl value port token) := by
  refine (requireRuntime_masked value).bind fun row => ?_
  refine Masked.request (.findSignedToken token port) fun found => ?_
  cases found with
  | none => exact .throw _
  | some record =>
    dsimp only [Request.maskReply]
    rw [show (row.mask m).sandboxId = row.sandboxId from rfl]
    split_ifs
    · exact .throw _
    · exact Masked.request (.deleteSignedTokens (.byTokenPort token port)) fun _ => .pure rfl

theorem resolveSignedPreviewToken_masked (token : String) (port : Int) :
    Masked m id (resolveSignedPreviewToken token port) (resolveSignedPreviewToken token port) := by
  refine Masked.request (.findSignedToken token port) fun found => ?_
  cases found with
  | none => exact .throw _
  | some record =>
    refine Masked.bind (f := id) (Masked.request .now fun now => .pure rfl) fun expired => ?_
    dsimp only [id]
    split_ifs
    · exact Masked.request (.deleteSignedTokens (.byTokenPort token port)) fun _ => .throw _
    · exact .pure rfl

theorem getPreviewUrl_masked (cfg : ApiConfig) (value : String) (port : Int) :
    Masked m id (getPreviewUrl cfg value port) (getPreviewUrl cfg value port) :=
  (ensurePreviewable_masked value port).bind fun _ => .pure rfl

theorem getPreviewPublicState_masked (value : String) :
    Masked m id (getPreviewPublicState value) (getPreviewPublicState value) :=
  (requireRuntime_masked value).bind fun _ => .pure rfl

theorem validatePreviewToken_masked (value token : String) :
    Masked m id (validatePreviewToken value token) (validatePreviewToken value token) := by
  refine (requireRuntime_masked value).bind fun row => ?_
  rw [show (row.mask m).authToken = row.authToken from rfl]
  split_ifs
  · exact .throw _
  · exact .pure rfl

/-- The host port is looked up in the bindings. -/
theorem resolveProxyTarget_mask (row : RuntimeEntity) (port : Int) :
    resolveProxyTarget (row.mask m) port =
      (resolveProxyTarget row port).map fun target => (target.1.mask m, target.2) := by
  have hbinding : findBinding (row.mask m) port = findBinding row port := rfl
  unfold resolveProxyTarget
  rw [hbinding]
  cases findBinding row port <;> rfl

theorem resolveProxyTarget_masked (row : RuntimeEntity) (port : Int) :
    Masked m (fun target => (target.1.mask m, target.2)) (sync (resolveProxyTarget row port))
      (sync (resolveProxyTarget (row.mask m) port)) := by
  rw [resolveProxyTarget_mask]
  cases resolveProxyTarget row port with
  | error e => exact .throw e
  | ok target => exact .pure rfl

theorem validate_masked (p : ProxyMatch) :
    Masked m (fun target => (target.1.mask m, target.2)) (validate p) (validate p) := by
  cases p with
  | signed token port path =>
    exact (resolveSignedPreviewToken_masked token port).bind fun sandboxId =>
      (requireRuntime_masked sandboxId).bind fun row => resolveProxyTarget_masked row port
  | standard sandboxId port path token =>
    refine (requireRuntime_masked sandboxId).bind fun row => ?_
    rw [show (row.mask m).isPublic = row.isPublic from rfl,
      show (row.mask m).authToken = row.authToken from rfl]
    split_ifs
    · exact .throw _
    · exact resolveProxyTarget_masked row port

/-- What the proxy forwards to is a host port and a path. -/
theorem handle_masked (parse : UrlParser) (refusal : ProxyReply) (url : Option String)
    (headers : Headers) :
    Masked m id (handle parse refusal url headers) (handle parse refusal url headers) := by
  refine Masked.sync (extract parse (url.getD "") headers) fun found _ => ?_
  cases found with
  | none => exact .pure rfl
  | some p => exact (validate_masked p).bind fun target => .pure rfl

/-- A session holds the sandbox id, the host port and the expiry. -/
theorem createSession_masked (body : SshController.CreateSessionBody) :
    Masked m id (SshController.createSession cfg body) (SshController.createSession cfg body) := by
  refine (findRuntimeBySandboxId_masked body.sandboxId).bind fun found => ?_
  cases found with
  | none => exact .throw _
  | some row =>
    dsimp only [Option.map_some]
    rw [show (row.mask m).portBindings = row.portBindings from rfl]
    cases findSshBinding row.portBindings with
    | none => exact .throw _
    | some binding =>
      exact Masked.request (.sessions (SshSession.createSegment cfg body.sandboxId
        binding.hostPort body.expiryMinutes)) fun reply => Masked.ofExcept reply

theorem revokeSession_masked (token : String) :
    Masked m id (SshController.revokeSession cfg token)
      (SshController.revokeSession cfg token) := by
  refine Masked.bind (f := id) ?_ fun revoked => ?_
  · refine Masked.request (.sessions (SshSession.revokeSegment (cfg.sha256 token))) fun _ => ?_
    refine Masked.request (.saveRevokedSession (cfg.sha256 token)) fun saved => ?_
    cases saved with
    | ok _ => exact .pure rfl
    | error e => exact .pure rfl
  · dsimp only [id]
    split_ifs
    · exact .pure rfl
    · exact .throw _

theorem validateToken_masked (token : String) :
    Masked m id (SshController.validateToken cfg token)
      (SshController.validateToken cfg token) := by
  refine Masked.bind (f := id) ?_ fun result => ?_
  · refine Masked.request (.findRevokedSession (cfg.sha256 token)) fun revoked => ?_
    dsimp only [Request.maskReply]
    split_ifs
    · exact .pure rfl
    · refine Masked.request (.sessions (SshSession.validateSegment (cfg.sha256 token)))
        fun reply => Masked.sync reply fun reply _ => ?_
      cases reply with
      | validated result => exact .pure rfl
      | created session => exact .pure rfl
      | done => exact .pure rfl
  · cases result with
    | none => exact .throw _
    | some result => exact .pure rfl

end Calls

/-! ## The API

The guard looks at the header alone, and each handler is one of the programs above, so that a
request corresponds to the masked request. Two pools of such requests are run side by side. -/

/-- The route with the secrets in its body masked. -/
def Route.mask (m : Mask) : Route → Route
  | .create body => .create (body.mask m)
  | .ensure body => .ensure (body.mask m)
  | .update sandboxId body => .update sandboxId (body.mask m)
  | route => route

/-- The body is masked; the authorization header is not. -/
def HttpRequest.mask (m : Mask) (req : HttpRequest) : HttpRequest :=
  { req with route := req.route.mask m }

/-- Every handler answers the masked request alike. -/
theorem Route.handler_masked (m : Mask) (cfg : ApiConfig) (route : Route) :
    Masked m id (route.handler cfg) ((route.mask m).handler cfg) := by
  -- most handlers put the result of one call in a body
  have hmap : ∀ {α : Type} {p q : Async α} {f : α → HttpReply}, Masked m id p q →
      Masked m id (p >>= fun a => Prog.pure (f a)) (q >>= fun a => Prog.pure (f a)) :=
    fun h => h.bind fun _ => .pure rfl
  cases route with
  | create body => exact hmap (create_masked cfg.toAppConfig body)
  | ensure body => exact hmap (ensure_masked cfg.toAppConfig body)
  | update sandboxId body => exact hmap (update_masked cfg.toAppConfig sandboxId body)
  | get value => exact hmap (get_masked value)
  | start value => exact hmap (start_masked value)
  | stop value => exact hmap (stop_masked value)
  | delete value => exact hmap (delete_masked value)
  | previewUrl value port => exact hmap (getPreviewUrl_masked cfg value port)
  | signedPreviewUrl value port =>
    exact (getSignedPreviewUrl_masked cfg.toAppConfig value port).bind fun record =>
      Masked.sync _ fun _ _ => .pure rfl
  | expireSignedPreviewUrl value port token =>
    exact hmap (expireSignedPreviewUrl_masked value port token)
  | exec value command args => exact hmap (exec_masked value command (args.getD []))
  | refreshActivity value => exact hmap (refreshActivity_masked value)
  | writeFiles value files => exact hmap (writeFiles_masked value files)
  | downloadFiles value paths => exact hmap (downloadFiles_masked value paths)
  | createSession body => exact hmap (createSession_masked cfg.toAppConfig body)
  | revokeSession token => exact hmap (revokeSession_masked cfg.toAppConfig token)
  | validateToken token => exact hmap (validateToken_masked cfg.toAppConfig token)
  | previewPublic value => exact hmap (getPreviewPublicState_masked value)
  | previewValidate value token => exact hmap (validatePreviewToken_masked value token)
  | previewResolve token port => exact hmap (resolveSignedPreviewToken_masked token port)
  | proxyHttp url headers => exact hmap (handle_masked cfg.parseUrl .notFound url headers)
  | proxyUpgrade url headers => exact hmap (handle_masked cfg.parseUrl .destroyed url headers)

/-- A refused request is refused on both sides, before its handler. -/
theorem HttpRequest.prog_masked (m : Mask) (cfg : ApiConfig) (req : HttpRequest) :
    Masked m id (req.prog cfg) ((req.mask m).prog cfg) := by
  have hguard : (req.mask m).guard cfg = req.guard cfg := by
    obtain ⟨authorization, route⟩ := req
    cases route <;> rfl
  unfold HttpRequest.prog
  rw [hguard]
  exact Masked.sync _ fun _ _ => Route.handler_masked m cfg req.route

/-- **Secrets do not interfere.** However requests on the routes of `Route` interleave, from any
state: with other values for the secrets and registry passwords, wherever they are stored or given,
the same requests go through the same steps under the same choices of the environment and get the
same answers, and what differs in the requests to the store and the backend and in the state they
leave is those values. -/
theorem secrets_do_not_interfere {ι : Type} [DecidableEq ι] (m : Mask) (cfg : ApiConfig)
    (reqs : ι → HttpRequest) (s : World) {tr : History ι}
    {c : Pool requests ServiceError HttpReply World ι} (hrun : Serving cfg reqs s tr c) :
    ∃ tr' c', Serving cfg (fun i => (reqs i).mask m) (s.mask m) tr' c' ∧
      (∀ i, (c'.thread i).outcome = (c.thread i).outcome) ∧ c'.state = c.state.mask m ∧
      tr' = tr.map fun x => (x.1, ⟨x.2.before.mask m, x.2.op.mask m, x.2.answer⟩) := by
  obtain ⟨tr', c', hrun', htr, htwins, hstate⟩ := Pool.Run.twin
    (receiving cfg (fun i => (reqs i).mask m) (s.mask m)) (maskDisguise_respected m) hrun
    (fun i => HttpRequest.prog_masked m cfg (reqs i)) rfl
  refine ⟨tr', c', hrun', fun i => (htwins i).outcome_eq, hstate, ?_⟩
  -- event by event, the twin's history is the masked one
  clear hrun hrun' htwins hstate
  induction htr with
  | nil => rfl
  | @cons x y _ _ hxy _ ih =>
    obtain ⟨htag, hbefore, hop, hanswer⟩ := hxy
    obtain ⟨i, ev⟩ := x
    obtain ⟨j, before, op, answer⟩ := y
    cases htag
    cases hbefore
    cases hop
    cases hanswer
    rw [List.map_cons, ← ih]
    rfl

/-- A mask that marks every secret. -/
def marking : Mask where
  secret s := "*" ++ s
  secret_injective a b h := by simpa using h
  password := id
  password_empty _ := Iff.rfl

/-- The request brings up a sandbox with a secret. -/
def withSecret (_ : Nat) : HttpRequest where
  authorization := some (.single "Bearer internal")
  route := .ensure { sandboxId := some "a", secrets := some [{ env := "KEY", value := "hunter" }] }

/-- A stored row has the secret. -/
def storesSecret (value : String) (s : World) : Bool :=
  s.runtimes.rows.any fun row => (row.secrets.getD []).any fun secret => secret.value == value

/-- With another secret the sandbox comes up alike, and the other secret is stored. -/
theorem marked_secret_stored : ∃ tr' c',
    Serving closedApi (fun i => (withSecret i).mask marking) ((World.fresh .empty).mask marking)
      tr' c' ∧ (c'.thread 0).outcome.isSome = true ∧ storesSecret "*hunter" c'.state = true := by
  obtain ⟨tr, c, hrun, hfound⟩ := Pool.exists_run_of_schedule (h := backend) (steps 0 19)
    (fun _ (c : Pool requests ServiceError HttpReply World Nat) =>
      (c.thread 0).outcome.isSome && storesSecret "hunter" c.state)
    (show (Pool.schedule backend _ (receiving closedApi withSecret (World.fresh .empty))).any _ =
      true by decide +kernel)
  obtain ⟨tr', c', hrun', houtcome, hstate, -⟩ :=
    secrets_do_not_interfere marking closedApi withSecret (World.fresh .empty) hrun
  rw [Bool.and_eq_true] at hfound
  refine ⟨tr', c', hrun', by rw [houtcome]; exact hfound.1, ?_⟩
  -- the masked row has the marked secret
  simp only [storesSecret, List.any_eq_true, beq_iff_eq] at hfound ⊢
  obtain ⟨-, row, hrow, secret, hsecret, hvalue⟩ := hfound
  rw [hstate]
  refine ⟨row.mask marking, List.mem_map_of_mem hrow, secret.mask marking, ?_, ?_⟩
  · cases hsecrets : row.secrets with
    | none => simp [hsecrets] at hsecret
    | some secrets =>
      rw [hsecrets] at hsecret
      simpa [RuntimeEntity.mask, hsecrets] using ⟨secret, hsecret, rfl⟩
  · simp [RuntimeSecretRecord.mask, marking, hvalue]
end Microsandbox
