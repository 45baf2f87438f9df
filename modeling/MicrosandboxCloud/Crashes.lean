import MicrosandboxCloud.Process.Crash
import MicrosandboxCloud.Queries
import MicrosandboxCloud.Strangers

/-!
# Microsandbox — crashes

The process may stop at any await of a request, and is started again without its SSH sessions. The
database and the VMs stay as they are.

* **`Owned`** — every port lease and every VM is that of a stored runtime, so that deleting the
  runtime gives them back.
* **`CutOff`** — a request is served up to some await, or to its end.
* **`crashes_orphan_nothing`** — what is left is owned after any requests one at a time, wherever
  each of them was cut off.
-/

namespace Microsandbox

open Process Data Text RuntimeControl Registry ProxyService

/-! ## What is owned

A lease belongs to the runtime whose id it has, and a VM to a row that has its name. Nothing else in
the store keeps track of either, so that a lease or a VM without its row is lost: no call would ever
give it back. -/

/-- Every port lease and every VM belongs to a stored runtime. -/
structure Owned (s : World) : Prop where
  leases : ∀ lease ∈ s.portLeases, ∃ r ∈ s.runtimes, r.id = lease.runtimeId
  vms : ∀ name, s.vms name ≠ none → ∃ r ∈ s.runtimes, r.sandboxName = name

/-- The row is stored, as far as its id and the name of its VM go. -/
def Held (row : RuntimeEntity) (s : World) : Prop :=
  ∃ r ∈ s.runtimes, r.id = row.id ∧ r.sandboxName = row.sandboxName

/-- Without the runtime every VM would still have one. -/
def VmsElsewhere (id : RuntimeId) (s : World) : Prop :=
  ∀ name, s.vms name ≠ none → ∃ r ∈ s.runtimes, r.sandboxName = name ∧ r.id ≠ id

/-- `remove` has removed the VM. -/
def removesVm (ev : Event requests World Answer) : Prop := ev.answer.removeKeepsVm = false

/-- The runtimes are the same, and no lease and no VM is new. -/
structure Shrinks (s s' : World) : Prop where
  runtimes : s'.runtimes = s.runtimes
  leases : ∀ lease ∈ s'.portLeases, lease ∈ s.portLeases
  vms : ∀ name, s'.vms name ≠ none → s.vms name ≠ none

section Shrinks

variable {s s' : World} {row : RuntimeEntity} {id : RuntimeId}

/-- What only takes leases and VMs away, and no rows, orphans nothing. -/
theorem Owned.shrinks (h : Owned s) (hshrinks : Shrinks s s') : Owned s' where
  leases lease hlease := hshrinks.runtimes ▸ h.leases lease (hshrinks.leases lease hlease)
  vms name hvm := hshrinks.runtimes ▸ h.vms name (hshrinks.vms name hvm)

/-- Nor does it take the row that a call holds. -/
theorem Held.shrinks (h : Held row s) (hshrinks : Shrinks s s') : Held row s' := by
  unfold Held
  rw [hshrinks.runtimes]
  exact h

/-- A row without a VM of its own gets none by it. -/
theorem VmsElsewhere.shrinks (h : VmsElsewhere id s) (hshrinks : Shrinks s s') :
    VmsElsewhere id s' :=
  fun name hvm => hshrinks.runtimes ▸ h name (hshrinks.vms name hvm)

/-- Deleting the leases of a runtime leaves rows and VMs alone. -/
theorem shrinks_deletePortLeases (s : World) (id : RuntimeId) :
    Shrinks s (s.deletePortLeases id) :=
  ⟨rfl, fun _ hlease => (Table.mem_delete.mp hlease).1, fun _ hvm => hvm⟩

/-- Removing a VM leaves rows and leases alone. -/
theorem shrinks_removeVm (s : World) (name : String) : Shrinks s (s.setVm name none) := by
  refine ⟨rfl, fun _ hlease => hlease, fun other hvm => ?_⟩
  change Function.update s.vms name none other ≠ none at hvm
  by_cases hother : other = name
  · rw [hother, Function.update_self] at hvm
    exact absurd rfl hvm
  · rwa [Function.update_of_ne hother] at hvm

end Shrinks

/-- The requests that make no lease and no VM and leave the runtimes alone. -/
def Request.Neutral : Request → Prop
  | .insertRuntime _ | .saveRuntime _ | .deleteRuntime _ | .insertPortLease _
  | .createDetachedRuntime _ => False
  | _ => True

theorem Request.Looks.neutral {op : Request} (h : op.Looks) : op.Neutral := by
  cases op with
  | insertRuntime | saveRuntime | deleteRuntime | insertPortLease | createDetachedRuntime => exact h
  | _ => trivial

/-- One case for each request that is neutral. -/
theorem shrinks_of_neutral {op : Request} {a : Answer} {s s' : World} {r : op.Reply}
    (hop : op.Neutral) (hact : act op a s = some (r, s')) : Shrinks s s' := by
  have hsame : Shrinks s s := ⟨rfl, fun _ h => h, fun _ h => h⟩
  cases op with
  | insertRuntime | saveRuntime | deleteRuntime | insertPortLease | createDetachedRuntime =>
    exact hop.elim
  | deletePortLeases id =>
    cases hact
    exact shrinks_deletePortLeases s id
  -- a removal that did not take effect changes nothing
  | remove name =>
    cases hact
    split
    · exact hsame
    · exact shrinks_removeVm s name
  -- tokens and sessions are owned by nobody
  | insertSignedToken record =>
    simp only [act] at hact
    split at hact <;> cases hact <;> exact ⟨rfl, fun _ h => h, fun _ h => h⟩
  | deleteSignedTokens query =>
    cases hact
    exact ⟨rfl, fun _ h => h, fun _ h => h⟩
  | saveRevokedSession tokenHash =>
    simp only [act] at hact
    split at hact
    · cases hact
      exact hsame
    · split at hact <;> cases hact <;> exact ⟨rfl, fun _ h => h, fun _ h => h⟩
  | sessions segment =>
    simp only [act] at hact
    split at hact <;> cases hact
    exact ⟨rfl, fun _ h => h, fun _ h => h⟩
  | _ =>
    rw [act_of_reads (by trivial) hact]
    exact hsame

/-! ## The other requests

What is left are the requests that could orphan something: leasing ports, creating a VM, saving and
inserting rows, and deleting them. Each is made while the call holds a row, and the lemmas say what
of that row has to be known. -/

section Writes

variable {s s' : World} {row saved : RuntimeEntity} {id : RuntimeId}

/-- Saving a row that is held. -/
theorem Owned.save (h : Owned s) (hheld : Held saved s) (hsave : s.saveRuntime saved = some s') :
    Owned s' ∧ Held saved s' := by
  obtain ⟨-, hleases, hvms⟩ := World.saveRuntime_spec hsave
  have hstored : saved ∈ s'.runtimes := (World.mem_saveRuntime hsave).mpr (Or.inl rfl)
  -- every row is still there under its id and its name
  have hkept : ∀ r ∈ s.runtimes, Held r s' := by
    intro r hr
    by_cases hid : r.id = saved.id
    · obtain ⟨q, hq, hqid, hname⟩ := hheld
      obtain rfl : r = q := World.eq_of_id hr hq (hid.trans hqid.symm)
      exact ⟨saved, hstored, hid.symm, hname.symm⟩
    · exact ⟨r, (World.mem_saveRuntime hsave).mpr (Or.inr ⟨hr, hid⟩), rfl, rfl⟩
  refine ⟨⟨fun lease hlease => ?_, fun name hvm => ?_⟩, saved, hstored, rfl, rfl⟩
  · rw [hleases] at hlease
    obtain ⟨r, hr, hid⟩ := h.leases lease hlease
    obtain ⟨r', hr', hid', -⟩ := hkept r hr
    exact ⟨r', hr', hid'.trans hid⟩
  · rw [hvms] at hvm
    obtain ⟨r, hr, hname⟩ := h.vms name hvm
    obtain ⟨r', hr', -, hname'⟩ := hkept r hr
    exact ⟨r', hr', hname'.trans hname⟩

/-- A new row: no VM needs it yet. -/
theorem Owned.insert {draft : RuntimeEntity} (h : Owned s)
    (hinsert : s.insertRuntime draft = some s') :
    Owned s' ∧ Held (draft.withId s.nextRuntimeId) s' ∧ VmsElsewhere s.nextRuntimeId s' := by
  obtain ⟨-, hleases, hvms⟩ := World.insertRuntime_spec hinsert
  have hkept : ∀ r ∈ s.runtimes, r ∈ s'.runtimes :=
    fun r hr => (World.mem_insertRuntime hinsert).mpr (Or.inl hr)
  refine ⟨⟨fun lease hlease => ?_, fun name hvm => ?_⟩, ?_, fun name hvm => ?_⟩
  · rw [hleases] at hlease
    obtain ⟨r, hr, hid⟩ := h.leases lease hlease
    exact ⟨r, hkept r hr, hid⟩
  · rw [hvms] at hvm
    obtain ⟨r, hr, hname⟩ := h.vms name hvm
    exact ⟨r, hkept r hr, hname⟩
  · exact ⟨_, (World.mem_insertRuntime hinsert).mpr (Or.inr rfl), rfl, rfl⟩
  · rw [hvms] at hvm
    obtain ⟨r, hr, hname⟩ := h.vms name hvm
    exact ⟨r, hkept r hr, hname, (s.runtimes_lt r hr).ne⟩

/-- Between the two states only leases of the runtime were made. -/
structure Leased (id : RuntimeId) (s s' : World) : Prop where
  runtimes : s'.runtimes = s.runtimes
  leases : ∀ lease ∈ s'.portLeases, lease ∈ s.portLeases ∨ lease.runtimeId = id
  vms : s'.vms = s.vms

theorem Leased.refl (id : RuntimeId) (s : World) : Leased id s s :=
  ⟨rfl, fun _ hlease => Or.inl hlease, rfl⟩

theorem Leased.insert {start : World} {lease : PortLeaseEntity} (h : Leased id start s)
    (hid : lease.runtimeId = id) (hinsert : s.insertPortLease lease = some s') :
    Leased id start s' := by
  obtain ⟨htable, hruntimes, hvms⟩ := World.insertPortLease_spec hinsert
  refine ⟨hruntimes.trans h.runtimes, fun other hother => ?_, hvms.trans h.vms⟩
  rcases (Table.mem_insert htable).mp hother with hother | rfl
  · exact h.leases other hother
  · exact Or.inr hid

/-- The rollback takes all leases of the runtime, those from before included. -/
theorem Leased.deletePortLeases {start : World} (h : Leased id start s) :
    Leased id start (s.deletePortLeases id) :=
  ⟨h.runtimes, fun lease hlease => h.leases lease (Table.mem_delete.mp hlease).1, h.vms⟩

/-- The new leases belong to the row that is held. -/
theorem Owned.leased (h : Owned s) (hheld : Held row s) (hleased : Leased row.id s s') :
    Owned s' where
  leases lease hlease := by
    rw [hleased.runtimes]
    rcases hleased.leases lease hlease with hlease | hid
    · exact h.leases lease hlease
    · obtain ⟨r, hr, hrid, -⟩ := hheld
      exact ⟨r, hr, hrid.trans hid.symm⟩
  vms name hvm := by
    rw [hleased.runtimes]
    exact h.vms name (hleased.vms ▸ hvm)

theorem Held.leased (h : Held row s) (hleased : Leased id s s') : Held row s' := by
  unfold Held
  rw [hleased.runtimes]
  exact h

theorem VmsElsewhere.leased (h : VmsElsewhere id s) (hleased : Leased id s s') :
    VmsElsewhere id s' :=
  fun name hvm => hleased.runtimes ▸ h name (hleased.vms ▸ hvm)

/-- The VM that is created, or lost, has the name of the row that is held. -/
theorem Owned.createVm {input : CreateRuntimeInput} (h : Owned s) (hheld : Held row s)
    (hname : input.sandboxName = row.sandboxName) (a : Answer) :
    Owned (Microsandbox.createVm a input s) ∧ Held row (Microsandbox.createVm a input s) := by
  obtain ⟨hruntimes, hleases⟩ := createVm_tables a input s
  refine ⟨⟨fun lease hlease => ?_, fun name hvm => ?_⟩, ?_⟩
  · rw [hruntimes]
    exact h.leases lease (hleases ▸ hlease)
  · rw [hruntimes]
    by_cases hsame : name = input.sandboxName
    · obtain ⟨r, hr, -, hrname⟩ := hheld
      exact ⟨r, hr, hrname.trans (hname.symm.trans hsame.symm)⟩
    · rw [createVm_vms_of_ne hsame] at hvm
      exact h.vms name hvm
  · unfold Held
    rw [hruntimes]
    exact hheld

/-- A row that has no lease, and that no VM needs. -/
theorem Owned.delete (h : Owned s) (hfree : ∀ lease ∈ s.portLeases, lease.runtimeId ≠ id)
    (helsewhere : VmsElsewhere id s) : Owned (s.deleteRuntime id) := by
  have hkept : ∀ r ∈ s.runtimes, r.id ≠ id → r ∈ (s.deleteRuntime id).runtimes :=
    fun r hr hid => Table.mem_delete.mpr ⟨hr, by simpa using hid⟩
  refine ⟨fun lease hlease => ?_, fun name hvm => ?_⟩
  · obtain ⟨r, hr, hid⟩ := h.leases lease hlease
    exact ⟨r, hkept r hr (hid ▸ hfree lease hlease), hid⟩
  · obtain ⟨r, hr, hname, hid⟩ := helsewhere name hvm
    exact ⟨r, hkept r hr hid, hname⟩

end Writes

/-! ## Programs

A crash may come at any await, so that what is asserted has to hold of every state on the way, and
not only at the end: this is `Throughout`, and `Safely p s` is the assertion that nothing is
orphaned at any time while `p` runs alone from `s`. -/

/-- Everything is owned wherever the program is cut off. -/
abbrev Safely {α : Type} (p : Async α) (s : World) : Prop :=
  Throughout backend removesVm Owned p s fun _ _ => True

section Rules

variable {α β : Type} {s : World} {row : RuntimeEntity}

/-- A program of neutral requests keeps whatever shrinking keeps. -/
theorem throughout_neutral {R : World → Prop} (hR : ∀ s s', Shrinks s s' → R s → R s')
    (hI : ∀ s, R s → Owned s) {p : Async α} (hp : p.Uses Request.Neutral) (h : R s) :
    Throughout backend removesVm Owned p s fun _ s' => R s' :=
  Throughout.of_uses hp hI
    (fun _ _ s _ s' hop hact _ h => hR s s' (shrinks_of_neutral hop hact) h) h

theorem Safely.neutral {p : Async α} (hp : p.Uses Request.Neutral) (h : Owned s) : Safely p s :=
  (throughout_neutral (fun _ _ hshrinks h => h.shrinks hshrinks) (fun _ h => h) hp h).mono
    fun _ _ _ _ => trivial

/-- A neutral program goes first, while a row is held. -/
theorem Safely.over {p : Async β} {k : β → Async α} (hp : p.Uses Request.Neutral) (h : Owned s)
    (hheld : Held row s) (hk : ∀ b s', Owned s' → Held row s' → Safely (k b) s') :
    Safely (p >>= k) s := by
  refine Throughout.bind ((throughout_neutral (R := fun s => Owned s ∧ Held row s)
    (fun _ _ hshrinks h => ⟨h.1.shrinks hshrinks, h.2.shrinks hshrinks⟩) (fun _ h => h.1) hp
    ⟨h, hheld⟩).mono fun x s' _ h' => ?_)
  cases x with
  | ok b => exact hk b s' h'.1 h'.2
  | error e => trivial

/-- A neutral program goes first, while no row is. -/
theorem Safely.first {p : Async β} {k : β → Async α} (hp : p.Uses Request.Neutral) (h : Owned s)
    (hk : ∀ b s', Owned s' → Safely (k b) s') : Safely (p >>= k) s := by
  refine Throughout.bind ((throughout_neutral (fun _ _ hshrinks h => h.shrinks hshrinks)
    (fun _ h => h) hp h).mono fun x s' _ h' => ?_)
  cases x with
  | ok b => exact hk b s' h'
  | error e => trivial

/-- A synchronous step has no await in it. -/
theorem Safely.sync {x : Except ServiceError β} {k : β → Async α} (h : Owned s)
    (hk : ∀ b, Safely (k b) s) : Safely (sync x >>= k) s := by
  cases x with
  | ok b => exact hk b
  | error e => exact Throughout.throw h trivial

/-- A row is saved under the keys it has, and is held afterwards as it was saved. -/
theorem Safely.update {saved : RuntimeEntity} {k : RuntimeEntity → Async α} (h : Owned s)
    (hheld : Held saved s) (hk : ∀ s', Owned s' → Held saved s' → Safely (k saved) s') :
    Safely (updateRuntime saved >>= k) s := by
  unfold updateRuntime
  rw [Prog.bind_assoc]
  refine Throughout.request h fun a r s' hact _ => ?_
  simp only [backend, act] at hact
  split at hact
  · rename_i _ hsave
    cases hact
    obtain ⟨h', hheld'⟩ := h.save hheld hsave
    exact hk _ h' hheld'
  · cases hact
    exact Throughout.throw h trivial

/-- A row that is looked up is held. -/
theorem Safely.find {query : RuntimeQuery} {k : Option RuntimeEntity → Async α} (h : Owned s)
    (hk : ∀ found, (∀ row, found = some row → Held row s) → Safely (k found) s) :
    Safely (await (.findRuntime query) >>= k) s := by
  refine Throughout.request h fun a r s' hact _ => ?_
  simp only [backend, act, Option.some.injEq, Prod.mk.injEq] at hact
  obtain ⟨hrow, rfl⟩ := hact
  refine hk r fun row hfound => ⟨row, ?_, rfl, rfl⟩
  rw [hfound] at hrow
  exact (pickRow_some hrow).1

/-- What is found is held: it was read from the table. -/
theorem Safely.findBySandboxId {value : String} {k : Option RuntimeEntity → Async α} (h : Owned s)
    (hk : ∀ found, (∀ row, found = some row → Held row s) → Safely (k found) s) :
    Safely (findRuntimeBySandboxId value >>= k) s := by
  unfold findRuntimeBySandboxId
  rw [Prog.bind_assoc]
  exact Safely.sync h fun _ => Safely.find h hk

theorem Safely.requireRuntime {value : String} {k : RuntimeEntity → Async α} (h : Owned s)
    (hk : ∀ row, Held row s → Safely (k row) s) :
    Safely (RuntimeControl.requireRuntime value >>= k) s := by
  unfold RuntimeControl.requireRuntime findRuntimeBySandboxIdOrName
  rw [Prog.bind_assoc, Prog.bind_assoc]
  refine Safely.sync h fun v => Safely.find h fun found hfound => ?_
  cases found with
  | none => exact Throughout.throw h trivial
  | some row => exact hk row (hfound row rfl)

/-- The status of a VM is written into the row, which keeps its keys. -/
theorem Safely.syncStatus {k : RuntimeEntity → Async α} (h : Owned s) (hheld : Held row s)
    (hk : ∀ row' s', Owned s' → Held row' s' → Safely (k row') s') :
    Safely (RuntimeControl.syncStatus row >>= k) s := by
  unfold RuntimeControl.syncStatus
  rw [Prog.bind_assoc]
  refine Safely.over (Prog.Uses.request trivial) h hheld fun status s' h' hheld' => ?_
  split_ifs
  · exact Safely.update h' hheld' fun s'' h'' hheld'' => hk _ s'' h'' hheld''
  · exact hk row s' h' hheld'

/-- A lookup, the status, and an exception if it is not `running`. -/
theorem Safely.requireRunning {value : String} {k : RuntimeEntity → Async α} (h : Owned s)
    (hk : ∀ row s', Owned s' → Held row s' → Safely (k row) s') :
    Safely (requireRunningRuntime value >>= k) s := by
  unfold requireRunningRuntime
  rw [Prog.bind_assoc]
  refine Safely.requireRuntime h fun row hheld => ?_
  rw [Prog.bind_assoc]
  refine Safely.syncStatus h hheld fun row' s' h' hheld' => ?_
  split_ifs
  · exact Throughout.throw h' trivial
  · exact hk row' s' h' hheld'

/-- The time of the last activity is saved. -/
theorem Safely.touch {k : RuntimeEntity → Async α} (h : Owned s) (hheld : Held row s)
    (hk : ∀ row' s', Owned s' → Safely (k row') s') :
    Safely (RuntimeControl.touch row >>= k) s := by
  unfold RuntimeControl.touch
  rw [Prog.bind_assoc]
  refine Safely.over (Prog.Uses.request trivial) h hheld fun now s' h' hheld' => ?_
  exact Safely.update h' hheld' fun s'' h'' _ => hk _ s'' h''

/-- A status is saved, and id and VM name stay what they were. -/
theorem Safely.setRuntimeStatus {status : RuntimeStatus} {reason : String}
    {k : RuntimeEntity → Async α} (h : Owned s) (hheld : Held row s)
    (hk : ∀ row' s', row'.id = row.id → row'.sandboxName = row.sandboxName → Owned s' →
      Held row' s' → Safely (k row') s') :
    Safely (Registry.setRuntimeStatus row status reason >>= k) s := by
  unfold Registry.setRuntimeStatus
  split_ifs
  · rw [Prog.bind_assoc]
    refine Safely.over (Prog.Uses.request trivial) h hheld fun now s' h' hheld' => ?_
    exact Safely.update h' hheld' fun s'' h'' hheld'' => hk _ s'' rfl rfl h'' hheld''
  · exact Safely.update h hheld fun s' h' hheld' => hk _ s' rfl rfl h' hheld'

/-- The loop makes leases of the runtime, and does not throw. Induction on the ports left. -/
theorem throughout_leaseLoop {start : World} (h : Owned start) (hheld : Held row start)
    (hleased : Leased row.id start s) (count left : Nat) (port : Int) (ports : List Int) :
    Throughout backend removesVm Owned (leaseLoop row.id count left port ports) s fun x s' =>
      Leased row.id start s' ∧ ∃ taken, x = .ok taken := by
  induction left generalizing s port ports with
  | zero => exact Throughout.pure (h.leased hheld hleased) ⟨hleased, ports, rfl⟩
  | succ left ih =>
    unfold leaseLoop
    split_ifs
    -- before each request the leases made so far are those of a row that is stored
    · refine Throughout.request (h.leased hheld hleased) fun a found s' hact _ => ?_
      cases hact
      split
      · exact ih hleased _ _
      · refine Throughout.request (h.leased hheld hleased) fun a saved s' hact _ => ?_
        simp only [backend, act] at hact
        split at hact
        · rename_i _ hinsert
          cases hact
          exact ih (hleased.insert rfl hinsert) _ _
        -- a lost race leaves the port to its winner
        · cases hact
          exact ih hleased _ _
    · exact Throughout.pure (h.leased hheld hleased) ⟨hleased, ports, rfl⟩

/-- A failed `leasePorts` gives every lease of the runtime back. -/
theorem throughout_leasePorts (h : Owned s) (hheld : Held row s) (cfg : AppConfig) (count : Nat) :
    Throughout backend removesVm Owned (leasePorts cfg row.id count) s fun x s' =>
      Leased row.id s s' ∧
        ∀ e, x = .error e → ∀ lease ∈ s'.portLeases, lease.runtimeId ≠ row.id := by
  refine Throughout.bind ((throughout_leaseLoop h hheld (.refl _ s) count _ _ []).mono ?_)
  rintro x s' hs' ⟨hleased, taken, rfl⟩
  dsimp only
  split_ifs
  · refine Throughout.request hs' fun a r s'' hact _ => ?_
    cases hact
    have hleased' := hleased.deletePortLeases
    refine Throughout.throw (h.leased hheld hleased') ⟨hleased', fun e _ lease hlease => ?_⟩
    simpa using (Table.mem_delete.mp hlease).2
  · exact Throughout.pure hs' ⟨hleased, fun e he => nomatch he⟩

/-- A leasing that succeeds or is rolled back; the row is there all the time. -/
theorem Safely.lease {cfg : AppConfig} {count : Nat} {k : List Int → Async α} (h : Owned s)
    (hheld : Held row s) (hk : ∀ ports s', Owned s' → Held row s' → Safely (k ports) s') :
    Safely (leasePorts cfg row.id count >>= k) s := by
  refine Throughout.bind ((throughout_leasePorts h hheld cfg count).mono fun x s' hs' hpost => ?_)
  cases x with
  | ok ports => exact hk ports s' hs' (hheld.leased hpost.1)
  | error e => trivial

end Rules

/-! ## Provisioning

The order of the writes is what keeps things owned: the row comes before its leases and its VM, and
in the rollback of a new row the leases go before it. -/

section Provisioning

variable {α : Type} {cfg : AppConfig} {input : ProvisionInput} {name : Option String}
  {spec : RuntimeSpec} {s : World} {row : RuntimeEntity}

theorem neutral_of_looks {p : Async α} (hp : p.Uses Request.Looks) : p.Uses Request.Neutral :=
  hp.mono fun _ h => h.neutral

/-- Ports are leased for the row that is held. -/
theorem Safely.assignPorts {ports : List RuntimePortBindingRecord}
    {k : List RuntimePortBindingRecord → Async α} (h : Owned s) (hheld : Held row s)
    (hk : ∀ ports' s', Owned s' → Held row s' → Safely (k ports') s') :
    Safely (RuntimeControl.assignPorts cfg row ports >>= k) s := by
  unfold RuntimeControl.assignPorts
  split_ifs
  · rw [Prog.bind_assoc]
    exact Safely.lease h hheld fun _ s' h' hheld' => hk _ s' h' hheld'
  · rw [Prog.bind_assoc]
    exact Safely.lease h hheld fun _ s' h' hheld' => hk _ s' h' hheld'
  · exact hk _ s h hheld

/-- The VM is created under the name of the row that is held. -/
theorem Safely.createVm {vm : CreateRuntimeInput} {k : Unit → Async α} (h : Owned s)
    (hheld : Held row s) (hname : vm.sandboxName = row.sandboxName)
    (hk : ∀ s', Owned s' → Held row s' → Safely (k ()) s') :
    Safely (RuntimeControl.createVm vm >>= k) s := by
  unfold RuntimeControl.createVm
  rw [Prog.bind_assoc]
  refine Throughout.request h fun a r s' hact _ => ?_
  cases hact
  obtain ⟨h', hheld'⟩ := h.createVm hheld hname a
  split
  · exact hk _ h' hheld'
  · split_ifs
    · exact hk _ h' hheld'
    · exact Throughout.throw h' trivial

/-- From the assignment of ports to the last save, which keeps the keys of the row. -/
theorem safely_launch (h : Owned s) (hheld : Held row s) :
    Safely (launch cfg input name spec row) s := by
  unfold launch
  refine Safely.assignPorts h hheld fun ports s₁ h₁ hheld₁ => ?_
  refine Safely.createVm h₁ hheld₁ rfl fun s₂ h₂ hheld₂ => ?_
  refine Safely.sync h₂ fun primary => ?_
  refine Safely.over (Prog.Uses.request trivial) h₂ hheld₂ fun appHealthy s₃ h₃ hheld₃ => ?_
  refine Safely.over (neutral_of_looks (sshHealth_uses spec ports)) h₃ hheld₃
    fun sshHealthy s₄ h₄ hheld₄ => ?_
  refine Safely.over (neutral_of_looks (nextActivity_uses input row)) h₄ hheld₄
    fun lastActiveAt s₅ h₅ hheld₅ => ?_
  exact Safely.update h₅ hheld₅ fun s₆ h₆ _ => Throughout.pure h₆ trivial

/-- A healthy sandbox gets its files and is saved. -/
theorem safely_syncExisting (h : Owned s) (hheld : Held row s) :
    Safely (syncExisting input name spec row) s := by
  have hsyncFiles : (syncFiles spec row).Uses Request.Neutral := by
    unfold syncFiles
    split_ifs
    · exact Prog.Uses.bind (Prog.Uses.request trivial) fun _ => Prog.Uses.ofExcept _
    · exact (Prog.uses_pure ()).mpr trivial
  refine Safely.over hsyncFiles h hheld fun _ s₁ h₁ hheld₁ => ?_
  refine Safely.over (neutral_of_looks (nextActivity_uses input row)) h₁ hheld₁
    fun lastActiveAt s₂ h₂ hheld₂ => ?_
  exact Safely.update h₂ hheld₂ fun s₃ h₃ _ => Throughout.pure h₃ trivial

/-- A row goes when it has no lease, and no VM needs it. -/
theorem safely_deleteRuntime (h : Owned s)
    (hfree : ∀ lease ∈ s.portLeases, lease.runtimeId ≠ row.id)
    (helsewhere : VmsElsewhere row.id s) : Safely (Registry.deleteRuntime row) s := by
  unfold Registry.deleteRuntime
  refine Throughout.request h fun a r s' hact _ => ?_
  cases hact
  exact Safely.neutral (Prog.Uses.bind (Prog.Uses.request trivial) fun _ =>
    Prog.Uses.request trivial) (h.delete hfree helsewhere)

/-- A failed leasing has given its leases back when the row is deleted, and no VM has been made for
it yet. -/
theorem Safely.leaseForNewRow {count : Nat} {k : List Int → Async α} (h : Owned s)
    (hheld : Held row s) (helsewhere : VmsElsewhere row.id s)
    (hk : ∀ ports s', Owned s' → Held row s' → Safely (k ports) s') :
    Safely (RuntimeControl.leaseForNewRow cfg row count >>= k) s := by
  refine Throughout.bind (Throughout.catchError
    ((throughout_leasePorts h hheld cfg count).mono fun x s' hs' hpost => ?_))
  cases x with
  | ok ports => exact hk ports s' hs' (hheld.leased hpost.1)
  | error e =>
    -- the failed call left no lease of the row behind
    have hback := safely_deleteRuntime hs' (hpost.2 e rfl) (helsewhere.leased hpost.1)
    refine Throughout.bind (hback.mono fun x s'' hs'' _ => ?_)
    cases x with
    | ok _ => exact Throughout.throw hs'' trivial
    | error e => trivial

/-- The row is inserted first; it has no leases and no VM. -/
theorem safely_provisionNew {primary : RuntimePortBindingRecord} (h : Owned s) :
    Safely (provisionNew cfg input name spec primary) s := by
  unfold provisionNew
  refine Safely.first (Prog.Uses.request trivial) h fun authToken s₁ h₁ => ?_
  refine Safely.sync h₁ fun vmName => ?_
  refine Safely.first (Prog.Uses.request trivial) h₁ fun now s₂ h₂ => ?_
  unfold Registry.saveRuntime
  rw [Prog.bind_assoc]
  refine Throughout.request h₂ fun a saved s₃ hact _ => ?_
  simp only [backend, act] at hact
  split at hact
  · rename_i _ hinsert
    cases hact
    -- from the insertion on, what is leased and made is owned by the new row
    obtain ⟨h₃, hheld, helsewhere⟩ := h₂.insert hinsert
    exact Safely.leaseForNewRow h₃ hheld helsewhere fun ports s₄ h₄ hheld₄ =>
      safely_launch h₄ hheld₄
  · cases hact
    exact Throughout.throw h₂ trivial

theorem safely_provisionExisting (h : Owned s) (hheld : Held row s) :
    Safely (provisionExisting cfg input name spec row) s := by
  unfold provisionExisting
  refine Safely.over (neutral_of_looks (existingHealthy_uses row)) h hheld
    fun healthy s₁ h₁ hheld₁ => ?_
  cases healthy with
  | true => exact safely_syncExisting h₁ hheld₁
  | false => exact safely_launch h₁ hheld₁

/-- The row with the new spec is saved before the VM is replaced. -/
theorem safely_provisionReplace (h : Owned s) (hheld : Held row s) :
    Safely (provisionReplace cfg input name spec row) s :=
  Safely.update h hheld fun _ h₁ hheld₁ => safely_launch h₁ hheld₁

/-- The checks are neutral; then one of the three branches is taken. -/
theorem safely_provision (h : Owned s) : Safely (provision cfg input) s := by
  unfold provision
  refine Safely.sync h fun name => ?_
  refine Safely.first (neutral_of_looks (checkName_uses name _)) h fun _ s₁ h₁ => ?_
  refine Safely.findBySandboxId h₁ fun found hfound => ?_
  cases found with
  | none =>
    refine Safely.first (neutral_of_looks (buildSpec_uses cfg _)) h₁ fun spec s₂ h₂ => ?_
    exact Safely.sync h₂ fun primary => safely_provisionNew h₂
  | some row =>
    refine Safely.over (neutral_of_looks (buildSpec_uses cfg _)) h₁ (hfound row rfl)
      fun spec s₂ h₂ hheld₂ => ?_
    refine Safely.sync h₂ fun primary => ?_
    dsimp only
    split_ifs
    · exact safely_provisionReplace h₂ hheld₂
    · exact safely_provisionExisting h₂ hheld₂

/-- The id is chosen before anything is written. -/
theorem safely_create {body : SandboxSpecDto} (h : Owned s) :
    Safely (RuntimeControl.create cfg body) s := by
  refine Safely.sync h fun name => ?_
  refine Safely.first (neutral_of_looks (checkFreeName_uses name)) h fun _ s₁ h₁ => ?_
  exact Safely.first (neutral_of_looks (chooseSandboxId_uses name)) h₁ fun _ s₂ h₂ =>
    safely_provision h₂

theorem safely_ensure {body : EnsureRuntimeDto} (h : Owned s) :
    Safely (RuntimeControl.ensure cfg body) s :=
  Safely.first (neutral_of_looks (chooseSandboxId_uses _)) h fun _ _ h₁ => safely_provision h₁

theorem safely_updateSandbox {sandboxId : String} {body : UpdateSandboxDto} (h : Owned s) :
    Safely (RuntimeControl.update cfg sandboxId body) s := by
  unfold RuntimeControl.update
  refine Safely.findBySandboxId h fun found _ => ?_
  cases found with
  | none => exact Throughout.throw h trivial
  | some row => exact safely_provision h

end Provisioning

/-! ## The API

Each handler runs safely from a state in which everything is owned. The handlers of the open routes
do because they only read and delete tokens, which is what is known of strangers. -/

section Calls

variable {α β : Type} {s : World} {row : RuntimeEntity}

/-- A program that is safe goes first. -/
theorem Safely.seq {p : Async β} {k : β → Async α} (hp : Safely p s)
    (hk : ∀ b s', Owned s' → Safely (k b) s') : Safely (p >>= k) s := by
  refine Throughout.bind (hp.mono fun x s' h' _ => ?_)
  cases x with
  | ok b => exact hk b s' h'
  | error e => trivial

/-- The answer is made of what the service returns. -/
theorem Safely.answer {p : Async β} {f : β → α} (hp : Safely p s) :
    Safely (p >>= fun b => (pure (f b) : Async α)) s :=
  hp.seq fun _ _ h' => Throughout.pure h' trivial

/-- `start` and `stop`: ask the VM for it and save the status. -/
theorem safely_statusCall {value reason : String} {status : RuntimeStatus} (h : Owned s)
    (op : RuntimeEntity → Request) (hop : ∀ row, (op row).Neutral)
    (check : ∀ row, (op row).Reply → Except ServiceError Unit) :
    Safely (do
      let runtime ← requireRuntime value
      let done ← await (op runtime)
      sync (check runtime done)
      let runtime ← setRuntimeStatus runtime status reason
      return runtimeStatusSummary runtime) s := by
  refine Safely.requireRuntime h fun row hheld => ?_
  refine Safely.over (Prog.Uses.request (hop row)) h hheld fun done s₁ h₁ hheld₁ => ?_
  refine Safely.sync h₁ fun _ => ?_
  exact Safely.setRuntimeStatus h₁ hheld₁ fun _ s₂ _ _ h₂ _ => Throughout.pure h₂ trivial

/-- A call on a running sandbox: ask the VM and save the activity. -/
theorem safely_vmCall {value : String} (h : Owned s) (op : RuntimeEntity → Request)
    (hop : ∀ row, (op row).Neutral) (check : ∀ row, (op row).Reply → Except ServiceError β)
    {answer : RuntimeEntity → β → RuntimeEntity → α} :
    Safely (do
      let runtime ← requireRunningRuntime value
      let done ← await (op runtime)
      let result ← sync (check runtime done)
      let touched ← touch runtime
      return answer runtime result touched) s := by
  refine Safely.requireRunning h fun row s₁ h₁ hheld₁ => ?_
  refine Safely.over (Prog.Uses.request (hop row)) h₁ hheld₁ fun done s₂ h₂ hheld₂ => ?_
  refine Safely.sync h₂ fun _ => ?_
  exact Safely.touch h₂ hheld₂ fun _ s₃ h₃ => Throughout.pure h₃ trivial

/-- The row goes last: its VM and its leases went before it. -/
theorem safely_delete {value : String} (h : Owned s) : Safely (RuntimeControl.delete value) s := by
  unfold RuntimeControl.delete
  refine Safely.requireRuntime h fun row hheld => ?_
  refine Safely.setRuntimeStatus h hheld fun row' s₁ _ _ h₁ hheld₁ => ?_
  refine Throughout.request h₁ fun a removed s₂ hact hremoved => ?_
  have hs₂ : s₁.setVm row'.sandboxName none = s₂ := by
    simp only [backend, act, removesVm] at hact hremoved
    rw [hremoved] at hact
    cases hact
    rfl
  subst hs₂
  have hshrinks := shrinks_removeVm s₁ row'.sandboxName
  have h₂ := h₁.shrinks hshrinks
  -- another VM has a row of another name, and so of another id
  have helsewhere : VmsElsewhere row'.id (s₁.setVm row'.sandboxName none) := by
    intro name hvm
    obtain ⟨r, hr, hname⟩ := h₂.vms name hvm
    refine ⟨r, hr, hname, fun hid => hvm ?_⟩
    obtain ⟨held, hmem, hheldid, hheldname⟩ := hheld₁
    obtain rfl : r = held := World.eq_of_id hr hmem (hid.trans hheldid.symm)
    obtain rfl : name = row'.sandboxName := hname.symm.trans hheldname
    exact Function.update_self ..
  refine Safely.sync h₂ fun _ => ?_
  refine Throughout.request h₂ fun a r s₃ hact _ => ?_
  cases hact
  have hreleased := shrinks_deletePortLeases (s₁.setVm row'.sandboxName none) row'.id
  refine (safely_deleteRuntime (h₂.shrinks hreleased) (fun lease hlease => ?_)
    (helsewhere.shrinks hreleased)).answer
  simpa using (Table.mem_delete.mp hlease).2

/-- The rule for strangers allows reading and the deletion of a token. -/
theorem StrangerRule.neutral {presents : String → Int → Prop} {t : Transcript requests}
    {op : Request} (h : StrangerRule presents t op) : op.Neutral := by
  cases op with
  | insertRuntime | saveRuntime | deleteRuntime | insertPortLease | createDetachedRuntime => exact h
  | _ => trivial

/-- The routes without a guard only look things up, and forget signed tokens. -/
theorem Route.safely_open {cfg : ApiConfig} {route : Route} (hopen : route.guarded = false)
    (h : Owned s) : Safely (route.handler cfg) s := by
  have hthroughout : Throughout backend removesVm Owned (route.handler cfg) s fun _ => Owned := by
    refine Throughout.of_follows (Route.follows_open hopen) (fun _ h => h) ?_ h
    intro t op a s r s' hrule hact _ h
    exact h.shrinks (shrinks_of_neutral hrule.neutral hact)
  exact hthroughout.mono fun _ _ _ _ => trivial

/-- `get` saves the status that it has read. -/
theorem safely_get {value : String} (h : Owned s) : Safely (RuntimeControl.get value) s := by
  refine Safely.requireRuntime h fun row hheld => ?_
  exact Safely.syncStatus h hheld fun _ s₁ h₁ _ => Throughout.pure h₁ trivial

theorem safely_getPreviewUrl {cfg : ApiConfig} {value : String} {port : Int} (h : Owned s) :
    Safely (getPreviewUrl cfg value port) s := by
  simp only [getPreviewUrl, ensurePreviewable, Prog.bind_assoc]
  exact Safely.requireRunning h fun row s₁ h₁ _ =>
    Safely.sync h₁ fun _ => Throughout.pure h₁ trivial

theorem safely_getSignedPreviewUrl {cfg : AppConfig} {value : String} {port : Int} (h : Owned s) :
    Safely (getSignedPreviewUrl cfg value port) s := by
  simp only [getSignedPreviewUrl, ensurePreviewable, Prog.bind_assoc, Prog.pure_eq, Prog.pure_bind]
  refine Safely.requireRunning h fun row s₁ h₁ _ => Safely.sync h₁ fun _ => Safely.neutral ?_ h₁
  refine Prog.Uses.bind (Prog.Uses.request trivial) fun _ => ?_
  refine Prog.Uses.bind (Prog.Uses.request trivial) fun token => ?_
  refine Prog.Uses.bind (Prog.Uses.request trivial) fun now => ?_
  refine Prog.Uses.bind (Prog.Uses.request trivial) fun saved => ?_
  exact (Prog.Uses.ofExcept saved).bind fun _ => (Prog.uses_pure _).mpr trivial

theorem safely_expireSignedPreviewUrl {value token : String} {port : Int} (h : Owned s) :
    Safely (RuntimeControl.expireSignedPreviewUrl value port token) s := by
  unfold RuntimeControl.expireSignedPreviewUrl
  refine Safely.requireRuntime h fun row _ => ?_
  refine Safely.first (Prog.Uses.request trivial) h fun found s₁ h₁ => ?_
  cases found with
  | none => exact Throughout.throw h₁ trivial
  | some record =>
    dsimp only
    split_ifs
    · exact Throughout.throw h₁ trivial
    · exact Safely.first (Prog.Uses.request trivial) h₁ fun _ s₂ h₂ => Throughout.pure h₂ trivial

/-- Sessions are no rows: they point to a host port and are not in the registry. -/
theorem safely_createSession {cfg : AppConfig} {body : SshController.CreateSessionBody}
    (h : Owned s) : Safely (SshController.createSession cfg body) s := by
  unfold SshController.createSession
  refine Safely.findBySandboxId h fun found _ => ?_
  cases found with
  | none => exact Throughout.throw h trivial
  | some row =>
    dsimp only
    cases findSshBinding row.portBindings with
    | none => exact Throughout.throw h trivial
    | some binding =>
      exact Safely.first (Prog.Uses.request trivial) h fun _ s₁ h₁ =>
        Throughout.ofExcept h₁ trivial

theorem safely_revokeSession {cfg : AppConfig} {token : String} (h : Owned s) :
    Safely (SshController.revokeSession cfg token) s := by
  simp only [SshController.revokeSession, SshSession.revokeSession, Prog.bind_assoc]
  refine Safely.first (Prog.Uses.request trivial) h fun _ s₁ h₁ => ?_
  refine Safely.first (Prog.Uses.request trivial) h₁ fun saved s₂ h₂ => ?_
  cases saved with
  | ok _ => exact Throughout.pure h₂ trivial
  | error e => exact Throughout.throw h₂ trivial

/-- The lookups of a session read, or prune the map. -/
theorem safely_validateToken {cfg : AppConfig} {token : String} (h : Owned s) :
    Safely (SshController.validateToken cfg token) s := by
  have hvalidate : (SshSession.validateSession cfg token).Uses Request.Neutral := by
    refine Prog.Uses.bind (Prog.Uses.request trivial) fun revoked => ?_
    split_ifs
    · exact (Prog.uses_pure none).mpr trivial
    · refine Prog.Uses.bind (Prog.Uses.request trivial) fun reply => ?_
      refine (Prog.Uses.ofExcept reply).bind fun reply => ?_
      split <;> exact (Prog.uses_pure _).mpr trivial
  refine Safely.first hvalidate h fun result s₁ h₁ => ?_
  cases result with
  | none => exact Throughout.throw h₁ trivial
  | some result => exact Throughout.pure h₁ trivial

/-- Every handler is safe. -/
theorem Route.safely {cfg : ApiConfig} (route : Route) (h : Owned s) :
    Safely (route.handler cfg) s := by
  cases route with
  | create body => exact (safely_create h).answer
  | ensure body => exact (safely_ensure h).answer
  | update id body => exact (safely_updateSandbox h).answer
  | get id => exact (safely_get h).answer
  -- a call of the backend and then the status of the row
  | start id =>
    exact (safely_statusCall h (fun row => .start row.sandboxName row.command row.workingDir)
      (fun _ => trivial) fun _ done => done).answer
  | stop id =>
    exact (safely_statusCall h (fun row => .stop row.sandboxName)
      (fun _ => trivial) fun _ done => done).answer
  | delete id => exact (safely_delete h).answer
  | previewUrl id port => exact (safely_getPreviewUrl h).answer
  | signedPreviewUrl id port =>
    exact (safely_getSignedPreviewUrl h).seq fun record s₁ h₁ =>
      Safely.sync h₁ fun _ => Throughout.pure h₁ trivial
  | expireSignedPreviewUrl id port token => exact (safely_expireSignedPreviewUrl h).answer
  -- a call into the VM and then the activity of the row
  | exec id command args =>
    exact (safely_vmCall h (fun row => .exec row.sandboxName command (args.getD []))
      (fun _ => trivial) fun _ done => done).answer
  | refreshActivity id =>
    exact (safely_vmCall h (fun row => .refreshActivity row.sandboxName)
      (fun _ => trivial) fun _ done => done).answer
  | writeFiles id files =>
    exact (safely_vmCall h (fun row => .writeFiles row.sandboxName (buildRuntimeFiles files))
      (fun _ => trivial) fun _ done => done).answer
  | downloadFiles id paths =>
    exact (safely_vmCall h (fun row => .readFiles row.sandboxName paths)
      (fun _ => trivial) fun _ done => done).answer
  | createSession body => exact (safely_createSession h).answer
  | revokeSession token => exact (safely_revokeSession h).answer
  | validateToken token => exact (safely_validateToken h).answer
  | _ => exact Route.safely_open rfl h

end Calls

/-! ## Cutting off

A stop of the process ends the request in progress at one of its awaits. The store and the VMs stay
as they are then; the map of sessions is lost, which owns nothing. -/

/-- The process is started again: the SSH sessions were in its memory. -/
def World.restarted (s : World) : World := { s with sessions := fun _ => none }

/-- A request of the API alone: it is served to its end, or the process stops at some await. -/
inductive Turn (cfg : ApiConfig) : World → World → Prop where
  | served {req : HttpRequest} {tr : List (Event requests World Answer)}
      {x : Except ServiceError HttpReply} {s s' : World}
      (hexec : Exec backend (req.prog cfg) s tr x s') (hremoved : ∀ ev ∈ tr, removesVm ev) :
      Turn cfg s s'
  | crashed {req : HttpRequest} {tr : List (Event requests World Answer)} {s s' : World}
      (hcut : Cut backend (req.prog cfg) s tr s') (hremoved : ∀ ev ∈ tr, removesVm ev) :
      Turn cfg s s'.restarted

/-- A request that was served to its end, or that was cut off. -/
theorem Owned.turn {cfg : ApiConfig} {s s' : World} (h : Owned s) (hturn : Turn cfg s s') :
    Owned s' := by
  have hsafely : ∀ req : HttpRequest, Safely (req.prog cfg) s := fun req =>
    Safely.sync h fun _ => req.route.safely h
  cases hturn with
  | served hexec hremoved => exact hexec.cut.holds (hsafely _) hremoved
  | crashed hcut hremoved =>
    obtain ⟨hleases, hvms⟩ := hcut.holds (hsafely _) hremoved
    exact ⟨hleases, hvms⟩

/-- **Crashes orphan nothing.** Whatever requests were served on the routes of `Route`, and wherever
and however often the process stopped meanwhile, as long as removals remove their VMs, a port that
is leased and a VM that exists belong to a stored runtime. So they can still be given back: by
deleting that runtime. -/
theorem crashes_orphan_nothing (cfg : ApiConfig) (volumes : Table VolumeEntity volumeKeys)
    {s : World} (hturns : Relation.ReflTransGen (Turn cfg) (World.fresh volumes) s) : Owned s := by
  induction hturns with
  | refl => exact ⟨fun lease hlease => absurd hlease (Table.not_mem_empty lease),
      fun name hvm => absurd rfl hvm⟩
  | tail _ hturn ih => exact ih.turn hturn

/-- The process stops right after it has made the VM: the row has none of its ports yet. -/
theorem crashed_create_owned : ∃ s, Relation.ReflTransGen (Turn closedApi) (World.fresh .empty) s ∧
    (s.portLeases.rows ≠ [] ∧ s.vms "runtime-a" ≠ none ∧ ∀ r ∈ s.runtimes, r.portBindings = []) ∧
      Owned s := by
  let req : HttpRequest := ⟨some (.single "Bearer internal"), .create { name := some "a" }⟩
  -- a lease and a VM, and no port in any row
  let leftover (s : World) : Bool := !s.portLeases.rows.isEmpty && ((s.vms "runtime-a").isSome &&
    s.runtimes.rows.all fun r => r.portBindings.isEmpty)
  obtain ⟨s, hserve, hleft⟩ := (Option.any_eq_true leftover _).mp
    (show ((req.prog closedApi).serve backend (List.replicate 17 default)
      (World.fresh .empty)).any leftover = true by decide +kernel)
  obtain ⟨tr, hcut, hanswers⟩ := Cut.of_serve hserve
  have hturns : Relation.ReflTransGen (Turn closedApi) (World.fresh .empty) s.restarted :=
    .single (.crashed hcut fun ev hev => by
      rw [removesVm, List.eq_of_mem_replicate (hanswers ev hev)]
      rfl)
  simp only [leftover, Bool.and_eq_true, Bool.not_eq_true', List.isEmpty_eq_false_iff,
    List.all_eq_true, List.isEmpty_iff] at hleft
  obtain ⟨hleases, hvm, hports⟩ := hleft
  exact ⟨s.restarted, hturns, ⟨hleases, Option.isSome_iff_ne_none.mp hvm, hports⟩,
    crashes_orphan_nothing closedApi .empty hturns⟩

end Microsandbox
