import Mathlib.Order.ConditionallyCompleteLattice.Basic
import Mathlib.Data.Finset.Sort
import Mathlib.Data.Int.ConditionallyCompleteOrder
import Mathlib.Data.Int.Interval
import MicrosandboxCloud.LeaseAccounting

/-!
# Microsandbox — which ports are leased, and what is left when there are too few

* **`leasePorts_smallest`** — alone, `leasePorts` takes the smallest unleased ports of the range,
  and fails exactly when there are too few.
* **`failed_leasing_unchanged_iff`** — the rollback deletes by runtime, so that a failure leaves the
  table alone exactly when the runtime held no lease before.
* **`creation_all_or_nothing_iff`** — a creation leases its ports twice, so that between `n` and
  `2 * n` free ports are enough for the first round only.
-/

namespace Microsandbox

open Process Data RuntimeControl Registry

/-! ## The smallest unleased ports

`leasePorts` looks at the ports of the range in ascending order, so that alone it takes the smallest
that are free. As a set these have no order, and sorting them gives the list that the loop meets. -/

/-- The ports of the range that no lease of the local host holds. -/
noncomputable def unleasedPorts (cfg : AppConfig) (s : World) : Finset Int :=
  (Finset.Icc cfg.portRangeStart cfg.portRangeEnd).filter fun port => isFree s port = true

section Smallest

variable {cfg : AppConfig} {s : World}

theorem sorted_portsFrom (port : Int) (count : Nat) :
    (portsFrom port count).Pairwise (· ≤ ·) := by
  induction count generalizing port with
  | zero => exact List.Pairwise.nil
  | succ count ih =>
    refine List.Pairwise.cons (fun q hq => ?_) (ih (port + 1))
    have hle := (mem_portsFrom.mp hq).1
    omega

/-- The range is from its first to its last port. -/
theorem mem_portRange {port : Int} :
    port ∈ portsFrom cfg.portRangeStart (rangeSize cfg) ↔
      cfg.portRangeStart ≤ port ∧ port ≤ cfg.portRangeEnd := by
  rw [mem_portsFrom]
  unfold rangeSize
  omega

/-- The loop of `leasePorts` meets the free ports in ascending order. -/
theorem sort_unleasedPorts (cfg : AppConfig) (s : World) :
    (unleasedPorts cfg s).sort = freePorts cfg s := by
  have hset : unleasedPorts cfg s = (freePorts cfg s).toFinset := by
    ext port
    rw [List.mem_toFinset, freePorts, List.mem_filter, mem_portRange]
    simp [unleasedPorts]
  rw [hset]
  exact (List.toFinset_sort _ (nodup_freePorts cfg s)).mpr ((sorted_portsFrom _ _).filter _)

/-- There are as many free ports in the set as in the list. -/
theorem card_unleasedPorts (cfg : AppConfig) (s : World) :
    (unleasedPorts cfg s).card = (freePorts cfg s).length := by
  rw [← sort_unleasedPorts, Finset.length_sort]

/-- The database answers every request of `leasePorts`. -/
theorem Request.Leases.served {op : Request} (h : op.Leases) (s : World) :
    ∃ a r s', act op a s = some (r, s') := by
  cases op with
  | insertPortLease lease =>
    simp only [act]
    cases s.insertPortLease lease with
    | none => exact ⟨default, _, _, rfl⟩
    | some s' => exact ⟨default, _, _, rfl⟩
  | findPortLease | deletePortLeases | deleteRuntime | deleteSignedTokens =>
    exact ⟨default, _, _, rfl⟩
  | _ => exact h.elim

end Smallest

/-- **The smallest free ports.** `leasePorts` runs to its end. It succeeds exactly when the range has
enough unleased ports, and then returns the smallest ones in ascending order and adds one lease for
each. -/
theorem leasePorts_smallest (cfg : AppConfig) (id : RuntimeId) (count : Nat) (s : World) :
    (∃ tr x s', Exec backend (leasePorts cfg id count) s tr x s') ∧
      ∀ tr x s', Exec backend (leasePorts cfg id count) s tr x s' →
        ((∃ ports, x = .ok ports) ↔ count ≤ (unleasedPorts cfg s).card) ∧
          ∀ ports, x = .ok ports → ports = (unleasedPorts cfg s).sort.take count ∧
            s'.portLeases.rows =
              s.portLeases.rows ++ ports.map fun port => ⟨localHostId, port, id⟩ := by
  constructor
  · exact exists_exec (leasePorts_leases cfg id count) (fun op s hop => hop.served s) s
  intro tr x s' hexec
  have houtcome : LeaseOutcome cfg id count s x s' := (leasePorts_spec cfg id count s).exec hexec
  rw [card_unleasedPorts, sort_unleasedPorts]
  -- `LeaseOutcome` has two cases, and which one it is depends on the number of free ports alone
  cases houtcome with
  | leased henough hleased =>
    refine ⟨⟨fun _ => henough, fun _ => ⟨_, rfl⟩⟩, fun ports hports => ?_⟩
    cases hports
    exact ⟨rfl, hleased.portLeases⟩
  | rolledBack hfew hleases hruntimes hvms =>
    refine ⟨⟨?_, fun henough => ?_⟩, ?_⟩
    · rintro ⟨ports, hports⟩
      cases hports
    · omega
    · intro ports hports
      cases hports

/-- Two ports of an empty table. -/
theorem leasePorts_smallest_two :
    ∃ s', (∃ tr, Exec backend (leasePorts (smallConfig 31005) 0 2) (World.fresh .empty) tr
        (.ok [31000, 31001]) s') ∧
      s'.portLeases.rows = [⟨localHostId, 31000, 0⟩, ⟨localHostId, 31001, 0⟩] := by
  obtain ⟨⟨tr, x, s', hexec⟩, hall⟩ :=
    leasePorts_smallest (smallConfig 31005) 0 2 (World.fresh .empty)
  obtain ⟨hiff, hports⟩ := hall tr x s' hexec
  have hfree : freePorts (smallConfig 31005) (World.fresh .empty) =
      [31000, 31001, 31002, 31003, 31004, 31005] := by decide
  obtain ⟨ports, rfl⟩ := hiff.mpr (by rw [card_unleasedPorts, hfree]; decide)
  obtain ⟨hsmallest, hrows⟩ := hports ports rfl
  rw [sort_unleasedPorts, hfree] at hsmallest
  subst hsmallest
  exact ⟨s', ⟨tr, hexec⟩, hrows⟩

/-! ## When there are too few

The rollback of `leasePorts` deletes by runtime. For a runtime that held leases before the call,
that takes those away too. -/

/-- **A failed leasing.** When `leasePorts` runs out of ports it gives back every lease of the
runtime, also those that the runtime held before the call. So the table is as it was exactly when
the runtime held no lease before. -/
theorem failed_leasing_unchanged_iff (cfg : AppConfig) (id : RuntimeId) (count : Nat) {s s' : World}
    {tr : List (Event requests World Answer)} {e : ServiceError}
    (hexec : Exec backend (leasePorts cfg id count) s tr (.error e) s') :
    s'.portLeases = s.portLeases ↔ ∀ l ∈ s.portLeases, l.runtimeId ≠ id := by
  have houtcome : LeaseOutcome cfg id count s (.error e) s' :=
    (leasePorts_spec cfg id count s).exec hexec
  cases houtcome with
  | rolledBack hfew hleases hruntimes hvms =>
    rw [hleases]
    constructor
    · intro hsame l hl
      rw [← hsame] at hl
      simpa using (Table.mem_delete.mp hl).2
    · exact fun hnone => Table.delete_eq_self fun l hl => by simpa using hnone l hl

/-- Evaluating `leasePorts` for one port fails and leaves `left` leases. -/
def failsLeaving (cfg : AppConfig) (id : RuntimeId) (left : Nat) (s : World) : Bool :=
  (run backend (leasePorts cfg id 1) [] s).any fun r =>
    (match r.2.1 with | .ok _ => false | .error _ => true) &&
      r.2.2.portLeases.rows.length == left

theorem exists_of_failsLeaving {cfg : AppConfig} {id : RuntimeId} {left : Nat} {s : World}
    (h : failsLeaving cfg id left s = true) :
    ∃ tr e s', Exec backend (leasePorts cfg id 1) s tr (.error e) s' ∧
      s'.portLeases.rows.length = left := by
  obtain ⟨⟨tr, x, s'⟩, hrun, hp⟩ := (Option.any_eq_true _ _).mp h
  rw [Bool.and_eq_true, beq_iff_eq] at hp
  cases x with
  | ok ports => cases hp.1
  | error e => exact ⟨tr, e, s', exec_of_run hrun, hp.2⟩

/-- The one port of the range is leased to runtime 0. Runtime 1 asks for a port, is refused, and the
lease stays. -/
theorem failed_leasing_other : ∃ (s s' : World) (tr : List (Event requests World Answer))
    (e : ServiceError), s.portLeases.rows.map (·.runtimeId) = [0] ∧
      Exec backend (leasePorts (smallConfig 31000) 1 1) s tr (.error e) s' ∧
      s'.portLeases = s.portLeases := by
  obtain ⟨tr₀, x, s, hexec₀, hp⟩ := exists_exec_of_run (h := backend) (s := World.fresh .empty)
    (p := leasePorts (smallConfig 31000) 0 1) [] (fun _ _ s =>
      s.portLeases.rows.map (·.runtimeId) == [0] && failsLeaving (smallConfig 31000) 1 1 s)
    (by decide +kernel)
  rw [Bool.and_eq_true, beq_iff_eq] at hp
  obtain ⟨hheld, hfails⟩ := hp
  obtain ⟨tr, e, s', hexec, -⟩ := exists_of_failsLeaving hfails
  -- runtime 1 has no lease, so there is nothing that the rollback could take
  have hnone : ∀ l ∈ s.portLeases, l.runtimeId ≠ 1 := by
    intro l hl
    have hid : l.runtimeId ∈ s.portLeases.rows.map (·.runtimeId) := List.mem_map_of_mem hl
    rw [hheld, List.mem_singleton] at hid
    rw [hid]
    decide
  exact ⟨s, s', tr, e, hheld, hexec,
    (failed_leasing_unchanged_iff (smallConfig 31000) 1 1 hexec).mpr hnone⟩

/-- Runtime 0 holds the one port of the range and asks for another. -/
theorem failed_leasing_drops_leases :
    ¬ ∀ (cfg : AppConfig) (id : RuntimeId) (count : Nat) (s : World)
      (tr : List (Event requests World Answer)) (e : ServiceError) (s' : World),
      Exec backend (leasePorts cfg id count) s tr (.error e) s' →
        s'.portLeases = s.portLeases := by
  intro hclaim
  obtain ⟨tr, x, s, hexec, hp⟩ := exists_exec_of_run (h := backend) (s := World.fresh .empty)
    (p := leasePorts (smallConfig 31000) 0 1) [] (fun _ _ s => s.portLeases.rows.length == 1 &&
      failsLeaving (smallConfig 31000) 0 0 s) (by decide +kernel)
  rw [Bool.and_eq_true, beq_iff_eq] at hp
  obtain ⟨tr', e, s', hexec', hgone⟩ := exists_of_failsLeaving hp.2
  rw [hclaim _ _ _ _ _ _ _ hexec', hp.1] at hgone
  cases hgone

/-! ## Creating a sandbox

A creation leases its ports twice: once for the new row and once more in the launch, which does not
see the first leases in the row. It needs twice the ports that it asks for. -/

/-- A creation that asks for `n` ports does not fail for want of ports while `n` are unleased, and
otherwise throws and leaves the runtimes and leases as they were. -/
structure AllOrNothing (cfg : AppConfig) (input : ProvisionInput) (s : World)
    (x : Except ServiceError Reply) (s' : World) : Prop where
  enough : portCount cfg input ≤ (unleasedPorts cfg s).card → x ≠ .error noFreePorts
  tooFew : (unleasedPorts cfg s).card < portCount cfg input →
    (∃ e, x = .error e) ∧ s'.runtimes = s.runtimes ∧ s'.portLeases = s.portLeases

section Creation

variable {cfg : AppConfig} {tr : List (Event requests World Answer)} {s s' : World}
  {input : ProvisionInput}

/-- A request that adds a runtime and is accepted asks for a name that nobody uses. -/
theorem nameShared_of_new (haccepts : accepts s input = true)
    (hnew : ∀ r ∈ s.runtimes, r.sandboxId ≠ input.sandboxId) : nameShared s input = false := by
  unfold accepts at haccepts
  rw [Bool.and_eq_true] at haccepts
  unfold nameShared
  cases hname : normalizeName input.name with
  | error e => rfl
  | ok name =>
    cases name with
    | none => rfl
    | some n =>
      have hused := haccepts.1
      simp only [hname, Option.all_some, Bool.and_eq_true, Bool.or_eq_true,
        Bool.not_eq_true'] at hused
      -- `accepts` lets a used name pass for the row that is replaced, which a new id has not
      rcases hused.1 with hfree | hown
      · simp only [SandboxCall.nameUsed, List.any_eq_false] at hfree
        simp only [List.any_eq_false]
        intro r hr
        simp [hfree r hr]
      · obtain ⟨r, hr, hrow⟩ := List.any_eq_true.mp hown
        rw [Bool.and_eq_true, beq_iff_eq] at hrow
        exact absurd hrow.2 (hnew r hr)

/-- What refuses a request that adds a runtime is not the want of ports. -/
theorem RuntimeControl.Refusal.ne_noFreePorts {e : ServiceError}
    (h : Refusal cfg (· ∈ tr) input s e) (hnew : ∀ r ∈ s.runtimes, r.sandboxId ≠ input.sandboxId) :
    e ≠ noFreePorts := by
  -- the errors of normalising have texts of their own
  have hnormal : ∀ value e, normalizeName value = .error e → e ≠ noFreePorts := by
    intro value e he
    unfold normalizeName normalizeSandboxId normalizeSegment at he
    split at he
    · cases he
    · split_ifs at he
      dsimp only at he
      split_ifs at he <;> cases he
      decide
  cases h with
  | badName he => exact hnormal _ _ he
  | nameTaken hname hr huse hother =>
    intro heq
    cases congrArg ServiceError.kind heq
  | badMount hmount hrefused =>
    rcases hrefused with ⟨-, rfl⟩ | ⟨-, rfl | he⟩
    -- errors of different kinds differ
    · intro heq
      cases congrArg ServiceError.kind heq
    · intro heq
      cases congrArg ServiceError.kind heq
    · exact hnormal _ _ he
  | nameStored hname hr hstored hother => decide
  | filesFailed hplan hrow hid hkeep hfailure hsafe => exact absurd hid (hnew _ hrow)

/-- **One creation.** -/
theorem RuntimeControl.ProvisionOutcome.allOrNothing_iff {x : Except ServiceError RuntimeSummary}
    (h : ProvisionOutcome cfg (· ∈ tr) input s x s')
    (hnew : ∀ r ∈ s.runtimes, r.sandboxId ≠ input.sandboxId)
    (hbackend : ∀ ev ∈ tr, ∀ vm, ev.op = .createDetachedRuntime vm →
      ev.answer.failure ≠ some noFreePorts) :
    AllOrNothing cfg input s (x.map Reply.summary) s' ↔
      (accepts s input = true → (unleasedPorts cfg s).card < portCount cfg input ∨
        2 * portCount cfg input ≤ (unleasedPorts cfg s).card) := by
  cases h with
  | @refused e hwhy =>
    constructor
    · intro _ haccepts
      exfalso
      rcases hwhy.of_accepts haccepts with hshared | ⟨row, hrow, hid, -⟩
      · rw [nameShared_of_new haccepts hnew] at hshared
        cases hshared
      · exact hnew row hrow hid
    · intro _
      refine ⟨fun _ heq => ?_, fun _ => ⟨⟨e, rfl⟩, rfl, rfl⟩⟩
      exact hwhy.ne_noFreePorts hnew (Except.error.inj heq)
  | existing hplan hrow hid hforce hkeep hlive hsave => exact absurd hid (hnew _ hrow)
  | rolledBack hplan hnone hfew hleases hruntimes hvms =>
    rw [hplan.ports_eq, ← card_unleasedPorts] at hfew
    refine ⟨fun _ _ => Or.inl hfew, fun _ => ⟨fun henough => ?_, fun _ => ?_⟩⟩
    · exact absurd hfew (Nat.not_lt.mpr henough)
    · exact ⟨⟨_, rfl⟩, hruntimes, hleases⟩
  | @launched name spec row s₁ s' x hplan hstart houtcome =>
    have haccepts : accepts s input = true := LaunchStart.accepts hplan hstart
    have hcount : spec.ports.length = portCount cfg input := by rw [hplan.ports_eq, portCount]
    cases hstart with
    | unhealthy hrow hid hkeep => exact absurd hid (hnew _ hrow)
    | replaced hrow hid hreplace hsave => exact absurd hid (hnew _ hrow)
    | @new vmName authToken primary now a sRow _ hnone hvm hinsert hsafe henough hleased =>
      -- the ports of the row are leased once before the launch leases them again
      have hleases := (World.insertRuntime_spec hinsert).2.1
      have hfree₁ : freePorts cfg sRow = freePorts cfg s := freePorts_congr cfg hleases
      have hfree := freePorts_leased (hfree₁.symm ▸ hleased)
      rw [hfree₁] at hfree
      have hlen := congrArg List.length hfree
      rw [List.length_drop, ← card_unleasedPorts cfg s, hcount] at hlen
      rw [hcount, ← card_unleasedPorts] at henough
      have hsecond : ∀ ports s₃, PortsAssigned cfg s₁
          ((newRow input.sandboxId vmName authToken name spec primary now).withId s.nextRuntimeId)
          spec ports s₃ → 2 * portCount cfg input ≤ (unleasedPorts cfg s).card := by
        intro ports s₃ hports
        have hassigned := hports.enough
        simp only [RuntimeEntity.withId_portBindings, newRow, List.length_nil, hcount] at hassigned
        omega
      cases houtcome with
      | outOfPorts hfew hleases' hruntimes hvms =>
        simp only [RuntimeEntity.withId_portBindings, newRow, List.length_nil, hcount] at hfew
        constructor
        · intro hall
          exact absurd rfl (hall.enough henough)
        · intro hfits
          rcases hfits haccepts with hless | hmore <;> omega
      | @createFailed ports e a s₃ hports hfailure hhard hsafe' =>
        refine ⟨fun _ _ => Or.inr (hsecond _ _ hports), fun _ => ⟨fun _ heq => ?_, fun hless => ?_⟩⟩
        · rw [Except.error.inj heq] at hfailure
          exact hbackend _ hsafe' _ rfl hfailure
        · omega
      | provisioned hports hsafe' hprimary hsave =>
        refine ⟨fun _ _ => Or.inr (hsecond _ _ hports), fun _ => ⟨fun _ heq => ?_, fun hless => ?_⟩⟩
        · cases heq
        · omega

/-- **All or nothing.** For a request whose id is not stored, the creation is all or nothing exactly
when it is refused by an earlier check, too few ports are free even for the first round, or there
are enough for both. In between, the first round succeeds and the second one throws, and the row
stays behind. -/
theorem creation_all_or_nothing_iff (cfg : AppConfig) {c : SandboxCall}
    {x : Except ServiceError Reply} (hrequest : c.request s (drawnText tr) = some input)
    (hnew : ∀ r ∈ s.runtimes, r.sandboxId ≠ input.sandboxId)
    (hbackend : ∀ ev ∈ tr, ∀ vm, ev.op = .createDetachedRuntime vm →
      ev.answer.failure ≠ some noFreePorts)
    (hexec : Exec backend (c.prog cfg) s tr x s') :
    AllOrNothing cfg input s x s' ↔
      (accepts s input = true → (unleasedPorts cfg s).card < portCount cfg input ∨
        2 * portCount cfg input ≤ (unleasedPorts cfg s).card) := by
  -- a creation ends in `provision`, since it makes a request
  cases call_outcome hexec with
  | refused hnone => simp [hnone] at hrequest
  | touched hrow hsave hruntimes hleases hvms hcall =>
    simp [SandboxCall.request_eq_none hcall] at hrequest
  | deleted hrow hcall hruntimes hleases hvms hremoved =>
    obtain ⟨value, v, rfl, -⟩ := hcall
    simp [SandboxCall.request] at hrequest
  | @provisioned input' x s' hrequest' hnormal houtcome =>
    obtain rfl : input = input' := Option.some.inj (hrequest.symm.trans hrequest')
    exact houtcome.allOrNothing_iff hnew hbackend

end Creation

/-- The request of a call whose run is given, and that no backend call of the run failed. -/
def asksUnfailed (c : SandboxCall) (s : World) (tr : List (Event requests World Answer))
    (p : ProvisionInput → Bool) : Bool :=
  tr.all (fun ev => ev.answer.failure == none) && (c.request s (drawnText tr)).any p

/-- What evaluation finds of a call and its run. -/
theorem of_asksUnfailed {c : SandboxCall} {s : World} {tr : List (Event requests World Answer)}
    {p : ProvisionInput → Bool} (h : asksUnfailed c s tr p = true) :
    (∀ ev ∈ tr, ev.answer.failure = none) ∧
      ∃ input, c.request s (drawnText tr) = some input ∧ p input = true := by
  obtain ⟨hall, hany⟩ := Bool.and_eq_true_iff.mp h
  refine ⟨fun ev hev => ?_, (Option.any_eq_true _ _).mp hany⟩
  have hnone := List.all_eq_true.mp hall ev hev
  rw [beq_iff_eq] at hnone
  exact hnone

/-- Six free ports are enough for both rounds of a creation with two ports. -/
theorem creation_all_or_nothing_two : ∃ input tr x s', portCount (smallConfig 31005) input = 2 ∧
    Exec backend ((SandboxCall.create { name := some "a" }).prog (smallConfig 31005))
      (World.fresh .empty) tr x s' ∧
    AllOrNothing (smallConfig 31005) input (World.fresh .empty) x s' := by
  obtain ⟨tr, x, s', hexec, hp⟩ := exists_exec_of_run (h := backend) (s := World.fresh .empty)
    (p := (SandboxCall.create { name := some "a" }).prog (smallConfig 31005)) []
    (fun tr _ _ => asksUnfailed (.create { name := some "a" }) (World.fresh .empty) tr
      fun input => portCount (smallConfig 31005) input == 2) (by decide +kernel)
  obtain ⟨hunfailed, input, hrequest, hcount⟩ := of_asksUnfailed hp
  rw [beq_iff_eq] at hcount
  refine ⟨input, tr, x, s', hcount, hexec, ?_⟩
  apply (creation_all_or_nothing_iff (smallConfig 31005) hrequest
    (fun r hr => absurd hr (Table.not_mem_empty r)) (fun ev hev vm _ => ?_) hexec).mpr
  -- six ports are free, which the kernel counts
  · intro _
    right
    rw [hcount, card_unleasedPorts]
    decide +kernel
  · rw [hunfailed ev hev]
    exact nofun

/-- Three ports are free and two are asked for: the second round finds one, the creation throws and
the row stays. -/
theorem creation_runs_out :
    ¬ ∀ (cfg : AppConfig) (c : SandboxCall) (s : World) (tr : List (Event requests World Answer))
      (input : ProvisionInput) (x : Except ServiceError Reply) (s' : World),
      c.request s (drawnText tr) = some input →
      (∀ r ∈ s.runtimes, r.sandboxId ≠ input.sandboxId) →
      (∀ ev ∈ tr, ∀ vm, ev.op = .createDetachedRuntime vm →
        ev.answer.failure ≠ some noFreePorts) →
      Exec backend (c.prog cfg) s tr x s' → AllOrNothing cfg input s x s' := by
  intro hclaim
  obtain ⟨tr, x, s', hexec, hp⟩ := exists_exec_of_run (h := backend) (s := World.fresh .empty)
    (p := (SandboxCall.create { name := some "a" }).prog (smallConfig 31002)) []
    (fun tr x _ => asksUnfailed (.create { name := some "a" }) (World.fresh .empty) tr
      (fun input => portCount (smallConfig 31002) input == 2) &&
        match x with
        | .ok _ => false
        | .error e => e == noFreePorts) (by decide +kernel)
  obtain ⟨hasks, herror⟩ := Bool.and_eq_true_iff.mp hp
  obtain ⟨hunfailed, input, hrequest, hcount⟩ := of_asksUnfailed hasks
  rw [beq_iff_eq] at hcount
  have hall := hclaim _ _ _ tr input x s' hrequest
    (fun r hr => absurd hr (Table.not_mem_empty r))
    (fun ev hev vm _ => by rw [hunfailed ev hev]; exact nofun) hexec
  -- the call threw for want of ports, though the first round had found enough
  cases x with
  | ok reply => cases herror
  | error e =>
    rw [beq_iff_eq] at herror
    subst herror
    apply hall.enough _ rfl
    rw [hcount, card_unleasedPorts]
    decide +kernel

end Microsandbox
