import MicrosandboxCloud.Rules

/-!
# Microsandbox — what `leasePorts` does when it runs alone

`leasePorts_spec` is the one statement the provisioning proofs use: with enough free ports the
lowest ones are leased and nothing else changes; with too few, every lease of the runtime is gone
and the call throws.
-/

namespace Microsandbox

open Process Data

namespace Registry

/-! ## Free ports

A port is free when no lease of the local host holds it. The loop goes through the range in
ascending order and looks each port up. -/

/-- No lease of the local host holds `port`. -/
def isFree (s : World) (port : Int) : Bool :=
  !s.portLeases.rows.any fun l => l.runtimeHostId == localHostId && l.port == port

/-- `count` ports from `port` on. -/
def portsFrom (port : Int) : Nat → List Int
  | 0 => []
  | count + 1 => port :: portsFrom (port + 1) count

/-- The free ports of the configured range, in order. -/
def freePorts (cfg : AppConfig) (s : World) : List Int :=
  (portsFrom cfg.portRangeStart (rangeSize cfg)).filter (isFree s)

theorem isFree_iff {s : World} {port : Int} :
    isFree s port = true ↔
      ∀ l ∈ s.portLeases, ¬ (l.runtimeHostId = localHostId ∧ l.port = port) := by
  simp [isFree, Table.mem_def, not_and]

theorem mem_portsFrom {port q : Int} {count : Nat} :
    q ∈ portsFrom port count ↔ port ≤ q ∧ q < port + count := by
  induction count generalizing port with
  | zero =>
    simp only [portsFrom, List.not_mem_nil, false_iff]
    omega
  | succ count ih =>
    simp only [portsFrom, List.mem_cons, ih]
    omega

theorem nodup_portsFrom (port : Int) (count : Nat) : (portsFrom port count).Nodup := by
  induction count generalizing port with
  | zero => exact List.nodup_nil
  | succ count ih =>
    refine List.nodup_cons.mpr ⟨fun h => ?_, ih (port + 1)⟩
    have := mem_portsFrom.mp h
    omega

theorem nodup_freePorts (cfg : AppConfig) (s : World) : (freePorts cfg s).Nodup :=
  (nodup_portsFrom _ _).filter _

theorem isFree_of_mem_freePorts {cfg : AppConfig} {s : World} {port : Int}
    (h : port ∈ freePorts cfg s) : isFree s port = true :=
  (List.mem_filter.mp h).2

/-- Free ports depend on the leases only. -/
theorem freePorts_congr (cfg : AppConfig) {s s' : World} (h : s'.portLeases = s.portLeases) :
    freePorts cfg s' = freePorts cfg s := by
  unfold freePorts isFree
  rw [h]

/-! ## Leasing

What the loop does in all is one `Leased`: some ports, leased to one runtime, and nothing else
changed. The specification of `leasePorts` is what the proofs about provisioning use; they never
look at the loop again. -/

/-- The lease of `port` to a runtime. -/
def leaseOf (id : RuntimeId) (port : Int) : PortLeaseEntity := ⟨localHostId, port, id⟩

/-- `s'` is `s` with `ports` leased to `id`. -/
structure Leased (s : World) (id : RuntimeId) (ports : List Int) (s' : World) : Prop where
  portLeases : s'.portLeases.rows = s.portLeases.rows ++ ports.map (leaseOf id)
  runtimes : s'.runtimes = s.runtimes
  vms : s'.vms = s.vms

section Leased

variable {s s₁ s₂ : World} {id : RuntimeId} {ports ports' : List Int}

theorem Leased.refl (s : World) (id : RuntimeId) : Leased s id [] s := ⟨by simp, rfl, rfl⟩

theorem Leased.trans (h₁ : Leased s id ports s₁) (h₂ : Leased s₁ id ports' s₂) :
    Leased s id (ports ++ ports') s₂ where
  portLeases := by simp [h₂.portLeases, h₁.portLeases]
  runtimes := h₂.runtimes.trans h₁.runtimes
  vms := h₂.vms.trans h₁.vms

/-- The leases are those from before and the new ones. -/
theorem Leased.mem (h : Leased s id ports s₁) {l : PortLeaseEntity} :
    l ∈ s₁.portLeases ↔ l ∈ s.portLeases ∨ ∃ port ∈ ports, l = leaseOf id port := by
  simp only [Table.mem_def, h.portLeases, List.mem_append, List.mem_map]
  simp only [eq_comm]

/-- Taking away all leases of the runtime forgets what was just leased to it. -/
theorem Leased.delete (h : Leased s id ports s₁) :
    s₁.portLeases.delete (fun l => l.runtimeId == id) =
      s.portLeases.delete fun l => l.runtimeId == id := by
  refine Table.ext_rows ?_
  rw [Table.rows_delete, Table.rows_delete, h.portLeases, List.filter_append]
  simp [leaseOf]

/-- Leasing one port leaves the others as free as they were. -/
theorem isFree_of_leased_ne {port q : Int} (h : Leased s id [port] s₁) (hne : q ≠ port) :
    isFree s₁ q = isFree s q := by
  simp [isFree, h.portLeases, leaseOf, Ne.symm hne]

end Leased

section Spec

variable {safe : Event requests World Answer → Prop}

/-- The loop takes the free ports in order until it has `count`. Induction on the ports left. -/
theorem leaseLoop_spec (id : RuntimeId) (count left : Nat) (port : Int) (ports : List Int)
    (s : World) :
    Ensures backend safe (leaseLoop id count left port ports) s fun x s' =>
      let taken := ((portsFrom port left).filter (isFree s)).take (count - ports.length)
      x = .ok (ports ++ taken) ∧ Leased s id taken s' := by
  induction left generalizing port ports s with
  | zero => exact Ensures.pure ⟨by simp [portsFrom], by simpa [portsFrom] using Leased.refl s id⟩
  | succ left ih =>
    unfold leaseLoop
    split_ifs with hcount
    · refine ensures_findPortLease (fun l hl hhost hport => ?_) fun hnone => ?_
      · -- the port is leased, and the loop goes on
        have hport : isFree s port = false := by
          rw [← Bool.not_eq_true, isFree_iff]
          exact fun hfree => hfree l hl ⟨hhost, hport⟩
        simpa [portsFrom, hport] using ih (port + 1) ports s
      · have hport : isFree s port = true := isFree_iff.mpr hnone
        refine ensures_insertPortLease (fun s₁ hs₁ => ?_) fun hs => ?_
        · -- the port is taken, and all later ports are as free as before
          obtain ⟨hinsert, hruntimes, hvms⟩ := World.insertPortLease_spec hs₁
          have hleased : Leased s id [port] s₁ := ⟨Table.rows_insert hinsert, hruntimes, hvms⟩
          have hsame : (portsFrom (port + 1) left).filter (isFree s₁) =
              (portsFrom (port + 1) left).filter (isFree s) := by
            refine List.filter_congr fun q hq => isFree_of_leased_ne hleased ?_
            have := mem_portsFrom.mp hq
            omega
          refine (ih (port + 1) (ports ++ [port]) s₁).mono fun x s' hx => ?_
          obtain ⟨k, hk⟩ : ∃ k, count - ports.length = k + 1 :=
            ⟨count - ports.length - 1, by omega⟩
          have hk' : count - (ports.length + 1) = k := by omega
          simp only [hsame, List.length_append, List.length_singleton, hk',
            List.append_assoc, List.singleton_append] at hx
          simp only [portsFrom, List.filter_cons_of_pos hport, hk, List.take_succ_cons]
          exact ⟨hx.1, hleased.trans hx.2⟩
        · -- no insertion fails, since nothing is served between the look-up and it
          rw [World.insertPortLease_eq_none, Table.insert_eq_none] at hs
          obtain ⟨l, hl, hclash⟩ := hs
          exact absurd hclash (hnone l hl)
    · have hzero : count - ports.length = 0 := by omega
      exact Ensures.pure ⟨by simp [hzero], by simpa [hzero] using Leased.refl s id⟩

/-- How `leasePorts` ends. -/
inductive LeaseOutcome (cfg : AppConfig) (id : RuntimeId) (count : Nat) (s : World) :
    Except ServiceError (List Int) → World → Prop where
  | leased {s' : World} (henough : count ≤ (freePorts cfg s).length)
      (hleased : Leased s id ((freePorts cfg s).take count) s') :
      LeaseOutcome cfg id count s (.ok ((freePorts cfg s).take count)) s'
  | rolledBack {s' : World} (hfew : (freePorts cfg s).length < count)
      (hleases : s'.portLeases = s.portLeases.delete fun l => l.runtimeId == id)
      (hruntimes : s'.runtimes = s.runtimes) (hvms : s'.vms = s.vms) :
      LeaseOutcome cfg id count s (.error noFreePorts) s'

/-- `leasePorts` alone: the lowest free ports, or, when there are too few, no lease of the runtime
at all. -/
theorem leasePorts_spec (cfg : AppConfig) (id : RuntimeId) (count : Nat) (s : World) :
    Ensures backend safe (leasePorts cfg id count) s (LeaseOutcome cfg id count s) := by
  unfold leasePorts
  refine Ensures.bind ((leaseLoop_spec id count (rangeSize cfg) cfg.portRangeStart [] s).mono ?_)
  rintro x s₁ ⟨rfl, hleased⟩
  simp only [List.length_nil, Nat.sub_zero, List.nil_append] at hleased ⊢
  change Leased s id ((freePorts cfg s).take count) s₁ at hleased
  have hlen : ((freePorts cfg s).take count).length = min count (freePorts cfg s).length :=
    List.length_take
  change Ensures backend safe
    (if ((freePorts cfg s).take count).length ≠ count then _ else _) s₁ _
  split_ifs with hshort
  · refine ensures_deletePortLeases (Ensures.throw (.rolledBack (by omega) ?_ ?_ ?_))
    · exact hleased.delete
    · exact hleased.runtimes
    · exact hleased.vms
  · exact Ensures.pure (.leased (by omega) hleased)

end Spec

end Registry

end Microsandbox
