import MicrosandboxCloud.LeaseAccounting
import MicrosandboxCloud.NormalForms

/-!
# Microsandbox — port bindings

How `provision` puts the ports of a spec on host ports, and which binding answers for a container
port that is bound more than once.

* **`mapPorts`** — the loop over the new ports: the bindings of the row by position, the leases by a
  counter. `host_ports_assigned` says that no host port is left undefined and no lease unused.
* **`publishPorts`** — the ports that `createDetachedRuntime` publishes, by protocol.
* **`tcp_consumers_served_iff`** — the lookups take the first binding of a container port, whatever
  its protocol, so that they find a tcp binding exactly when it stands before the udp ones.
-/

namespace Microsandbox

open Process Data Text

/-! ## Assigning host ports

The loop that puts the ports of a spec on host ports counts the new leases it has used. Here it is
written as the loop it is, with its counter and with `undefined` where a lease is missing, and shown
to be the function that the model of `provision` uses. -/

namespace RuntimeControl

variable {existing ports : List RuntimePortBindingRecord} {leased : List Int}

/-- `{ ...port, hostPort }` and the counter after it. An undefined host port makes no binding. -/
def reuseOrLease (existing : List RuntimePortBindingRecord) (leased : List Int)
    (port : RuntimePortBindingRecord) (index newPortIndex : Nat) :
    Option RuntimePortBindingRecord × Nat :=
  match existing[index]? with
  | some binding => (some { port with hostPort := binding.hostPort }, newPortIndex)
  | none =>
    (leased[newPortIndex]?.map fun hostPort => { port with hostPort := hostPort },
      newPortIndex + 1)

/-- `spec.ports.map((port, index) => …)`, from `index` on, and the counter at the end. -/
def mapPorts (existing : List RuntimePortBindingRecord) (leased : List Int) :
    List RuntimePortBindingRecord → (index newPortIndex : Nat) →
      List (Option RuntimePortBindingRecord) × Nat
  | [], _, newPortIndex => ([], newPortIndex)
  | port :: ports, index, newPortIndex =>
    let mapped := reuseOrLease existing leased port index newPortIndex
    let rest := mapPorts existing leased ports (index + 1) mapped.2
    (mapped.1 :: rest.1, rest.2)

/-- The counter is how far the position is beyond the bindings, so it meets every lease in turn and
ends where they do. Induction on the ports that are left. -/
theorem mapPorts_eq (index : Nat) (h : leased.length = index + ports.length - existing.length) :
    mapPorts existing leased ports index (index - existing.length) =
      ((assignHostPorts (existing.drop index) ports
        (leased.drop (index - existing.length))).map some, leased.length) := by
  induction ports generalizing index with
  | nil =>
    rw [mapPorts, h, List.length_nil, Nat.add_zero]
    cases existing.drop index with
    | nil => simp [assignHostPorts, setHostPorts]
    | cons binding rest => simp [assignHostPorts]
  | cons port ports ih =>
    have hrest := ih (index + 1) (by rw [h, List.length_cons]; omega)
    rw [mapPorts]
    by_cases hreused : index < existing.length
    · -- the counter stays at the start
      have hbinding : existing[index]? = some existing[index] := List.getElem?_eq_getElem hreused
      have hstart : index - existing.length = 0 := by omega
      have hstill : index + 1 - existing.length = 0 := by omega
      rw [hstill] at hrest
      rw [reuseOrLease, hbinding, hstart]
      simp only [hrest]
      rw [List.drop_eq_getElem_cons hreused]
      rfl
    · -- a lease is left for this port, and the counter moves on
      have hnone : existing[index]? = none := List.getElem?_eq_none (by omega)
      have hend : existing.drop index = [] := List.drop_eq_nil_of_le (by omega)
      have hend' : existing.drop (index + 1) = [] := List.drop_eq_nil_of_le (by omega)
      have hlease : index - existing.length < leased.length := by
        rw [List.length_cons] at h
        omega
      have hnext : index + 1 - existing.length = index - existing.length + 1 := by omega
      rw [hnext, hend'] at hrest
      rw [reuseOrLease, hnone]
      simp only [hrest]
      rw [hend, List.drop_eq_getElem_cons hlease, List.getElem?_eq_getElem hlease]
      rfl

/-- A port as the request has it. -/
def unassigned (port : RuntimePortBindingRecord) : RuntimePortBindingRecord :=
  { port with hostPort := 0 }

/-- New ports on leased host ports are otherwise as they were. -/
theorem unassigned_setHostPorts (ports : List RuntimePortBindingRecord) (leased : List Int) :
    (setHostPorts ports leased).map unassigned = ports.map unassigned := by
  induction ports generalizing leased with
  | nil => cases leased <;> rfl
  | cons port ports ih =>
    cases leased with
    | nil => rfl
    | cons hostPort leased => exact congrArg (unassigned port :: ·) (ih leased)

/-- Nothing but the host port is changed. -/
theorem unassigned_assignHostPorts (existing ports : List RuntimePortBindingRecord)
    (leased : List Int) :
    (assignHostPorts existing ports leased).map unassigned = ports.map unassigned := by
  induction existing generalizing ports with
  | nil => exact unassigned_setHostPorts ports leased
  | cons binding existing ih =>
    cases ports with
    | nil => rfl
    | cons port ports => exact congrArg (unassigned port :: ·) (ih ports)

/-- **Host ports are assigned to all ports, and apart.** With as many new leases as the bindings
fall short, the loop leaves no host port undefined and its counter ends where the leases do; the
host ports are distinct, come from the bindings and the leases, and use all leases; everything else
about the ports stays. -/
theorem host_ports_assigned (hbound : (hostPorts existing).Nodup)
    (hcount : leased.length = ports.length - existing.length) (hleased : leased.Nodup)
    (hfresh : ∀ port ∈ leased, port ∉ hostPorts existing) :
    mapPorts existing leased ports 0 0 =
        ((assignHostPorts existing ports leased).map some, leased.length) ∧
      (hostPorts (assignHostPorts existing ports leased)).Nodup ∧
      (∀ port ∈ hostPorts (assignHostPorts existing ports leased),
        port ∈ hostPorts existing ∨ port ∈ leased) ∧
      (∀ port ∈ leased, port ∈ hostPorts (assignHostPorts existing ports leased)) ∧
      (assignHostPorts existing ports leased).map unassigned = ports.map unassigned := by
  -- the host ports in order: those that are reused, and then the leases
  have hassigned := hostPorts_assignHostPorts hcount
  have hkept : (hostPorts (existing.take ports.length)).Sublist (hostPorts existing) :=
    (List.take_sublist _ _).map _
  refine ⟨?_, ?_, fun port hport => ?_, fun port hport => ?_, unassigned_assignHostPorts _ _ _⟩
  · have hall : leased.length = 0 + ports.length - existing.length := by rwa [Nat.zero_add]
    have hloop := mapPorts_eq 0 hall
    rwa [Nat.zero_sub, List.drop_zero, List.drop_zero] at hloop
  · rw [hassigned, List.nodup_append]
    refine ⟨hbound.sublist hkept, hleased, fun old hold new hnew heq => ?_⟩
    exact hfresh new hnew (heq ▸ hkept.subset hold)
  · rw [hassigned] at hport
    exact (List.mem_append.mp hport).imp_left fun hold => hkept.subset hold
  · rw [hassigned]
    exact List.mem_append_right _ hport

/-- One binding and three ports: the two leases go to the second and the third. -/
theorem host_ports_assigned_beyond :
    let bound : RuntimePortBindingRecord := ⟨none, 8080, 31000, .tcp, false⟩
    let ports : List RuntimePortBindingRecord :=
      [⟨none, 9000, 0, .udp, false⟩, ⟨none, 8080, 0, .tcp, false⟩, ⟨some "ssh", 22, 0, .tcp, true⟩]
    mapPorts [bound] [31004, 31002] ports 0 0 =
        ((assignHostPorts [bound] ports [31004, 31002]).map some, 2) ∧
      (hostPorts (assignHostPorts [bound] ports [31004, 31002])).Nodup ∧
      (∀ port ∈ hostPorts (assignHostPorts [bound] ports [31004, 31002]),
        port ∈ hostPorts [bound] ∨ port ∈ [31004, 31002]) ∧
      (∀ port ∈ [31004, 31002], port ∈ hostPorts (assignHostPorts [bound] ports [31004, 31002])) ∧
      (assignHostPorts [bound] ports [31004, 31002]).map unassigned = ports.map unassigned :=
  host_ports_assigned (by decide) rfl (by decide) (by decide)

end RuntimeControl

/-! ## What is published

A VM publishes each of its ports under its protocol, so that a tcp port and a udp port of one number
are two. -/

namespace MicrosandboxAdapter

/-- A call of the builder's `port` or `portUdp`. -/
inductive PublishedPort where
  | port (hostPort containerPort : Int)
  | portUdp (hostPort containerPort : Int)

/-- A port is published for its protocol. -/
def publishPort (port : RuntimePortBindingRecord) : PublishedPort :=
  if port.protocol = .udp then .portUdp port.hostPort port.containerPort
  else .port port.hostPort port.containerPort

/-- The loop of `createDetachedRuntime` over the ports. -/
def publishPorts (ports : List RuntimePortBindingRecord) : List PublishedPort :=
  ports.map publishPort

/-- Published as udp is what is bound as udp. -/
theorem portUdp_mem_publishPorts {ports : List RuntimePortBindingRecord}
    {hostPort containerPort : Int} : .portUdp hostPort containerPort ∈ publishPorts ports ↔
      ∃ b ∈ ports, b.protocol = .udp ∧ b.hostPort = hostPort ∧ b.containerPort = containerPort := by
  rw [publishPorts, List.mem_map]
  refine exists_congr fun b => and_congr_right fun _ => ?_
  rw [publishPort]
  split
  case isTrue hudp => simp [hudp]
  case isFalse htcp => simp [htcp]

end MicrosandboxAdapter

open RuntimeControl MicrosandboxAdapter

/-! ## The first binding of a container port

Every lookup takes the first binding of the port number, whatever its protocol is. So it matters
which of two comes first. -/

section First

variable {bindings : List RuntimePortBindingRecord} {b : RuntimePortBindingRecord} {port : Int}

/-- No binding of the same container port stands before this one. -/
def IsFirst (bindings : List RuntimePortBindingRecord) (b : RuntimePortBindingRecord) : Prop :=
  ∃ pre post, bindings = pre ++ b :: post ∧ ∀ b' ∈ pre, b'.containerPort ≠ b.containerPort

/-- Every udp binding comes after a tcp binding of its container port. -/
def TcpFirst (bindings : List RuntimePortBindingRecord) : Prop :=
  ∀ pre b post, bindings = pre ++ b :: post → b.protocol = .udp →
    ∃ tcp ∈ pre, tcp.containerPort = b.containerPort ∧ tcp.protocol = .tcp

/-- No udp binding has the host port of the first binding of a container port. -/
def UdpApart (bindings : List RuntimePortBindingRecord) : Prop :=
  ∀ b, IsFirst bindings b → ∀ udp ∈ bindings, udp.protocol = .udp → udp.hostPort ≠ b.hostPort

theorem find?_eq_some_iff : bindings.find? (fun b => b.containerPort == port) = some b ↔
    b.containerPort = port ∧ IsFirst bindings b := by
  rw [List.find?_eq_some_iff_append, beq_iff_eq]
  refine and_congr_right ?_
  rintro rfl
  simp only [IsFirst, Bool.not_eq_true', beq_eq_false_iff_ne]

theorem IsFirst.mem (h : IsFirst bindings b) : b ∈ bindings := by
  obtain ⟨pre, post, rfl, -⟩ := h
  exact List.mem_append_right _ List.mem_cons_self

theorem eq_tcp_of_ne_udp {protocol : Protocol} (h : protocol ≠ .udp) : protocol = .tcp := by
  cases protocol with
  | tcp => rfl
  | udp => exact absurd rfl h

/-- The udp bindings come later exactly when every first one is tcp. -/
theorem tcpFirst_iff : TcpFirst bindings ↔ ∀ b, IsFirst bindings b → b.protocol = .tcp := by
  constructor
  · rintro hfirst b ⟨pre, post, heq, hpre⟩
    refine eq_tcp_of_ne_udp fun hudp => ?_
    obtain ⟨tcp, htcp, hport, -⟩ := hfirst pre b post heq hudp
    exact hpre tcp htcp hport
  · rintro htcp pre b post rfl hudp
    cases hfind : pre.find? (fun b' => b'.containerPort == b.containerPort) with
    | none =>
      -- the udp binding would be the first one itself
      have hpre : ∀ b' ∈ pre, b'.containerPort ≠ b.containerPort := by
        intro b' hb'
        simpa using List.find?_eq_none.mp hfind b' hb'
      have := htcp b ⟨pre, post, rfl, hpre⟩
      rw [hudp] at this
      cases this
    | some tcp =>
      obtain ⟨hport, before, rest, rfl, hbefore⟩ := find?_eq_some_iff.mp hfind
      refine ⟨tcp, List.mem_append_right _ List.mem_cons_self, hport, ?_⟩
      exact htcp tcp ⟨before, rest ++ b :: post, by simp, hbefore⟩

/-- Distinct host ports are apart. -/
theorem UdpApart.of_nodup (hdistinct : (hostPorts bindings).Nodup) (hfirst : TcpFirst bindings) :
    UdpApart bindings := by
  intro b hb udp hudp hprotocol heq
  obtain rfl : udp = b := List.inj_on_of_nodup_map hdistinct hudp hb.mem heq
  rw [tcpFirst_iff.mp hfirst udp hb] at hprotocol
  cases hprotocol

end First

/-! ## What the lookups find

The proxy and the health check are tcp clients. They reach what they mean to exactly when the
bindings they find are tcp. -/

section Lookups

variable {r : RuntimeEntity} {b : RuntimePortBindingRecord} {port : Int}

/-- A tcp client that is sent to the host port of `b` reaches what is published for it. -/
structure ServesTcp (r : RuntimeEntity) (b : RuntimePortBindingRecord) : Prop where
  stored : b ∈ r.portBindings
  tcp : b.protocol = .tcp
  notUdp : ∀ containerPort, .portUdp b.hostPort containerPort ∉ publishPorts r.portBindings

/-- The port is bound for tcp. -/
def HasTcp (r : RuntimeEntity) (port : Int) : Prop :=
  ∃ b ∈ r.portBindings, b.containerPort = port ∧ b.protocol = .tcp

/-- The proxy and the health check of an existing runtime are given tcp bindings, and what is bound
as udp only is refused. -/
structure TcpConsumersServed (r : RuntimeEntity) : Prop where
  proxied : ∀ port, HasTcp r port →
    ∃ b, findBinding r port = .ok b ∧ b.containerPort = port ∧ ServesTcp r b
  checked : HasTcp r r.primaryPort →
    ∃ b, primaryHostPort r = b.hostPort ∧ b.containerPort = r.primaryPort ∧ ServesTcp r b
  refused : ∀ port, ¬ HasTcp r port → ∃ e, findBinding r port = .error e

theorem findBinding_eq_ok_iff :
    findBinding r port = .ok b ↔ b.containerPort = port ∧ IsFirst r.portBindings b := by
  rw [← find?_eq_some_iff, findBinding]
  cases r.portBindings.find? (fun b => b.containerPort == port) with
  | none => simp
  | some b' => simp

/-- What is bound has a first binding. -/
theorem exists_first (h : ∃ b ∈ r.portBindings, b.containerPort = port) :
    ∃ b, b.containerPort = port ∧ IsFirst r.portBindings b := by
  obtain ⟨b, hb, hport⟩ := h
  cases hfind : r.portBindings.find? (fun b => b.containerPort == port) with
  | none => exact absurd hport (by simpa using List.find?_eq_none.mp hfind b hb)
  | some first => exact ⟨first, find?_eq_some_iff.mp hfind⟩

theorem primaryHostPort_eq (hport : b.containerPort = r.primaryPort)
    (hfirst : IsFirst r.portBindings b) : primaryHostPort r = b.hostPort := by
  rw [primaryHostPort, find?_eq_some_iff.mpr ⟨hport, hfirst⟩]

/-- All lookups find the first binding. -/
theorem tcpConsumersServed_iff_first :
    TcpConsumersServed r ↔ ∀ b, IsFirst r.portBindings b → ServesTcp r b := by
  constructor
  · -- the binding is what `findBinding` gives for its port, and it may not be given as udp
    intro h b hfirst
    have hfind : findBinding r b.containerPort = .ok b := findBinding_eq_ok_iff.mpr ⟨rfl, hfirst⟩
    by_cases htcp : HasTcp r b.containerPort
    · obtain ⟨b', hfind', -, hserves⟩ := h.proxied _ htcp
      rw [hfind] at hfind'
      rwa [Except.ok.inj hfind']
    · obtain ⟨e, he⟩ := h.refused _ htcp
      rw [hfind] at he
      cases he
  · intro h
    -- a container port with a TCP binding has a first binding
    have hserved : ∀ port, HasTcp r port →
        ∃ b, b.containerPort = port ∧ IsFirst r.portBindings b ∧ ServesTcp r b := by
      rintro port ⟨b, hb, hport, -⟩
      obtain ⟨first, hport', hfirst⟩ := exists_first ⟨b, hb, hport⟩
      exact ⟨first, hport', hfirst, h first hfirst⟩
    refine ⟨fun port htcp => ?_, fun htcp => ?_, fun port htcp => ?_⟩
    · obtain ⟨b, hport, hfirst, hserves⟩ := hserved port htcp
      exact ⟨b, findBinding_eq_ok_iff.mpr ⟨hport, hfirst⟩, hport, hserves⟩
    · obtain ⟨b, hport, hfirst, hserves⟩ := hserved _ htcp
      exact ⟨b, primaryHostPort_eq hport hfirst, hport, hserves⟩
    · cases hfind : findBinding r port with
      | error e => exact ⟨e, rfl⟩
      | ok b =>
        obtain ⟨hport, hfirst⟩ := findBinding_eq_ok_iff.mp hfind
        exact absurd ⟨b, hfirst.mem, hport, (h b hfirst).tcp⟩ htcp

end Lookups

/-- **Whom tcp consumers reach.** The proxy and the health check are given tcp bindings exactly when
every udp binding comes after a tcp binding of its container port and none has the host port of a
first binding; where host ports are distinct, the order alone decides. -/
theorem tcp_consumers_served_iff (r : RuntimeEntity) :
    (TcpConsumersServed r ↔ TcpFirst r.portBindings ∧ UdpApart r.portBindings) ∧
      ((hostPorts r.portBindings).Nodup →
        (TcpConsumersServed r ↔ TcpFirst r.portBindings)) := by
  have hiff : TcpConsumersServed r ↔ TcpFirst r.portBindings ∧ UdpApart r.portBindings := by
    rw [tcpConsumersServed_iff_first, tcpFirst_iff]
    constructor
    · refine fun h => ⟨fun b hb => (h b hb).tcp, fun b hb udp hudp hprotocol heq => ?_⟩
      exact (h b hb).notUdp udp.containerPort
        (portUdp_mem_publishPorts.mpr ⟨udp, hudp, hprotocol, heq, rfl⟩)
    · rintro ⟨htcp, hapart⟩ b hb
      refine ⟨hb.mem, htcp b hb, fun containerPort hmem => ?_⟩
      obtain ⟨udp, hudp, hprotocol, heq, -⟩ := portUdp_mem_publishPorts.mp hmem
      exact hapart b hb udp hudp hprotocol heq
  refine ⟨hiff, fun hdistinct => hiff.trans ?_⟩
  exact ⟨fun h => h.1, fun hfirst => ⟨hfirst, .of_nodup hdistinct hfirst⟩⟩

/-- A runtime that was asked to expose port 53 over udp and over tcp. -/
def nameServer : RuntimeEntity :=
  { bareRow "dns" with
    portBindings := setHostPorts
      (resolvePorts (smallConfig 31005)
        (some [{ containerPort := 53, protocol := some .udp },
          { containerPort := 53, protocol := some .tcp }]) none)
      [31000, 31001]
    primaryPort := 53 }

/-- Its proxied requests go to the udp port. -/
theorem nameServer_not_served : ¬ TcpConsumersServed nameServer := by
  intro h
  have htcp : HasTcp nameServer 53 :=
    ⟨⟨none, 53, 31001, .tcp, false⟩, List.mem_cons_of_mem _ (List.mem_singleton_self _), rfl, rfl⟩
  have hfind : findBinding nameServer 53 = .ok ⟨none, 53, 31000, .udp, false⟩ := rfl
  obtain ⟨b, hfound, -, hserves⟩ := h.proxied 53 htcp
  rw [hfind] at hfound
  have hudp := hserves.tcp
  rw [← Except.ok.inj hfound] at hudp
  cases hudp

end Microsandbox
