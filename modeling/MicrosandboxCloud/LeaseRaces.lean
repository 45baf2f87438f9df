import MicrosandboxCloud.Interleaving

/-!
# Microsandbox — `leasePorts` calls that race

Any number of `leasePorts` calls interleave at their lookups, inserts and rollback deletes. Each
call carries the ports it has taken as its control state; the assertion that runs with it says
that these are leased to the call's runtime, which only the call itself takes away again.
-/

namespace Microsandbox

open Process Data

namespace Registry

/-! ## The ports a call has taken

A call remembers the ports that it has taken in its control state and nowhere else. As an automaton:
a lease that was inserted is taken, and the rollback forgets all. That the program follows it is
checked once, whatever runs beside it. -/

/-- How the ports that a call for `id` has taken change with each reply. -/
inductive Takes (id : RuntimeId) : List Int → (op : Request) → op.Reply → List Int → Prop where
  | look {taken : List Int} (host : String) (port : Int) (found : Option PortLeaseEntity) :
      Takes id taken (.findPortLease host port) found taken
  | take {taken : List Int} (port : Int) :
      Takes id taken (.insertPortLease (leaseOf id port)) (.ok ()) (taken ++ [port])
  | lose {taken : List Int} (lease : PortLeaseEntity) (e : ServiceError) :
      Takes id taken (.insertPortLease lease) (.error e) taken
  | rollBack {taken : List Int} : Takes id taken (.deletePortLeases id) () []

/-- What a call returns are the ports it has taken. -/
def ReturnsTaken (taken : List Int) (x : Except ServiceError (List Int)) : Prop :=
  ∀ ports, x = .ok ports → taken = ports

/-- The loop hands on what it has taken. Induction on the ports left. -/
theorem leaseLoop_conforms (id : RuntimeId) (count left : Nat) (port : Int) (ports : List Int) :
    (leaseLoop id count left port ports).Conforms (Takes id)
      (fun taken x => x = .ok taken) ports := by
  induction left generalizing port ports with
  | zero => exact (Prog.conforms_pure (σ := requests) ports).mpr rfl
  | succ left ih =>
    unfold leaseLoop
    split_ifs
    · refine (Prog.conforms_await (σ := requests) _ _).mpr fun found => ⟨ports, .look _ _ found, ?_⟩
      cases found with
      | some lease => exact ih (port + 1) ports
      | none =>
        refine (Prog.conforms_await (σ := requests) _ _).mpr fun saved => ?_
        cases saved with
        | ok _ => exact ⟨ports ++ [port], .take port, ih (port + 1) (ports ++ [port])⟩
        | error e => exact ⟨ports, .lose _ e, ih (port + 1) ports⟩
    · exact (Prog.conforms_pure (σ := requests) ports).mpr rfl

/-- The loop, and the rollback when it has found too few. -/
theorem leasePorts_conforms (cfg : AppConfig) (id : RuntimeId) (count : Nat) :
    (leasePorts cfg id count).Conforms (Takes id) ReturnsTaken [] := by
  unfold leasePorts
  apply Prog.Conforms.bind
  refine (leaseLoop_conforms id count (rangeSize cfg) cfg.portRangeStart []).mono ?_
  rintro taken x rfl
  dsimp only
  split_ifs
  · refine (Prog.conforms_await (σ := requests) _ _).mpr fun _ => ⟨[], .rollBack, ?_⟩
    exact (Prog.conforms_throw (σ := requests) _).mpr fun ports h => by cases h
  · exact (Prog.conforms_pure (σ := requests) _).mpr fun ports h => Except.ok.inj h

/-! ## All calls together

The assertion of the pool says of all calls at once that what they have taken is leased to their
runtimes. Since a port is leased once, no two calls have taken the same. One call's step keeps it
for all, as the runtimes are different. -/

/-- The ports each call has taken are different ones, leased to its runtime. -/
def TakenLeased {ι : Type} (ids : ι → RuntimeId) (taken : ι → List Int) (s : World) : Prop :=
  ∀ i, (taken i).Nodup ∧ ∀ port ∈ taken i, leaseOf (ids i) port ∈ s.portLeases

section Race

variable {ι : Type} {ids : ι → RuntimeId} {taken : ι → List Int} {s s' : World}

/-- When no lease is taken away, calls keep what they have. -/
theorem TakenLeased.mono (h : TakenLeased ids taken s)
    (hleases : ∀ l ∈ s.portLeases, l ∈ s'.portLeases) : TakenLeased ids taken s' :=
  fun i => ⟨(h i).1, fun port hport => hleases _ ((h i).2 port hport)⟩

variable [DecidableEq ι]

/-- **One step.** A step of one call keeps what every call has taken. -/
theorem TakenLeased.step (hids : Function.Injective ids) {i : ι} {op : Request} {a : Answer}
    {r : op.Reply} {next : List Int} (h : TakenLeased ids taken s)
    (hact : act op a s = some (r, s')) (hnext : Takes (ids i) (taken i) op r next) :
    TakenLeased ids (Function.update taken i next) s' := by
  generalize hold : taken i = old at hnext
  cases hnext with
  | look host port found =>
    cases hact
    rwa [← hold, Function.update_eq_self]
  | lose lease e =>
    simp only [act] at hact
    split at hact <;> cases hact
    rwa [← hold, Function.update_eq_self]
  | take port =>
    simp only [act] at hact
    split at hact <;> cases hact
    rename_i hinsert
    have hmem := fun l => Table.mem_insert (World.insertPortLease_spec hinsert).1 (x := l)
    have hkept := h.mono fun l hl => (hmem l).mpr (Or.inl hl)
    intro j
    by_cases hj : j = i
    · subst hj
      rw [Function.update_self, ← hold]
      refine ⟨List.nodup_append.mpr ⟨(h j).1, by simp, ?_⟩, fun q hq => ?_⟩
      · -- a port the call already holds is leased, so it cannot be inserted again
        intro q hq p hp hqp
        obtain rfl : p = port := List.mem_singleton.mp hp
        subst hqp
        have hrefused : s.insertPortLease (leaseOf (ids j) q) = none := by
          rw [World.insertPortLease_eq_none, Table.insert_eq_none]
          exact ⟨_, (h j).2 q hq, rfl, rfl⟩
        rw [hrefused] at hinsert
        cases hinsert
      · rcases List.mem_append.mp hq with hq | hq
        · exact (hkept j).2 q hq
        · rw [List.mem_singleton.mp hq]
          exact (hmem _).mpr (Or.inr rfl)
    · rw [Function.update_of_ne hj]
      exact hkept j
  | rollBack =>
    cases hact
    intro j
    by_cases hj : j = i
    · subst hj
      rw [Function.update_self]
      exact ⟨List.nodup_nil, fun q hq => absurd hq List.not_mem_nil⟩
    · rw [Function.update_of_ne hj]
      refine ⟨(h j).1, fun q hq => Table.mem_delete.mpr ⟨(h j).2 q hq, ?_⟩⟩
      -- the leases taken away are those of another runtime
      have hne : ids j ≠ ids i := fun heq => hj (hids heq)
      simpa [leaseOf] using hne

/-- The calls, all at their start in `s`. -/
def leasing (cfg : AppConfig) (ids : ι → RuntimeId) (counts : ι → Nat) (s : World) :
    Pool requests ServiceError (List Int) World ι :=
  ⟨fun i => leasePorts cfg (ids i) (counts i), s⟩

/-- **Every step.** However the calls interleave, what a call returned are different ports leased
to its runtime. -/
theorem leasing_returns {cfg : AppConfig} {counts : ι → Nat} (hids : Function.Injective ids)
    {tr : List (ι × Event requests World Answer)}
    {c : Pool requests ServiceError (List Int) World ι}
    (hrun : Pool.Run backend (fun _ _ _ => True) (leasing cfg ids counts s) tr c) {i : ι}
    {ports : List Int} (hports : c.thread i = .pure ports) :
    ports.Nodup ∧ ∀ port ∈ ports, leaseOf (ids i) port ∈ c.state.portLeases := by
  have hinv : ∃ taken, TakenLeased ids taken c.state ∧
      ∀ i, (c.thread i).Conforms (Takes (ids i)) ReturnsTaken (taken i) :=
    Pool.Run.invariant (J := fun _ taken s => TakenLeased ids taken s)
      (fun i => leasePorts_conforms cfg (ids i) (counts i))
      (fun i => ⟨List.nodup_nil, fun port hport => absurd hport List.not_mem_nil⟩)
      (fun tr taken s i op a r s' next h _ hact hnext => h.step hids hact hnext) hrun
  obtain ⟨taken, htaken, hconf⟩ := hinv
  have hreturned : taken i = ports := (hconf i).outcome (Prog.outcome_eq_ok.mpr hports) ports rfl
  rw [← hreturned]
  exact htaken i

/-- **No port is handed out twice.** However `leasePorts` calls for different runtimes interleave,
the lists they return are without duplicates and disjoint, and every returned port stays leased to
the runtime of its call. -/
theorem concurrent_leases (cfg : AppConfig) (ids : ι → RuntimeId) (counts : ι → Nat) (s : World)
    (hids : Function.Injective ids) {tr : List (ι × Event requests World Answer)}
    {c : Pool requests ServiceError (List Int) World ι}
    (hrun : Pool.Run backend (fun _ _ _ => True) (leasing cfg ids counts s) tr c) :
    (∀ i ports, c.thread i = .pure ports → ports.Nodup) ∧
      (∀ i j ports ports', i ≠ j → c.thread i = .pure ports → c.thread j = .pure ports' →
        ports.Disjoint ports') ∧
      ∀ i ports, c.thread i = .pure ports →
        ∀ port ∈ ports, leaseOf (ids i) port ∈ c.state.portLeases := by
  have hreturns := fun i ports (h : c.thread i = .pure ports) => leasing_returns hids hrun h
  refine ⟨fun i ports hi => (hreturns i ports hi).1, ?_, fun i ports hi => (hreturns i ports hi).2⟩
  intro i j ports ports' hij hi hj port hport hport'
  have hsame : leaseOf (ids i) port = leaseOf (ids j) port :=
    Table.eq_of_clash ((hreturns i ports hi).2 port hport) ((hreturns j ports' hj).2 port hport')
      ⟨rfl, rfl⟩
  exact hij (hids (congrArg PortLeaseEntity.runtimeId hsame))

end Race

/-- Two runtimes ask for one port each. -/
def twoRuntimes (b : Bool) : RuntimeId := if b then 1 else 0

/-- Call `i` has returned these ports. -/
def returned (c : Pool requests ServiceError (List Int) World Bool) (i : Bool) (ports : List Int) :
    Bool :=
  match c.thread i with
  | .pure leased => leased == ports
  | _ => false

theorem thread_of_returned {c : Pool requests ServiceError (List Int) World Bool} {i : Bool}
    {ports : List Int} (h : returned c i ports = true) : c.thread i = .pure ports := by
  unfold returned at h
  split at h
  · rename_i hthread
    rw [hthread, beq_iff_eq.mp h]
  · cases h

/-- Both calls find port 31000 free; the second to insert goes on to the next. -/
theorem concurrent_leases_two :
    ∃ tr c, Pool.Run backend (fun _ _ _ => True)
        (leasing (smallConfig 31005) twoRuntimes (fun _ => 1) (World.fresh .empty)) tr c ∧
      c.thread true = .pure [31000] ∧ c.thread false = .pure [31001] ∧
      leaseOf 1 31000 ∈ c.state.portLeases ∧ leaseOf 0 31001 ∈ c.state.portLeases := by
  obtain ⟨tr, c, hrun, hreturned⟩ := Pool.exists_run_of_schedule (h := backend)
    (steps false 1 ++ steps true 2 ++ steps false 3)
    (fun _ c => returned c true [31000] && returned c false [31001])
    (show (Pool.schedule backend _ (leasing (smallConfig 31005) twoRuntimes (fun _ => 1)
      (World.fresh .empty))).any _ = true by decide +kernel)
  rw [Bool.and_eq_true] at hreturned
  have hfirst := thread_of_returned hreturned.1
  have hsecond := thread_of_returned hreturned.2
  -- the two calls are for two runtimes
  have hids : Function.Injective twoRuntimes := by
    unfold Function.Injective
    decide
  obtain ⟨-, -, hleased⟩ := concurrent_leases (smallConfig 31005) twoRuntimes (fun _ => 1)
    (World.fresh .empty) hids hrun
  exact ⟨tr, c, hrun, hfirst, hsecond, hleased true _ hfirst 31000 (by simp),
    hleased false _ hsecond 31001 (by simp)⟩

end Registry

end Microsandbox
