import MicrosandboxCloud.Removal
import MicrosandboxCloud.Process.Transcript

/-!
# Microsandbox — how the wait for a sandbox to stop ends

`waitForSandboxStop` tests its deadline twice in a round: before the sleep, where it kills the
sandbox when time is up, and in the `while` after the sleep, where it just returns.

* **`StoppedOrKilled`** — the last status observed was absent or `stopped`, or `kill` was issued.
* **`WakesLate`** — a sleep between two polls ended at or after the deadline.
* **`waitForSandboxStop_settles_iff`** — the wait ends as it should exactly when no sleep did.
-/

namespace Microsandbox

open Process

namespace MicrosandboxAdapter

/-- `waitForSandboxStop` with any bound on the rounds of its loop. -/
def waitRounds (cfg : RemovalConfig) (name : String) (rounds : Nat) : HostAsync Unit := do
  let now : Int ← awaitHost .now
  pollLoop cfg name (now + cfg.runtimeReadyTimeoutMs) rounds

/-- The wait of the adapter is this one with the fuel that it is given. -/
theorem waitForSandboxStop_eq (cfg : RemovalConfig) (name : String) :
    waitForSandboxStop cfg name = waitRounds cfg name (cfg.runtimeReadyTimeoutMs.toNat + 1) := rfl

end MicrosandboxAdapter

/-! ## What a wait has seen and done

What is claimed about the end of a wait is read off its answers: the statuses that it was shown, the
kill that it may have asked for, and the readings of the clock that follow a sleep. -/

/-- The status that an answer of `Sandbox.get` shows, `none` where there is no handle. -/
def statusShown : (Σ op : hostRequests.Op, hostRequests.Reply op) → Option (Option String)
  | ⟨.getSandbox _, .ok status⟩ => some (some status)
  | ⟨.getSandbox _, .error _⟩ => some none
  | _ => none

/-- The statuses observed, oldest first. -/
def observed (t : Transcript hostRequests) : List (Option String) := t.filterMap statusShown

/-- `!status || status === 'stopped'` -/
def isStopped (status : Option String) : Bool :=
  status.all fun text => text == "" || text == "stopped"

/-- The last status observed was absent or `stopped`, or the sandbox was killed. -/
def StoppedOrKilled (name : String) (t : Transcript hostRequests) : Prop :=
  (∃ status, (observed t).getLast? = some status ∧ isStopped status = true) ∨
    ∃ killed, ⟨.killSandbox name, killed⟩ ∈ t

/-- A sleep has ended at or after the deadline. -/
def WakesLate (deadline : Int) (t : Transcript hostRequests) : Prop :=
  ∃ ms now, [⟨.delay ms, ()⟩, ⟨.now, now⟩] <:+: t ∧ deadline ≤ now

/-- The reading of the clock a wait starts with. -/
def startTime : Transcript hostRequests → Int
  | ⟨.now, now⟩ :: _ => now
  | _ => 0

section Loop

variable {cfg : RemovalConfig} {name : String} {deadline : Int} {t : Transcript hostRequests}

/-- A look at the sandbox is one request, and shows one status. -/
theorem MicrosandboxAdapter.ends_getSandboxHandle {α : Type} {k : Option String → HostAsync α}
    {x : Except ServiceError α} (h : (getSandboxHandle name >>= k).Ends t x) :
    ∃ handle answer t', t = ⟨.getSandbox name, answer⟩ :: t' ∧
      statusShown ⟨.getSandbox name, answer⟩ = some handle ∧ (k handle).Ends t' x := by
  unfold getSandboxHandle at h
  rw [Prog.bind_assoc, Prog.ends_request] at h
  obtain ⟨answer, t', rfl, hrest⟩ := h
  cases answer with
  | error e => exact ⟨none, .error e, t', rfl, rfl, hrest⟩
  | ok status => exact ⟨some status, .ok status, t', rfl, rfl, hrest⟩

/-- A look at the sandbox adds what it showed. -/
theorem observed_cons_status {e : Σ op : hostRequests.Op, hostRequests.Reply op}
    {status : Option String} (h : statusShown e = some status) (t : Transcript hostRequests) :
    observed (e :: t) = status :: observed t := by
  rw [observed, List.filterMap_cons, h]
  rfl

theorem observed_cons_other {e : Σ op : hostRequests.Op, hostRequests.Reply op}
    (h : statusShown e = none) (t : Transcript hostRequests) : observed (e :: t) = observed t := by
  rw [observed, List.filterMap_cons, h]
  rfl

/-- Without a sleep there is no late one. -/
theorem WakesLate.sleeps (h : WakesLate deadline t) : ∃ ms, ⟨.delay ms, ()⟩ ∈ t := by
  obtain ⟨ms, now, hinfix, -⟩ := h
  exact ⟨ms, hinfix.subset List.mem_cons_self⟩

/-- Only a reading right after a sleep can be late. -/
theorem wakesLate_round {e₁ e₂ : Σ op : hostRequests.Op, hostRequests.Reply op} {ms now : Int}
    (h₁ : ∀ ms, e₁ ≠ ⟨.delay ms, ()⟩) (h₂ : ∀ ms, e₂ ≠ ⟨.delay ms, ()⟩) :
    WakesLate deadline (e₁ :: e₂ :: ⟨.delay ms, ()⟩ :: ⟨.now, now⟩ :: t) ↔
      deadline ≤ now ∨ WakesLate deadline t := by
  constructor
  · rintro ⟨ms', now', hinfix, hlate⟩
    simp only [List.infix_cons_iff, List.cons_prefix_cons] at hinfix
    -- the pair of a sleep and a reading begins at one of the places of the round, or after it
    rcases hinfix with ⟨heq, -⟩ | ⟨heq, -⟩ | ⟨-, heq, -⟩ | ⟨heq, -⟩ | hrest
    · exact absurd heq.symm (h₁ ms')
    · exact absurd heq.symm (h₂ ms')
    · cases heq
      exact Or.inl hlate
    · cases heq
    · exact Or.inr ⟨ms', now', hrest, hlate⟩
  · rintro (hlate | ⟨ms', now', hrest, hlate⟩)
    · exact ⟨ms, now, ⟨[e₁, e₂], t, rfl⟩, hlate⟩
    · obtain ⟨pre, post, rfl⟩ := hrest
      exact ⟨ms', now', ⟨e₁ :: e₂ :: ⟨.delay ms, ()⟩ :: ⟨.now, now⟩ :: pre, post, rfl⟩, hlate⟩

/-- The loop ends as it should exactly when none of its sleeps was too long. Induction on the
rounds left. -/
theorem MicrosandboxAdapter.pollLoop_settles_iff {rounds : Nat}
    (h : (pollLoop cfg name deadline rounds).Ends t (.ok ())) :
    observed t ≠ [] ∧ (StoppedOrKilled name t ↔ ¬ WakesLate deadline t) := by
  induction rounds generalizing t with
  | zero =>
    obtain ⟨-, hx⟩ := Prog.ends_throw.mp h
    cases hx
  | succ rounds ih =>
    obtain ⟨status, polled, t₁, rfl, hstatus, hrest⟩ := ends_getSandboxHandle h
    have hseen := observed_cons_status hstatus t₁
    refine ⟨by rw [hseen]; exact List.cons_ne_nil _ _, ?_⟩
    -- the polled status ends the wait
    have hsettled : isStopped status = true → t₁ = [] →
        (StoppedOrKilled name (⟨.getSandbox name, polled⟩ :: t₁) ↔
          ¬ WakesLate deadline (⟨.getSandbox name, polled⟩ :: t₁)) := by
      rintro hstopped rfl
      apply iff_of_true
      · exact Or.inl ⟨status, by rw [hseen]; rfl, hstopped⟩
      · intro hlate
        obtain ⟨ms, hmem⟩ := hlate.sleeps
        cases List.mem_singleton.mp hmem
    cases status with
    | none =>
      obtain ⟨rfl, -⟩ := Prog.ends_pure.mp hrest
      exact hsettled rfl rfl
    | some status =>
      dsimp only at hrest
      split_ifs at hrest with hstop
      · obtain ⟨rfl, -⟩ := Prog.ends_pure.mp hrest
        exact hsettled (by simpa [isStopped] using hstop) rfl
      -- the sandbox is still there and not stopped
      obtain ⟨now, t₂, rfl, htested⟩ := Prog.ends_request.mp hrest
      split_ifs at htested with htime
      · -- time is up before the sleep
        obtain ⟨handle, answer, t₃, rfl, hhandle, hkill⟩ := ends_getSandboxHandle htested
        have hsleepless : t₃ = [] ∨ (∃ killed, t₃ = [⟨.killSandbox name, killed⟩]) →
            ¬ WakesLate deadline (⟨.getSandbox name, polled⟩ :: ⟨.now, now⟩ ::
              ⟨.getSandbox name, answer⟩ :: t₃) := by
          intro ht₃ hlate
          obtain ⟨ms, hmem⟩ := hlate.sleeps
          rcases ht₃ with rfl | ⟨killed, rfl⟩ <;> simp at hmem
        cases handle with
        | none =>
          obtain ⟨rfl, -⟩ := Prog.ends_pure.mp hkill
          apply iff_of_true _ (hsleepless (Or.inl rfl))
          refine Or.inl ⟨none, ?_, rfl⟩
          rw [hseen, observed_cons_other rfl, observed_cons_status hhandle]
          rfl
        | some _ =>
          obtain ⟨killed, t₄, rfl, hend⟩ := Prog.ends_request.mp hkill
          obtain ⟨rfl, -⟩ := Prog.ends_pure.mp hend
          apply iff_of_true _ (hsleepless (Or.inr ⟨killed, rfl⟩))
          exact Or.inr ⟨killed, by simp⟩
      · obtain ⟨slept, t₃, rfl, hslept⟩ := Prog.ends_request.mp htested
        obtain ⟨later, t₄, rfl, hwoke⟩ := Prog.ends_request.mp hslept
        rw [wakesLate_round (by simp) (by simp)]
        have hobserved : observed (⟨.getSandbox name, polled⟩ :: ⟨.now, now⟩ ::
            ⟨.delay cfg.runtimeReadyPollIntervalMs, slept⟩ :: ⟨.now, later⟩ :: t₄) =
              some status :: observed t₄ := by
          rw [hseen, observed_cons_other rfl, observed_cons_other rfl, observed_cons_other rfl]
        split_ifs at hwoke with hwait
        · -- the next round polls again
          obtain ⟨hagain, hiff⟩ := ih hwoke
          have hlast : (some status :: observed t₄).getLast? = (observed t₄).getLast? :=
            List.getLast?_cons_of_ne_nil hagain
          have hkilled : ∀ killed, ⟨.killSandbox name, killed⟩ ∈ ⟨.getSandbox name, polled⟩ ::
              ⟨.now, now⟩ :: ⟨.delay cfg.runtimeReadyPollIntervalMs, slept⟩ :: ⟨.now, later⟩ :: t₄ ↔
                ⟨.killSandbox name, killed⟩ ∈ t₄ := by simp
          rw [or_iff_right (by omega), ← hiff]
          unfold StoppedOrKilled
          simp only [hobserved, hlast, hkilled]
        · -- the loop is left without another look at the sandbox
          obtain ⟨rfl, -⟩ := Prog.ends_pure.mp hwoke
          apply iff_of_false
          · rintro (⟨last, hlast, hstopped⟩ | ⟨killed, hmem⟩)
            · rw [hobserved, observed, List.filterMap_nil, List.getLast?_singleton] at hlast
              rw [← Option.some.inj hlast] at hstopped
              exact hstop (by simpa [isStopped] using hstopped)
            · simp at hmem
          · exact not_not.mpr (Or.inl (by omega))

end Loop

/-- **The end of the wait.** Whatever it is answered, and however the clock moves, a wait that
returns has last observed the sandbox absent or stopped, or has issued `kill`, exactly when no sleep
between two polls ended at or after the deadline. After such a sleep the loop is left without
another look. -/
theorem waitForSandboxStop_settles_iff (cfg : RemovalConfig) (name : String) (rounds : Nat)
    {t : Transcript hostRequests}
    (h : (MicrosandboxAdapter.waitRounds cfg name rounds).Ends t (.ok ())) :
    StoppedOrKilled name t ↔ ¬ WakesLate (startTime t + cfg.runtimeReadyTimeoutMs) t := by
  obtain ⟨now, t', rfl, hrest⟩ := Prog.ends_request.mp h
  obtain ⟨-, hiff⟩ := MicrosandboxAdapter.pollLoop_settles_iff hrest
  have hlate : WakesLate (now + cfg.runtimeReadyTimeoutMs) (⟨.now, now⟩ :: t') ↔
      WakesLate (now + cfg.runtimeReadyTimeoutMs) t' := by
    simp [WakesLate, List.infix_cons_iff, List.cons_prefix_cons]
  have hkilled : ∀ killed, ⟨.killSandbox name, killed⟩ ∈ ⟨.now, now⟩ :: t' ↔
      ⟨.killSandbox name, killed⟩ ∈ t' := by simp
  rw [startTime, hlate, ← hiff]
  unfold StoppedOrKilled
  simp only [observed_cons_other (e := ⟨.now, now⟩) rfl t', hkilled]

/-- Time is up before the sleep, and the sandbox is killed. -/
theorem waitForSandboxStop_settles_killed : ∃ t : Transcript hostRequests,
    (MicrosandboxAdapter.waitRounds ⟨1000, 500⟩ "a" 1).Ends t (.ok ()) ∧ StoppedOrKilled "a" t := by
  have hends : (MicrosandboxAdapter.waitRounds ⟨1000, 500⟩ "a" 1).Ends
      [⟨.now, 0⟩, ⟨.getSandbox "a", .ok "running"⟩, ⟨.now, 1000⟩,
        ⟨.getSandbox "a", .ok "running"⟩, ⟨.killSandbox "a", .ok ()⟩] (.ok ()) :=
    .await (.await (.await (.await (.await (.pure ())))))
  refine ⟨_, hends, (waitForSandboxStop_settles_iff ⟨1000, 500⟩ "a" 1 hends).mpr fun hlate => ?_⟩
  obtain ⟨ms, hmem⟩ := hlate.sleeps
  simp at hmem

/-- The readings of the clock, oldest first. -/
def clockReadings (t : Transcript hostRequests) : List Int :=
  t.filterMap fun
    | ⟨.now, now⟩ => some now
    | _ => none

/-- A sandbox that stays running is polled once; the sleep lasts until the deadline, and the wait
returns. -/
theorem waitForSandboxStop_gives_up :
    ¬ ∀ (cfg : RemovalConfig) (name : String) (rounds : Nat) (t : Transcript hostRequests),
      (clockReadings t).Pairwise (· ≤ ·) →
      (MicrosandboxAdapter.waitRounds cfg name rounds).Ends t (.ok ()) → StoppedOrKilled name t := by
  intro hclaim
  have hends : (MicrosandboxAdapter.waitRounds ⟨1000, 500⟩ "a" 1).Ends
      [⟨.now, 0⟩, ⟨.getSandbox "a", .ok "running"⟩, ⟨.now, 600⟩, ⟨.delay 500, ()⟩, ⟨.now, 1100⟩]
      (.ok ()) :=
    .await (.await (.await (.await (.await (.pure ())))))
  rcases hclaim _ _ _ _ (by simp [clockReadings]) hends with ⟨status, hlast, hstopped⟩ |
    ⟨killed, hmem⟩
  · simp only [observed, List.filterMap_cons, statusShown, List.filterMap_nil,
      List.getLast?_singleton, Option.some.injEq] at hlast
    rw [← hlast] at hstopped
    exact absurd hstopped (by decide)
  · simp at hmem

end Microsandbox
