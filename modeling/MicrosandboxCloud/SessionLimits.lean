import MicrosandboxCloud.Process.Transcript

/-!
# Microsandbox — the limits of a session at the SSH gateway

`enforceSessionLimits` of the gateway, which closes a session at its expiry and after a time without
activity. Times are nanoseconds; the clock and the activity stamp are read again within a round.

* **`iteration` / `enforceSessionLimits`** — one round of the loop, and any number of rounds.
* **`Looks`** — a round reads the clock before anything else, and then the activity when there is an
  idle time to keep and the session has not expired.
* **`Enforced`** — a round closes only when a limit is reached, always when its first reading is past
  one, and else waits once, no longer than to the next limit.
* **`session_limits_enforced`** — every round of every run is so.
-/

namespace Microsandbox

open Process

namespace SshGateway

/-! ## The loop

`enforceSessionLimits` of the gateway: a loop that reads the clock, closes the session when a limit
has passed, and otherwise sleeps until the next limit, but for no more than five seconds and no less
than half a second. Times are nanoseconds, as `time.Duration` has them. -/

/-- What the loop waits for or reads. -/
inductive LimitRequest where
  | now
  | lastActivity
  | closeConns
  | wait (ns : Int)

/-- A reading is a time; the other two return nothing. -/
@[reducible] def LimitRequest.Reply : LimitRequest → Type
  | .now => Int
  | .lastActivity => Int
  | .closeConns => Unit
  | .wait _ => Unit

abbrev limitRequests : Signature := ⟨LimitRequest, LimitRequest.Reply⟩

/-- The loop throws no exception. -/
abbrev Limiting (α : Type) := Prog limitRequests Empty α

abbrev awaitLimit (op : LimitRequest) : Limiting op.Reply := Prog.request (σ := limitRequests) op

/-- `time.Millisecond` -/
def millisecond : Int := 1000000

/-- The longest sleep of a round. -/
def fiveSeconds : Int := 5000 * millisecond

/-- The shortest one. -/
def halfSecond : Int := 500 * millisecond

/-- What the loop is given. The zero time, which is no expiry, is `none`. -/
structure SessionLimits where
  expiresAt : Option Int
  idleTimeout : Int

/-- `min` of two durations. -/
def minDuration (a b : Int) : Int := min a b

/-- `max` of two durations. -/
def maxDuration (a b : Int) : Int := max a b

/-- `closeConns(); return` -/
def closeSession : Limiting Bool := do
  awaitLimit .closeConns
  return false

/-- `ticker.Reset(…); <-ticker.C` -/
def sleepFor (sleep : Int) : Limiting Bool := do
  awaitLimit (.wait (maxDuration halfSecond sleep))
  return true

/-- The second look at the activity, which shortens the sleep. -/
def planIdle (limits : SessionLimits) (now sleep : Int) : Limiting Bool :=
  if limits.idleTimeout > 0 then do
    let last : Int ← awaitLimit .lastActivity
    let untilIdle := limits.idleTimeout - (now - last)
    if untilIdle ≤ 0 then closeSession else sleepFor (minDuration sleep untilIdle)
  else sleepFor sleep

/-- The second look at the clock. -/
def planSleep (limits : SessionLimits) (now : Int) : Limiting Bool :=
  match limits.expiresAt with
  | none => planIdle limits now fiveSeconds
  | some expiresAt => do
    let later : Int ← awaitLimit .now
    let untilExpiry := expiresAt - later
    if untilExpiry ≤ 0 then closeSession
    else planIdle limits now (minDuration fiveSeconds untilExpiry)

/-- The stamp of the last activity is read only when the session has an idle timeout. -/
def checkIdle (limits : SessionLimits) (now : Int) : Limiting Bool :=
  if limits.idleTimeout > 0 then do
    let last : Int ← awaitLimit .lastActivity
    if now - last ≥ limits.idleTimeout then closeSession else planSleep limits now
  else planSleep limits now

/-- At or past the expiry. -/
def SessionLimits.expired (limits : SessionLimits) (now : Int) : Bool :=
  limits.expiresAt.any fun expiresAt => decide (expiresAt ≤ now)

/-- One round; is there another one? -/
def iteration (limits : SessionLimits) : Limiting Bool := do
  let now : Int ← awaitLimit .now
  if limits.expired now then closeSession else checkIdle limits now

/-- The first rounds of the loop. -/
def enforceSessionLimits (limits : SessionLimits) : Nat → Limiting Unit
  | 0 => return ()
  | rounds + 1 => do
    if ← iteration limits then enforceSessionLimits limits rounds else return ()

/-! ## What a round has seen and done

The transcript of a round is summed up by the readings of the clock, the stamps of the last
activity, the waits it asked for, and whether it has closed the session. Each of the four is a
projection of the transcript, and the lemmas say what one more request adds to it. -/

/-- A reading of the clock. -/
def readingOf : (Σ op : limitRequests.Op, limitRequests.Reply op) → Option Int
  | ⟨.now, now⟩ => some now
  | _ => none

/-- A reading of the last activity. -/
def stampOf : (Σ op : limitRequests.Op, limitRequests.Reply op) → Option Int
  | ⟨.lastActivity, last⟩ => some last
  | _ => none

/-- A sleep that was asked for. -/
def waitOf : (Σ op : limitRequests.Op, limitRequests.Reply op) → Option Int
  | ⟨.wait ns, _⟩ => some ns
  | _ => none

/-- The readings of the clock, oldest first. -/
def readings (t : Transcript limitRequests) : List Int := t.filterMap readingOf

/-- The activity stamps read, oldest first. -/
def stamps (t : Transcript limitRequests) : List Int := t.filterMap stampOf

/-- The waits that were planned, oldest first. -/
def waits (t : Transcript limitRequests) : List Int := t.filterMap waitOf

/-- The round has closed the session. -/
def Closed (t : Transcript limitRequests) : Prop := ⟨.closeConns, ()⟩ ∈ t

/-- The time to the expiry, at the last reading. -/
def toExpiry (limits : SessionLimits) (t : Transcript limitRequests) : Option Int := do
  let expiresAt ← limits.expiresAt
  let now ← (readings t).getLast?
  return expiresAt - now

/-- The idle time that is left, by the first reading and the last stamp. -/
def toIdle (limits : SessionLimits) (t : Transcript limitRequests) : Option Int :=
  if limits.idleTimeout > 0 then do
    let now ← (readings t).head?
    let last ← (stamps t).getLast?
    return limits.idleTimeout - (now - last)
  else none

/-- The least of five seconds and the times that are left. -/
def soonest (limits : SessionLimits) (t : Transcript limitRequests) : Int :=
  ((toExpiry limits t).toList ++ (toIdle limits t).toList).foldl min fiveSeconds

/-- The session has been idle for long enough. -/
def IdleAt (limits : SessionLimits) (now last : Int) : Prop :=
  0 < limits.idleTimeout ∧ limits.idleTimeout ≤ now - last

/-- What a round reads first: the clock and next, unless that reading is past the expiry, the
activity when there is an idle time to keep. -/
def Looks (limits : SessionLimits) (t : Transcript limitRequests) : Prop :=
  ∃ now t', t = ⟨.now, now⟩ :: t' ∧ (limits.expired now = false → 0 < limits.idleTimeout →
    ∃ last t'', t' = ⟨.lastActivity, last⟩ :: t'')

/-- A round that keeps the limits. -/
structure Enforced (limits : SessionLimits) (t : Transcript limitRequests) : Prop where
  /-- it closes only when a limit is reached -/
  justified : Closed t → (∃ now ∈ readings t, limits.expired now = true) ∨
    ∃ now ∈ readings t, ∃ last ∈ stamps t, IdleAt limits now last
  /-- it closes when its first reading is past a limit -/
  prompt : ∀ now, (readings t).head? = some now →
    (limits.expired now = true ∨ ∃ last ∈ stamps t, IdleAt limits now last) → Closed t
  /-- else it waits once, for at least half a second and not beyond the next limit -/
  planned : ¬ Closed t → ∃ ns, waits t = [ns] ∧ halfSecond ≤ ns ∧
    ns ≤ maxDuration halfSecond (soonest limits t)

variable {limits : SessionLimits} {t u : Transcript limitRequests} {now sleep : Int} {b : Bool}

/-! Appending one request is rewritten, and not simplified: its type mentions the signature. -/

/-- A reading is added at the end; the other requests add none. -/
theorem readings_now (r : Int) : readings (t ++ [⟨.now, r⟩]) = readings t ++ [r] :=
  List.filterMap_append

theorem readings_lastActivity (r : Int) : readings (t ++ [⟨.lastActivity, r⟩]) = readings t :=
  List.filterMap_append.trans (List.append_nil _)

theorem readings_wait (ns : Int) : readings (t ++ [⟨.wait ns, ()⟩]) = readings t :=
  List.filterMap_append.trans (List.append_nil _)

theorem readings_closeConns : readings (t ++ [⟨.closeConns, ()⟩]) = readings t :=
  List.filterMap_append.trans (List.append_nil _)

theorem stamps_now (r : Int) : stamps (t ++ [⟨.now, r⟩]) = stamps t :=
  List.filterMap_append.trans (List.append_nil _)

/-- A stamp is added at the end; the other requests add none. -/
theorem stamps_lastActivity (r : Int) : stamps (t ++ [⟨.lastActivity, r⟩]) = stamps t ++ [r] :=
  List.filterMap_append

theorem stamps_wait (ns : Int) : stamps (t ++ [⟨.wait ns, ()⟩]) = stamps t :=
  List.filterMap_append.trans (List.append_nil _)

theorem stamps_closeConns : stamps (t ++ [⟨.closeConns, ()⟩]) = stamps t :=
  List.filterMap_append.trans (List.append_nil _)

theorem waits_now (r : Int) : waits (t ++ [⟨.now, r⟩]) = waits t :=
  List.filterMap_append.trans (List.append_nil _)

theorem waits_lastActivity (r : Int) : waits (t ++ [⟨.lastActivity, r⟩]) = waits t :=
  List.filterMap_append.trans (List.append_nil _)

/-- A wait is added at the end; the other requests add none. -/
theorem waits_wait (ns : Int) : waits (t ++ [⟨.wait ns, ()⟩]) = waits t ++ [ns] :=
  List.filterMap_append

theorem not_closed_snoc {op : LimitRequest} {r : limitRequests.Reply op} (h : ¬ Closed t)
    (hop : op ≠ .closeConns) : ¬ Closed (t ++ [⟨op, r⟩]) := by
  intro hclosed
  rcases List.mem_append.mp hclosed with hmem | hmem
  · exact h hmem
  · exact hop (congrArg Sigma.fst (List.mem_singleton.mp hmem)).symm

/-! ## A round that has not closed so far

What is known inside a round, stage by stage: which times it has read, and that none of them has
passed a limit. The stages go from one such state to the next, or conclude the round. -/

/-- What a round has seen after the requests `t`, when it goes on. -/
structure Watching (limits : SessionLimits) (now : Int) (t : Transcript limitRequests) : Prop where
  first : (readings t).head? = some now
  unclosed : ¬ Closed t
  unplanned : waits t = []
  unexpired : limits.expired now = false
  active : ∀ last ∈ stamps t, ¬ IdleAt limits now last

/-- The clock has been read once, and the session has not expired by it. -/
theorem Watching.start (h : limits.expired now = false) : Watching limits now [⟨.now, now⟩] where
  first := rfl
  unclosed := not_closed_snoc List.not_mem_nil nofun
  unplanned := rfl
  unexpired := h
  active := by
    intro last hlast
    simp [stamps, stampOf] at hlast

/-- The clock is read again. -/
theorem Watching.clock (h : Watching limits now t) (later : Int) :
    Watching limits now (t ++ [⟨.now, later⟩]) where
  first := by rw [readings_now, List.head?_append, h.first, Option.some_or]
  unclosed := not_closed_snoc h.unclosed nofun
  unplanned := by rw [waits_now, h.unplanned]
  unexpired := h.unexpired
  active := by
    rw [stamps_now]
    exact h.active

/-- The activity is read, and there was some. -/
theorem Watching.stamp (h : Watching limits now t) {last : Int} (hlast : ¬ IdleAt limits now last) :
    Watching limits now (t ++ [⟨.lastActivity, last⟩]) where
  first := by rw [readings_lastActivity, h.first]
  unclosed := not_closed_snoc h.unclosed nofun
  unplanned := by rw [waits_lastActivity, h.unplanned]
  unexpired := h.unexpired
  active := by
    intro last' hmem
    rw [stamps_lastActivity, List.mem_append, List.mem_singleton] at hmem
    rcases hmem with hmem | rfl
    · exact h.active last' hmem
    · exact hlast

/-- A round that closes for a reason keeps the limits. -/
theorem Enforced.of_closed (hclosed : Closed t)
    (hreason : (∃ now ∈ readings t, limits.expired now = true) ∨
      ∃ now ∈ readings t, ∃ last ∈ stamps t, IdleAt limits now last) : Enforced limits t where
  justified := fun _ => hreason
  prompt := fun _ _ _ => hclosed
  planned := fun hopen => absurd hclosed hopen

theorem closeSession_ends {x : Except Empty Bool} :
    closeSession.Ends t x ↔ t = [⟨.closeConns, ()⟩] ∧ x = .ok false := by
  constructor
  · intro h
    obtain ⟨r, t', rfl, hrest⟩ := Prog.ends_request.mp h
    obtain ⟨rfl, rfl⟩ := Prog.ends_pure.mp hrest
    exact ⟨rfl, rfl⟩
  · rintro ⟨rfl, rfl⟩
    exact Prog.ends_request.mpr ⟨(), [], rfl, Prog.ends_pure.mpr ⟨rfl, rfl⟩⟩

/-- A round that sleeps goes on, after half a second at least. -/
theorem sleepFor_ends {x : Except Empty Bool} :
    (sleepFor sleep).Ends t x ↔
      t = [⟨.wait (maxDuration halfSecond sleep), ()⟩] ∧ x = .ok true := by
  constructor
  · intro h
    obtain ⟨r, t', rfl, hrest⟩ := Prog.ends_request.mp h
    obtain ⟨rfl, rfl⟩ := Prog.ends_pure.mp hrest
    exact ⟨rfl, rfl⟩
  · rintro ⟨rfl, rfl⟩
    exact Prog.ends_request.mpr ⟨(), [], rfl, Prog.ends_pure.mpr ⟨rfl, rfl⟩⟩

/-- How a stage ends after the requests `u`: the whole round keeps the limits, and it is the last
one when it has closed. -/
def Concluded (limits : SessionLimits) (u t : Transcript limitRequests) (b : Bool) : Prop :=
  Enforced limits (u ++ t) ∧ (b = false ↔ Closed (u ++ t))

/-- A stage may close when the round has read the clock at the expiry, or after idling. -/
theorem Concluded.close
    (hreason : (∃ now ∈ readings u, limits.expired now = true) ∨
      ∃ now ∈ readings u, ∃ last ∈ stamps u, IdleAt limits now last)
    (h : closeSession.Ends t (.ok b)) : Concluded limits u t b := by
  obtain ⟨rfl, hb⟩ := closeSession_ends.mp h
  have hclosed : Closed (u ++ [⟨.closeConns, ()⟩]) :=
    List.mem_append_right _ (List.mem_singleton_self _)
  rw [← readings_closeConns, ← stamps_closeConns] at hreason
  exact ⟨Enforced.of_closed hclosed hreason, iff_of_true (Except.ok.inj hb) hclosed⟩

/-- The activity that was just read is too old. -/
theorem Concluded.idle (hwatch : Watching limits now u) {last : Int}
    (hidle : IdleAt limits now last) (h : closeSession.Ends t (.ok b)) :
    Concluded limits (u ++ [⟨.lastActivity, last⟩]) t b := by
  have hnow : now ∈ readings u := List.mem_of_mem_head? hwatch.first
  refine Concluded.close (Or.inr ⟨now, ?_, last, ?_, hidle⟩) h
  · rwa [readings_lastActivity]
  · rw [stamps_lastActivity]
    exact List.mem_append_right _ (List.mem_singleton_self _)

/-- A stage sleeps for the soonest limit. -/
theorem Concluded.rest (hwatch : Watching limits now u) (hsleep : sleep = soonest limits u)
    (h : (sleepFor sleep).Ends t (.ok b)) : Concluded limits u t b := by
  obtain ⟨rfl, hb⟩ := sleepFor_ends.mp h
  obtain rfl : b = true := Except.ok.inj hb
  have hopen : ¬ Closed (u ++ [⟨.wait (maxDuration halfSecond sleep), ()⟩]) :=
    not_closed_snoc hwatch.unclosed nofun
  refine ⟨⟨fun hclosed => absurd hclosed hopen, fun first hfirst hlimit => ?_, fun _ => ?_⟩,
    iff_of_false nofun hopen⟩
  · -- the first reading is `now`, and it was past no limit
    rw [readings_wait, hwatch.first, Option.some.injEq] at hfirst
    subst hfirst
    rw [stamps_wait] at hlimit
    rcases hlimit with hexp | ⟨last, hlast, hidle⟩
    · exact absurd (hwatch.unexpired.symm.trans hexp) Bool.false_ne_true
    · exact absurd hidle (hwatch.active last hlast)
  · refine ⟨maxDuration halfSecond sleep, ?_, Int.le_max_left _ _, ?_⟩
    -- this is the only wait of the round
    · rw [waits_wait, hwatch.unplanned, List.nil_append]
    -- waiting reads neither the clock nor the stamp, so the limits are where they were
    have hsame : soonest limits (u ++ [⟨.wait (maxDuration halfSecond sleep), ()⟩]) = sleep := by
      rw [soonest, toExpiry, toIdle, readings_wait, stamps_wait, ← toExpiry, ← toIdle, ← soonest,
        hsleep]
    exact Int.le_of_eq (congrArg (maxDuration halfSecond) hsame.symm)

/-! ## The stages

One lemma for each function that the round calls, from the last one to the first. -/

/-- The time to sleep before the activity is looked at again. -/
def untilExpiry (limits : SessionLimits) (t : Transcript limitRequests) : Int :=
  (toExpiry limits t).toList.foldl min fiveSeconds

/-- The sleep is cut down to the time that is left of the idle timeout. -/
theorem planIdle_ends (hwatch : Watching limits now u) (hsleep : sleep = untilExpiry limits u)
    (h : (planIdle limits now sleep).Ends t (.ok b)) : Concluded limits u t b := by
  unfold planIdle at h
  split at h
  case isTrue htimeout =>
    obtain ⟨last, t', rfl, hrest⟩ := Prog.ends_request.mp h
    rw [Concluded, List.append_cons]
    by_cases hidle : limits.idleTimeout - (now - last) ≤ 0
    · rw [if_pos hidle] at hrest
      have hlong : limits.idleTimeout ≤ now - last := by omega
      exact Concluded.idle hwatch ⟨htimeout, hlong⟩ hrest
    · -- what is left of the idle time is the last of the times that `soonest` looks at
      rw [if_neg hidle] at hrest
      have hactive : ¬ IdleAt limits now last := by
        rintro ⟨-, hlong⟩
        omega
      refine Concluded.rest (hwatch.stamp hactive) ?_ hrest
      have hleft : toIdle limits (u ++ [⟨.lastActivity, last⟩]) =
          some (limits.idleTimeout - (now - last)) := by
        rw [toIdle, if_pos htimeout, readings_lastActivity, stamps_lastActivity, hwatch.first,
          List.getLast?_append]
        rfl
      rw [soonest, hleft, toExpiry, readings_lastActivity, ← toExpiry, List.foldl_append,
        ← untilExpiry, ← hsleep]
      rfl
  case isFalse htimeout =>
    refine Concluded.rest hwatch ?_ h
    rw [hsleep, soonest, toIdle, if_neg htimeout, untilExpiry, Option.toList_none, List.append_nil]

/-- The sleep is at most five seconds, and at most the time that is left before the session expires.
-/
theorem planSleep_ends (hwatch : Watching limits now u)
    (h : (planSleep limits now).Ends t (.ok b)) : Concluded limits u t b := by
  unfold planSleep at h
  split at h
  case h_1 hexpiry =>
    refine planIdle_ends hwatch ?_ h
    rw [untilExpiry, toExpiry, hexpiry]
    rfl
  case h_2 expiresAt hexpiry =>
    obtain ⟨later, t', rfl, hrest⟩ := Prog.ends_request.mp h
    rw [Concluded, List.append_cons]
    -- the second reading of the clock may be past the expiry although the first was not
    by_cases hpast : expiresAt - later ≤ 0
    · rw [if_pos hpast] at hrest
      refine Concluded.close (Or.inl ⟨later, ?_, ?_⟩) hrest
      · rw [readings_now]
        exact List.mem_append_right _ (List.mem_singleton_self _)
      · rw [SessionLimits.expired, hexpiry, Option.any_some, decide_eq_true_eq]
        omega
    · rw [if_neg hpast] at hrest
      refine planIdle_ends (hwatch.clock later) ?_ hrest
      rw [untilExpiry, toExpiry, hexpiry, readings_now, List.getLast?_append]
      rfl

/-- The session is closed for being idle, or the sleep is planned. -/
theorem checkIdle_ends (hwatch : Watching limits now u)
    (h : (checkIdle limits now).Ends t (.ok b)) : Concluded limits u t b := by
  unfold checkIdle at h
  split at h
  case isTrue htimeout =>
    obtain ⟨last, t', rfl, hrest⟩ := Prog.ends_request.mp h
    rw [Concluded, List.append_cons]
    by_cases hidle : now - last ≥ limits.idleTimeout
    · rw [if_pos hidle] at hrest
      exact Concluded.idle hwatch ⟨htimeout, hidle⟩ hrest
    · rw [if_neg hidle] at hrest
      exact planSleep_ends (hwatch.stamp fun hat => hidle hat.2) hrest
  case isFalse => exact planSleep_ends hwatch h

/-- Every round keeps the limits, and is the last one just when it has closed. -/
theorem iteration_ends (h : (iteration limits).Ends t (.ok b)) :
    Enforced limits t ∧ (b = false ↔ Closed t) := by
  obtain ⟨now, t', rfl, hrest⟩ := Prog.ends_request.mp h
  have hround : Concluded limits [⟨.now, now⟩] t' b := by
    by_cases hexpired : limits.expired now = true
    · rw [if_pos hexpired] at hrest
      exact Concluded.close (Or.inl ⟨now, List.mem_singleton_self _, hexpired⟩) hrest
    · rw [if_neg hexpired] at hrest
      exact checkIdle_ends (Watching.start (Bool.eq_false_iff.mpr hexpired)) hrest
  exact hround

/-- A round that goes on to look at the activity reads it. -/
theorem checkIdle_looks {x : Except Empty Bool} (htimeout : 0 < limits.idleTimeout)
    (h : (checkIdle limits now).Ends t x) : ∃ last t', t = ⟨.lastActivity, last⟩ :: t' := by
  unfold checkIdle at h
  rw [if_pos htimeout] at h
  obtain ⟨last, t', rfl, -⟩ := Prog.ends_request.mp h
  exact ⟨last, t', rfl⟩

/-- Every round looks at the clock and the activity before anything else. -/
theorem iteration_looks {x : Except Empty Bool} (h : (iteration limits).Ends t x) :
    Looks limits t := by
  obtain ⟨now, t', rfl, hrest⟩ := Prog.ends_request.mp h
  refine ⟨now, t', rfl, fun hunexpired htimeout => ?_⟩
  have hgoes : ¬ limits.expired now = true := by simp [hunexpired]
  rw [if_neg hgoes] at hrest
  exact checkIdle_looks htimeout hrest

/-! ## All rounds

The loop is its rounds one after the other, all but the last of which have slept. Induction on the
number of rounds. -/

/-- The rounds of a run: each is a round of the loop, all but the last go on, and the last one has
closed when there are fewer than were asked for. -/
structure Rounds (limits : SessionLimits) (rounds : Nat) (its : List (Transcript limitRequests)) :
    Prop where
  each : ∀ it ∈ its, ∃ b, (iteration limits).Ends it (.ok b)
  goes_on : ∀ it ∈ its.dropLast, ¬ Closed it
  count : its.length = rounds ∨ (its.length < rounds ∧ ∃ it, its.getLast? = some it ∧ Closed it)

theorem Rounds.last (hit : (iteration limits).Ends t (.ok false)) (rounds : Nat) :
    Rounds limits (rounds + 1) [t] where
  each := by
    intro it hmem
    rw [List.mem_singleton.mp hmem]
    exact ⟨false, hit⟩
  goes_on := by simp
  count := by
    have hclosed : Closed t := (iteration_ends hit).2.mp rfl
    cases rounds with
    | zero => exact Or.inl rfl
    | succ n => exact Or.inr ⟨by simp, t, rfl, hclosed⟩

/-- A round that sleeps is followed by others. -/
theorem Rounds.cons {rounds : Nat} {its : List (Transcript limitRequests)}
    (hit : (iteration limits).Ends t (.ok true)) (h : Rounds limits rounds its) :
    Rounds limits (rounds + 1) (t :: its) where
  each := List.forall_mem_cons.mpr ⟨⟨true, hit⟩, h.each⟩
  goes_on := by
    intro it hmem
    cases its with
    | nil => simp at hmem
    | cons u its =>
      rw [List.dropLast_cons_cons, List.mem_cons] at hmem
      -- the first of them has gone on
      rcases hmem with rfl | hmem
      · exact fun hclosed => nomatch (iteration_ends hit).2.mpr hclosed
      · exact h.goes_on it hmem
  count := by
    rcases h.count with hlen | ⟨hlen, it, hlast, hclosed⟩
    · exact Or.inl (by rw [List.length_cons, hlen])
    · refine Or.inr ⟨by simpa using hlen, it, ?_, hclosed⟩
      rw [List.getLast?_cons, hlast, Option.getD_some]

/-- Induction on the rounds that the loop may still make. -/
theorem enforceSessionLimits_rounds {rounds : Nat}
    (h : (enforceSessionLimits limits rounds).Ends t (.ok ())) :
    ∃ its, t = its.flatten ∧ Rounds limits rounds its := by
  induction rounds generalizing t with
  | zero =>
    obtain ⟨rfl, -⟩ := Prog.ends_pure.mp h
    exact ⟨[], rfl, by simp, by simp, Or.inl rfl⟩
  | succ rounds ih =>
    rcases Prog.ends_bind.mp h with ⟨e, -⟩ | ⟨t₁, t₂, b, rfl, hit, hrest⟩
    · exact e.elim
    · cases b with
      | false =>
        obtain ⟨rfl, -⟩ := Prog.ends_pure.mp hrest
        exact ⟨[t₁], by simp, Rounds.last hit rounds⟩
      | true =>
        obtain ⟨its, rfl, hits⟩ := ih hrest
        exact ⟨t₁ :: its, rfl, hits.cons hit⟩

/-- **Session limits are kept.** Whatever the clock and the activity stamps say, every run of the
loop consists of rounds that look at the clock first, and then at the activity. A round closes the
session only for a limit it has read to be reached, does so always when its first reading is past
one, and waits else, but never past the next limit. -/
theorem session_limits_enforced {rounds : Nat}
    (h : (enforceSessionLimits limits rounds).Ends t (.ok ())) :
    ∃ its, t = its.flatten ∧ Rounds limits rounds its ∧
      ∀ it ∈ its, Looks limits it ∧ Enforced limits it := by
  obtain ⟨its, rfl, hits⟩ := enforceSessionLimits_rounds h
  refine ⟨its, rfl, hits, fun it hmem => ?_⟩
  obtain ⟨b, hb⟩ := hits.each it hmem
  exact ⟨iteration_looks hb, (iteration_ends hb).1⟩

/-- Ten seconds before the expiry and idle for half of the ten it may be: the round sleeps for five
seconds, and the next one finds the session idle. -/
theorem session_limits_enforced_idle :
    ∃ its : List (Transcript limitRequests),
      [⟨.now, 0⟩, ⟨.lastActivity, -5000000000⟩, ⟨.now, 1⟩, ⟨.lastActivity, -5000000000⟩,
        ⟨.wait fiveSeconds, ()⟩, ⟨.now, 5000000000⟩, ⟨.lastActivity, -5000000000⟩,
        ⟨.closeConns, ()⟩] = its.flatten ∧
      Rounds ⟨some 10000000000, 10000000000⟩ 3 its ∧
      ∀ it ∈ its, Looks ⟨some 10000000000, 10000000000⟩ it ∧
        Enforced ⟨some 10000000000, 10000000000⟩ it :=
  session_limits_enforced <| .await <| .await <| .await <| .await <| .await <| .await <| .await <|
    .await <| .pure ()

end SshGateway

end Microsandbox
