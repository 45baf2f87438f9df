import MicrosandboxCloud.Previews

/-!
# Microsandbox — a signed token and the incarnation it was issued for

A token record names a sandbox id, which outlives the runtime row the token was issued for.

* **`IssuedFor`** — a `getSignedPreviewUrl` call that looked up this runtime stored the token.
* **`IncarnationsApart`** — no row comes under a sandbox id while a token of another incarnation is
  around, and no other runtime answers to the id.
* **`token_opens_its_incarnation`** — then a token opens only the runtime it was issued for.
-/

namespace Microsandbox

open Process Data RuntimeControl Registry

section Incarnations

variable {ι : Type} [DecidableEq ι]

/-! ## What calls have read

A token record names a sandbox id. Which runtime a token was issued for is not in the record, and
has to be read off the history: the call that stored it has looked a runtime up before. -/

/-- A call that looked up the runtime with this id has stored the token. -/
def IssuedFor (calls : ι → PreviewCall) (tr : History ι) (token : String) (port : Int)
    (id : RuntimeId) : Prop :=
  ∃ i row record, (∃ value p, calls i = .service (.getSignedPreviewUrl value p)) ∧
    LookedUp tr i row ∧ row.id = id ∧
    ⟨.insertSignedToken record, .ok ()⟩ ∈ Pool.transcript backend i tr ∧
    record.token = token ∧ record.port = port

/-- A call has read the record and is about to look its runtime up. -/
def Resolving (calls : ι → PreviewCall) (tr : History ι) (record : SignedPreviewTokenEntity) :
    Prop :=
  ∃ i token port, calls i = .validateProxyAccessBySignedToken token port ∧
    ⟨.findSignedToken token port, some record⟩ ∈ Pool.transcript backend i tr ∧
    ∀ query found, ⟨.findRuntime query, found⟩ ∉ Pool.transcript backend i tr

/-- The record is stored, or a call goes on with it. -/
def InUse (calls : ι → PreviewCall) (tr : History ι) (s : World)
    (record : SignedPreviewTokenEntity) : Prop :=
  record ∈ s.signedTokens ∨ Resolving calls tr record

/-- The random text an event drew. -/
def drawn (ev : Event requests World Answer) : Option String :=
  match ev.op with
  | .randomBytes => some ev.answer.random
  | _ => none

/-- The random texts drawn are different. -/
def DistinctDraws (tr : History ι) : Prop := (tr.filterMap fun x => drawn x.2).Nodup

/-! ## The condition

Tokens and incarnations cross when a token is stored by a call whose runtime is gone by then, or
when a runtime comes, or comes back, under a sandbox id for which a token is in use. A lookup by a
token's id could also find another runtime by its name, which is excluded too. -/

/-- Tokens and incarnations do not cross in this step. -/
structure IncarnationsApart (calls : ι → PreviewCall) (tr : History ι) (i : ι)
    (ev : Event requests World Answer) : Prop where
  /-- a token is stored while its sandbox still has the runtime it was looked up for -/
  issued : ∀ record, ev.op = .insertSignedToken record →
    ∀ row ∈ ev.before.runtimes, row.sandboxId = record.sandboxId →
      ∃ found, LookedUp tr i found ∧ found.id = row.id
  /-- a new row comes under a sandbox id that no token in use has -/
  inserted : ∀ draft, ev.op = .insertRuntime draft →
    ∀ record, InUse calls tr ev.before record → record.sandboxId ≠ draft.sandboxId
  /-- and so does a deleted row that a late save brings back -/
  broughtBack : ∀ saved, ev.op = .saveRuntime saved →
    (∀ row ∈ ev.before.runtimes, row.id = saved.id → row.sandboxId ≠ saved.sandboxId) →
    ∀ record, InUse calls tr ev.before record → record.sandboxId ≠ saved.sandboxId
  /-- only runtimes with the token's sandbox id answer when it is looked up -/
  opened : ∀ token port query record, calls i = .validateProxyAccessBySignedToken token port →
    ev.op = .findRuntime query →
    ⟨.findSignedToken token port, some record⟩ ∈ Pool.transcript backend i tr →
    ∀ row ∈ ev.before.runtimes, query.selects row = true → row.sandboxId = record.sandboxId

/-! ## The invariant

While nothing crosses, a token in use and the runtimes stored under its sandbox id belong together.
What a call has opened with it is then the runtime it was issued for. -/

/-- Only the runtime it was issued for is stored under the sandbox id of a token in use. -/
def HomeOnly (calls : ι → PreviewCall) (tr : History ι) (s : World) : Prop :=
  ∀ record, InUse calls tr s record → ∃ id, IssuedFor calls tr record.token record.port id ∧
    ∀ row ∈ s.runtimes, row.sandboxId = record.sandboxId → row.id = id

/-- What a call has looked up for a token is the runtime the token was issued for. -/
def OpensHome (calls : ι → PreviewCall) (tr : History ι) : Prop :=
  ∀ i token port row, calls i = .validateProxyAccessBySignedToken token port →
    LookedUp tr i row → IssuedFor calls tr token port row.id

section Step

variable {calls : ι → PreviewCall} {tr : History ι} {i : ι} {op : Request} {a : Answer}
  {s s' : World} {r : op.Reply}

theorem IssuedFor.step {token : String} {port : Int} {id : RuntimeId}
    (hact : act op a s = some (r, s')) (h : IssuedFor calls tr token port id) :
    IssuedFor calls (tr ++ [(i, ⟨s, op, a⟩)]) token port id := by
  obtain ⟨j, row, record, hcall, hrow, hid, hstored, htoken, hport⟩ := h
  exact ⟨j, row, record, hcall, hrow.step hact, hid,
    (Pool.mem_transcript_step hact).mpr (Or.inl hstored), htoken, hport⟩

/-- A record in use was in use before, or has just been stored. -/
theorem InUse.of_step {record : SignedPreviewTokenEntity} (hact : act op a s = some (r, s'))
    (h : InUse calls (tr ++ [(i, ⟨s, op, a⟩)]) s' record) :
    InUse calls tr s record ∨
      (⟨op, r⟩ : Σ op : requests.Op, requests.Reply op) = ⟨.insertSignedToken record, .ok ()⟩ := by
  rcases h with hstored | ⟨j, token, port, hcall, hfound, hnone⟩
  · exact (mem_signedTokens hact hstored).imp_left Or.inl
  · rcases (Pool.mem_transcript_step hact).mp hfound with hfound | ⟨rfl, hlast⟩
    · refine Or.inl (Or.inr ⟨j, token, port, hcall, hfound, fun query found hmem => ?_⟩)
      exact hnone query found ((Pool.mem_transcript_step hact).mpr (Or.inl hmem))
    · -- the record has just been read from the table
      cases hlast
      simp only [act, Option.some.injEq, Prod.mk.injEq] at hact
      exact Or.inl (Or.inl (pickRow_some hact.1).1)

/-- A record that was read has the token and port it was asked for. -/
theorem record_of_found {j : ι} {token : String} {port : Int} {record : SignedPreviewTokenEntity}
    (h : ⟨.findSignedToken token port, some record⟩ ∈ Pool.transcript backend j tr) :
    record.token = token ∧ record.port = port := by
  obtain ⟨ev, -, hanswered⟩ := Pool.mem_transcript.mp h
  obtain ⟨w, b, w', -, hact⟩ := Pool.answered_eq_some.mp hanswered
  simp only [backend, act, Option.some.injEq, Prod.mk.injEq] at hact
  simpa [SignedTokenQuery.selects] using (pickRow_some hact.1).2

/-- One case for each request that stores a token or a row. -/
theorem HomeOnly.step (h : HomeOnly calls tr s)
    (hruled : ∀ i, Prog.Ruled (calls i).rule (Pool.transcript backend i tr))
    (hsafe : IncarnationsApart calls tr i ⟨s, op, a⟩) (hact : act op a s = some (r, s'))
    (hrule : (calls i).rule (Pool.transcript backend i tr) op) :
    HomeOnly calls (tr ++ [(i, ⟨s, op, a⟩)]) s' := by
  intro record huse
  rcases huse.of_step hact with huse | hnew
  · obtain ⟨id, hissued, hrows⟩ := h record huse
    refine ⟨id, hissued.step hact, fun row hrow hid => ?_⟩
    -- a row with the id of the sandbox is stored already, or this step inserts it, or it saves it
    rcases mem_runtimes hact hrow with hrow | ⟨draft, hop, hdraft⟩ | hop
    · exact hrows row hrow hid
    · subst hdraft
      exact absurd hid.symm (hsafe.inserted draft hop record huse)
    -- a save that overwrites a row of the same incarnation is harmless
    · by_cases hstored : ∃ row₀ ∈ s.runtimes, row₀.id = row.id ∧ row₀.sandboxId = row.sandboxId
      · obtain ⟨row₀, hrow₀, hid₀, hsandbox⟩ := hstored
        rw [← hid₀]
        exact hrows row₀ hrow₀ (hsandbox.trans hid)
      · refine absurd hid.symm (hsafe.broughtBack row hop (fun row₀ hrow₀ hid₀ hsandbox => ?_)
          record huse)
        exact hstored ⟨row₀, hrow₀, hid₀, hsandbox⟩
  · obtain rfl : op = .insertSignedToken record := congrArg Sigma.fst hnew
    generalize hcall : calls i = call at hrule
    cases call with
    | resolveSignedPreviewToken | validateProxyAccessBySignedToken => exact hrule.elim
    | service call =>
      cases call with
      | getSignedPreviewUrl value p =>
        -- the token that this step stores was issued for the row that its call has read
        obtain ⟨query, found, hhead, hsandbox, -, -⟩ := hrule
        have hfound := List.mem_of_head? hhead
        have hlooked : LookedUp tr i found := ⟨query, hfound⟩
        refine ⟨found.id, ⟨i, found, record, ⟨value, p, hcall⟩, hlooked.step hact, rfl,
          (Pool.mem_transcript_step hact).mpr (Or.inr ⟨rfl, hnew.symm⟩), rfl, rfl⟩, ?_⟩
        intro row hrow hid
        rcases mem_runtimes hact hrow with hrow | ⟨draft, hop, -⟩ | hop
        · obtain ⟨found', hlooked', hid'⟩ := hsafe.issued record rfl row hrow hid
          have hissue : Prog.Ruled IssueRule (Pool.transcript backend i tr) := by
            have hi := hruled i
            rw [hcall] at hi
            exact hi
          obtain rfl := hlooked.unique hissue (fun t query hfirst => hfirst) hlooked'
          exact hid'.symm
        · cases hop
        · cases hop
      | _ => exact hrule.elim

/-- Only the lookup of a runtime by a call that resolves a token has something to show. -/
theorem OpensHome.step (h : OpensHome calls tr) (hhome : HomeOnly calls tr s)
    (hsafe : IncarnationsApart calls tr i ⟨s, op, a⟩) (hact : act op a s = some (r, s'))
    (hrule : (calls i).rule (Pool.transcript backend i tr) op) :
    OpensHome calls (tr ++ [(i, ⟨s, op, a⟩)]) := by
  rintro j token port row hcall ⟨query, hfound⟩
  rcases (Pool.mem_transcript_step hact).mp hfound with hfound | ⟨rfl, hlast⟩
  · exact (h j token port row hcall ⟨query, hfound⟩).step hact
  · cases hlast
    rw [hcall] at hrule
    obtain ⟨⟨record, hrecord⟩, hfirst⟩ := hrule
    obtain ⟨htoken, hport⟩ := record_of_found hrecord
    obtain ⟨id, hissued, hrows⟩ := hhome record (Or.inr ⟨i, token, port, hcall, hrecord, hfirst⟩)
    rw [htoken, hport] at hissued
    -- the row that was read is stored, and has the sandbox id that the token was issued for
    have hact' := hact
    simp only [act, Option.some.injEq, Prod.mk.injEq] at hact'
    obtain ⟨hrow, hselects⟩ := pickRow_some hact'.1
    rw [hrows row hrow (hsafe.opened token port query record hcall rfl hrecord row hrow hselects)]
    exact hissued.step hact

end Step

/-! ## Every run

Both invariants hold at the start, when no call has done anything, and every step keeps them. -/

/-- Tokens of one text were issued for one runtime: a call draws its token once, and no other call
draws the same. -/
theorem IssuedFor.unique {calls : ι → PreviewCall} {tr : History ι} {token : String}
    {port port' : Int} {id id' : RuntimeId} (hdraws : DistinctDraws tr)
    (hruled : ∀ i, Prog.Ruled (calls i).rule (Pool.transcript backend i tr))
    (h : IssuedFor calls tr token port id) (h' : IssuedFor calls tr token port' id') :
    id = id' := by
  obtain ⟨i, row, record, ⟨value, p, hcall⟩, hrow, rfl, hstored, rfl, -⟩ := h
  obtain ⟨j, row', record', ⟨value', p', hcall'⟩, hrow', rfl, hstored', htoken, -⟩ := h'
  have hissue : ∀ {i value p}, calls i = .service (.getSignedPreviewUrl value p) →
      Prog.Ruled IssueRule (Pool.transcript backend i tr) := by
    intro i value p hcall
    have hi := hruled i
    rw [hcall] at hi
    exact hi
  -- each has drawn its token
  have hdrawn : ∀ {i value p record}, calls i = .service (.getSignedPreviewUrl value p) →
      ⟨.insertSignedToken record, .ok ()⟩ ∈ Pool.transcript backend i tr →
      ∃ ev, (i, ev) ∈ tr ∧ drawn ev = some record.token := by
    intro i value p record hcall hmem
    obtain ⟨pre, rest, htr, hrule⟩ := (hissue hcall).of_mem hmem
    obtain ⟨-, -, -, -, -, hrandom⟩ := hrule
    have hin : (⟨.randomBytes, record.token⟩ : Σ op : requests.Op, requests.Reply op) ∈
        Pool.transcript backend i tr := by
      rw [htr]
      exact List.mem_append_left _ hrandom
    obtain ⟨ev, hev, hanswered⟩ := Pool.mem_transcript.mp hin
    obtain ⟨w, b, w', rfl, hact⟩ := Pool.answered_eq_some.mp hanswered
    simp only [backend, act, Option.some.injEq, Prod.mk.injEq] at hact
    exact ⟨_, hev, congrArg some hact.1⟩
  obtain ⟨ev, hev, hrandom⟩ := hdrawn hcall hstored
  obtain ⟨ev', hev', hrandom'⟩ := hdrawn hcall' hstored'
  have hsame : i = j := by
    by_contra hne
    have hpairwise := List.pairwise_filterMap.mp hdraws
    have hsymm : Std.Symm fun x y : ι × Event requests World Answer =>
        ∀ b, drawn x.2 = some b → ∀ b', drawn y.2 = some b' → b ≠ b' :=
      ⟨fun _ _ h b hb b' hb' => (h b' hb' b hb).symm⟩
    have hdiffer := hpairwise.forall hev hev' fun heq => hne (congrArg Prod.fst heq)
    exact hdiffer _ hrandom _ hrandom' htoken.symm
  subst hsame
  obtain rfl := hrow'.unique (hissue hcall) (fun t query hfirst => hfirst) hrow
  rfl

/-- **A token opens its incarnation.** However the calls interleave, while tokens and incarnations
do not cross, a runtime that a signed token opened is the one the token was issued for. -/
theorem token_opens_its_incarnation (cfg : AppConfig) (calls : ι → PreviewCall)
    (volumes : Table VolumeEntity volumeKeys) {tr : History ι}
    {c : Pool requests ServiceError (Option RuntimeEntity) World ι}
    (hrun : Previewing cfg calls (IncarnationsApart calls) volumes tr c)
    (hdraws : DistinctDraws tr) {i : ι} {token : String} {port : Int} {row : RuntimeEntity}
    (hcall : calls i = .validateProxyAccessBySignedToken token port)
    (hopened : c.thread i = .pure (some row)) :
    ∀ id, IssuedFor calls tr token port id ↔ id = row.id := by
  have hinv := Pool.Run.history_invariant
    (J := fun tr s => HomeOnly calls tr s ∧ OpensHome calls tr)
    (fun i => (calls i).follows cfg) ?_ ?_ hrun
  · obtain ⟨⟨-, hopens⟩, hruled, hfollows⟩ := hinv
    -- what the call has returned it has looked up
    have hlooked : LookedUp tr i row :=
      (hfollows i).outcome (Prog.outcome_eq_ok.mpr hopened) row rfl
    have hissued := hopens i token port row hcall hlooked
    exact fun id => ⟨fun h => h.unique hdraws hruled hissued, fun h => h ▸ hissued⟩
  · refine ⟨?_, fun i token port row _ hlooked => ?_⟩
    · rintro record (hstored | ⟨i, token, port, -, hfound, -⟩)
      · exact absurd hstored (Table.not_mem_empty record)
      · exact absurd hfound List.not_mem_nil
    · obtain ⟨query, hquery⟩ := hlooked
      exact absurd hquery List.not_mem_nil
  · rintro tr s i op a r s' ⟨hhome, hopens⟩ hruled hsafe hact hrule
    exact ⟨hhome.step hruled hsafe hact hrule, hopens.step hhome hsafe hact hrule⟩

end Incarnations

/-! ## A token for a later incarnation

Two runs of the same kind of calls. In one the second incarnation is made while a link for the first
is on its way, and the link opens it. In the other the links and the incarnations take turns. -/

/-- A call looked up the runtime with this id. -/
def looksUp (t : Transcript requests) (id : RuntimeId) : Bool :=
  t.any fun
    | ⟨.findRuntime _, some row⟩ => row.id == id
    | _ => false

/-- A call stored the token for the port. -/
def stores (t : Transcript requests) (token : String) (port : Int) : Bool :=
  t.any fun
    | ⟨.insertSignedToken record, .ok ()⟩ => record.token == token && record.port == port
    | _ => false

/-- What evaluation finds in a history was looked up. -/
theorem lookedUp_of_looksUp {ι : Type} [DecidableEq ι] {tr : History ι} {i : ι} {id : RuntimeId}
    (h : looksUp (Pool.transcript backend i tr) id = true) :
    ∃ row, LookedUp tr i row ∧ row.id = id := by
  obtain ⟨e, he, hrow⟩ := List.any_eq_true.mp h
  split at hrow
  · rename_i query row
    exact ⟨row, ⟨query, he⟩, beq_iff_eq.mp hrow⟩
  · cases hrow

/-- And a token that it finds stored was issued. -/
theorem issuedFor_of_stores {ι : Type} [DecidableEq ι] {calls : ι → PreviewCall} {tr : History ι}
    {i : ι} {value token : String} {p port : Int} {id : RuntimeId}
    (hcall : calls i = .service (.getSignedPreviewUrl value p))
    (hlooks : looksUp (Pool.transcript backend i tr) id = true)
    (hstores : stores (Pool.transcript backend i tr) token port = true) :
    IssuedFor calls tr token port id := by
  obtain ⟨row, hlooked, hid⟩ := lookedUp_of_looksUp hlooks
  obtain ⟨e, he, hrecord⟩ := List.any_eq_true.mp hstores
  split at hrecord
  · rename_i record
    rw [Bool.and_eq_true, beq_iff_eq, beq_iff_eq] at hrecord
    exact ⟨i, row, record, ⟨value, p, hcall⟩, hlooked, hid, he, hrecord.1, hrecord.2⟩
  · cases hrecord

/-- The sandbox `b` is deleted and created again while a preview URL for it is made. -/
def raceForLink : Nat → PreviewCall
  | 0 => .service (.sandbox (.create { name := some "b" }))
  | 1 => .service (.getSignedPreviewUrl "b" 8080)
  | 2 => .service (.sandbox (.delete "b"))
  | 3 => .service (.sandbox (.create { name := some "b" }))
  | _ => .validateProxyAccessBySignedToken "link" 8080

/-- The runtime that call 4 has opened. -/
def openedByFour (c : Pool requests ServiceError (Option RuntimeEntity) World Nat) :
    Option RuntimeEntity :=
  match c.thread 4 with
  | .pure opened => opened
  | _ => none

/-- A runtime that it finds opened was returned. -/
theorem thread_of_openedByFour {c : Pool requests ServiceError (Option RuntimeEntity) World Nat}
    {row : RuntimeEntity} (h : openedByFour c = some row) : c.thread 4 = .pure (some row) := by
  unfold openedByFour at h
  split at h
  · rename_i hthread
    rw [hthread, h]
  · cases h

/-- Without the condition the claim fails: the link for the first incarnation opens the second. -/
theorem token_opens_later_incarnation :
    ¬ ∀ (cfg : AppConfig) (volumes : Table VolumeEntity volumeKeys) (calls : Nat → PreviewCall)
      (tr : History Nat) (c : Pool requests ServiceError (Option RuntimeEntity) World Nat),
      Previewing cfg calls anyStep volumes tr c → DistinctDraws tr →
      ∀ i token port row, calls i = .validateProxyAccessBySignedToken token port →
        c.thread i = .pure (some row) → ∀ id, IssuedFor calls tr token port id → id = row.id := by
  intro hclaim
  obtain ⟨tr, c, hrun, hfound⟩ := Pool.exists_run_of_schedule (h := backend)
    (List.replicate 21 (0, { random := "first" }) ++ steps 1 2 ++ steps 2 7 ++
      List.replicate 21 (3, { random := "second" }) ++ List.replicate 4 (1, { random := "link" }) ++
      steps 4 3)
    (fun tr (c : Pool requests ServiceError (Option RuntimeEntity) World Nat) =>
      decide (tr.filterMap fun x => drawn x.2).Nodup &&
        (openedByFour c).any (fun row => row.id == 1) &&
        looksUp (Pool.transcript backend 1 tr) 0 &&
        stores (Pool.transcript backend 1 tr) "link" 8080)
    (show (Pool.schedule backend _ (previewing (smallConfig 31005) raceForLink
      (World.fresh .empty))).any _ = true by decide +kernel)
  -- the link was asked for when the first incarnation stood, and is stored when the second does
  simp only [Bool.and_eq_true, decide_eq_true_eq, Option.any_eq_true, beq_iff_eq] at hfound
  obtain ⟨⟨⟨hdraws, row, hopened, hid⟩, hlooks⟩, hstores⟩ := hfound
  have hthread := thread_of_openedByFour hopened
  have hissued : IssuedFor raceForLink tr "link" 8080 0 := issuedFor_of_stores rfl hlooks hstores
  have hsame := hclaim (smallConfig 31005) .empty raceForLink tr c hrun hdraws 4 "link" 8080 row rfl
    hthread 0 hissued
  rw [hid] at hsame
  cases hsame

/-- No token is stored, and none was read. -/
def noTokenInUse (pre : History Nat) (s : World) : Bool :=
  s.signedTokens.rows.isEmpty && pre.all fun x => match x.2.op with
    | .findSignedToken _ _ => false
    | _ => true

/-- What is neither stored nor read is not in use. -/
theorem not_inUse_of_noTokenInUse {calls : Nat → PreviewCall} {pre : History Nat} {s : World}
    (h : noTokenInUse pre s = true) (record : SignedPreviewTokenEntity) :
    ¬ InUse calls pre s record := by
  rw [noTokenInUse, Bool.and_eq_true] at h
  rintro (hstored | ⟨j, token, port, -, hfound, -⟩)
  · rw [Table.mem_def, List.isEmpty_iff.mp h.1] at hstored
    exact absurd hstored List.not_mem_nil
  · obtain ⟨ev, hev, hanswered⟩ := Pool.mem_transcript.mp hfound
    obtain ⟨w, b, w', rfl, -⟩ := Pool.answered_eq_some.mp hanswered
    have hread := List.all_eq_true.mp h.2 _ hev
    simp at hread

/-- A check of `IncarnationsApart`, as far as it can be seen from what was looked up: a row is
inserted while no token is in use, and so is one that a save brings back. -/
def keepsApart (pre : History Nat) (i : Nat) (ev : Event requests World Answer) : Bool :=
  match ev.op with
  | .insertSignedToken record => ev.before.runtimes.rows.all fun row =>
      row.sandboxId != record.sandboxId || looksUp (Pool.transcript backend i pre) row.id
  | .insertRuntime _ => noTokenInUse pre ev.before
  | .saveRuntime saved => noTokenInUse pre ev.before || ev.before.runtimes.rows.any fun row =>
      row.id == saved.id && row.sandboxId == saved.sandboxId
  | .findRuntime _ => (Pool.transcript backend i pre).all fun
      | ⟨.findSignedToken _ _, some record⟩ =>
        ev.before.runtimes.rows.all fun row => row.sandboxId == record.sandboxId
      | _ => true
  | _ => true

theorem incarnationsApart_of_keepsApart (calls : Nat → PreviewCall) (pre : History Nat) (i : Nat)
    (ev : Event requests World Answer) (h : keepsApart pre i ev = true) :
    IncarnationsApart calls pre i ev := by
  obtain ⟨s, op, a⟩ := ev
  refine ⟨?_, ?_, ?_, ?_⟩
  -- one part for each kind of step that the condition is about
  · rintro record rfl row hrow hid
    have hrow' := List.all_eq_true.mp h row hrow
    rw [hid, bne_self_eq_false, Bool.false_or] at hrow'
    exact lookedUp_of_looksUp hrow'
  · rintro draft rfl record huse
    exact absurd huse (not_inUse_of_noTokenInUse h record)
  · rintro saved rfl hgone record huse
    rcases (Bool.or_eq_true _ _).mp h with hunused | hstored
    · exact absurd huse (not_inUse_of_noTokenInUse hunused record)
    · -- the row is still there, so the save does not bring it back
      obtain ⟨row, hrow, hsame⟩ := List.any_eq_true.mp hstored
      rw [Bool.and_eq_true, beq_iff_eq, beq_iff_eq] at hsame
      exact absurd hsame.2 (hgone row hrow hsame.1)
  · rintro token port query record - rfl hfound row hrow -
    have hrows := List.all_eq_true.mp h _ hfound
    exact beq_iff_eq.mp (List.all_eq_true.mp hrows row hrow)

/-- A link for `b` is issued, `b` is deleted and created again, and another link is issued. -/
def relinked : Nat → PreviewCall
  | 0 => .service (.sandbox (.create { name := some "b" }))
  | 1 => .service (.getSignedPreviewUrl "b" 8080)
  | 2 => .service (.sandbox (.delete "b"))
  | 3 => .service (.sandbox (.create { name := some "b" }))
  | 5 => .service (.getSignedPreviewUrl "b" 8080)
  | _ => .validateProxyAccessBySignedToken "link" 8080

/-- The token of the second incarnation opens it, and the token of the first is gone. -/
theorem token_opens_its_incarnation_again :
    ∃ tr c row, Previewing (smallConfig 31005) relinked (IncarnationsApart relinked) .empty tr c ∧
      c.thread 4 = .pure (some row) ∧ row.id = 1 ∧ IssuedFor relinked tr "old" 8080 0 ∧
      ∀ id, IssuedFor relinked tr "link" 8080 id ↔ id = row.id := by
  obtain ⟨tr, c, hrun, hfound⟩ := Pool.exists_safe_run_of_schedule backend
    (previewing (smallConfig 31005) relinked (World.fresh .empty))
    (incarnationsApart_of_keepsApart relinked)
    (List.replicate 21 (0, { random := "first" }) ++ List.replicate 6 (1, { random := "old" }) ++
      steps 2 7 ++ List.replicate 21 (3, { random := "second" }) ++
      List.replicate 6 (5, { random := "link" }) ++ steps 4 3)
    (fun tr (c : Pool requests ServiceError (Option RuntimeEntity) World Nat) =>
      decide (tr.filterMap fun x => drawn x.2).Nodup &&
        (openedByFour c).any (fun row => row.id == 1) &&
        looksUp (Pool.transcript backend 1 tr) 0 && stores (Pool.transcript backend 1 tr) "old" 8080)
    (by decide +kernel)
  -- each link is issued and followed while its own incarnation stands
  simp only [Bool.and_eq_true, decide_eq_true_eq, Option.any_eq_true, beq_iff_eq] at hfound
  obtain ⟨⟨⟨hdraws, row, hopened, hid⟩, hlooks⟩, hstores⟩ := hfound
  have hthread := thread_of_openedByFour hopened
  exact ⟨tr, c, row, hrun, hthread, hid, issuedFor_of_stores rfl hlooks hstores,
    token_opens_its_incarnation (smallConfig 31005) relinked .empty hrun hdraws rfl hthread⟩

end Microsandbox
