import MicrosandboxCloud.Calls

/-!
# Microsandbox — what an id or name refers to

Ids and names share one lookup (`findRuntimeBySandboxIdOrName`), but the database keeps them
unique column by column only. The invariant that closes the gap is `NoCross`: a stored name is
never the id of another runtime.

The name check protects one direction, since it looks a new *name* up among ids and names. Nothing
looks a new *id* up among names, so the invariant needs `NewIdFree`: no accepted request adds a
runtime whose id is already somebody's name. `ensure_takes_name` is a run in which one does.
-/

namespace Microsandbox

open Process Data RuntimeControl Registry

/-! ## The invariant

A column of the table is unique by itself, so two runtimes that answer to one reference must do so
by different columns: the id of one is the name of the other. That is what `NoCross` excludes. -/

/-- A runtime answers to `v`. -/
def AnswersTo (r : RuntimeEntity) (v : String) : Prop := r.sandboxId = v ∨ r.name = some v

/-- At most one stored runtime answers to the normal form of a reference. -/
def Unambiguous (s : World) : Prop :=
  ∀ value v, normalizeSandboxId value = .ok v →
    ∀ r₁ ∈ s.runtimes, ∀ r₂ ∈ s.runtimes, AnswersTo r₁ v → AnswersTo r₂ v → r₁ = r₂

/-- A lookup by id or name has one possible result. -/
def LookupsAgree (s : World) : Prop :=
  ∀ value tr₁ x₁ s₁ tr₂ x₂ s₂,
    Exec backend (findRuntimeBySandboxIdOrName value) s tr₁ x₁ s₁ →
    Exec backend (findRuntimeBySandboxIdOrName value) s tr₂ x₂ s₂ → x₁ = x₂

/-- No stored name is the id of another runtime. -/
def NoCross (s : World) : Prop :=
  ∀ r₁ ∈ s.runtimes, ∀ r₂ ∈ s.runtimes, r₂.name = some r₁.sandboxId → r₁ = r₂

/-- By cases on the columns by which the two runtimes answer. -/
theorem NoCross.unambiguous {s : World} (h : NoCross s) : Unambiguous s := by
  intro value v _ r₁ hr₁ r₂ hr₂ h₁ h₂
  rcases h₁ with hid₁ | hname₁ <;> rcases h₂ with hid₂ | hname₂
  · exact World.eq_of_sandboxId hr₁ hr₂ (hid₁.trans hid₂.symm)
  · exact h r₁ hr₁ r₂ hr₂ (by rw [hname₂, hid₁])
  · exact (h r₂ hr₂ r₁ hr₁ (by rw [hname₁, hid₂])).symm
  · exact World.eq_of_name hr₁ hr₂ hname₁ hname₂

/-- What a lookup can return: an error for a reference without a normal form, a runtime that answers
to the normal form, or nothing if none does. -/
theorem lookup_spec (value : String) (s : World) :
    Ensures backend (fun _ => True) (findRuntimeBySandboxIdOrName value) s fun x _ =>
      (∃ e, normalizeSandboxId value = .error e ∧ x = .error e) ∨
      ∃ v, normalizeSandboxId value = .ok v ∧
        ((∃ r ∈ s.runtimes, AnswersTo r v ∧ x = .ok (some r)) ∨
          (x = .ok none ∧ ∀ r ∈ s.runtimes, ¬ AnswersTo r v)) := by
  unfold findRuntimeBySandboxIdOrName
  refine ensures_sync (fun v hv => ?_) fun e he => Or.inl ⟨e, he, rfl⟩
  refine ensures_findRuntime (k := .pure) (fun r hr hsel => ?_) fun hnone => ?_
  · refine Ensures.pure (Or.inr ⟨v, hv, Or.inl ⟨r, hr, ?_, rfl⟩⟩)
    simpa [RuntimeQuery.selects, AnswersTo] using hsel
  · refine Ensures.pure (Or.inr ⟨v, hv, Or.inr ⟨rfl, fun r hr => ?_⟩⟩)
    simpa [RuntimeQuery.selects, AnswersTo] using hnone r hr

/-- When only one runtime answers, the lookup has no choice. -/
theorem Unambiguous.lookupsAgree {s : World} (h : Unambiguous s) : LookupsAgree s := by
  intro value tr₁ x₁ s₁ tr₂ x₂ s₂ h₁ h₂
  rcases (lookup_spec value s).exec h₁ with
    ⟨e, he, rfl⟩ | ⟨v, hv, hx₁⟩
  · rcases (lookup_spec value s).exec h₂ with ⟨e', he', rfl⟩ | ⟨v, hv, -⟩
    · rw [he] at he'
      rw [Except.error.inj he']
    · simp [he] at hv
  · rcases (lookup_spec value s).exec h₂ with ⟨e', he', -⟩ | ⟨v', hv', hx₂⟩
    · simp [hv] at he'
    · obtain rfl : v = v' := by rw [hv] at hv'; exact Except.ok.inj hv'
      rcases hx₁ with ⟨r₁, hr₁, ha₁, rfl⟩ | ⟨rfl, hnone₁⟩ <;>
        rcases hx₂ with ⟨r₂, hr₂, ha₂, rfl⟩ | ⟨rfl, hnone₂⟩
      · rw [h value v hv r₁ hr₁ r₂ hr₂ ha₁ ha₂]
      · exact absurd ha₁ (hnone₂ r₁ hr₁)
      · exact absurd ha₂ (hnone₁ r₂ hr₂)
      · rfl

/-- An accepted request that adds a runtime takes an id that is nobody's name. -/
def NewIdFree (cfg : AppConfig) (c : SandboxCall) (s : World)
    (tr : List (Event requests World Answer)) : Prop :=
  ∀ input, c.request s (drawnText tr) = some input → accepts s input = true →
    (∀ r ∈ s.runtimes, r.sandboxId ≠ input.sandboxId) →
    (specPorts cfg input.toSandboxSpecDto).length ≤ (freePorts cfg s).length →
    ∀ r ∈ s.runtimes, r.name ≠ some input.sandboxId

/-! ## One step

Every outcome of a call writes at most one row. A save under the old keys cannot cross another row;
for a new name the check has been made, and for a new id the condition of the run is needed. -/

section Step

variable {cfg : AppConfig} {safe : Event requests World Answer → Prop} {s s₁ s' : World}

/-- Writing a row keeps the invariant when the row crosses no other one. -/
theorem NoCross.of_write (saved : RuntimeEntity) (hinv : NoCross s)
    (hrows : ∀ r ∈ s'.runtimes, r = saved ∨ (r ∈ s.runtimes ∧ r.id ≠ saved.id))
    (hid : ∀ r ∈ s.runtimes, r.id ≠ saved.id → r.name ≠ some saved.sandboxId)
    (hname : ∀ r ∈ s.runtimes, r.id ≠ saved.id → saved.name ≠ some r.sandboxId) : NoCross s' := by
  intro r₁ hr₁ r₂ hr₂ hcross
  rcases hrows r₁ hr₁ with rfl | ⟨hr₁, hne₁⟩ <;> rcases hrows r₂ hr₂ with rfl | ⟨hr₂, hne₂⟩
  · rfl
  · exact absurd hcross (hid r₂ hr₂ hne₂)
  · exact absurd hcross (hname r₁ hr₁ hne₁)
  · exact hinv r₁ hr₁ r₂ hr₂ hcross

/-- Saving a row under the keys it had keeps the invariant. -/
theorem NoCross.of_sameKeys {row saved : RuntimeEntity} (hinv : NoCross s)
    (hrow : row ∈ s.runtimes) (hsave : s.saveRuntime saved = some s₁) (hid : saved.id = row.id)
    (hsandbox : saved.sandboxId = row.sandboxId) (hname : saved.name = row.name)
    (hruntimes : s'.runtimes = s₁.runtimes) : NoCross s' := by
  refine hinv.of_write saved (fun r hr => ?_) (fun r hr hne hcross => ?_) fun r hr hne hcross => ?_
  · rw [hruntimes] at hr
    exact (World.mem_saveRuntime hsave).mp hr
  · rw [hsandbox] at hcross
    exact hne (hid ▸ congrArg RuntimeEntity.id (hinv row hrow r hr hcross).symm)
  · rw [hname] at hcross
    exact hne (hid ▸ congrArg RuntimeEntity.id (hinv r hr row hrow hcross))

/-- Where a launch starts, nothing crosses: the name was checked, and the id of a new row is
nobody's name. -/
theorem RuntimeControl.LaunchStart.noCross {input : ProvisionInput} {name : Option String}
    {spec : RuntimeSpec} {row : RuntimeEntity} (hplan : Planned cfg s input name spec)
    (h : LaunchStart cfg safe input name spec s row s₁) (hinv : NoCross s)
    (hfree : (∀ r ∈ s.runtimes, r.sandboxId ≠ input.sandboxId) →
      spec.ports.length ≤ (freePorts cfg s).length →
      ∀ r ∈ s.runtimes, r.name ≠ some input.sandboxId) : NoCross s₁ := by
  cases h with
  | unhealthy hrow hid hkeep => exact hinv
  | @replaced row₀ s₁ hrow hid hreplace hsave =>
    refine hinv.of_write (replacingRow input name spec row₀)
      (fun r hr => (World.mem_saveRuntime hsave).mp hr) (fun r hr hne hcross => ?_)
      fun r hr hne hcross => ?_
    · have heq : r = row₀ := (hinv row₀ hrow r hr hcross).symm
      exact hne (heq ▸ rfl)
    · -- the row that let the name pass is the sandbox's own, so the name is its own already
      rcases hplan.available r.sandboxId hcross with hnobody | ⟨q, hq, huse, hqid⟩
      · exact (hnobody r hr).1 rfl
      · obtain rfl : q = row₀ := World.eq_of_sandboxId hq hrow (hqid.trans hid.symm)
        have heq : r = q := huse.elim (fun h => World.eq_of_sandboxId hr hq h.symm)
          (hinv r hr q hq)
        exact hne (heq ▸ rfl)
  -- the only place where the condition on the run is used
  | @new vmName authToken primary now a s₁ s₂ hnew hvm hinsert hsafe henough hleased =>
    refine hinv.of_write
      ((newRow input.sandboxId vmName authToken name spec primary now).withId s.nextRuntimeId)
      (fun r hr => ?_) (fun r hr _ => hfree hnew henough r hr) fun r hr _ hcross => ?_
    · rw [hleased.runtimes] at hr
      rcases (World.mem_insertRuntime hinsert).mp hr with hr | rfl
      · exact Or.inr ⟨hr, (s.runtimes_lt r hr).ne⟩
      · exact Or.inl rfl
    · rcases hplan.available r.sandboxId hcross with hnobody | ⟨q, hq, -, hqid⟩
      · exact (hnobody r hr).1 rfl
      · exact hnew q hq hqid

/-- The launch itself saves the row under the keys it has. -/
theorem RuntimeControl.LaunchOutcome.noCross {name : Option String} {spec : RuntimeSpec}
    {row : RuntimeEntity} {x : Except ServiceError RuntimeSummary}
    (h : LaunchOutcome cfg safe name spec row s x s') (hinv : NoCross s) (hrow : row ∈ s.runtimes)
    (hname : row.name = name) : NoCross s' := by
  cases h with
  | outOfPorts hfew hleases hruntimes hvms => simpa [NoCross, hruntimes] using hinv
  | @createFailed ports e a s₁ hports hfailure hhard hsafe =>
    simpa [NoCross, (createVm_tables a _ s₁).1, hports.leased.runtimes] using hinv
  | @provisioned ports primary appHealthy sshHealthy lastActiveAt a s₁ s' hports hvm hprimary
      hsave =>
    have hinv₁ : NoCross (s₁.setVm row.sandboxName (some (createInput row spec ports))) := by
      simpa [NoCross, World.setVm, hports.leased.runtimes] using hinv
    refine hinv₁.of_sameKeys (?_ : row ∈ _) hsave rfl rfl hname.symm rfl
    simpa [World.setVm, hports.leased.runtimes] using hrow

/-- **One call.** -/
theorem noCross_step {c : SandboxCall} {tr : List (Event requests World Answer)}
    {x : Except ServiceError Reply} (hinv : NoCross s) (hfree : NewIdFree cfg c s tr)
    (hexec : Exec backend (c.prog cfg) s tr x s') : NoCross s' := by
  cases call_outcome hexec with
  | refused hrequest => exact hinv
  -- the row that was loaded is saved with another status
  | touched hrow hsave hruntimes hleases hvms hcall =>
    exact hinv.of_sameKeys hrow hsave rfl rfl rfl hruntimes
  | deleted hrow hcall hruntimes hleases hvms hremoved =>
    intro r₁ hr₁ r₂ hr₂
    rw [hruntimes] at hr₁ hr₂
    exact hinv r₁ (Table.mem_delete.mp hr₁).1 r₂ (Table.mem_delete.mp hr₂).1
  | provisioned hrequest hnormal houtcome =>
    cases houtcome with
    | refused hwhy => exact hinv
    | existing hplan hrow hid hforce hkeep hlive hsave =>
      exact hinv.of_sameKeys hrow hsave rfl rfl (name_eq_of_keep hkeep).symm rfl
    | rolledBack hplan hnew hfew hleases hruntimes hvms =>
      simpa [NoCross, hruntimes] using hinv
    | launched hplan hstart houtcome =>
      obtain ⟨hrow, -, hname⟩ := hstart.row_mem
      refine houtcome.noCross (hstart.noCross hplan hinv fun hnew henough => ?_) hrow hname
      rw [hplan.ports_eq] at henough
      exact hfree _ hrequest (hstart.accepts hplan) hnew henough

end Step

/-! ## Every run

The invariant holds of the empty store and is kept by each call whose new id is free. -/

/-- **Unambiguous references.** In every run from an empty store in which no accepted request adds
a runtime under an id that is somebody's name, at most one runtime answers to any reference, and
looking it up has one possible result. -/
theorem references_unambiguous (cfg : AppConfig) (volumes : Table VolumeEntity volumeKeys)
    {s : World} (hreach : Reachable cfg (NewIdFree cfg) volumes s) :
    Unambiguous s ∧ LookupsAgree s := by
  have hinv : NoCross s :=
    hreach.invariant (fun r hr => absurd hr (Table.not_mem_empty r))
      fun c s tr x s' hinv hfree hexec => noCross_step hinv hfree hexec
  exact ⟨hinv.unambiguous, hinv.unambiguous.lookupsAgree⟩

/-- A check of `NewIdFree`: the id that is asked for is nobody's name. -/
def takesNoName (c : SandboxCall) (s : World) (tr : List (Event requests World Answer)) : Bool :=
  (c.request s (drawnText tr)).all fun input =>
    s.runtimes.rows.all fun r => r.name != some input.sandboxId

/-- The check looks at every request, also at those that are refused. -/
theorem newIdFree_of_takesNoName (cfg : AppConfig) (c : SandboxCall) (s : World)
    (tr : List (Event requests World Answer)) (h : takesNoName c s tr = true) :
    NewIdFree cfg c s tr := by
  intro input hrequest _ _ _ r hr
  rw [takesNoName, hrequest, Option.all_some] at h
  exact bne_iff_ne.mp (List.all_eq_true.mp h r hr)

/-- The runtimes `a`, and `b` with the name `web`. -/
def twoSandboxes (s : World) : Bool :=
  s.runtimes.rows.any fun r₁ => s.runtimes.rows.any fun r₂ =>
    (r₁.sandboxId == "a" && r₁.name == some "a") && (r₂.sandboxId == "b" && r₂.name == some "web")

/-- Two sandboxes with different ids and names: each reference leads to one of them. -/
theorem references_unambiguous_two : ∃ s, Reachable (smallConfig 31015)
      (NewIdFree (smallConfig 31015)) .empty s ∧ LookupsAgree s ∧
    ∃ r₁ ∈ s.runtimes, ∃ r₂ ∈ s.runtimes, r₁ ≠ r₂ ∧
      (∀ r ∈ s.runtimes, AnswersTo r "a" → r = r₁) ∧
        ∀ r ∈ s.runtimes, AnswersTo r "web" → r = r₂ := by
  obtain ⟨s, hreach, htwo⟩ := exists_safe_reachable (smallConfig 31015) .empty
    (newIdFree_of_takesNoName (smallConfig 31015))
    [(.create { name := some "a" }, []),
     (.ensure { sandboxId := some "b", name := some "web" }, [])] twoSandboxes (by decide +kernel)
  simp only [twoSandboxes, List.any_eq_true, Bool.and_eq_true, beq_iff_eq] at htwo
  obtain ⟨r₁, hr₁, r₂, hr₂, ⟨hid₁, hname₁⟩, hid₂, hname₂⟩ := htwo
  obtain ⟨hunambiguous, hlookups⟩ :=
    references_unambiguous (smallConfig 31015) .empty hreach
  have ha : normalizeSandboxId "a" = .ok "a" := by decide +kernel
  have hweb : normalizeSandboxId "web" = .ok "web" := by decide +kernel
  -- the ids differ, so the two rows do
  have hne : r₁ ≠ r₂ := by
    rintro rfl
    rw [hid₁] at hid₂
    exact absurd hid₂ (by decide)
  exact ⟨s, hreach, hlookups, r₁, hr₁, r₂, hr₂, hne,
    fun r hr h => hunambiguous "a" "a" ha r hr r₁ hr₁ h (Or.inl hid₁),
    fun r hr h => hunambiguous "web" "web" hweb r hr r₂ hr₂ h (Or.inr hname₂)⟩

/-- Two stored runtimes answer to `v`. -/
def sharedReference (v : String) (s : World) : Bool :=
  s.runtimes.rows.any fun r₁ => s.runtimes.rows.any fun r₂ => r₁.id != r₂.id &&
    r₁.sandboxId == v && r₂.name == some v

/-- Two rows with different keys answer to one reference. -/
theorem not_unambiguous_of_sharedReference {v : String} {s : World} (hv : IsNormal v)
    (h : sharedReference v s = true) : ¬ Unambiguous s := by
  simp only [sharedReference, List.any_eq_true, Bool.and_eq_true, bne_iff_ne, beq_iff_eq] at h
  obtain ⟨r₁, hr₁, r₂, hr₂, ⟨hne, hid⟩, hname⟩ := h
  intro hunamb
  have heq := hunamb v v (normalizeSandboxId_eq_self hv) r₁ hr₁ r₂ hr₂ (Or.inl hid) (Or.inr hname)
  exact hne (congrArg RuntimeEntity.id heq)

/-- `ensure` gives the sandbox `a` the name `b`, then makes a new sandbox with the id `b`. -/
theorem ensure_takes_name :
    ¬ ∀ (cfg : AppConfig) (volumes : Table VolumeEntity volumeKeys) (s : World),
      Reachable cfg anyCall volumes s → Unambiguous s ∧ LookupsAgree s := by
  intro hclaim
  obtain ⟨s, hreach, hshared⟩ := exists_reachable (smallConfig 31015) .empty
    [(.ensure { sandboxId := some "a", name := some "b" }, []),
     (.ensure { sandboxId := some "b" }, [])]
    (sharedReference "b") (by decide +kernel)
  have hnormal : normalizeSandboxId "b" = .ok "b" := by decide +kernel
  exact not_unambiguous_of_sharedReference (normalizeSandboxId_isNormal hnormal) hshared
    (hclaim _ _ s hreach).1

end Microsandbox
