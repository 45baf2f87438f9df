import MicrosandboxCloud.Queries

/-!
# Microsandbox — which ids there are, and which VM names they get

* **`HasIdForm`** — what an id looks like.
* **`normalizeSandboxId_image`** — normalisation refuses exactly the texts without a letter or a
  digit; its results are exactly the texts that look like an id, and these it leaves alone.
* **`vmNames_distinct_iff`** — a VM name is cut at 120 code units, so that distinct ids are sure to
  get distinct names exactly when the prefix leaves room for the 64 characters of an id.
-/

namespace Microsandbox

open Process Data Text Registry

/-! ## What an id looks like

Two descriptions of the same texts: `HasIdForm` says what a user would check, `IsNormal` what the
code leaves behind. -/

/-- `[a-z0-9]` -/
def isLowerAlnum (c : Char) : Bool :=
  (97 ≤ c.toNat && c.toNat ≤ 122) || (48 ≤ c.toNat && c.toNat ≤ 57)

/-- At most 64 characters of `[a-z0-9._-]`, the first and the last of `[a-z0-9]`, without `--`. -/
structure HasIdForm (v : String) : Prop where
  nonempty : v ≠ ""
  length_le : v.toList.length ≤ 64
  idChars : ∀ c ∈ v.toList, isLowerAlnum c = true ∨ c = '.' ∨ c = '_' ∨ c = '-'
  first : ∀ c, v.toList.head? = some c → isLowerAlnum c = true
  last : ∀ c, v.toList.getLast? = some c → isLowerAlnum c = true
  noDashes : ¬ ['-', '-'] <:+: v.toList

/-- The allowed characters are letters, digits and the three signs. -/
theorem isIdChar_iff {c : Char} :
    isIdChar c = true ↔ isLowerAlnum c = true ∨ c = '.' ∨ c = '_' ∨ c = '-' := by
  simp only [isIdChar, isLowerAlnum, Bool.or_eq_true, beq_iff_eq]
  tauto

theorem isEdgeChar_of_isLowerAlnum {c : Char} (h : isLowerAlnum c = true) :
    isEdgeChar c = false := by
  have hnot : ∀ d ∈ ['.', '_', '-'], isLowerAlnum d = false := by simp [isLowerAlnum]
  by_contra hedge
  have hedge' : isEdgeChar c = true := by simpa using hedge
  have hmem : c ∈ ['.', '_', '-'] := by simpa [isEdgeChar, or_assoc] using hedge'
  rw [hnot c hmem] at h
  cases h

/-- Letters and digits are the allowed characters that are not stripped. -/
theorem isLowerAlnum_iff {c : Char} :
    isLowerAlnum c = true ↔ isIdChar c = true ∧ isEdgeChar c = false := by
  rw [isIdChar_iff]
  constructor
  · exact fun h => ⟨Or.inl h, isEdgeChar_of_isLowerAlnum h⟩
  · rintro ⟨h | rfl | rfl | rfl, hedge⟩
    · exact h
    all_goals exact absurd hedge (by decide)

theorem hasIdForm_iff {v : String} : HasIdForm v ↔ IsNormal v := by
  constructor
  · intro h
    exact ⟨by simpa using h.nonempty, h.length_le, fun c hc => isIdChar_iff.mpr (h.idChars c hc),
      fun c hc => isEdgeChar_of_isLowerAlnum (h.first c hc),
      fun c hc => isEdgeChar_of_isLowerAlnum (h.last c hc), noDouble_iff.mpr h.noDashes⟩
  · intro h
    exact ⟨by simpa using h.nonempty, h.length_le, fun c hc => isIdChar_iff.mp (h.idChars c hc),
      fun c hc => isLowerAlnum_iff.mpr ⟨h.idChars c (List.mem_of_mem_head? hc), h.head c hc⟩,
      fun c hc => isLowerAlnum_iff.mpr ⟨h.idChars c (List.mem_of_mem_getLast? hc), h.last c hc⟩,
      noDouble_iff.mp h.noDouble⟩

/-! ## What is refused

A text is refused when nothing is left of it. Letters and digits survive every step, and a text
without any is made of signs that the strip takes away. -/

/-- White space is no letter and no digit. -/
theorem not_isLowerAlnum_of_isSpace {c : Char} (h : isSpace c = true) : isLowerAlnum c = false := by
  by_contra halnum
  have hid := (isLowerAlnum_iff.mp (by simpa using halnum)).1
  rw [isSpace_of_isIdChar hid] at h
  cases h

/-- White space has no lower case of its own. -/
theorem lowerChar_of_isSpace {c : Char} (h : isSpace c = true) : lowerChar c = [c] := by
  simp only [isSpace, List.mem_cons, List.not_mem_nil, or_false, Bool.or_eq_true,
    decide_eq_true_eq, Bool.and_eq_true] at h
  unfold lowerChar
  rw [if_neg (by omega), if_neg (by omega), if_neg (by omega)]

/-- Trimming first loses no letter or digit. -/
theorem mem_toLowerCase_trim {s : List Char} {c : Char} (hc : isLowerAlnum c = true) :
    c ∈ toLowerCase (trim s) ↔ c ∈ toLowerCase s := by
  simp only [toLowerCase, List.mem_flatMap]
  constructor
  · rintro ⟨d, hd, hcd⟩
    exact ⟨d, ((stripEnd_isPrefix _ _).isInfix.trans (stripStart_isSuffix _ _).isInfix).subset hd,
      hcd⟩
  · rintro ⟨d, hd, hcd⟩
    refine ⟨d, (mem_trim ?_).mpr hd, hcd⟩
    by_contra hspace
    have hd' : isSpace d = true := by simpa using hspace
    rw [lowerChar_of_isSpace hd', List.mem_singleton] at hcd
    rw [hcd, not_isLowerAlnum_of_isSpace hd'] at hc
    cases hc

/-- Nothing is left of a text exactly when its lower case has neither a letter nor a digit. -/
theorem normalizeChars_eq_nil_iff {value : List Char} :
    normalizeChars value = [] ↔ ∀ c ∈ toLowerCase value, isLowerAlnum c = false := by
  let joined := replaceRuns (· == '-') '-'
    (replaceRuns (fun c => !isIdChar c) '-' (toLowerCase (trim value)))
  -- runs are replaced by dashes only, so that letters and digits stay
  have hkept : ∀ c, isLowerAlnum c = true → (c ∈ joined ↔ c ∈ toLowerCase value) := by
    intro c hc
    obtain ⟨hid, hedge⟩ := isLowerAlnum_iff.mp hc
    have hdash : c ≠ '-' := by
      rintro rfl
      exact absurd hedge (by decide)
    rw [mem_replaceRuns_iff hdash, mem_replaceRuns_iff hdash, mem_toLowerCase_trim hc]
    simp [hid, hdash]
  -- anything else in it is stripped at the ends
  have hchars : ∀ c ∈ joined, isIdChar c = true := by
    intro c hc
    rcases mem_replaceRunsFrom hc with rfl | ⟨hmem, -⟩
    · decide
    · rcases mem_replaceRunsFrom hmem with rfl | ⟨-, hp⟩
      · decide
      · simpa using hp
  rw [show normalizeChars value = stripEnd isEdgeChar (stripStart isEdgeChar joined) from rfl,
    strip_eq_nil_iff]
  constructor
  · intro h c hc
    by_contra halnum
    have halnum' : isLowerAlnum c = true := by simpa using halnum
    have hedge := h c ((hkept c halnum').mpr hc)
    rw [isEdgeChar_of_isLowerAlnum halnum'] at hedge
    cases hedge
  · intro h c hc
    by_contra hedge
    have halnum : isLowerAlnum c = true := isLowerAlnum_iff.mpr ⟨hchars c hc, by simpa using hedge⟩
    rw [h c ((hkept c halnum).mp hc)] at halnum
    cases halnum

/-- Refused is what has neither a letter nor a digit, in lower case. -/
theorem normalizeSandboxId_refuses_iff (value : String) :
    (∃ e, normalizeSandboxId value = .error e) ↔
      ∀ c ∈ toLowerCase value.toList, isLowerAlnum c = false := by
  rw [← normalizeChars_eq_nil_iff]
  unfold normalizeSandboxId normalizeSegment
  simp only
  constructor
  · rintro ⟨e, he⟩
    split_ifs at he with hnil
    exact hnil
  · intro hnil
    rw [if_pos hnil]
    exact ⟨_, rfl⟩

/-- There is one way to refuse a text. -/
theorem normalizeSandboxId_error {value : String} {e : ServiceError}
    (h : normalizeSandboxId value = .error e) : e = ⟨.error, "sandboxId is required"⟩ := by
  unfold normalizeSandboxId normalizeSegment at h
  simp only at h
  split_ifs at h
  exact (Except.error.inj h).symm

/-! ## Which sandbox a text denotes

Two texts are the same reference when they find the same rows in every state. A state with one bare
row tells any two normal forms apart. -/

/-- A lookup by this id finds the row. -/
def Finds (s : World) (value : String) (row : RuntimeEntity) : Prop :=
  ∃ tr s', Exec backend (findRuntimeBySandboxId value) s tr (.ok (some row)) s'

/-- A lookup finds the rows with the normal form of the text as their id. -/
theorem finds_iff {s : World} {value : String} {row : RuntimeEntity} :
    Finds s value row ↔ row ∈ s.runtimes ∧ normalizeSandboxId value = .ok row.sandboxId := by
  unfold Finds findRuntimeBySandboxId
  cases hvalue : normalizeSandboxId value with
  | error e =>
    constructor
    -- a text without a normal form is refused before anything is looked up
    · rintro ⟨tr, s', hexec⟩
      cases hexec
    · rintro ⟨-, h⟩
      cases h
  | ok v =>
    constructor
    · rintro ⟨tr, s', hexec⟩
      obtain ⟨ans, r, hact, hr, -⟩ := Exec.of_request hexec
      have hreply : some (pickRow s.runtimes.rows (RuntimeQuery.bySandboxId v).selects ans.pick,
        s) = some (r, s') := hact
      have hfound : pickRow s.runtimes.rows (RuntimeQuery.bySandboxId v).selects ans.pick =
          some row := by
        rw [(Prod.mk.inj (Option.some.inj hreply)).1]
        exact (Except.ok.inj hr).symm
      obtain ⟨hrow, hsel⟩ := pickRow_some hfound
      have hid : row.sandboxId = v := by simpa [RuntimeQuery.selects] using hsel
      exact ⟨hrow, by rw [hid]⟩
    · rintro ⟨hrow, hid⟩
      have hsel : (RuntimeQuery.bySandboxId v).selects row = true := by
        simp [RuntimeQuery.selects, Except.ok.inj hid]
      -- the database may return this row
      obtain ⟨pick, hpick⟩ := exists_pickRow hrow hsel
      refine ⟨[⟨s, .findRuntime (.bySandboxId v), { pick := pick }⟩], s, .await ?_ (.pure _ s)⟩
      show some (pickRow s.runtimes.rows (RuntimeQuery.bySandboxId v).selects pick, s) = _
      rw [hpick]

/-- A row with this id, and nothing else of interest. -/
def bareRow (sandboxId : String) : RuntimeEntity where
  id := 0
  sandboxId := sandboxId
  name := none
  sandboxName := ""
  runtimeHostId := localHostId
  portBindings := []
  primaryPort := 0
  hostPort := 0
  primaryPortProtocol := .tcp
  isPublic := false
  authToken := ""
  status := .running
  image := ""
  command := none
  environment := none
  secrets := none
  workingDir := none
  mounts := none
  cpu := 0
  memoryMiB := 0
  diskGiB := 0
  autoStopMinutes := none
  ephemeral := false
  lastActiveAt := none
  statusReason := none

/-- A state in which only this row is stored. -/
def World.only (row : RuntimeEntity) : World :=
  { World.fresh .empty with
    runtimes := ⟨[row], List.pairwise_singleton _ _⟩
    nextRuntimeId := row.id + 1
    runtimes_lt := fun r hr => by
      rw [List.mem_singleton.mp hr]
      exact Nat.lt_succ_self _
    portLeases_lt := fun l hl => absurd hl (Table.not_mem_empty l) }

/-- Two texts denote the same sandbox, whatever is stored, exactly when they have the same normal
form. -/
theorem sameSandbox_iff (a b : String) :
    (∀ s row, Finds s a row ↔ Finds s b row) ↔ normalizeSandboxId a = normalizeSandboxId b := by
  constructor
  · intro h
    -- a stored row tells a normal form from any other
    have hforms : ∀ v, normalizeSandboxId a = .ok v ↔ normalizeSandboxId b = .ok v := by
      intro v
      have hstored : bareRow v ∈ (World.only (bareRow v)).runtimes := List.mem_cons_self
      have hrow := h (World.only (bareRow v)) (bareRow v)
      rw [finds_iff, finds_iff, and_iff_right hstored, and_iff_right hstored] at hrow
      exact hrow
    cases ha : normalizeSandboxId a with
    | ok v => exact ((hforms v).mp ha).symm
    | error e =>
      cases hb : normalizeSandboxId b with
      | ok v => rw [(hforms v).mpr hb] at ha; cases ha
      | error e' => rw [normalizeSandboxId_error ha, normalizeSandboxId_error hb]
  · intro h s row
    rw [finds_iff, finds_iff, h]

/-- **The image of normalisation.** It refuses exactly the texts whose lower case has no letter or
digit; what it returns looks like an id; every text that looks like an id is returned, by itself;
and two texts denote the same sandbox in every state exactly when they have the same normal form. -/
theorem normalizeSandboxId_image :
    (∀ value, (∃ e, normalizeSandboxId value = .error e) ↔
      ∀ c ∈ toLowerCase value.toList, isLowerAlnum c = false) ∧
    (∀ value v, normalizeSandboxId value = .ok v → HasIdForm v) ∧
    (∀ v, HasIdForm v → normalizeSandboxId v = .ok v) ∧
    (∀ value v, normalizeSandboxId value = .ok v → normalizeSandboxId v = .ok v) ∧
    ∀ a b, (∀ s row, Finds s a row ↔ Finds s b row) ↔
      normalizeSandboxId a = normalizeSandboxId b := by
  refine ⟨normalizeSandboxId_refuses_iff, fun value v h => ?_, fun v h => ?_, fun value v h => ?_,
    sameSandbox_iff⟩
  · exact hasIdForm_iff.mpr (normalizeSandboxId_isNormal h)
  · exact normalizeSandboxId_eq_self (hasIdForm_iff.mp h)
  · exact normalizeSandboxId_idem h

/-! ## VM names

A name in normal form has one code unit for each character, so that its units can be counted by its
characters. -/

section Units

variable {s : List Char}

/-- Every character is one code unit. -/
def IsBasic (s : List Char) : Prop := ∀ c ∈ s, c.toNat < 0x10000

/-- Then the units of the text are its characters. -/
theorem IsBasic.codeUnits_eq (h : IsBasic s) :
    codeUnits s = s.map fun c => UInt16.ofNat c.toNat := by
  induction s with
  | nil => rfl
  | cons c s ih =>
    have hc : charUnits c = [UInt16.ofNat c.toNat] := if_pos (h c List.mem_cons_self)
    have hs := ih fun d hd => h d (List.mem_cons_of_mem c hd)
    simp only [codeUnits, List.flatMap_cons, hc] at hs ⊢
    rw [hs]
    rfl

theorem IsNormal.isBasic {v : String} (h : IsNormal v) : IsBasic v.toList := by
  intro c hc
  rcases isIdChar_iff.mp (h.idChars c hc) with halnum | rfl | rfl | rfl
  · simp only [isLowerAlnum, Bool.or_eq_true, Bool.and_eq_true, decide_eq_true_eq] at halnum
    omega
  all_goals decide

end Units

/-! ### Distinct names

Names are cut at 120 units, and an id has up to 64. A prefix of 55 units leaves room for a dash and
every id; under a longer one two ids of full length that differ at the end get the same name. -/

namespace RuntimeIdentity

/-- A name that fits is not cut. -/
theorem trimName_of_le {value : List UInt16} (h : value.length ≤ 120) : trimName value = value :=
  if_pos h

/-- Beyond 120 code units nothing counts. -/
theorem trimName_append {value : List UInt16} (h : 120 ≤ value.length) {u v : UInt16}:
    trimName (value ++ [u]) = trimName (value ++ [v]) := by
  have hlong : ∀ w, ¬ (value ++ [w]).length ≤ 120 := by
    intro w
    rw [List.length_append, List.length_singleton]
    omega
  unfold trimName
  rw [if_neg (hlong u), if_neg (hlong v), List.take_append_of_le_length h,
    List.take_append_of_le_length h]

/-- The name of an id in normal form: it is normalised once more, and does not change. -/
theorem prefixedName_of_normal (namePrefix : List UInt16) {v : String} (h : IsNormal v) :
    prefixedName namePrefix v = .ok (trimName (namePrefix ++ 45 :: codeUnits v.toList)) := by
  rw [prefixedName, normalizeSandboxId_eq_self h]
  rfl

/-- With room for a whole id, distinct ids get distinct names. -/
theorem prefixedName_ne {namePrefix : List UInt16} (hroom : namePrefix.length ≤ 55)
    {a b va vb : String} (ha : normalizeSandboxId a = .ok va) (hb : normalizeSandboxId b = .ok vb)
    (hne : va ≠ vb) : prefixedName namePrefix a ≠ prefixedName namePrefix b := by
  -- 55 units, the dash and 64 characters are not cut off
  have hfits : ∀ {v : String}, IsNormal v →
      (namePrefix ++ 45 :: codeUnits v.toList).length ≤ 120 := by
    intro v hv
    have hlength := hv.length_le
    rw [hv.isBasic.codeUnits_eq, List.length_append, List.length_cons, List.length_map]
    omega
  have hva := normalizeSandboxId_isNormal ha
  have hvb := normalizeSandboxId_isNormal hb
  unfold prefixedName
  rw [ha, hb]
  intro h
  have hnames : trimName (namePrefix ++ 45 :: codeUnits va.toList) =
      trimName (namePrefix ++ 45 :: codeUnits vb.toList) := Except.ok.inj h
  rw [trimName_of_le (hfits hva), trimName_of_le (hfits hvb)] at hnames
  have hunits := List.tail_eq_of_cons_eq (List.append_cancel_left hnames)
  exact hne (String.toList_inj.mp (codeUnits_injective hunits))

/-- An id of 64 characters that ends in `c`. -/
def longId (c : Char) : String := String.ofList (List.replicate 63 'a' ++ [c])

theorem isNormal_longId {c : Char} (hc : isLowerAlnum c = true) : IsNormal (longId c) := by
  obtain ⟨hid, hedge⟩ := isLowerAlnum_iff.mp hc
  -- every character is the letter of the run or the last one
  have hmem : ∀ d ∈ List.replicate 63 'a' ++ [c], d = 'a' ∨ d = c := by
    intro d hd
    rcases List.mem_append.mp hd with hd | hd
    · exact Or.inl (List.eq_of_mem_replicate hd)
    · exact Or.inr (List.mem_singleton.mp hd)
  refine isNormal_ofList ⟨by simp, by simp, fun d hd => ?_, fun d hd => ?_, fun d hd => ?_, ?_⟩
  · rcases hmem d hd with rfl | rfl
    · decide
    · exact hid
  · rw [← Option.some.inj hd]
    decide
  · rw [List.getLast?_concat] at hd
    rw [← Option.some.inj hd]
    exact hedge
  · refine noDouble_iff.mpr fun hdashes => ?_
    rcases hmem '-' (hdashes.subset List.mem_cons_self) with hdash | hdash
    · cases hdash
    · rw [← hdash] at hedge
      cases hedge

/-- Without, two ids that differ in their last character get the same name. -/
theorem prefixedName_longId {namePrefix : List UInt16} (h : 55 < namePrefix.length) {c d : Char}
    (hc : isLowerAlnum c = true) (hd : isLowerAlnum d = true) :
    prefixedName namePrefix (longId c) = prefixedName namePrefix (longId d) := by
  -- the last character is one unit, which stands behind the cut
  have hname : ∀ {e : Char}, isLowerAlnum e = true → prefixedName namePrefix (longId e) =
      .ok (trimName (namePrefix ++ 45 :: codeUnits (List.replicate 63 'a') ++
        [UInt16.ofNat e.toNat])) := by
    intro e he
    have hbasic := (isNormal_longId he).isBasic
    rw [longId, String.toList_ofList] at hbasic
    have hunits : charUnits e = [UInt16.ofNat e.toNat] :=
      if_pos (hbasic e (List.mem_append_right _ List.mem_cons_self))
    rw [prefixedName_of_normal namePrefix (isNormal_longId he), longId, String.toList_ofList,
      codeUnits, List.flatMap_append, List.flatMap_singleton, hunits]
    simp [codeUnits]
  rw [hname hc, hname hd, trimName_append]
  rw [List.length_append, List.length_cons]
  show 120 ≤ namePrefix.length + (63 + 1)
  omega

/-- **Distinct VM names.** Under a prefix, sandboxes with different normal forms get different VM
names, and likewise volumes different backend names, exactly when the prefix has at most 55 UTF-16
units: then the dash and a whole id fit before the cut. -/
theorem vmNames_distinct_iff (namePrefix : List UInt16) :
    (∀ a b va vb, normalizeSandboxId a = .ok va → normalizeSandboxId b = .ok vb → va ≠ vb →
      sandboxName namePrefix a ≠ sandboxName namePrefix b ∧
        volumeName namePrefix a ≠ volumeName namePrefix b) ↔ namePrefix.length ≤ 55 := by
  constructor
  · intro hdistinct
    by_contra hlong
    have hb := normalizeSandboxId_eq_self (isNormal_longId (c := 'b') rfl)
    have hc := normalizeSandboxId_eq_self (isNormal_longId (c := 'c') rfl)
    exact (hdistinct _ _ _ _ hb hc (by decide)).1
      (prefixedName_longId (by omega) rfl rfl)
  · intro hroom a b va vb ha hb hne
    exact ⟨prefixedName_ne hroom ha hb hne, prefixedName_ne hroom ha hb hne⟩

/-- A prefix of 56 letters, and two ids that differ in their last character: one VM name. -/
theorem long_prefix_merges_names :
    let namePrefix := String.ofList (List.replicate 56 'r')
    trimmed (some namePrefix) = some namePrefix ∧
      normalizeSandboxId (longId 'b') ≠ normalizeSandboxId (longId 'c') ∧
      sandboxName (codeUnits namePrefix.toList) (longId 'b') =
        sandboxName (codeUnits namePrefix.toList) (longId 'c') := by
  have hb := normalizeSandboxId_eq_self (isNormal_longId (c := 'b') rfl)
  have hc := normalizeSandboxId_eq_self (isNormal_longId (c := 'c') rfl)
  refine ⟨by decide, ?_, prefixedName_longId (by decide) rfl rfl⟩
  rw [hb, hc]
  decide

end RuntimeIdentity

end Microsandbox
