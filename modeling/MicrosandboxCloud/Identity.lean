import Mathlib.Data.List.DropRight
import MicrosandboxCloud.Entities
import MicrosandboxCloud.Text.Utf16

/-!
# Microsandbox — identifiers

`RuntimeIdentityService` and the identifier functions of `RuntimeRegistryService`: how a
requested id or name becomes the stored one, and how a stored id becomes the name of its VM.

* **`normalizeSandboxId`** — the normal form of an id or name.
* **`RuntimeIdentity.trimName`** — VM and volume names, cut at 120 UTF-16 code units.
* **`IsNormal`** — what a normal form looks like. `normalizeSandboxId_isNormal` and
  `normalizeSandboxId_eq_self` say that it is exactly the fixed points, so a stored id is looked
  up under itself.
-/

namespace Microsandbox

open Text

/-! ## Normal forms

`normalizeSegment` trims a text, puts it in lower case, replaces what is not allowed, strips the
ends and cuts it at 64 characters. Ids and names are stored in this form, and every lookup brings
its value into it first. -/

/-- The characters `[a-z0-9._-]`. -/
def isIdChar (c : Char) : Bool :=
  (97 ≤ c.toNat && c.toNat ≤ 122) || (48 ≤ c.toNat && c.toNat ≤ 57)
    || c == '.' || c == '_' || c == '-'

/-- The characters `[._-]`, stripped from both ends. -/
def isEdgeChar (c : Char) : Bool := c == '.' || c == '_' || c == '-'

/-- The text of `normalizeSegment` before its length is checked. -/
def normalizeChars (value : List Char) : List Char :=
  stripEnd isEdgeChar (stripStart isEdgeChar
    (replaceRuns (· == '-') '-'
      (replaceRuns (fun c => !isIdChar c) '-' (toLowerCase (trim value)))))

/-- A text of which nothing is left is refused; the exception names the field. -/
def normalizeSegment (value fieldName : String) : Except ServiceError String :=
  let normalized := normalizeChars value.toList
  if normalized = [] then
    .error ⟨.error, fieldName ++ " is required"⟩
  else if normalized.length > 64 then
    -- `… || normalized.slice(0, 64)` takes over when nothing is left after the strip
    if stripEnd isEdgeChar (normalized.take 64) = [] then
      .ok (String.ofList (normalized.take 64))
    else .ok (String.ofList (stripEnd isEdgeChar (normalized.take 64)))
  else .ok (String.ofList normalized)

/-- An id is a segment. -/
def normalizeSandboxId (value : String) : Except ServiceError String :=
  normalizeSegment value "sandboxId"

/-- `registry.normalizeName`: an absent or blank name is no name. -/
def normalizeName (value : Option String) : Except ServiceError (Option String) :=
  match value with
  | none => .ok none
  | some v => if trim v.toList = [] then .ok none else (normalizeSandboxId v).map some

/-- `registry.createSandboxId`. `hex` stands for `randomBytes(8).toString('hex')`. -/
def createSandboxId (seed : Option String) (hex : String) : Except ServiceError String :=
  match trimmed seed, seed with
  | some _, some v => normalizeSandboxId v
  | _, _ => normalizeSandboxId hex

/-- Does `createSandboxId` draw a random id? -/
def needsRandomId (seed : Option String) : Bool := (trimmed seed).isNone

/-! ## VM and volume names

The name of a VM is the prefix of the configuration and the id, cut at 120 units. A prefix may have
any characters, so that the cut is made on UTF-16 code units, as JavaScript counts. -/

/-- `[._-]` -/
def isEdgeUnit (u : UInt16) : Bool := u == 46 || u == 95 || u == 45

namespace RuntimeIdentity

/-- `trimName`, on code units: the cut may fall between the halves of a character. -/
def trimName (value : List UInt16) : List UInt16 :=
  if value.length ≤ 120 then value else (value.take 120).rdropWhile isEdgeUnit

/-- `` trimName(`${prefix}-${normalized}`) `` -/
def prefixedName (namePrefix : List UInt16) (sandboxId : String) :
    Except ServiceError (List UInt16) :=
  (normalizeSandboxId sandboxId).map fun normalized =>
    trimName (namePrefix ++ 45 :: codeUnits normalized.toList)

/-- The name of a VM. -/
def sandboxName (namePrefix : List UInt16) (sandboxId : String) :
    Except ServiceError (List UInt16) :=
  prefixedName namePrefix sandboxId

/-- Volumes get their names in the same way under a prefix of their own. -/
def volumeName (namePrefix : List UInt16) (sandboxId : String) :
    Except ServiceError (List UInt16) :=
  prefixedName namePrefix sandboxId

end RuntimeIdentity

/-- A name as the database and the backend take it: in UTF-8, where half a character left by the
cut becomes U+FFFD. -/
def nameText (units : List UInt16) : String := String.ofList (toScalars units)

/-- `registry.sandboxName`: the VM name of a sandbox. -/
def sandboxName (cfg : AppConfig) (sandboxId : String) : Except ServiceError String :=
  (RuntimeIdentity.sandboxName (codeUnits cfg.sandboxNamePrefix.toList) sandboxId).map nameText

/-- `registry.volumeBackendName`. -/
def volumeBackendName (volumeNamePrefix volumeId : String) : Except ServiceError String :=
  (RuntimeIdentity.volumeName (codeUnits volumeNamePrefix.toList) volumeId).map nameText

/-! ## What a normal form looks like

The normal forms, described without the function, and that the function gives them and leaves them
alone. Everything that needs to know about stored ids uses `IsNormal`. -/

/-- The characters of a normal form. -/
structure IsNormalChars (s : List Char) : Prop where
  nonempty : s ≠ []
  length_le : s.length ≤ 64
  idChars : ∀ c ∈ s, isIdChar c = true
  head : ∀ c, s.head? = some c → isEdgeChar c = false
  last : ∀ c, s.getLast? = some c → isEdgeChar c = false
  noDouble : NoDouble '-' s

/-- `v` is an id in normal form. -/
def IsNormal (v : String) : Prop := IsNormalChars v.toList

theorem lowerChar_of_isIdChar {c : Char} (h : isIdChar c = true) : lowerChar c = [c] := by
  have hc : ¬ (65 ≤ c.toNat ∧ c.toNat ≤ 90) ∧ c.toNat ≠ 304 ∧ c.toNat ≠ 8490 := by
    simp only [isIdChar, Bool.or_eq_true, Bool.and_eq_true, decide_eq_true_eq, beq_iff_eq] at h
    rcases h with (((⟨h1, h2⟩ | ⟨h1, h2⟩) | rfl) | rfl) | rfl
    · omega
    · omega
    all_goals decide
  unfold lowerChar
  rw [if_neg hc.1, if_neg hc.2.1, if_neg hc.2.2]

theorem isSpace_of_isIdChar {c : Char} (h : isIdChar c = true) : isSpace c = false := by
  simp only [isIdChar, Bool.or_eq_true, Bool.and_eq_true, decide_eq_true_eq, beq_iff_eq] at h
  rcases h with (((⟨h1, h2⟩ | ⟨h1, h2⟩) | rfl) | rfl) | rfl
  · simp only [isSpace, List.mem_cons, List.not_mem_nil, or_false, Bool.or_eq_false_iff,
      decide_eq_false_iff_not, Bool.and_eq_false_iff]
    omega
  · simp only [isSpace, List.mem_cons, List.not_mem_nil, or_false, Bool.or_eq_false_iff,
      decide_eq_false_iff_not, Bool.and_eq_false_iff]
    omega
  all_goals decide

/-- Every step of the normalisation leaves a normal form alone. -/
theorem normalizeChars_eq_self {s : List Char} (h : IsNormalChars s) : normalizeChars s = s := by
  have htrim : trim s = s := trim_eq_self fun c hc => isSpace_of_isIdChar (h.idChars c hc)
  have hlower : toLowerCase s = s :=
    toLowerCase_eq_self fun c hc => lowerChar_of_isIdChar (h.idChars c hc)
  have hother : replaceRuns (fun c => !isIdChar c) '-' s = s :=
    replaceRuns_eq_self fun c hc => by simp [h.idChars c hc]
  unfold normalizeChars
  rw [htrim, hlower, hother, replaceRuns_eq_self_of_noDouble h.noDouble,
    stripStart_eq_self h.head, stripEnd_eq_self h.last]

/-- A stored id is looked up under itself. -/
theorem normalizeSandboxId_eq_self {v : String} (h : IsNormal v) :
    normalizeSandboxId v = .ok v := by
  have hlen := h.length_le
  unfold normalizeSandboxId normalizeSegment
  simp only [normalizeChars_eq_self h]
  rw [if_neg h.nonempty, if_neg (by omega), String.ofList_toList]

/-- Before its length is checked, the text is a normal form but for its length. -/
theorem normalizeChars_spec (value : List Char) :
    (∀ c ∈ normalizeChars value, isIdChar c = true) ∧
    (∀ c, (normalizeChars value).head? = some c → isEdgeChar c = false) ∧
    (∀ c, (normalizeChars value).getLast? = some c → isEdgeChar c = false) ∧
    NoDouble '-' (normalizeChars value) := by
  let replaced := replaceRuns (fun c => !isIdChar c) '-' (toLowerCase (trim value))
  let joined := replaceRuns (· == '-') '-' replaced
  let started := stripStart isEdgeChar joined
  -- stripping leaves a part of what the replacements have made
  have hpart : normalizeChars value <:+: joined :=
    (stripEnd_isPrefix isEdgeChar started).isInfix.trans
      (stripStart_isSuffix isEdgeChar joined).isInfix
  have hchars : ∀ c ∈ replaced, isIdChar c = true := by
    intro c hc
    rcases mem_replaceRunsFrom hc with rfl | ⟨_, hp⟩
    · decide
    · simpa using hp
  refine ⟨fun c hc => ?_, fun c hc => ?_, fun c hc => getLast_stripEnd hc, ?_⟩
  · rcases mem_replaceRunsFrom (hpart.subset hc) with rfl | ⟨hmem, _⟩
    · decide
    · exact hchars c hmem
  -- stripping the end does not touch the first character
  · obtain ⟨rest, hrest⟩ := stripEnd_isPrefix isEdgeChar started
    refine head_stripStart (s := joined) ?_
    change started.head? = some c
    rw [← hrest, List.head?_append, show (stripEnd isEdgeChar started).head? = some c from hc]
    rfl
  · exact (noDouble_replaceRuns '-' replaced).of_isInfix hpart

/-- The cut at 64 characters keeps a normal form: the first character stays, so the strip leaves
something. -/
theorem isNormalChars_cut {s : List Char} (hne : s ≠ []) (hchars : ∀ c ∈ s, isIdChar c = true)
    (hhead : ∀ c, s.head? = some c → isEdgeChar c = false) (hdouble : NoDouble '-' s) :
    IsNormalChars (stripEnd isEdgeChar (s.take 64)) := by
  have hpart : stripEnd isEdgeChar (s.take 64) <+: s :=
    (stripEnd_isPrefix isEdgeChar _).trans (List.take_prefix 64 s)
  obtain ⟨c, cs, rfl⟩ := List.exists_cons_of_ne_nil hne
  have hc : isEdgeChar c = false := hhead c rfl
  -- the cut and the strip keep the first character, which is no edge character
  have hstart : (stripEnd isEdgeChar ((c :: cs).take 64)).head? = some c :=
    head_stripEnd rfl hc
  refine ⟨fun h => ?_, ?_, fun d hd => hchars d (hpart.subset hd), ?_,
    fun d hd => getLast_stripEnd hd, hdouble.of_isInfix hpart.isInfix⟩
  · rw [h] at hstart
    cases hstart
  · exact (stripEnd_isPrefix isEdgeChar _).length_le.trans (List.length_take_le 64 _)
  · intro d hd
    rw [hstart] at hd
    cases hd
    exact hc

/-- The same for a text made of the characters. -/
theorem isNormal_ofList {s : List Char} (h : IsNormalChars s) : IsNormal (String.ofList s) := by
  unfold IsNormal
  rw [String.toList_ofList]
  exact h

theorem normalizeSandboxId_isNormal {value v : String} (h : normalizeSandboxId value = .ok v) :
    IsNormal v := by
  obtain ⟨hchars, hhead, hlast, hdouble⟩ := normalizeChars_spec value.toList
  unfold normalizeSandboxId normalizeSegment at h
  generalize normalizeChars value.toList = s at *
  simp only at h
  split_ifs at h with hempty hlong hnone
  · exact absurd hnone (isNormalChars_cut hempty hchars hhead hdouble).nonempty
  · rw [← Except.ok.inj h]
    exact isNormal_ofList (isNormalChars_cut hempty hchars hhead hdouble)
  · rw [← Except.ok.inj h]
    exact isNormal_ofList ⟨hempty, by omega, hchars, hhead, hlast, hdouble⟩

/-- Normalising again changes nothing. -/
theorem normalizeSandboxId_idem {value v : String} (h : normalizeSandboxId value = .ok v) :
    normalizeSandboxId v = .ok v :=
  normalizeSandboxId_eq_self (normalizeSandboxId_isNormal h)

/-- Every id is one, whether it was asked for or drawn. -/
theorem createSandboxId_isNormal {seed : Option String} {hex v : String}
    (h : createSandboxId seed hex = .ok v) : IsNormal v := by
  unfold createSandboxId at h
  split at h <;> exact normalizeSandboxId_isNormal h

theorem normalizeName_isNormal {value : Option String} {v : String}
    (h : normalizeName value = .ok (some v)) : IsNormal v := by
  unfold normalizeName at h
  split at h
  · simp at h
  · rename_i w
    split_ifs at h with hblank
    · simp at h
    · cases hw : normalizeSandboxId w with
      | error e => simp [hw, Except.map] at h
      | ok u =>
        simp only [hw, Except.map, Except.ok.injEq, Option.some.injEq] at h
        exact h ▸ normalizeSandboxId_isNormal hw

/-- A text in normal form is not blank. -/
theorem IsNormal.trim_ne_nil {v : String} (h : IsNormal v) : trim v.toList ≠ [] := by
  rw [trim_eq_self fun c hc => isSpace_of_isIdChar (h.idChars c hc)]
  exact h.nonempty

/-- A stored name is its own normal form. -/
theorem normalizeName_eq_self {v : String} (h : IsNormal v) :
    normalizeName (some v) = .ok (some v) := by
  simp [normalizeName, h.trim_ne_nil, normalizeSandboxId_eq_self h, Except.map]

end Microsandbox
