import Mathlib.Data.List.Chain
import Mathlib.Data.List.Infix
import Mathlib.Data.List.TakeWhile

/-!
# Text — the JavaScript string operations the services use

Strings are handled as lists of characters.

* **`trim`**, **`toLowerCase`**, **`includes`** — the `String.prototype` methods.
* **`replaceRuns`** — `replace(/[…]+/g, '…')` for a character class.
* **`stripStart` / `stripEnd`** — `replace(/^[…]+/, '')` and `replace(/[…]+$/, '')`.

Each operation comes with what it leaves alone, which is what a fixed-point argument needs.
-/

namespace Text

/-- White space and line terminators, as `trim` drops them. -/
def isSpace (c : Char) : Bool :=
  c.toNat ∈ [9, 10, 11, 12, 13, 32, 160, 5760, 8232, 8233, 8239, 8287, 12288, 65279]
    || (8192 ≤ c.toNat && c.toNat ≤ 8202)

/-- Drop the leading characters that satisfy `p`. -/
def stripStart (p : Char → Bool) (s : List Char) : List Char := s.dropWhile p

/-- Drop the trailing characters that satisfy `p`. -/
def stripEnd (p : Char → Bool) (s : List Char) : List Char := (s.reverse.dropWhile p).reverse

/-- `s.trim()`. -/
def trim (s : List Char) : List Char := stripEnd isSpace (stripStart isSpace s)

/-- Lower case of one character. Only the characters whose lower case holds an ASCII character
are listed (`A`–`Z`, the dotted capital I, the Kelvin sign); the lower case of any other
character stays outside ASCII, where the callers do not tell characters apart. -/
def lowerChar (c : Char) : List Char :=
  if 65 ≤ c.toNat ∧ c.toNat ≤ 90 then [Char.ofNat (c.toNat + 32)]
  else if c.toNat = 304 then ['i', Char.ofNat 775]
  else if c.toNat = 8490 then ['k']
  else [c]

/-- `s.toLowerCase()`. -/
def toLowerCase (s : List Char) : List Char := s.flatMap lowerChar

/-- `s.includes(part)`. -/
def includes (s part : String) : Bool := s.toList.tails.any fun t => part.toList.isPrefixOf t

/-- Replace each run of characters satisfying `p` by the single character `r`. `inRun` says that
the run at hand has already been written. -/
def replaceRunsFrom (p : Char → Bool) (r : Char) : Bool → List Char → List Char
  | _, [] => []
  | inRun, c :: cs =>
    if p c then
      if inRun then replaceRunsFrom p r true cs else r :: replaceRunsFrom p r true cs
    else c :: replaceRunsFrom p r false cs

/-- `s.replace(/[p]+/g, r)`. -/
def replaceRuns (p : Char → Bool) (r : Char) (s : List Char) : List Char :=
  replaceRunsFrom p r false s

/-! ## Splitting

`split` at one character is `List.splitOn`, which never returns the empty list. -/

section Split

variable {α : Type} [DecidableEq α] {a : α} {s x y : List α}

/-- A part of a text that was split does not hold the character it was split at. -/
theorem not_mem_of_mem_splitOn (h : x ∈ s.splitOn a) : a ∉ x := by
  induction s generalizing x with
  | nil =>
    rw [List.splitOn_nil, List.mem_singleton] at h
    simp [h]
  | cons c s ih =>
    rw [List.splitOn_cons_eq_if_modifyHead] at h
    split at h
    case isTrue =>
      rcases List.mem_cons.mp h with rfl | h
      · simp
      · exact ih h
    case isFalse hc =>
      obtain ⟨first, rest, hsplit⟩ := List.exists_cons_of_ne_nil (List.splitOn_ne_nil a s)
      rw [hsplit] at h ih
      rcases List.mem_cons.mp h with rfl | h
      · rw [List.mem_cons, not_or]
        exact ⟨fun heq => hc (by simp [← heq]), ih List.mem_cons_self⟩
      · exact ih (List.mem_cons_of_mem _ h)

/-- A text begins with the parts `x` and `y`. -/
theorem splitOn_eq_cons_cons : (∃ more, s.splitOn a = x :: y :: more) ↔
    a ∉ x ∧ a ∉ y ∧ ∃ rest, s = x ++ a :: (y ++ rest) ∧ (rest = [] ∨ ∃ t, rest = a :: t) := by
  constructor
  · rintro ⟨more, hsplit⟩
    have hx : a ∉ x := not_mem_of_mem_splitOn (s := s) (by simp [hsplit])
    have hy : a ∉ y := not_mem_of_mem_splitOn (s := s) (by simp [hsplit])
    have hjoin : [a].intercalate (s.splitOn a) = s := List.intercalate_splitOn a
    rw [hsplit] at hjoin
    refine ⟨hx, hy, ?_⟩
    cases more with
    | nil => exact ⟨[], by simp [← hjoin, List.intercalate_cons_cons], Or.inl rfl⟩
    | cons z more =>
      refine ⟨a :: [a].intercalate (z :: more), ?_, Or.inr ⟨_, rfl⟩⟩
      rw [← hjoin, List.intercalate_cons_cons, List.intercalate_cons_cons]
      simp
  · rintro ⟨hx, hy, rest, rfl, rfl | ⟨t, rfl⟩⟩
    · refine ⟨[], ?_⟩
      rw [List.append_nil, List.splitOn_append_cons_self_of_not_mem hx, List.splitOn_eq_singleton hy]
    · refine ⟨t.splitOn a, ?_⟩
      rw [List.splitOn_append_cons_self_of_not_mem hx, List.splitOn_append_cons_self_of_not_mem hy]

end Split

/-! ## Stripping

Two functions take the characters of a class off the ends of a text. `trim` is both, for the white
space of JavaScript. -/

/-- Stripping the start leaves an end of the text. -/
theorem stripStart_isSuffix (p : Char → Bool) (s : List Char) : stripStart p s <:+ s :=
  List.dropWhile_suffix p

/-- Stripping the end leaves a start of the text. -/
theorem stripEnd_isPrefix (p : Char → Bool) (s : List Char) : stripEnd p s <+: s := by
  have h : s.reverse.dropWhile p <:+ s.reverse := List.dropWhile_suffix p
  rw [← List.reverse_prefix] at h
  simpa [stripEnd] using h

/-- What is left does not begin with a character of the class. -/
theorem head_stripStart {p : Char → Bool} {s : List Char} {c : Char}
    (h : (stripStart p s).head? = some c) : p c = false := by
  unfold stripStart at h
  induction s with
  | nil => simp at h
  | cons d s ih =>
    by_cases hd : p d
    · rw [List.dropWhile_cons_of_pos hd] at h
      exact ih h
    · rw [List.dropWhile_cons_of_neg hd] at h
      simp only [List.head?_cons, Option.some.injEq] at h
      subst h
      simpa using hd

/-- What is left does not end with a character of the class. -/
theorem getLast_stripEnd {p : Char → Bool} {s : List Char} {c : Char}
    (h : (stripEnd p s).getLast? = some c) : p c = false := by
  unfold stripEnd at h
  rw [List.getLast?_reverse] at h
  exact head_stripStart h

/-- A text that does not begin with one is left alone. -/
theorem stripStart_eq_self {p : Char → Bool} {s : List Char}
    (h : ∀ c, s.head? = some c → p c = false) : stripStart p s = s := by
  cases s with
  | nil => rfl
  | cons c s =>
    have hc := h c rfl
    exact List.dropWhile_cons_of_neg (by simp [hc])

/-- A text that does not end with one is left alone. -/
theorem stripEnd_eq_self {p : Char → Bool} {s : List Char}
    (h : ∀ c, s.getLast? = some c → p c = false) : stripEnd p s = s := by
  have hrev : stripStart p s.reverse = s.reverse := by
    apply stripStart_eq_self
    intro c hc
    rw [List.head?_reverse] at hc
    exact h c hc
  unfold stripEnd
  rw [show s.reverse.dropWhile p = s.reverse from hrev, List.reverse_reverse]

/-- Stripping the end keeps the first character when that one stays. -/
theorem head_stripEnd {p : Char → Bool} {s : List Char} {c : Char} (h : s.head? = some c)
    (hc : p c = false) : (stripEnd p s).head? = some c := by
  obtain ⟨rest, hrest⟩ := stripEnd_isPrefix p s
  cases hs : stripEnd p s with
  | nil =>
    have hall : ∀ d ∈ s.reverse, p d = true := by
      have : s.reverse.dropWhile p = [] := by simpa [stripEnd] using hs
      exact List.dropWhile_eq_nil_iff.mp this
    have hmem : c ∈ s.reverse := by
      rw [List.mem_reverse]
      exact List.mem_of_mem_head? h
    simp [hall c hmem] at hc
  | cons d ds =>
    rw [hs] at hrest
    rw [← hrest] at h
    simpa using h

/-- What stands between strippable characters, and neither begins nor ends with one, is left. -/
theorem strip_core {p : Char → Bool} {lead core trail : List Char} (hlead : ∀ c ∈ lead, p c = true)
    (hne : core ≠ []) (hhead : ∀ c, core.head? = some c → p c = false)
    (hlast : ∀ c, core.getLast? = some c → p c = false) (htrail : ∀ c ∈ trail, p c = true) :
    stripEnd p (stripStart p (lead ++ core ++ trail)) = core := by
  have hstart : stripStart p (lead ++ core ++ trail) = core ++ trail := by
    rw [List.append_assoc, stripStart, List.dropWhile_append_of_pos hlead]
    refine stripStart_eq_self fun c hc => hhead c ?_
    rwa [List.head?_append_of_ne_nil _ hne] at hc
  have hrev : ∀ c ∈ trail.reverse, p c = true := fun c hc => htrail c (List.mem_reverse.mp hc)
  rw [hstart, stripEnd, List.reverse_append, List.dropWhile_append_of_pos hrev]
  exact stripEnd_eq_self hlast

/-- Stripping keeps what is not to be stripped. -/
theorem mem_stripStart {p : Char → Bool} {s : List Char} {c : Char} (hc : p c = false) :
    c ∈ stripStart p s ↔ c ∈ s := by
  refine ⟨fun h => (stripStart_isSuffix p s).subset h, fun h => ?_⟩
  rw [← List.takeWhile_append_dropWhile (p := p) (l := s), List.mem_append] at h
  rcases h with htaken | hleft
  · rw [List.mem_takeWhile_imp htaken] at hc
    cases hc
  · exact hleft

/-- A character outside the class is never lost. -/
theorem mem_stripEnd {p : Char → Bool} {s : List Char} {c : Char} (hc : p c = false) :
    c ∈ stripEnd p s ↔ c ∈ s := by
  have hrev := mem_stripStart (s := s.reverse) hc
  rw [List.mem_reverse] at hrev
  rw [stripEnd, List.mem_reverse]
  exact hrev

/-- A character that is not white space survives trimming. -/
theorem mem_trim {s : List Char} {c : Char} (hc : isSpace c = false) : c ∈ trim s ↔ c ∈ s := by
  rw [trim, mem_stripEnd hc, mem_stripStart hc]

theorem stripEnd_nil (p : Char → Bool) : stripEnd p [] = [] := rfl

/-- Nothing is left exactly when everything is to be stripped. -/
theorem strip_eq_nil_iff {p : Char → Bool} {s : List Char} :
    stripEnd p (stripStart p s) = [] ↔ ∀ c ∈ s, p c = true := by
  constructor
  · intro h c hc
    by_contra hp
    have hmem : c ∈ stripEnd p (stripStart p s) := by
      rwa [mem_stripEnd (by simpa using hp), mem_stripStart (by simpa using hp)]
    rw [h] at hmem
    cases hmem
  · intro h
    rw [show stripStart p s = [] from List.dropWhile_eq_nil_iff.mpr h, stripEnd_nil]

/-- A text without white space is left alone. -/
theorem trim_eq_self {s : List Char} (h : ∀ c ∈ s, isSpace c = false) : trim s = s := by
  have hstart : stripStart isSpace s = s :=
    stripStart_eq_self fun c hc => h c (List.mem_of_mem_head? hc)
  unfold trim
  rw [hstart]
  exact stripEnd_eq_self fun c hc => h c (List.mem_of_mem_getLast? hc)

theorem trim_trim (s : List Char) : trim (trim s) = trim s := by
  have hlast : ∀ c, (trim s).getLast? = some c → isSpace c = false := fun c hc =>
    getLast_stripEnd hc
  have hhead : ∀ c, (trim s).head? = some c → isSpace c = false := by
    intro c hc
    obtain ⟨rest, hrest⟩ := stripEnd_isPrefix isSpace (stripStart isSpace s)
    refine head_stripStart (s := s) ?_
    rw [← hrest, List.head?_append, show (stripEnd isSpace (stripStart isSpace s)).head? = some c
      from hc]
    rfl
  change stripEnd isSpace (stripStart isSpace (trim s)) = trim s
  rw [stripStart_eq_self hhead, stripEnd_eq_self hlast]

/-! ## Lower case

One character may become two in lower case: the dotted capital I does. Where every character is its
own lower case, so is the text. -/

/-- A text that is in lower case stays as it is. -/
theorem toLowerCase_eq_self {s : List Char} (h : ∀ c ∈ s, lowerChar c = [c]) :
    toLowerCase s = s := by
  induction s with
  | nil => rfl
  | cons c s ih =>
    simp only [toLowerCase, List.flatMap_cons] at ih ⊢
    rw [h c List.mem_cons_self, ih fun d hd => h d (List.mem_cons_of_mem c hd)]
    rfl

/-! ## Replacing runs

A run of characters of the class becomes one replacement. The function carries whether it is inside
a run, and the lemmas are proved for both cases at once. -/

/-- A character of the result is the replacement, or was there and is not of the class. Induction on
the text, inside a run or not. -/
theorem mem_replaceRunsFrom {p : Char → Bool} {r : Char} {inRun : Bool} {s : List Char} {c : Char}
    (h : c ∈ replaceRunsFrom p r inRun s) : c = r ∨ (c ∈ s ∧ p c = false) := by
  induction s generalizing inRun with
  | nil => simp [replaceRunsFrom] at h
  | cons d s ih =>
    have hrec : ∀ b, c ∈ replaceRunsFrom p r b s → c = r ∨ (c ∈ d :: s ∧ p c = false) :=
      fun b hb => (ih hb).imp_right fun ⟨hmem, hp⟩ => ⟨List.mem_cons_of_mem d hmem, hp⟩
    unfold replaceRunsFrom at h
    split_ifs at h with hd hrun
    · exact hrec _ h
    · rcases List.mem_cons.mp h with rfl | h
      · exact Or.inl rfl
      · exact hrec _ h
    · rcases List.mem_cons.mp h with rfl | h
      · exact Or.inr ⟨List.mem_cons_self, by simpa using hd⟩
      · exact hrec _ h

/-- Replacing runs neither adds nor drops a character other than `r` outside the runs. -/
theorem mem_replaceRunsFrom_iff {p : Char → Bool} {r : Char} {inRun : Bool} {s : List Char}
    {c : Char} (hr : c ≠ r) : c ∈ replaceRunsFrom p r inRun s ↔ c ∈ s ∧ p c = false := by
  refine ⟨fun h => (mem_replaceRunsFrom h).resolve_left hr, ?_⟩
  rintro ⟨hmem, hp⟩
  induction s generalizing inRun with
  | nil => cases hmem
  | cons d s ih =>
    unfold replaceRunsFrom
    rcases List.mem_cons.mp hmem with rfl | hmem
    · rw [if_neg (by simp [hp])]
      exact List.mem_cons_self
    · split_ifs
      · exact ih hmem
      · exact List.mem_cons_of_mem r (ih hmem)
      · exact List.mem_cons_of_mem d (ih hmem)

/-- A character other than the replacement is kept just when it is not of the class. -/
theorem mem_replaceRuns_iff {p : Char → Bool} {r : Char} {s : List Char} {c : Char}
    (hr : c ≠ r) : c ∈ replaceRuns p r s ↔ c ∈ s ∧ p c = false :=
  mem_replaceRunsFrom_iff hr

/-- A text without characters of the class is left alone. -/
theorem replaceRuns_eq_self {p : Char → Bool} {r : Char} {s : List Char}
    (h : ∀ c ∈ s, p c = false) : replaceRuns p r s = s := by
  unfold replaceRuns
  induction s with
  | nil => rfl
  | cons c s ih =>
    unfold replaceRunsFrom
    rw [if_neg (by simp [h c List.mem_cons_self]), ih fun d hd => h d (List.mem_cons_of_mem c hd)]

/-- No two neighbours are both `r`. -/
def NoDouble (r : Char) (s : List Char) : Prop := s.IsChain fun a b => ¬ (a = r ∧ b = r)

theorem noDouble_iff {r : Char} {s : List Char} : NoDouble r s ↔ ¬ [r, r] <:+: s := by
  constructor
  · intro h hinfix
    have hpair : NoDouble r [r, r] := List.IsChain.infix h hinfix
    simp [NoDouble] at hpair
  · intro h
    induction s with
    | nil => exact .nil
    | cons c s ih =>
      refine List.isChain_cons.mpr ⟨?_, ih fun hs => h (hs.trans (List.suffix_cons c s).isInfix)⟩
      rintro d hd ⟨rfl, rfl⟩
      obtain ⟨rest, rfl⟩ := List.head?_eq_some_iff.mp hd
      exact h ⟨[], rest, rfl⟩

/-- A part of a text without doubled `r` has none either. -/
theorem NoDouble.of_isInfix {r : Char} {s t : List Char} (h : NoDouble r t) (hst : s <:+: t) :
    NoDouble r s :=
  List.IsChain.infix h hst

/-- After the runs of `r` are replaced by one `r` each, no two neighbours are both `r`. The
induction also says that inside a run the text does not go on with `r`. -/
theorem noDouble_replaceRunsFrom (r : Char) (inRun : Bool) (s : List Char) :
    NoDouble r (replaceRunsFrom (· == r) r inRun s) ∧
      (inRun = true → ∀ c, (replaceRunsFrom (· == r) r inRun s).head? = some c → c ≠ r) := by
  induction s generalizing inRun with
  | nil => exact ⟨.nil, fun _ c hc => by simp [replaceRunsFrom] at hc⟩
  | cons d s ih =>
    unfold replaceRunsFrom
    split_ifs with hd hrun
    · exact ⟨(ih true).1, fun _ => (ih true).2 rfl⟩
    · refine ⟨?_, fun h => absurd h hrun⟩
      refine List.isChain_cons.mpr ⟨fun c hc => ?_, (ih true).1⟩
      exact fun hboth => (ih true).2 rfl c hc hboth.2
    · have hne : d ≠ r := by simpa using hd
      refine ⟨List.isChain_cons.mpr ⟨fun c _ hboth => hne hboth.1, (ih false).1⟩, ?_⟩
      intro _ c hc
      simp only [List.head?_cons, Option.some.injEq] at hc
      exact hc ▸ hne

theorem noDouble_replaceRuns (r : Char) (s : List Char) :
    NoDouble r (replaceRuns (· == r) r s) :=
  (noDouble_replaceRunsFrom r false s).1

/-- Without doubled `r`, replacing the runs of `r` by `r` changes nothing. -/
theorem replaceRuns_eq_self_of_noDouble {r : Char} {s : List Char} (h : NoDouble r s) :
    replaceRuns (· == r) r s = s := by
  suffices ∀ inRun, NoDouble r s → (inRun = true → ∀ c, s.head? = some c → c ≠ r) →
      replaceRunsFrom (· == r) r inRun s = s from
    this false h (fun hf => by simp at hf)
  clear h
  induction s with
  | nil => intro _ _ _; rfl
  | cons d s ih =>
    intro inRun hchain hhead
    obtain ⟨hnext, hchain⟩ := List.isChain_cons.mp hchain
    unfold replaceRunsFrom
    split_ifs with hd hrun
    · exact absurd (by simpa using hd) (hhead hrun d rfl)
    · have hdr : d = r := by simpa using hd
      rw [ih true hchain fun _ c hc hcr => hnext c hc ⟨hdr, hcr⟩, hdr]
    · rw [ih false hchain fun hf => by simp at hf]

end Text
