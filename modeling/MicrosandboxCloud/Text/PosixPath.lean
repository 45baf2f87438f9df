import MicrosandboxCloud.Text.Chars

/-!
# Text — POSIX paths

`normalize` and `dirname` of a POSIX path library, on lists of characters.

* **`resolve`** — the segments of a path once `.` and `..` are resolved, kept on a stack.
* **`normalize` / `dirname`** — as documented: repeated slashes are one, a trailing slash stays, and
  `dirname` ignores it.
* **`Settled`** — what `resolve` leaves and does not change. A prefix of a settled path is settled.
* **`ProperAncestor`** — the directories above a path, other than the root and `.`.
-/

namespace Text.PosixPath

/-- What stands between two slashes. -/
abbrev Segment := List Char

/-- The path begins at the root. -/
def isAbsolute (path : List Char) : Bool := path.head? == some '/'

/-- The path ends with a slash. -/
def hasTrailingSlash (path : List Char) : Bool := path.getLast? == some '/'

/-- The next segment, on the stack of those before it. -/
def place (allowAboveRoot : Bool) (stack : List Segment) (seg : Segment) : List Segment :=
  if seg = [] ∨ seg = ['.'] then stack
  else if seg = ['.', '.'] then
    match stack with
    | [] => if allowAboveRoot then [seg] else []
    | top :: below =>
      if top = ['.', '.'] then if allowAboveRoot then seg :: top :: below else top :: below
      else below
  else seg :: stack

/-- The segments of a path without `.` and, as far as the path allows, without `..`. -/
def resolve (allowAboveRoot : Bool) (segs : List Segment) : List Segment :=
  (segs.foldl (place allowAboveRoot) []).reverse

/-- Segments with slashes between them. -/
def join (segs : List Segment) : List Char := ['/'].intercalate segs

/-- The path of the resolved segments, without the slashes at its ends. -/
def normalizeString (path : List Char) (allowAboveRoot : Bool) : List Char :=
  join (resolve allowAboveRoot (path.splitOn '/'))

/-- `path.normalize`. A path of which nothing is left is the root or the current directory. -/
def normalize (path : List Char) : List Char :=
  if path = [] then ['.']
  else
    let resolved := normalizeString path (!isAbsolute path)
    if resolved = [] then
      if isAbsolute path then ['/'] else if hasTrailingSlash path then ['.', '/'] else ['.']
    else
      (if isAbsolute path then ['/'] else []) ++ resolved ++
        (if hasTrailingSlash path then ['/'] else [])

/-- The text before the last slash that has a segment after it. The first character is never that
slash. -/
def dirname : List Char → List Char
  | [] => ['.']
  | c :: rest =>
    match (rest.reverse.dropWhile (· == '/')).dropWhile (· != '/') with
    | [] => if c = '/' then ['/'] else ['.']
    | _ :: before => if c = '/' ∧ before = [] then ['/', '/'] else c :: before.reverse

/-- A path of these segments. -/
def spell (absolute : Bool) (segs : List Segment) : List Char :=
  (if absolute then ['/'] else []) ++ join segs

/-- The segments of a path that has no empty ones. -/
def segments (path : List Char) : List Segment := (path.splitOn '/').filter (· ≠ [])

/-- `dir` is above the normalised `path`, and neither the root nor `.`. -/
def ProperAncestor (path dir : List Char) : Prop :=
  ∃ segs, segs <+: segments path ∧ segs ≠ [] ∧ segs ≠ segments path ∧
    dir = spell (isAbsolute path) segs

/-! ## Splitting

Joining and splitting undo each other for segments without slashes. -/

/-- The segments of a path that was joined. -/
theorem splitOn_join {segs : List Segment} (hslash : ∀ seg ∈ segs, '/' ∉ seg) (hne : segs ≠ []) :
    (join segs).splitOn '/' = segs :=
  List.splitOn_intercalate '/' hslash hne

/-! ## Settled segments

What `resolve` leaves has a shape: steps up come first and only in a relative path, and every other
segment names something. The shape is defined on the stack, since `place` works there; `resolve`
does not change what has it. -/

/-- A segment that names something. -/
def Named (seg : Segment) : Prop := seg ≠ [] ∧ seg ≠ ['.'] ∧ '/' ∉ seg

/-- A stack that `place` may leave: steps up stand at its bottom, and only in a relative path. -/
inductive SettledStack (allowAboveRoot : Bool) : List Segment → Prop where
  | nil : SettledStack allowAboveRoot []
  | up {stack : List Segment} (habove : allowAboveRoot = true) (hups : ∀ s ∈ stack, s = ['.', '.'])
      (hstack : SettledStack allowAboveRoot stack) :
      SettledStack allowAboveRoot (['.', '.'] :: stack)
  | name {seg : Segment} {stack : List Segment} (hseg : Named seg) (hup : seg ≠ ['.', '.'])
      (hstack : SettledStack allowAboveRoot stack) : SettledStack allowAboveRoot (seg :: stack)

/-- Segments that `resolve` leaves. -/
def Settled (allowAboveRoot : Bool) (segs : List Segment) : Prop :=
  SettledStack allowAboveRoot segs.reverse

section Settled

variable {above : Bool} {stack segs : List Segment} {seg : Segment}

/-- What lies under the top of a settled stack is settled. -/
theorem SettledStack.tail (h : SettledStack above (seg :: stack)) : SettledStack above stack := by
  cases h with
  | up _ _ hstack => exact hstack
  | name _ _ hstack => exact hstack

/-- A settled stack holds no empty segment and no `.`. -/
theorem SettledStack.named (h : SettledStack above stack) : ∀ s ∈ stack, Named s := by
  induction h with
  | nil => simp
  | up _ _ _ ih => exact List.forall_mem_cons.mpr ⟨by simp [Named], ih⟩
  | name hseg _ _ ih => exact List.forall_mem_cons.mpr ⟨hseg, ih⟩

/-- Once there is a step up at the top, there are only steps up. -/
theorem SettledStack.ups (h : SettledStack above (['.', '.'] :: stack)) :
    above = true ∧ ∀ s ∈ stack, s = ['.', '.'] := by
  cases h with
  | up habove hups _ => exact ⟨habove, hups⟩
  | name _ hup _ => exact absurd rfl hup

/-- Placing a segment keeps the stack settled. The cases are those of `place`. -/
theorem SettledStack.place (h : SettledStack above stack) (hslash : '/' ∉ seg) :
    SettledStack above (place above stack seg) := by
  unfold PosixPath.place
  split
  case isTrue => exact h
  case isFalse hblank =>
    obtain ⟨hne, hdot⟩ := not_or.mp hblank
    split
    case isTrue hup =>
      subst hup
      cases stack with
      | nil =>
        -- nothing is above the root
        cases above with
        | false => exact .nil
        | true => exact .up rfl (by simp) .nil
      | cons top below =>
        by_cases htop : top = ['.', '.']
        · subst htop
          obtain ⟨rfl, hups⟩ := h.ups
          exact .up rfl (List.forall_mem_cons.mpr ⟨rfl, hups⟩) h
        · simp only [htop, if_false]
          exact h.tail
    case isFalse hup => exact .name ⟨hne, hdot, hslash⟩ hup h

/-- So does placing all segments of a path. -/
theorem SettledStack.foldl_place (h : SettledStack above stack)
    (hslash : ∀ seg ∈ segs, '/' ∉ seg) :
    SettledStack above (segs.foldl (PosixPath.place above) stack) := by
  induction segs generalizing stack with
  | nil => exact h
  | cons seg segs ih =>
    obtain ⟨hseg, hsegs⟩ := List.forall_mem_cons.mp hslash
    exact ih (h.place hseg) hsegs

/-- What `resolve` leaves of a path is settled. -/
theorem settled_resolve (path : List Char) : Settled above (resolve above (path.splitOn '/')) := by
  unfold Settled resolve
  rw [List.reverse_reverse]
  exact SettledStack.nil.foldl_place fun seg hseg => not_mem_of_mem_splitOn hseg

/-- A settled segment goes on top. -/
theorem SettledStack.place_eq (h : SettledStack above (seg :: stack)) :
    PosixPath.place above stack seg = seg :: stack := by
  unfold PosixPath.place
  cases h with
  | up habove hups _ =>
    cases stack with
    | nil => simp [habove]
    | cons top below =>
      obtain rfl := hups top List.mem_cons_self
      simp [habove]
  | name hseg hup _ => simp [hseg.1, hseg.2.1, hup]

theorem Settled.resolve_eq (h : Settled above segs) : resolve above segs = segs := by
  have hfold : ∀ stack : List Segment, SettledStack above stack →
      stack.reverse.foldl (PosixPath.place above) [] = stack := by
    intro stack hstack
    induction stack with
    | nil => rfl
    | cons seg stack ih =>
      rw [List.reverse_cons, List.foldl_append, ih hstack.tail]
      exact hstack.place_eq
  have hsegs := hfold segs.reverse h
  rw [List.reverse_reverse] at hsegs
  rw [resolve, hsegs, List.reverse_reverse]

/-- The directory of a settled path is settled. -/
theorem Settled.dropLast (h : Settled above (segs ++ [seg])) : Settled above segs := by
  unfold Settled at h ⊢
  rw [List.reverse_append, List.reverse_singleton, List.singleton_append] at h
  exact h.tail

/-- What stands above a settled path is settled. -/
theorem Settled.mono {pre : List Segment} (h : Settled above segs) (hpre : pre <+: segs) :
    Settled above pre := by
  obtain ⟨rest, rfl⟩ := hpre
  induction rest using List.reverseRecOn with
  | nil => simpa using h
  | append_singleton rest seg ih =>
    rw [← List.append_assoc] at h
    exact ih h.dropLast

/-- The segments of a settled path name something. -/
theorem Settled.named (h : Settled above segs) : ∀ s ∈ segs, Named s := by
  intro s hs
  exact SettledStack.named h s (List.mem_reverse.mpr hs)

end Settled

/-! ## The text of a path

`spell` writes segments with a slash in front if the path is absolute. What is spelled has those
segments, and `dirname` takes the last of them off. -/

section Spell

variable {absolute : Bool} {segs : List Segment} {seg : Segment} {path slash : List Char}

theorem join_ne_nil (hsegs : ∀ s ∈ segs, Named s) (hne : segs ≠ []) : join segs ≠ [] := by
  intro hnil
  have hsplit := splitOn_join (fun s hs => (hsegs s hs).2.2) hne
  rw [hnil, List.splitOn_nil] at hsplit
  exact (hsegs [] (by simp [← hsplit])).1 rfl

theorem join_concat (hne : segs ≠ []) : join (segs ++ [seg]) = join segs ++ '/' :: seg := by
  induction segs with
  | nil => exact absurd rfl hne
  | cons first rest ih =>
    cases rest with
    | nil => simp [join]
    | cons second rest => simpa [join, List.intercalate_cons_cons] using ih (by simp)

/-- A joined path does not begin with a slash. -/
theorem head_join (hsegs : ∀ s ∈ segs, Named s) : (join segs).head? ≠ some '/' := by
  intro hhead
  cases segs with
  | nil => simp [join] at hhead
  | cons first rest =>
    obtain ⟨hne, -, hslash⟩ := hsegs first List.mem_cons_self
    obtain ⟨c, cs, rfl⟩ := List.exists_cons_of_ne_nil hne
    have hc : (join ((c :: cs) :: rest)).head? = some c := by
      cases rest <;> simp [join, List.intercalate_cons_cons]
    rw [hc, Option.some.injEq] at hhead
    exact hslash (by simp [hhead])

/-- Whether a path is absolute does not depend on its end. -/
theorem isAbsolute_append (hne : path ≠ []) : isAbsolute (path ++ slash) = isAbsolute path := by
  rw [isAbsolute, isAbsolute, List.head?_append_of_ne_nil _ hne]

theorem spell_ne_nil (hsegs : ∀ s ∈ segs, Named s) (hne : segs ≠ []) :
    spell absolute segs ≠ [] := by
  simp [spell, join_ne_nil hsegs hne]

/-- A path is absolute if it was spelled so. -/
theorem isAbsolute_spell (hsegs : ∀ s ∈ segs, Named s) :
    isAbsolute (spell absolute segs) = absolute := by
  cases absolute with
  | true => rfl
  | false => simpa [spell, isAbsolute] using head_join hsegs

/-- Splitting a path that was spelled. The slash of the root leaves an empty segment. -/
theorem splitOn_spell (hsegs : ∀ s ∈ segs, Named s) (hne : segs ≠ []) :
    (spell absolute segs).splitOn '/' = (if absolute then [[]] else []) ++ segs := by
  have hsplit := splitOn_join (fun s hs => (hsegs s hs).2.2) hne
  cases absolute with
  | false => simpa [spell] using hsplit
  | true =>
    have hcons := List.splitOn_append_cons_self (a := '/') [] (join segs)
    rw [hsplit] at hcons
    simpa [spell] using hcons

/-- A path may end with a slash or not. -/
def Slash (slash : List Char) : Prop := slash = [] ∨ slash = ['/']

/-- The segments of a path that was spelled, with or without a slash at its end. -/
theorem segments_spell (hsegs : ∀ s ∈ segs, Named s) (hne : segs ≠ []) (hslash : Slash slash) :
    segments (spell absolute segs ++ slash) = segs := by
  have hfilter : segs.filter (· ≠ []) = segs :=
    List.filter_eq_self.mpr fun s hs => by simpa using (hsegs s hs).1
  have hspell : segments (spell absolute segs) = segs := by
    rw [segments, splitOn_spell hsegs hne, List.filter_append, hfilter]
    cases absolute <;> rfl
  rcases hslash with rfl | rfl
  · rw [List.append_nil, hspell]
  · have happend := List.splitOn_append_cons_self (a := '/') (spell absolute segs) []
    rw [segments, happend, List.filter_append, ← segments, hspell]
    simp

/-- Where `dirname` looks for its slash: past the slash at the end and the last segment. -/
theorem scan_eq (before : List Char) (hlast : seg ≠ []) (hfree : '/' ∉ seg) (hslash : Slash slash)
    (hbefore : before.head? ≠ some '/' → before = []) :
    ((slash ++ (seg ++ before)).dropWhile (· == '/')).dropWhile (· != '/') = before := by
  -- the slash at the end is dropped, if there is one
  have hstart : (slash ++ (seg ++ before)).dropWhile (· == '/') = seg ++ before := by
    obtain ⟨c, cs, rfl⟩ := List.exists_cons_of_ne_nil hlast
    have hc : c ≠ '/' := fun heq => hfree (by simp [heq])
    rcases hslash with rfl | rfl <;> simp [hc]
  have hseg : ∀ c ∈ seg, (c != '/') = true := by
    intro c hc
    rw [bne_iff_ne]
    exact fun heq => hfree (heq ▸ hc)
  rw [hstart, List.dropWhile_append_of_pos hseg]
  cases before with
  | nil => rfl
  | cons c cs =>
    by_cases hc : c = '/'
    · simp [hc]
    · exact absurd (hbefore (by simpa using hc)) (by simp)

theorem Slash.reverse (h : Slash slash) : Slash slash.reverse := by
  rcases h with rfl | rfl
  · exact Or.inl rfl
  · exact Or.inr rfl

/-- Above one segment are the root or the current directory. -/
theorem dirname_single (hseg : Named seg) (hslash : Slash slash) :
    dirname (spell absolute [seg] ++ slash) = if absolute then ['/'] else ['.'] := by
  obtain ⟨hne, -, hfree⟩ := hseg
  cases absolute with
  | true =>
    have hscan := scan_eq [] (List.reverse_ne_nil_iff.mpr hne) (by simpa using hfree)
      hslash.reverse (fun _ => rfl)
    simp only [List.append_nil] at hscan
    simp [spell, join, dirname, hscan]
  | false =>
    obtain ⟨c, cs, rfl⟩ := List.exists_cons_of_ne_nil hne
    have hc : c ≠ '/' := fun heq => hfree (by simp [heq])
    have hcs : '/' ∉ cs := fun hmem => hfree (List.mem_cons_of_mem _ hmem)
    -- the first character is not scanned, and it belongs to the segment
    have hscan :
        ((slash.reverse ++ cs.reverse).dropWhile (· == '/')).dropWhile (· != '/') = [] := by
      by_cases hnil : cs = []
      · subst hnil
        rcases hslash with rfl | rfl <;> rfl
      · have hscan := scan_eq [] (List.reverse_ne_nil_iff.mpr hnil) (by simpa using hcs)
          hslash.reverse (fun _ => rfl)
        rwa [List.append_nil] at hscan
    simp [spell, join, dirname, hscan, hc]

/-- The directory of a path is spelled from all segments but the last. -/
theorem dirname_concat (hsegs : ∀ s ∈ segs, Named s) (hne : segs ≠ []) (hseg : Named seg)
    (hslash : Slash slash) :
    dirname (spell absolute (segs ++ [seg]) ++ slash) = spell absolute segs := by
  have hpath_ne : spell absolute segs ≠ [] := spell_ne_nil hsegs hne
  obtain ⟨c, cs, hspell⟩ := List.exists_cons_of_ne_nil hpath_ne
  have hpath : spell absolute (segs ++ [seg]) ++ slash = c :: (cs ++ '/' :: seg ++ slash) := by
    rw [spell, join_concat hne, ← List.append_assoc, ← spell, hspell]
    simp
  -- only the root itself would make the double slash
  have hroot : ¬ (c = '/' ∧ cs.reverse = []) := by
    rintro ⟨rfl, hcs⟩
    rw [List.reverse_eq_nil_iff] at hcs
    subst hcs
    have habs : isAbsolute (spell absolute segs) = absolute := isAbsolute_spell hsegs
    rw [hspell] at habs
    obtain rfl : true = absolute := habs
    simp [spell, join_ne_nil hsegs hne] at hspell
  have hscan := scan_eq ('/' :: cs.reverse) (List.reverse_ne_nil_iff.mpr hseg.1)
    (by simpa using hseg.2.2) hslash.reverse (fun h => absurd rfl h)
  have hreverse : (cs ++ '/' :: seg ++ slash).reverse =
      slash.reverse ++ (seg.reverse ++ '/' :: cs.reverse) := by simp
  rw [hpath, hspell, dirname, hreverse, hscan]
  simp only [if_neg hroot, List.reverse_reverse]

/-- Going up ends: the path gets shorter until it is the root or `.`. -/
theorem length_dirname (path : List Char) :
    dirname path = ['.'] ∨ dirname path = ['/'] ∨ (dirname path).length < path.length := by
  cases path with
  | nil => exact Or.inl rfl
  | cons c rest =>
    have hend : ((rest.reverse.dropWhile (· == '/')).dropWhile (· != '/')).length ≤ rest.length - 1
        := by
      -- what is not a slash at the end is dropped by the second scan
      cases hfirst : rest.reverse.dropWhile (· == '/') with
      | nil => simp
      | cons d ds =>
        have hd : ¬ (d == '/') = true := by
          have hhead := List.head?_dropWhile_not (· == '/') rest.reverse
          rw [hfirst] at hhead
          simpa using hhead
        have hlen : (d :: ds).length ≤ rest.length := by
          rw [← hfirst]
          calc (rest.reverse.dropWhile (· == '/')).length
              ≤ rest.reverse.length := (List.dropWhile_suffix _).length_le
            _ = rest.length := List.length_reverse
        rw [List.dropWhile_cons_of_pos (by simpa using hd)]
        have htail := (List.dropWhile_suffix (l := ds) (· != '/')).length_le
        simp only [List.length_cons] at hlen
        omega
    rw [dirname]
    cases hscan : (rest.reverse.dropWhile (· == '/')).dropWhile (· != '/') with
    | nil => by_cases hc : c = '/' <;> simp [hc]
    | cons d before =>
      rw [hscan, List.length_cons] at hend
      refine Or.inr (Or.inr ?_)
      dsimp only
      split
      · simp only [List.length_cons, List.length_nil]
        omega
      · simp only [List.length_cons, List.length_reverse]
        omega

end Spell

/-! ## Normalised paths

A normalised path is spelled from settled segments, with the trailing slash of the original. Its
proper ancestors are the spellings of the proper prefixes of those segments. -/

/-- What `normalize` makes of the segments of a path. -/
def resolved (path : List Char) : List Segment :=
  resolve (!isAbsolute path) (path.splitOn '/')

section Normalize

variable {absolute : Bool} {segs : List Segment} {seg : Segment} {path dir slash : List Char}

/-- The segments of a normalised path are settled. -/
theorem settled_resolved (path : List Char) : Settled (!isAbsolute path) (resolved path) :=
  settled_resolve path

/-- A path without segments is the root or `.`, which may have a slash. -/
theorem normalize_of_nil (h : resolved path = []) :
    normalize path = ['/'] ∨ normalize path = ['.'] ∨ normalize path = ['.', '/'] := by
  have hjoin : normalizeString path (!isAbsolute path) = [] := by
    rw [normalizeString, ← resolved, h]
    rfl
  unfold normalize
  simp only [hjoin, if_true]
  grind

/-- The normalised path is spelled from its segments. -/
theorem normalize_of_ne_nil (h : resolved path ≠ []) :
    ∃ slash, Slash slash ∧ normalize path = spell (isAbsolute path) (resolved path) ++ slash := by
  have hpath : path ≠ [] := by
    rintro rfl
    exact h rfl
  have hjoin : normalizeString path (!isAbsolute path) ≠ [] :=
    join_ne_nil (settled_resolved path).named h
  refine ⟨if hasTrailingSlash path then ['/'] else [], ?_, ?_⟩
  · split
    · exact Or.inr rfl
    · exact Or.inl rfl
  · unfold normalize
    simp only [if_neg hpath, if_neg hjoin]
    rfl

/-- The ancestors of a normalised path are spelled by the starts of its segments. -/
theorem properAncestor_normalize : ProperAncestor (normalize path) dir ↔
    ∃ segs, segs <+: resolved path ∧ segs ≠ [] ∧ segs ≠ resolved path ∧
      dir = spell (isAbsolute path) segs := by
  -- nothing is left of the path, so it has one segment at most and no ancestor
  by_cases hnil : resolved path = []
  · constructor
    · rintro ⟨segs, hpre, hne, hproper, -⟩
      have hsegments : segments (normalize path) = [] ∨ segments (normalize path) = [['.']] := by
        rcases normalize_of_nil hnil with h | h | h <;> rw [h]
        · exact Or.inl rfl
        · exact Or.inr rfl
        · exact Or.inr rfl
      rcases hsegments with h | h
      · rw [h, List.prefix_nil] at hpre
        exact absurd hpre hne
      · rw [h] at hpre hproper
        have hlen := hpre.length_le
        have hpos := List.length_pos_of_ne_nil hne
        exact absurd (hpre.eq_of_length (by simp at hlen ⊢; omega)) hproper
    · rintro ⟨segs, hpre, hne, -, -⟩
      rw [hnil, List.prefix_nil] at hpre
      exact absurd hpre hne
  -- otherwise the segments of the text are the resolved ones
  · obtain ⟨slash, hslash, hnorm⟩ := normalize_of_ne_nil hnil
    have hnamed := (settled_resolved path).named
    rw [ProperAncestor, hnorm, segments_spell hnamed hnil hslash,
      isAbsolute_append (spell_ne_nil hnamed hnil), isAbsolute_spell hnamed]

/-- A path of settled segments has just these. -/
theorem resolved_spell (h : Settled (!absolute) segs) (hne : segs ≠ []) (hslash : Slash slash) :
    resolved (spell absolute segs ++ slash) = segs := by
  have hspell : resolved (spell absolute segs) = segs := by
    rw [resolved, isAbsolute_spell h.named, splitOn_spell h.named hne]
    cases absolute with
    | false => exact h.resolve_eq
    | true => exact h.resolve_eq
  rcases hslash with rfl | rfl
  · rw [List.append_nil, hspell]
  · have happend := List.splitOn_append_cons_self (a := '/') (spell absolute segs) []
    rw [resolved, isAbsolute_append (spell_ne_nil h.named hne), happend, resolve,
      List.foldl_append, ← List.reverse_reverse (List.foldl _ [] _), ← resolve, ← resolved, hspell]
    simp [place]

/-- The directories above a path that was spelled are its proper prefixes. -/
theorem properAncestor_normalize_spell (h : Settled (!absolute) segs) (hne : segs ≠ []) :
    ProperAncestor (normalize (spell absolute segs)) dir ↔
      ∃ pre, pre <+: segs ∧ pre ≠ [] ∧ pre ≠ segs ∧ dir = spell absolute pre := by
  have hresolved : resolved (spell absolute segs) = segs := by
    simpa using resolved_spell h hne (Or.inl rfl)
  rw [properAncestor_normalize, hresolved, isAbsolute_spell h.named]

/-- Normalising once more finds the same ancestors. -/
theorem properAncestor_normalize_normalize :
    ProperAncestor (normalize (normalize path)) dir ↔ ProperAncestor (normalize path) dir := by
  by_cases hnil : resolved path = []
  · rcases normalize_of_nil hnil with h | h | h <;> rw [h] <;> rfl
  · obtain ⟨slash, hslash, hnorm⟩ := normalize_of_ne_nil hnil
    have hsettled := settled_resolved path
    rw [properAncestor_normalize, properAncestor_normalize, hnorm,
      resolved_spell hsettled hnil hslash, isAbsolute_append (spell_ne_nil hsettled.named hnil),
      isAbsolute_spell hsettled.named]

/-- A name at the end of a path is its last segment. -/
theorem resolved_concat (hpath : path ≠ []) (hseg : Named seg) (hup : seg ≠ ['.', '.']) :
    resolved (path ++ '/' :: seg) = resolved path ++ [seg] := by
  have hsplit : (path ++ '/' :: seg).splitOn '/' = path.splitOn '/' ++ [seg] := by
    rw [List.splitOn_append_cons_self, List.splitOn_eq_singleton hseg.2.2]
  rw [resolved, isAbsolute_append hpath, hsplit, resolve, List.foldl_append, resolved, resolve]
  simp [place, hseg.1, hseg.2.1, hup]

end Normalize

end Text.PosixPath
