import MicrosandboxCloud.Text.Uri
import MicrosandboxCloud.Text.Utf8

/-!
# Text — URLs with an absolute path

How `new URL(input, base)` reads an input that begins with a single slash, for a base whose scheme
is `http`: the states of the URL standard from the path on.

* **`percentEncode`** — a character of a percent-encode set as its UTF-8 bytes; `encodeURIComponent`.
* **`pathState`** — the segments of the path, with `.` and `..` taken out.
* **`parsePath_eq`** — a path and a query in normal form are left as they are.
-/

namespace Text.Url

/-! ## Percent-encoding

Each state of the URL parser has a set of characters that it writes as percent-escapes of their
UTF-8 bytes. -/

/-- A hexadecimal digit in upper case. -/
def hexUpper (n : Nat) : Char := (Nat.digitChar n).toUpper

/-- The percent-escape of a byte. -/
def percentByte (b : UInt8) : List Char := ['%', hexUpper (b.toNat / 16), hexUpper (b.toNat % 16)]

/-- A character of the set as escapes, any other as it is. -/
def percentEncode (set : Char → Bool) (c : Char) : List Char :=
  if set c then (utf8Char c).flatMap percentByte else [c]

/-- The query percent-encode set. -/
def inQuerySet (c : Char) : Bool :=
  c.toNat < 0x20 || 0x7E < c.toNat || c ∈ [' ', '"', '#', '<', '>']

/-- The special-query percent-encode set. -/
def inSpecialQuerySet (c : Char) : Bool := inQuerySet c || c == '\''

/-- The path percent-encode set: also the question mark, the caret, the backtick and braces. -/
def inPathSet (c : Char) : Bool := inQuerySet c || c.toNat ∈ [63, 94, 96, 123, 125]

/-- What `encodeURIComponent` leaves alone. -/
def isUnreserved (c : Char) : Bool :=
  (97 ≤ c.toNat && c.toNat ≤ 122) || (65 ≤ c.toNat && c.toNat ≤ 90)
    || (48 ≤ c.toNat && c.toNat ≤ 57) || c ∈ ['-', '_', '.', '!', '~', '*', '\'', '(', ')']

/-- `encodeURIComponent`, for a text without lone surrogates. -/
def encodeURIComponent (s : List Char) : List Char :=
  s.flatMap (percentEncode fun c => !isUnreserved c)

/-! ## The path

The path state collects segments in a buffer. Both slashes end a segment, since the scheme is
special. -/

/-- `.` and `..` may be written with `%2e`, in either case. -/
def isSingleDot (segment : List Char) : Bool :=
  segment.map Char.toLower ∈ [['.'], ['%', '2', 'e']]

/-- So may the two dots of a step up. -/
def isDoubleDot (segment : List Char) : Bool :=
  segment.map Char.toLower ∈
    [['.', '.'], ['.', '%', '2', 'e'], ['%', '2', 'e', '.'], ['%', '2', 'e', '%', '2', 'e']]

/-- The segment in the buffer is complete. `slash` says that a slash ended it. -/
def pushSegment (path : List (List Char)) (buffer : List Char) (slash : Bool) : List (List Char) :=
  if isDoubleDot buffer then if slash then path.dropLast else path.dropLast ++ [[]]
  else if isSingleDot buffer then if slash then path else path ++ [[]]
  else path ++ [buffer]

/-- The path state. Returns the segments and the input from the query or the fragment on. -/
def pathState (path : List (List Char)) (buffer : List Char) :
    List Char → List (List Char) × List Char
  | [] => (pushSegment path buffer false, [])
  | c :: input =>
    if c = '/' ∨ c = '\\' then pathState (pushSegment path buffer true) [] input
    else if c = '?' ∨ c = '#' then (pushSegment path buffer false, c :: input)
    else pathState path (buffer ++ percentEncode inPathSet c) input

/-- The query state: up to the fragment. -/
def queryState (input : List Char) : List Char :=
  (input.takeWhile (· != '#')).flatMap (percentEncode inSpecialQuerySet)

/-- `url.pathname` and the query. -/
structure Parts where
  pathname : List Char
  query : List Char

/-- The input after the first slash. -/
def parsePath (input : List Char) : Parts :=
  let (path, rest) := pathState [] [] input
  { pathname := path.flatMap fun segment => '/' :: segment
    query := match rest with
      | '?' :: query => queryState query
      | _ => [] }

/-- `url.search` -/
def Parts.search (parts : Parts) : List Char :=
  if parts.query = [] then [] else '?' :: parts.query

/-- Control characters and spaces around the input are dropped, tabs and line breaks everywhere. -/
def clean (input : List Char) : List Char :=
  (stripEnd (fun c => c.toNat ≤ 0x20) (stripStart (fun c => c.toNat ≤ 0x20) input)).filter
    fun c => c ∉ ['\t', '\n', '\r']

/-! ## The query

`URLSearchParams` reads the query of a URL: pairs between ampersands, a plus sign as a space,
percent-escapes as UTF-8 with replacement characters for what is not. -/

/-- The bytes of a text with percent-escapes. A percent sign that begins no escape stands for
itself. -/
def percentBytes : List Char → List UInt8
  | [] => []
  | '%' :: a :: b :: rest =>
    match hexDigit a, hexDigit b with
    | some hi, some lo => UInt8.ofNat (16 * hi + lo) :: percentBytes rest
    | _, _ => utf8Char '%' ++ percentBytes (a :: b :: rest)
  | c :: rest => utf8Char c ++ percentBytes rest

/-- A name or a value of a form. -/
def formDecode (s : List Char) : List Char :=
  decodeUtf8 (percentBytes (s.map fun c => if c = '+' then ' ' else c))

/-- The pairs of `url.searchParams`. -/
def formPairs (query : List Char) : List (List Char × List Char) :=
  ((query.splitOn '&').filter (· ≠ [])).map fun s =>
    (formDecode (s.takeWhile (· != '=')), formDecode ((s.dropWhile (· != '=')).drop 1))

/-- `url.searchParams.get(name)` -/
def Parts.searchParam (parts : Parts) (name : List Char) : Option (List Char) :=
  ((formPairs parts.query).find? fun pair => pair.1 == name).map Prod.snd

/-! ## Normal forms

A path and a query in normal form come through the parser unchanged: no character is escaped, no
segment is a dot, and nothing is stripped from the ends. -/

/-- A character that a path keeps. -/
def IsPathChar (c : Char) : Prop := inPathSet c = false ∧ c ≠ '\\'

instance : DecidablePred IsPathChar := fun _ => inferInstanceAs (Decidable (_ ∧ _))

/-- A path, after its first slash, that the parser leaves alone. -/
structure IsNormalPath (s : List Char) : Prop where
  chars : ∀ c ∈ s, IsPathChar c
  segments : ∀ seg ∈ s.splitOn '/', isSingleDot seg = false ∧ isDoubleDot seg = false

/-- A query, with its question mark, that the parser leaves alone, or none. -/
def IsNormalSearch (s : List Char) : Prop :=
  s = [] ∨ ∃ query, s = '?' :: query ∧ query ≠ [] ∧ ∀ c ∈ query, inSpecialQuerySet c = false

section Normal

variable {c : Char} {s seg rest : List Char} {path : List (List Char)} {buffer : List Char}

theorem percentEncode_of_not {set : Char → Bool} (h : set c = false) : percentEncode set c = [c] :=
  if_neg (by simp [h])

theorem flatMap_percentEncode {set : Char → Bool} (h : ∀ c ∈ s, set c = false) :
    s.flatMap (percentEncode set) = s := by
  induction s with
  | nil => rfl
  | cons c s ih =>
    obtain ⟨hc, hs⟩ := List.forall_mem_cons.mp h
    rw [List.flatMap_cons, percentEncode_of_not hc, ih hs, List.singleton_append]

/-- A character that a path keeps does not end the path. -/
theorem IsPathChar.ne_query (h : IsPathChar c) : ¬ (c = '?' ∨ c = '#') := by
  rintro (rfl | rfl)
  · exact absurd h.1 (by decide)
  · exact absurd h.1 (by decide)

/-- A segment without dots is put on the path. -/
theorem pushSegment_of_not_dot (h : isSingleDot buffer = false ∧ isDoubleDot buffer = false)
    (slash : Bool) : pushSegment path buffer slash = path ++ [buffer] := by
  simp [pushSegment, h.1, h.2]

/-- Plain segments are collected as they stand. -/
theorem pathState_normal (hchars : ∀ c ∈ s, IsPathChar c) {first : List Char}
    {segs : List (List Char)} (hsplit : s.splitOn '/' = first :: segs)
    (hdots : ∀ seg ∈ (buffer ++ first) :: segs, isSingleDot seg = false ∧ isDoubleDot seg = false)
    (hrest : rest = [] ∨ ∃ query, rest = '?' :: query) :
    pathState path buffer (s ++ rest) = (path ++ (buffer ++ first) :: segs, rest) := by
  induction s generalizing path buffer first segs with
  | nil =>
    rw [List.splitOn_nil, List.cons.injEq] at hsplit
    obtain ⟨rfl, rfl⟩ := hsplit
    have hpush : ∀ slash, pushSegment path buffer slash = path ++ [buffer] :=
      pushSegment_of_not_dot (by simpa using hdots)
    rcases hrest with rfl | ⟨query, rfl⟩
    · simp [pathState, hpush]
    · simp [pathState, hpush]
  | cons c s ih =>
    obtain ⟨hc, hs⟩ := List.forall_mem_cons.mp hchars
    obtain ⟨next, more, hnext⟩ := List.exists_cons_of_ne_nil (List.splitOn_ne_nil '/' s)
    rw [List.splitOn_cons_eq_if_modifyHead, hnext] at hsplit
    rw [List.cons_append, pathState]
    by_cases hslash : c = '/'
    · -- the buffer is a whole segment
      subst hslash
      rw [if_pos (by decide), List.cons.injEq] at hsplit
      obtain ⟨rfl, rfl⟩ := hsplit
      rw [List.append_nil] at hdots
      have hbuffer := hdots buffer List.mem_cons_self
      have hmore : ∀ seg ∈ ([] ++ next) :: more,
          isSingleDot seg = false ∧ isDoubleDot seg = false :=
        fun seg hseg => hdots seg (List.mem_cons_of_mem _ hseg)
      rw [if_pos (Or.inl rfl), pushSegment_of_not_dot hbuffer, ih hs hnext hmore]
      simp
    · -- the character goes into the buffer as it is
      rw [if_neg (by simpa using hslash), List.modifyHead_cons, List.cons.injEq] at hsplit
      obtain ⟨rfl, rfl⟩ := hsplit
      have hnot : ¬ (c = '/' ∨ c = '\\') := not_or.mpr ⟨hslash, hc.2⟩
      rw [if_neg hnot, if_neg hc.ne_query, percentEncode_of_not hc.1,
        ih hs hnext (by simpa using hdots)]
      simp

/-- A slash goes before every segment. -/
theorem pathname_eq (hne : path ≠ []) :
    path.flatMap (fun segment => '/' :: segment) = '/' :: ['/'].intercalate path := by
  induction path with
  | nil => exact absurd rfl hne
  | cons x path ih =>
    cases path with
    | nil => simp
    | cons y path =>
      rw [List.flatMap_cons, ih (List.cons_ne_nil _ _), List.intercalate_cons_cons]
      simp

/-- **Normal forms are left alone.** -/
theorem parsePath_eq {search : List Char} (hpath : IsNormalPath s)
    (hsearch : IsNormalSearch search) :
    (parsePath (s ++ search)).pathname = '/' :: s ∧ (parsePath (s ++ search)).search = search := by
  obtain ⟨first, segs, hsplit⟩ := List.exists_cons_of_ne_nil (List.splitOn_ne_nil '/' s)
  have hdots := hpath.segments
  rw [hsplit] at hdots
  -- the path state ends at the question mark or at the end
  have hrest : search = [] ∨ ∃ query, search = '?' :: query := by
    rcases hsearch with h | ⟨query, h, -⟩
    · exact Or.inl h
    · exact Or.inr ⟨query, h⟩
  have hstate : pathState [] [] (s ++ search) = (first :: segs, search) :=
    pathState_normal hpath.chars hsplit hdots hrest
  constructor
  · simp only [parsePath, hstate]
    rw [pathname_eq (List.cons_ne_nil _ _), ← hsplit, List.intercalate_splitOn]
  · rw [parsePath, hstate, Parts.search]
    rcases hsearch with rfl | ⟨query, rfl, hne, hquery⟩
    · rfl
    -- there is no fragment to cut off
    · have hfragment : query.takeWhile (· != '#') = query := by
        have hall : ∀ c ∈ query, (c != '#') = true := by
          intro c hc
          rw [bne_iff_ne]
          rintro rfl
          exact absurd (hquery _ hc) (by decide)
        exact List.takeWhile_eq_self_iff.mpr hall
      have hread : queryState query = query := by
        rw [queryState, hfragment, flatMap_percentEncode hquery]
      simp [hread, hne]

/-- A text without spaces and control characters has nothing to drop. -/
theorem clean_eq_self (h : ∀ c ∈ s, 0x20 < c.toNat) : clean s = s := by
  have hstrip : ∀ c ∈ s, decide (c.toNat ≤ 0x20) = false := by
    intro c hc
    rw [decide_eq_false_iff_not]
    exact Nat.not_le.mpr (h c hc)
  have hkeep : ∀ c ∈ s, decide (c ∉ ['\t', '\n', '\r']) = true := by
    intro c hc
    have hlt := h c hc
    rw [decide_eq_true_eq]
    rintro hmem
    simp only [List.mem_cons, List.not_mem_nil, or_false] at hmem
    rcases hmem with rfl | rfl | rfl <;> exact absurd hlt (by decide)
  rw [clean, stripStart_eq_self fun c hc => hstrip c (List.mem_of_mem_head? hc),
    stripEnd_eq_self fun c hc => hstrip c (List.mem_of_getLast? hc)]
  exact List.filter_eq_self.mpr hkeep

/-- A character that a query keeps is not a space or a control character. -/
theorem lt_of_inQuerySet (h : inQuerySet c = false) : 0x20 < c.toNat := by
  simp only [inQuerySet, Bool.or_eq_false_iff, decide_eq_false_iff_not, List.mem_cons,
    List.not_mem_nil, or_false, not_or, Nat.not_lt] at h
  obtain ⟨⟨hlow, -⟩, hspace, -⟩ := h
  refine Nat.lt_of_le_of_ne hlow fun heq => hspace ?_
  rw [← Char.ofNat_toNat c, ← heq]

theorem IsPathChar.lt (h : IsPathChar c) : 0x20 < c.toNat :=
  lt_of_inQuerySet (Bool.or_eq_false_iff.mp h.1).1

/-- Neither is cleaned. -/
theorem clean_normal {search : List Char} (hpath : IsNormalPath s)
    (hsearch : IsNormalSearch search) : clean ('/' :: (s ++ search)) = '/' :: (s ++ search) := by
  refine clean_eq_self fun c hc => ?_
  rcases List.mem_cons.mp hc with rfl | hc
  · decide
  · rcases List.mem_append.mp hc with hc | hc
    · exact (hpath.chars c hc).lt
    · rcases hsearch with rfl | ⟨query, rfl, -, hquery⟩
      · simp at hc
      · rcases List.mem_cons.mp hc with rfl | hc
        · decide
        · exact lt_of_inQuerySet (Bool.or_eq_false_iff.mp (hquery c hc)).1

/-! ## Segments

A plain segment can stand anywhere in a path. What `encodeURIComponent` leaves alone is one, unless
it begins with a dot. -/

/-- A segment of path characters that cannot be mistaken for a dot. -/
structure IsPlainSegment (seg : List Char) : Prop where
  chars : ∀ c ∈ seg, IsPathChar c
  slash : '/' ∉ seg
  head : ∀ c, seg.head? = some c → c ≠ '.' ∧ c ≠ '%'

/-- Lower case makes no dot and no percent sign. -/
theorem eq_of_toLower {d : Char} (hd : d ∈ ['.', '%']) (h : c.toLower = d) : c = d := by
  by_cases hascii : c.toNat < 128
  · have hall : ∀ n < 128, ((Char.ofNat n).toLower = '.' → Char.ofNat n = '.') ∧
        ((Char.ofNat n).toLower = '%' → Char.ofNat n = '%') := by decide
    have hc := hall c.toNat hascii
    rw [Char.ofNat_toNat] at hc
    simp only [List.mem_cons, List.not_mem_nil, or_false] at hd
    rcases hd with rfl | rfl
    · exact hc.1 h
    · exact hc.2 h
  · have hkeep : c.toLower = c := by
      refine dif_neg fun hupper => hascii ?_
      have hle : c.toNat ≤ 90 := hupper.2
      omega
    rw [← hkeep, h]

theorem IsPlainSegment.not_dot (h : IsPlainSegment seg) :
    isSingleDot seg = false ∧ isDoubleDot seg = false := by
  cases seg with
  | nil => decide
  | cons c seg =>
    obtain ⟨hdot, hpercent⟩ := h.head c rfl
    have hlower : c.toLower ≠ '.' ∧ c.toLower ≠ '%' :=
      ⟨mt (eq_of_toLower (by decide)) hdot, mt (eq_of_toLower (by decide)) hpercent⟩
    simp [isSingleDot, isDoubleDot, hlower.1, hlower.2]

/-- A plain segment alone is a path in normal form. -/
theorem IsPlainSegment.isNormalPath (h : IsPlainSegment seg) : IsNormalPath seg where
  chars := h.chars
  segments := by
    rw [List.splitOn_eq_singleton h.slash]
    exact List.forall_mem_singleton.mpr h.not_dot

/-- A plain segment in front of a path in normal form. -/
theorem IsPlainSegment.cons (h : IsPlainSegment seg) (hs : IsNormalPath s) :
    IsNormalPath (seg ++ '/' :: s) where
  chars := by
    intro c hc
    rcases List.mem_append.mp hc with hc | hc
    · exact h.chars c hc
    · rcases List.mem_cons.mp hc with rfl | hc
      · exact ⟨by decide, by decide⟩
      · exact hs.chars c hc
  segments := by
    rw [List.splitOn_append_cons_self_of_not_mem h.slash]
    exact List.forall_mem_cons.mpr ⟨h.not_dot, hs.segments⟩

/-- Unreserved characters are kept by every encoding. -/
theorem isPathChar_of_isUnreserved (h : isUnreserved c = true) :
    IsPathChar c ∧ c ≠ '/' ∧ c ≠ '%' := by
  have hascii : c.toNat < 128 := by
    simp only [isUnreserved, Bool.or_eq_true, Bool.and_eq_true, decide_eq_true_eq, List.mem_cons,
      List.not_mem_nil, or_false] at h
    rcases h with ((h | h) | h) | h
    · omega
    · omega
    · omega
    · rcases h with rfl | rfl | rfl | rfl | rfl | rfl | rfl | rfl | rfl <;> decide
  have hall : ∀ n < 128, isUnreserved (Char.ofNat n) = true → inPathSet (Char.ofNat n) = false ∧
      Char.ofNat n ≠ '\\' ∧ Char.ofNat n ≠ '/' ∧ Char.ofNat n ≠ '%' := by decide +kernel
  have hc := hall c.toNat hascii
  rw [Char.ofNat_toNat] at hc
  exact ⟨⟨(hc h).1, (hc h).2.1⟩, (hc h).2.2⟩

/-- A text of unreserved characters is left alone. -/
theorem encodeURIComponent_eq_self (h : ∀ c ∈ s, isUnreserved c = true) :
    encodeURIComponent s = s :=
  flatMap_percentEncode fun c hc => by simp [h c hc]

/-- A text of unreserved characters that does not begin with a dot is a plain segment. -/
theorem isPlainSegment_of_isUnreserved (h : ∀ c ∈ s, isUnreserved c = true)
    (hdot : s.head? ≠ some '.') : IsPlainSegment s where
  chars := fun c hc => (isPathChar_of_isUnreserved (h c hc)).1
  slash := fun hmem => (isPathChar_of_isUnreserved (h '/' hmem)).2.1 rfl
  head := by
    intro c hc
    refine ⟨?_, (isPathChar_of_isUnreserved (h c (List.mem_of_mem_head? hc))).2.2⟩
    rintro rfl
    exact hdot hc

end Normal

end Text.Url
