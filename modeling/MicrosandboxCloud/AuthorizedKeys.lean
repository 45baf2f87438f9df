import Mathlib.Data.Bool.AllAny
import MicrosandboxCloud.Launch
import MicrosandboxCloud.Text.Base64

/-!
# Microsandbox — the authorized keys of a sandbox

`buildAuthorizedKeysContent` writes the file, and `keyAuthorized` of the SSH server in the sandbox
reads it. The writer trims as JavaScript does, the reader trims and splits as Go does.

* **`keyAuthorized`** — the reader.
* **`KeyLine`** — a line `type base64 [comment]` with blanks around it.
* **`authorized_keys_agree`** — a key is accepted exactly when it is in one of the lines written.
-/

namespace Microsandbox

open Text Text.Base64 MicrosandboxAdapter

namespace InjectSshd

/-! ## The reader

`keyAuthorized` of the SSH server that is put into the VM, in Go: the file is split into lines, each
line trimmed and split into fields, and the second field decoded as base64. -/

/-- `unicode.IsSpace` -/
def isUnicodeSpace (c : Char) : Bool :=
  c.toNat ∈ [9, 10, 11, 12, 13, 32, 133, 160, 5760, 8232, 8233, 8239, 8287, 12288]
    || (8192 ≤ c.toNat && c.toNat ≤ 8202)

/-- `strings.TrimSpace` -/
def trimSpace (s : List Char) : List Char := stripEnd isUnicodeSpace (stripStart isUnicodeSpace s)

/-- `strings.Fields` -/
def fields (s : List Char) : List (List Char) := (s.splitOnP isUnicodeSpace).filter (· ≠ [])

/-- One round of the loop: is it left with `true`? -/
def lineAuthorizes (keyBytes : List UInt8) (line : List Char) : Bool :=
  let line := trimSpace line
  if line = [] ∨ line.head? = some '#' then false
  else
    match fields line with
    | _ :: part :: _ =>
      match decodeStd part with
      | none => false
      | some decoded => keyBytes == decoded
    | _ => false

/-- `authorized` is the text of the file. -/
def keyAuthorized (keyBytes : List UInt8) (authorized : List Char) : Bool :=
  (authorized.splitOn '\n').any (lineAuthorizes keyBytes)

/-! ## Lines

What is assumed of a key that a user gives: the line of a public key file, with whatever blanks the
user has left around it. A line is a structure whose fields say that it is one. -/

/-- A blank as both languages trim it. -/
def IsBlank (c : Char) : Prop := c.toNat ∈ [9, 10, 11, 12, 13, 32]

instance (c : Char) : Decidable (IsBlank c) := inferInstanceAs (Decidable (_ ∈ _))

/-- A word is not empty and has no blank in it. -/
def IsWord (s : List Char) : Prop := s ≠ [] ∧ ∀ c ∈ s, ¬ IsBlank c

/-- A line `type base64 [comment]` of ASCII characters, with any blanks around it. The comment
includes the blanks before it. -/
structure KeyLine where
  lead : List Char
  keyType : List Char
  gap : List Char
  base64 : List Char
  comment : List Char
  trail : List Char
  ascii : ∀ c ∈ lead ++ keyType ++ gap ++ base64 ++ comment ++ trail, c.toNat < 128
  lead_blank : ∀ c ∈ lead, IsBlank c
  keyType_word : IsWord keyType
  not_comment : keyType.head? ≠ some '#'
  gap_ne_nil : gap ≠ []
  gap_blank : ∀ c ∈ gap, IsBlank c
  base64_word : IsWord base64
  comment_head : ∀ c, comment.head? = some c → IsBlank c
  comment_last : ∀ c, comment.getLast? = some c → ¬ IsBlank c
  trail_blank : ∀ c ∈ trail, IsBlank c
  oneLine : '\n' ∉ gap ++ comment

namespace KeyLine

/-- The line without the blanks around it. -/
def core (key : KeyLine) : List Char := key.keyType ++ (key.gap ++ (key.base64 ++ key.comment))

/-- The line as the user gives it. -/
def text (key : KeyLine) : String := String.ofList (key.lead ++ key.core ++ key.trail)

end KeyLine

section Spaces

variable {c : Char}

/-- On ASCII texts JavaScript trims just the six blanks. -/
theorem isSpace_iff (h : c.toNat < 128) : isSpace c = true ↔ IsBlank c := by
  simp only [isSpace, IsBlank, Bool.or_eq_true, decide_eq_true_eq, Bool.and_eq_true,
    List.mem_cons, List.not_mem_nil, or_false]
  omega

/-- And so does Go: the two differ beyond ASCII only. -/
theorem isUnicodeSpace_iff (h : c.toNat < 128) : isUnicodeSpace c = true ↔ IsBlank c := by
  simp only [isUnicodeSpace, IsBlank, Bool.or_eq_true, decide_eq_true_eq, Bool.and_eq_true,
    List.mem_cons, List.not_mem_nil, or_false]
  omega

end Spaces

/-! ## Splitting a line into its fields

`strings.Fields` is splitting at every blank and leaving out what is empty. The two lemmas take the
gap, or the word, off the front of a text. -/

section Fields

variable {word gap s : List Char}

/-- A gap at the front makes no field. -/
theorem fields_gap (hgap : ∀ c ∈ gap, isUnicodeSpace c = true) : fields (gap ++ s) = fields s := by
  induction gap with
  | nil => rfl
  | cons c gap ih =>
    obtain ⟨hc, hgap⟩ := List.forall_mem_cons.mp hgap
    have hsplit := List.splitOnP_append_cons (p := isUnicodeSpace) [] (gap ++ s) hc
    have hrest := ih hgap
    unfold fields at hrest ⊢
    rw [List.nil_append] at hsplit
    rw [List.cons_append, hsplit, List.filter_append, hrest]
    rfl

/-- A word at the front is the first field, if a blank or nothing comes after it. -/
theorem fields_word (hne : word ≠ []) (hword : ∀ c ∈ word, isUnicodeSpace c = false)
    (hs : ∀ c, s.head? = some c → isUnicodeSpace c = true) :
    fields (word ++ s) = word :: fields s := by
  cases s with
  | nil =>
    rw [List.append_nil, fields, List.splitOnP_eq_singleton hword]
    simp [fields, hne]
  | cons c s =>
    have hc : isUnicodeSpace c = true := hs c rfl
    have hgap : fields ([c] ++ s) = fields s := fields_gap (by simpa using hc)
    rw [List.singleton_append] at hgap
    rw [hgap, fields, List.splitOnP_append_cons_of_forall_mem hword c hc]
    simp [fields, hne]

end Fields

/-! ## One line

The blanks around a line are gone after the writer has trimmed it, and the reader finds the type,
the base64 text and the words of the comment as its fields. -/

namespace KeyLine

variable (key : KeyLine)

theorem core_ne_nil : key.core ≠ [] := by
  simp [core, key.keyType_word.1]

theorem core_head : key.core.head? = key.keyType.head? :=
  List.head?_append_of_ne_nil _ key.keyType_word.1

theorem head_word {c : Char} (h : key.core.head? = some c) : ¬ IsBlank c := by
  rw [core_head] at h
  exact key.keyType_word.2 c (List.mem_of_mem_head? h)

/-- Nor does it end with one: the comment, if there is one, ends with a word. -/
theorem last_word {c : Char} (h : key.core.getLast? = some c) : ¬ IsBlank c := by
  have hcore : key.core = key.keyType ++ key.gap ++ key.base64 ++ key.comment := by simp [core]
  rw [hcore] at h
  by_cases hcomment : key.comment = []
  · rw [hcomment, List.append_nil, List.getLast?_append_of_ne_nil _ key.base64_word.1] at h
    exact key.base64_word.2 c (List.mem_of_getLast? h)
  · rw [List.getLast?_append_of_ne_nil _ hcomment] at h
    exact key.comment_last c h

theorem core_ascii {c : Char} (h : c ∈ key.core) : c.toNat < 128 := by
  refine key.ascii c ?_
  simp only [core, List.mem_append] at h ⊢
  tauto

/-- Either way of trimming leaves the core. -/
theorem strip_text {p : Char → Bool} (hp : ∀ c : Char, c.toNat < 128 → (p c = true ↔ IsBlank c)) :
    stripEnd p (stripStart p key.text.toList) = key.core := by
  have hnot : ∀ {c}, c.toNat < 128 → ¬ IsBlank c → p c = false :=
    fun hc hblank => Bool.eq_false_iff.mpr (mt (hp _ hc).mp hblank)
  have hlead : ∀ c ∈ key.lead, p c = true := fun c hc =>
    (hp c (key.ascii c (by simp [hc]))).mpr (key.lead_blank c hc)
  have htrail : ∀ c ∈ key.trail, p c = true := fun c hc =>
    (hp c (key.ascii c (by simp [hc]))).mpr (key.trail_blank c hc)
  rw [text, String.toList_ofList]
  refine strip_core hlead key.core_ne_nil (fun c hc => ?_) (fun c hc => ?_) htrail
  · exact hnot (key.core_ascii (List.mem_of_mem_head? hc)) (key.head_word hc)
  · exact hnot (key.core_ascii (List.mem_of_getLast? hc)) (key.last_word hc)

theorem trim_text : trim key.text.toList = key.core :=
  key.strip_text fun _ hc => isSpace_iff hc

theorem trimSpace_core : trimSpace key.core = key.core := by
  have hnot : ∀ {c}, c ∈ key.core → ¬ IsBlank c → isUnicodeSpace c = false :=
    fun hc hblank => Bool.eq_false_iff.mpr (mt (isUnicodeSpace_iff (key.core_ascii hc)).mp hblank)
  have hstart : stripStart isUnicodeSpace key.core = key.core :=
    stripStart_eq_self fun c hc => hnot (List.mem_of_mem_head? hc) (key.head_word hc)
  rw [trimSpace, hstart]
  exact stripEnd_eq_self fun c hc => hnot (List.mem_of_getLast? hc) (key.last_word hc)

/-- No line break is left inside, so that the core is one line of the file. -/
theorem newline_not_mem_core : '\n' ∉ key.core := by
  have hblank : IsBlank '\n' := by decide
  have hline := key.oneLine
  simp only [core, List.mem_append, not_or] at hline ⊢
  exact ⟨fun h => key.keyType_word.2 _ h hblank, hline.1,
    fun h => key.base64_word.2 _ h hblank, hline.2⟩

/-- The type, the base64 text, and whatever the comment has. -/
theorem fields_core : fields key.core = key.keyType :: key.base64 :: fields key.comment := by
  have hspace : ∀ {c}, c ∈ key.core → (isUnicodeSpace c = true ↔ IsBlank c) :=
    fun hc => isUnicodeSpace_iff (key.core_ascii hc)
  have hword : ∀ {word : List Char}, IsWord word → (∀ c ∈ word, c ∈ key.core) →
      ∀ c ∈ word, isUnicodeSpace c = false := fun hw hmem c hc =>
    Bool.eq_false_iff.mpr (mt (hspace (hmem c hc)).mp (hw.2 c hc))
  have hkeyType := hword key.keyType_word fun c hc => by simp [core, hc]
  have hbase64 := hword key.base64_word fun c hc => by simp [core, hc]
  have hgap : ∀ c ∈ key.gap, isUnicodeSpace c = true := fun c hc =>
    (hspace (by simp [core, hc])).mpr (key.gap_blank c hc)
  have hcomment : ∀ c, key.comment.head? = some c → isUnicodeSpace c = true := fun c hc =>
    (hspace (by simp [core, List.mem_of_mem_head? hc])).mpr (key.comment_head c hc)
  rw [core, fields_word key.keyType_word.1 hkeyType, fields_gap hgap,
    fields_word key.base64_word.1 hbase64 hcomment]
  intro c hc
  rw [List.head?_append_of_ne_nil _ key.gap_ne_nil] at hc
  exact hgap c (List.mem_of_mem_head? hc)

/-- A line authorizes just the key that it holds. -/
theorem lineAuthorizes_core (k : List UInt8) :
    lineAuthorizes k key.core = true ↔ decodeStd key.base64 = some k := by
  have hline : ¬ (key.core = [] ∨ key.core.head? = some '#') := by
    rw [core_head]
    exact not_or.mpr ⟨key.core_ne_nil, key.not_comment⟩
  simp only [lineAuthorizes, trimSpace_core, if_neg hline, fields_core]
  cases decodeStd key.base64 with
  | none => simp
  | some decoded =>
    simp only [beq_iff_eq, Option.some.injEq]
    exact eq_comm

end KeyLine

/-! ## The file

The writer puts each key on a line and a line break after the last. The reader sees these lines and
an empty one, which authorizes nothing. -/

theorem lineAuthorizes_nil (k : List UInt8) : lineAuthorizes k [] = false := rfl

/-- No key line is blank, so that the writer keeps them all. -/
theorem keptKeys_eq (keys : List KeyLine) :
    (((keys.map KeyLine.text).map fun key => String.ofList (trim key.toList)).filter (· ≠ "")) =
      keys.map fun key => String.ofList key.core := by
  rw [List.map_map, List.filter_eq_self.mpr]
  · exact List.map_congr_left fun key _ => congrArg String.ofList key.trim_text
  · intro line hline
    obtain ⟨key, -, rfl⟩ := List.mem_map.mp hline
    simp [key.trim_text, key.core_ne_nil]

/-- The lines of the file: the trimmed keys, and an empty one after the last. -/
theorem lines_buildAuthorizedKeysContent (keys : List KeyLine) (hne : keys ≠ []) :
    (buildAuthorizedKeysContent (keys.map KeyLine.text)).toList.splitOn '\n' =
      keys.map KeyLine.core ++ [[]] := by
  have hcores : ((keys.map fun key => String.ofList key.core).map String.toList) =
      keys.map KeyLine.core := by
    rw [List.map_map]
    exact List.map_congr_left fun key _ => String.toList_ofList
  -- no key has a line break in it, so splitting finds the keys again
  have hnewline : ∀ line ∈ keys.map KeyLine.core, '\n' ∉ line := by
    intro line hline
    obtain ⟨key, -, rfl⟩ := List.mem_map.mp hline
    exact key.newline_not_mem_core
  have htext : (buildAuthorizedKeysContent (keys.map KeyLine.text)).toList =
      ['\n'].intercalate (keys.map KeyLine.core) ++ '\n' :: [] := by
    rw [buildAuthorizedKeysContent, keptKeys_eq, String.toList_append, String.toList_intercalate,
      hcores]
    rfl
  rw [htext, List.splitOn_append_cons_self,
    List.splitOn_intercalate '\n' hnewline (by simpa using hne)]
  rfl

/-- A file of key lines accepts the keys that its lines hold. -/
theorem keyAuthorized_iff (keys : List KeyLine) (k : List UInt8) :
    keyAuthorized k (buildAuthorizedKeysContent (keys.map KeyLine.text)).toList = true ↔
      ∃ key ∈ keys, decodeStd key.base64 = some k := by
  unfold keyAuthorized
  by_cases hne : keys = []
  · subst hne
    have hlines : (buildAuthorizedKeysContent []).toList.splitOn '\n' = [[], []] := by decide
    rw [List.map_nil, hlines]
    simp [lineAuthorizes_nil]
  · rw [lines_buildAuthorizedKeysContent keys hne]
    simp [lineAuthorizes_nil, KeyLine.lineAuthorizes_core]

/-- **Writer and reader agree.** For the file that is written from any list of key lines, the server
accepts a key exactly when one of the lines holds it: the key that a line was made from is accepted,
a key that stands on no line is not, and an empty list lets nobody in. -/
theorem authorized_keys_agree (keys : List KeyLine) (k : List UInt8) :
    (keyAuthorized k (buildAuthorizedKeysContent (keys.map KeyLine.text)).toList = true ↔
      ∃ key ∈ keys, decodeStd key.base64 = some k) ∧
    (∀ key ∈ keys, ∀ blob, key.base64 = encodeStd blob →
      keyAuthorized blob (buildAuthorizedKeysContent (keys.map KeyLine.text)).toList = true) ∧
    keyAuthorized k (buildAuthorizedKeysContent []).toList = false := by
  refine ⟨keyAuthorized_iff keys k, fun key hkey blob hblob => ?_, ?_⟩
  · refine (keyAuthorized_iff keys blob).mpr ⟨key, hkey, ?_⟩
    rw [hblob, decodeStd_encodeStd]
  · exact Bool.eq_false_iff.mpr fun h => by simpa using (keyAuthorized_iff [] k).mp h

/-- A line with blanks around it and a comment. -/
def commentedLine : KeyLine where
  lead := [' ', '\t']
  keyType := "ssh-ed25519".toList
  gap := [' ']
  base64 := "AAAA".toList
  comment := " me@host".toList
  trail := ['\r']
  ascii := List.all_iff_forall_prop.mp (by decide)
  lead_blank := List.all_iff_forall_prop.mp (by decide)
  keyType_word := ⟨by decide, List.all_iff_forall_prop.mp (by decide)⟩
  not_comment := by decide
  gap_ne_nil := by decide
  gap_blank := List.all_iff_forall_prop.mp (by decide)
  base64_word := ⟨by decide, List.all_iff_forall_prop.mp (by decide)⟩
  comment_head := by
    intro c hc
    cases hc
    decide
  comment_last := by
    intro c hc
    cases hc
    decide
  trail_blank := List.all_iff_forall_prop.mp (by decide)
  oneLine := by decide

/-- A line of another key, with nothing around it. -/
def plainLine : KeyLine where
  lead := []
  keyType := "ssh-rsa".toList
  gap := [' ', ' ']
  base64 := "AQID".toList
  comment := []
  trail := []
  ascii := List.all_iff_forall_prop.mp (by decide)
  lead_blank := List.all_iff_forall_prop.mp (by decide)
  keyType_word := ⟨by decide, List.all_iff_forall_prop.mp (by decide)⟩
  not_comment := by decide
  gap_ne_nil := by decide
  gap_blank := List.all_iff_forall_prop.mp (by decide)
  base64_word := ⟨by decide, List.all_iff_forall_prop.mp (by decide)⟩
  comment_head := nofun
  comment_last := nofun
  trail_blank := List.all_iff_forall_prop.mp (by decide)
  oneLine := by decide

/-- Each of two lines lets its own key in, and a third key stays out. -/
theorem authorized_keys_agree_two :
    keyAuthorized [0, 0, 0]
        (buildAuthorizedKeysContent [" \tssh-ed25519 AAAA me@host\r", "ssh-rsa  AQID"]).toList = true ∧
      keyAuthorized [1, 2, 3]
        (buildAuthorizedKeysContent [" \tssh-ed25519 AAAA me@host\r", "ssh-rsa  AQID"]).toList = true ∧
      ¬ keyAuthorized [1, 2, 4]
        (buildAuthorizedKeysContent [" \tssh-ed25519 AAAA me@host\r", "ssh-rsa  AQID"]).toList =
          true := by
  -- the two texts are what the two lines spell
  have htexts : [commentedLine, plainLine].map KeyLine.text =
      [" \tssh-ed25519 AAAA me@host\r", "ssh-rsa  AQID"] := by decide
  have hagree := fun k => (authorized_keys_agree [commentedLine, plainLine] k).1
  rw [htexts] at hagree
  refine ⟨(hagree _).mpr ⟨commentedLine, by simp, by decide⟩,
    (hagree _).mpr ⟨plainLine, by simp, by decide⟩, fun h => ?_⟩
  obtain ⟨key, hkey, hdecode⟩ := (hagree _).mp h
  simp only [List.mem_cons, List.not_mem_nil, or_false] at hkey
  rcases hkey with rfl | rfl
  · exact absurd hdecode (by decide)
  · exact absurd hdecode (by decide)

end InjectSshd

end Microsandbox
