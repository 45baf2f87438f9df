import MicrosandboxCloud.Data.Grounded
import MicrosandboxCloud.Entities
import MicrosandboxCloud.Text.PosixPath

/-!
# Microsandbox — the bootstrap patch

What `buildBootstrapPatch` does to the file system of a new VM: directories for the working
directory and the mounts, then each file after the directories above it.

* **`parentDirectories`** — the loop over `dirname`, which ends on every path.
* **`bootstrapDirectories` / `buildBootstrapPatch`** — the operations.
* **`bootstrap_parents_first`** — the working directory and the mounts are made, nothing is made
  before the directories above it, and the files are written as given.
-/

namespace Microsandbox

open Data Text.PosixPath

/-- An operation of the patch builder. -/
inductive PatchOp where
  | mkdir (path : String) (mode : Nat)
  | text (path content : String) (mode : Nat) (replace : Bool)

/-- The path that the operation writes. -/
def PatchOp.path : PatchOp → String
  | .mkdir path _ => path
  | .text path _ _ _ => path

/-- The file that is written. -/
def PatchOp.written : PatchOp → Option (String × String)
  | .mkdir _ _ => none
  | .text path content _ _ => some (path, content)

/-- `mkdir(dir, { mode: 0o755 })` -/
def makeDir (dir : String) : PatchOp := .mkdir dir 0o755

namespace MicrosandboxAdapter

/-! ## The loop over `dirname`

`parentDirectories` goes up from the directory of a file with `dirname` until it is at a root. That
it stops is not obvious from the code: it does since `dirname` of a path that is no root is shorter.
-/

/-- Where the loop stops. -/
def AtRoot (current : List Char) : Prop := current = [] ∨ current = ['.'] ∨ current = ['/']

instance (current : List Char) : Decidable (AtRoot current) :=
  inferInstanceAs (Decidable (_ ∨ _ ∨ _))

/-- What is left of the loop, at most. -/
def toRoot (current : List Char) : Nat := if AtRoot current then 0 else current.length + 1

/-- Each round comes closer to a root, which is why the loop ends. -/
theorem toRoot_dirname {current : List Char} (h : ¬ AtRoot current) :
    toRoot (dirname current) < toRoot current := by
  have hcurrent : toRoot current = current.length + 1 := if_neg h
  rcases length_dirname current with hdir | hdir | hlen
  · rw [hdir, hcurrent]
    exact Nat.succ_pos _
  · rw [hdir, hcurrent]
    exact Nat.succ_pos _
  · rw [hcurrent, toRoot]
    split <;> omega

/-- `while (current && …) { dirs.push(current); current = dirname(current) }` -/
def climb (current : List Char) : List (List Char) :=
  if AtRoot current then [] else current :: climb (dirname current)
termination_by toRoot current
decreasing_by exact toRoot_dirname ‹_›

/-- The directories above a file, outermost first. -/
def parentDirectories (filePath : String) : List String :=
  (climb (dirname (normalize filePath.toList))).reverse.map String.ofList

/-! ## The patch

The directories of the working directory and of the mounts are collected in a set, in the order in
which they are added, and made first; then the files, each after the directories above it. -/

/-- `dirs.add(…)` for what is above `${path}/.keep`, and for the directory itself. -/
def addDirectories (dirs : List String) (path : String) : List String :=
  addLast ((parentDirectories (path ++ "/.keep")).foldl addLast dirs)
    (String.ofList (normalize path.toList))

/-- First what the working directory asks for, and then each mount in turn. -/
def bootstrapDirectories (workingDir : Option String) (mounts : List MountInput) : List String :=
  let dirs := match workingDir with
    | none => []
    | some workingDir => if workingDir = "" then [] else addDirectories [] workingDir
  mounts.foldl (fun dirs mount => addDirectories dirs mount.mountPath) dirs

/-- One file, after the directories above it. -/
def bootstrapFile (patch : List PatchOp) (file : RuntimeFileDto) : List PatchOp :=
  (parentDirectories file.path).foldl (fun patch dir => patch ++ [makeDir dir]) patch
    ++ [.text file.path file.content 0o644 true]

/-- The operations of the builder `patch`, oldest first. -/
def buildBootstrapPatch (patch : List PatchOp) (files : List RuntimeFileDto)
    (workingDir : Option String) (mounts : List MountInput) : List PatchOp :=
  let patch := (bootstrapDirectories workingDir mounts).foldl
    (fun patch dir => patch ++ [makeDir dir]) patch
  files.foldl bootstrapFile patch

/-! ## What is above a path

A path is its segments, and the directories above it are the nonempty proper starts of these. In
this form it is plain which directories the loop gives, and that a directory comes after those above
it. -/

section Climb

variable {absolute : Bool} {segs : List Segment} {seg : Segment}

/-- A path with a segment is not at a root. -/
theorem not_atRoot_spell (hsegs : ∀ s ∈ segs, Named s) (hne : segs ≠ []) :
    ¬ AtRoot (spell absolute segs) := by
  have hsegments : segments (spell absolute segs) = segs := by
    simpa using segments_spell hsegs hne (Or.inl rfl)
  rintro (h | h | h)
  · exact spell_ne_nil hsegs hne h
  · -- a lone dot would be a segment that names nothing
    rw [h] at hsegments
    have hdot : ['.'] ∈ segs := by
      rw [← hsegments]
      exact List.mem_singleton_self _
    exact (hsegs _ hdot).2.1 rfl
  · rw [h] at hsegments
    exact hne hsegments.symm

/-- From a root there is nowhere to go. -/
theorem climb_root : climb (if absolute then ['/'] else ['.']) = [] := by
  rw [climb]
  cases absolute with
  | false => rfl
  | true => rfl

/-- One segment more, one nonempty start more. -/
theorem inits_tail_concat {X : Type} (l : List X) (x : X) :
    (l ++ [x]).inits.tail = l.inits.tail ++ [l ++ [x]] := by
  rw [List.inits_append]
  cases l with
  | nil => simp
  | cons y l => simp

/-- From the last directory the loop goes through all the starts of its path. -/
theorem climb_spell (hsegs : ∀ s ∈ segs, Named s) (hne : segs ≠ []) :
    (climb (spell absolute segs)).reverse = segs.inits.tail.map (spell absolute) := by
  induction segs using List.reverseRecOn with
  | nil => exact absurd rfl hne
  | append_singleton segs seg ih =>
    have hinit : ∀ s ∈ segs, Named s := fun s hs => hsegs s (List.mem_append_left _ hs)
    have hseg : Named seg := hsegs seg (List.mem_append_right _ (List.mem_singleton_self _))
    rw [climb, if_neg (not_atRoot_spell hsegs hne), List.reverse_cons]
    by_cases hnil : segs = []
    · subst hnil
      have hdir : dirname (spell absolute [seg]) = if absolute then ['/'] else ['.'] := by
        simpa using dirname_single hseg (Or.inl rfl)
      rw [List.nil_append, hdir, climb_root]
      rfl
    · have hdir : dirname (spell absolute (segs ++ [seg])) = spell absolute segs := by
        simpa using dirname_concat hinit hnil hseg (Or.inl rfl)
      rw [hdir, ih hinit hnil, inits_tail_concat, List.map_append, List.map_singleton]

end Climb

/-- The directories above a path, outermost first. -/
theorem parentDirectories_eq (filePath : String) : parentDirectories filePath =
    (resolved filePath.toList).dropLast.inits.tail.map fun segs =>
      String.ofList (spell (isAbsolute filePath.toList) segs) := by
  have hnamed := (settled_resolved filePath.toList).named
  unfold parentDirectories
  rcases List.eq_nil_or_concat (resolved filePath.toList) with hnil | ⟨segs, seg, hconcat⟩
  · -- the path is a root, and nothing is above it
    have hroot : AtRoot (dirname (normalize filePath.toList)) := by
      rcases normalize_of_nil hnil with h | h | h <;> rw [h] <;> decide
    rw [hnil, climb, if_pos hroot]
    rfl
  · rw [List.concat_eq_append] at hconcat
    have hne : resolved filePath.toList ≠ [] := by simp [hconcat]
    obtain ⟨slash, hslash, hnorm⟩ := normalize_of_ne_nil hne
    rw [hconcat] at hnorm hnamed
    -- the first `dirname` takes the file's name away, and a slash at the end with it
    rw [hnorm, hconcat, List.dropLast_concat]
    have hinit : ∀ s ∈ segs, Named s := fun s hs => hnamed s (List.mem_append_left _ hs)
    have hseg : Named seg := hnamed seg (List.mem_append_right _ (List.mem_singleton_self _))
    by_cases hnil : segs = []
    · subst hnil
      rw [List.nil_append, dirname_single hseg hslash, climb_root]
      rfl
    · rw [dirname_concat hinit hnil hseg hslash, climb_spell hinit hnil, List.map_map]
      rfl

example : parentDirectories "/a//b/../c/d.txt" = ["/a", "/a/c"] := by
  rw [parentDirectories_eq]
  simp only [String.reduceToList]
  decide

/-- The directory `above` is above `dir`. -/
def DirNeeds (dir above : String) : Prop := ProperAncestor (normalize dir.toList) above.toList

/-- The nonempty proper starts of a list. -/
theorem mem_starts {X : Type} {l q : List X} :
    q ∈ l.dropLast.inits.tail ↔ q <+: l ∧ q ≠ [] ∧ q ≠ l := by
  -- `inits` begins with the empty start, which `tail` drops
  have hmem : q ∈ l.dropLast.inits.tail ↔ q <+: l.dropLast ∧ q ≠ [] := by
    cases l.dropLast with
    | nil =>
      simp only [List.inits, List.tail_cons, List.not_mem_nil, List.prefix_nil, false_iff]
      exact fun h => h.2 h.1
    | cons x l =>
      rw [List.inits_cons, List.tail_cons, ← List.mem_inits, List.inits_cons]
      grind
  rw [hmem]
  rcases List.eq_nil_or_concat l with rfl | ⟨init, x, rfl⟩
  · simp
  · rw [List.concat_eq_append, List.dropLast_concat, List.prefix_concat_iff]
    constructor
    · rintro ⟨hpre, hne⟩
      refine ⟨Or.inr hpre, hne, ?_⟩
      rintro rfl
      exact absurd hpre.length_le (by simp)
    · rintro ⟨rfl | hpre, hne, hproper⟩
      · exact absurd rfl hproper
      · exact ⟨hpre, hne⟩

theorem mem_parentDirectories {filePath dir : String} :
    dir ∈ parentDirectories filePath ↔ DirNeeds filePath dir := by
  rw [parentDirectories_eq, DirNeeds, properAncestor_normalize, List.mem_map]
  constructor
  · rintro ⟨segs, hsegs, rfl⟩
    obtain ⟨hpre, hne, hproper⟩ := mem_starts.mp hsegs
    exact ⟨segs, hpre, hne, hproper, String.toList_ofList⟩
  · rintro ⟨segs, hpre, hne, hproper, hdir⟩
    exact ⟨segs, mem_starts.mpr ⟨hpre, hne, hproper⟩, by rw [← hdir, String.ofList_toList]⟩

/-- What is above a directory above `path` comes before it. -/
theorem grounded_parentDirectories (filePath : String) :
    Grounded DirNeeds (parentDirectories filePath) := by
  rw [parentDirectories_eq]
  have hsettled : Settled (!isAbsolute filePath.toList) (resolved filePath.toList).dropLast :=
    (settled_resolved filePath.toList).mono (List.dropLast_prefix _)
  generalize (resolved filePath.toList).dropLast = segs at hsettled
  induction segs using List.reverseRecOn with
  | nil => exact grounded_nil
  | append_singleton segs seg ih =>
    rw [inits_tail_concat, List.map_append, List.map_singleton]
    -- the directories above the last one are the starts before it
    refine (ih hsettled.dropLast).snoc fun above habove => ?_
    rw [DirNeeds, String.toList_ofList, properAncestor_normalize_spell hsettled (by simp)] at habove
    obtain ⟨pre, hpre, hne, hproper, hdir⟩ := habove
    refine List.mem_map.mpr ⟨pre, ?_, by rw [← hdir, String.ofList_toList]⟩
    have hstart : pre ∈ (segs ++ [seg]).dropLast.inits.tail := mem_starts.mpr ⟨hpre, hne, hproper⟩
    rwa [List.dropLast_concat] at hstart

/-! ## The operations

`Grounded needs l` says of a list that what an element needs comes before it. It is shown of the
directories of one path, of the set they are collected in, and of the operations. -/

/-- What is above `path` is above everything that stands in it. -/
theorem DirNeeds.keep {path above : String} (h : DirNeeds path above) :
    DirNeeds (path ++ "/.keep") above := by
  have hpath : path.toList ≠ [] := by
    intro hnil
    rw [DirNeeds, hnil, properAncestor_normalize] at h
    obtain ⟨segs, hpre, hne, -⟩ := h
    exact hne (List.prefix_nil.mp hpre)
  have hkeep : (path ++ "/.keep").toList = path.toList ++ '/' :: ".keep".toList := by
    rw [String.toList_append]
    rfl
  have hname : Named ".keep".toList := by
    simp only [String.reduceToList]
    exact ⟨by decide, by decide, by decide⟩
  unfold DirNeeds at h ⊢
  rw [properAncestor_normalize] at h ⊢
  obtain ⟨segs, hpre, hne, hproper, hdir⟩ := h
  -- resolving `path/.keep` resolves `path` and adds a segment
  rw [hkeep, resolved_concat hpath hname (by simp only [String.reduceToList]; decide),
    isAbsolute_append hpath]
  refine ⟨segs, hpre.trans (List.prefix_append _ _), hne, ?_, hdir⟩
  rintro rfl
  exact absurd hpre.length_le (by simp)

/-- A path brings along what is above it. -/
theorem grounded_addDirectories {dirs : List String} (path : String) (h : Grounded DirNeeds dirs) :
    Grounded DirNeeds (addDirectories dirs path) := by
  refine (h.foldl_addLast (grounded_parentDirectories _)).addLast fun above habove => ?_
  refine mem_foldl_addLast.mpr (Or.inr (mem_parentDirectories.mpr (DirNeeds.keep ?_)))
  rw [DirNeeds, String.toList_ofList] at habove
  exact properAncestor_normalize_normalize.mp habove

/-- The working directory first, and then the mounts one after the other. -/
theorem grounded_bootstrapDirectories (workingDir : Option String) (mounts : List MountInput) :
    Grounded DirNeeds (bootstrapDirectories workingDir mounts) := by
  have hmounts : ∀ dirs, Grounded DirNeeds dirs →
      Grounded DirNeeds (mounts.foldl (fun dirs mount => addDirectories dirs mount.mountPath) dirs)
      := by
    induction mounts with
    | nil => exact fun dirs h => h
    | cons mount mounts ih => exact fun dirs h => ih _ (grounded_addDirectories mount.mountPath h)
  refine hmounts _ ?_
  cases workingDir with
  | none => exact grounded_nil
  | some dir =>
    dsimp only
    split
    · exact grounded_nil
    · exact grounded_addDirectories dir grounded_nil

/-! ### The directories themselves

That the directories above a path are made would also hold if the path itself were forgotten. It is
made: it is added after what is above it. -/

theorem mem_addDirectories {dirs : List String} {path dir : String} (h : dir ∈ dirs) :
    dir ∈ addDirectories dirs path :=
  mem_addLast.mpr (Or.inl (mem_foldl_addLast.mpr (Or.inl h)))

theorem self_mem_addDirectories (dirs : List String) (path : String) :
    String.ofList (normalize path.toList) ∈ addDirectories dirs path :=
  mem_addLast.mpr (Or.inr rfl)

/-- The directories that a new VM is to have: the working directory and those of the mounts. -/
def AsksFor (workingDir : Option String) (mounts : List MountInput) (dir : String) : Prop :=
  (workingDir = some dir ∧ dir ≠ "") ∨ ∃ mount ∈ mounts, mount.mountPath = dir

/-- A mount adds its directory and keeps those that were there. -/
theorem mem_foldl_addDirectories {mounts : List MountInput} {dirs : List String} {dir : String}
    (h : dir ∈ dirs ∨ ∃ mount ∈ mounts, String.ofList (normalize mount.mountPath.toList) = dir) :
    dir ∈ mounts.foldl (fun dirs mount => addDirectories dirs mount.mountPath) dirs := by
  induction mounts generalizing dirs with
  | nil =>
    rcases h with h | ⟨mount, hmount, -⟩
    · exact h
    · exact absurd hmount List.not_mem_nil
  | cons mount mounts ih =>
    rw [List.foldl_cons]
    rcases h with h | ⟨other, hother, rfl⟩
    · exact ih (Or.inl (mem_addDirectories h))
    · rcases List.mem_cons.mp hother with rfl | hother
      · exact ih (Or.inl (self_mem_addDirectories dirs _))
      · exact ih (Or.inr ⟨other, hother, rfl⟩)

/-- What is asked for is among the directories that are made. -/
theorem mem_bootstrapDirectories {workingDir : Option String} {mounts : List MountInput}
    {dir : String} (h : AsksFor workingDir mounts dir) :
    String.ofList (normalize dir.toList) ∈ bootstrapDirectories workingDir mounts := by
  refine mem_foldl_addDirectories ?_
  rcases h with ⟨rfl, hne⟩ | ⟨mount, hmount, rfl⟩
  · dsimp only
    rw [if_neg hne]
    exact Or.inl (self_mem_addDirectories [] dir)
  · exact Or.inr ⟨mount, hmount, rfl⟩

/-! ### The whole patch

The directories, and then the files with the directories above each. Files are written with the
content they were given, in the order of the request. -/

/-- The operation `op` needs the directory that `above` makes. -/
def OpNeeds (op above : PatchOp) : Prop :=
  ∃ dir, ProperAncestor (normalize op.path.toList) dir ∧ above = makeDir (String.ofList dir)

/-- Directories are made in their order. -/
theorem grounded_makeDir {dirs : List String} (h : Grounded DirNeeds dirs) :
    Grounded OpNeeds (dirs.map makeDir) := by
  refine h.map ?_
  rintro dir _ ⟨above, habove, rfl⟩
  exact ⟨String.ofList above, rfl, by rwa [DirNeeds, String.toList_ofList]⟩

/-- The operations for one file. -/
def fileOps (file : RuntimeFileDto) : List PatchOp :=
  (parentDirectories file.path).map makeDir ++ [.text file.path file.content 0o644 true]

/-- A file comes after the directories above it. -/
theorem grounded_fileOps (file : RuntimeFileDto) : Grounded OpNeeds (fileOps file) := by
  refine (grounded_makeDir (grounded_parentDirectories file.path)).snoc ?_
  rintro _ ⟨above, habove, rfl⟩
  refine List.mem_map_of_mem (mem_parentDirectories.mpr ?_)
  rwa [DirNeeds, String.toList_ofList]

/-- The loop over the directories appends one operation for each. -/
theorem foldl_makeDir (dirs : List String) (patch : List PatchOp) :
    dirs.foldl (fun patch dir => patch ++ [makeDir dir]) patch = patch ++ dirs.map makeDir := by
  induction dirs generalizing patch with
  | nil => simp
  | cons dir dirs ih =>
    rw [List.foldl_cons, ih, List.map_cons, List.append_assoc, List.singleton_append]

/-- The loop over the files appends the operations of each. -/
theorem foldl_bootstrapFile (files : List RuntimeFileDto) (patch : List PatchOp) :
    files.foldl bootstrapFile patch = patch ++ files.flatMap fileOps := by
  induction files generalizing patch with
  | nil => simp
  | cons file files ih =>
    rw [List.foldl_cons, ih, List.flatMap_cons, bootstrapFile, foldl_makeDir, fileOps]
    simp only [List.append_assoc]

theorem written_makeDir (dirs : List String) :
    (dirs.map makeDir).filterMap PatchOp.written = [] := by
  rw [List.filterMap_map]
  exact List.filterMap_eq_nil_iff.mpr fun dir _ => rfl

/-- Of the operations for the files, each file is written once. -/
theorem written_fileOps (files : List RuntimeFileDto) :
    (files.flatMap fileOps).filterMap PatchOp.written =
      files.map fun file => (file.path, file.content) := by
  induction files with
  | nil => rfl
  | cons file files ih =>
    rw [List.flatMap_cons, List.filterMap_append, ih, fileOps, List.filterMap_append,
      written_makeDir]
    rfl

/-- **Directories before what is in them.** Whatever the paths are, every operation of the patch
comes after the operations that make the directories it needs. The working directory and each
directory to mount at are made, and the files that are written are those of the request, in their
order and with their contents. -/
theorem bootstrap_parents_first (patch : List PatchOp) (files : List RuntimeFileDto)
    (workingDir : Option String) (mounts : List MountInput) :
    ∃ ops, buildBootstrapPatch patch files workingDir mounts = patch ++ ops ∧
      (∀ pre op rest, ops = pre ++ op :: rest →
        ∀ dir, ProperAncestor (normalize op.path.toList) dir →
          PatchOp.mkdir (String.ofList dir) 0o755 ∈ pre) ∧
      (∀ dir, AsksFor workingDir mounts dir →
        PatchOp.mkdir (String.ofList (normalize dir.toList)) 0o755 ∈ ops) ∧
      ops.filterMap PatchOp.written = files.map fun file => (file.path, file.content) := by
  -- each file brings its own parent directories, so one after another they are grounded
  have hfiles : ∀ files : List RuntimeFileDto, Grounded OpNeeds (files.flatMap fileOps) := by
    intro files
    induction files with
    | nil => exact grounded_nil
    | cons file files ih => exact (grounded_fileOps file).append ih
  -- directories first, files after them
  have hgrounded : Grounded OpNeeds
      ((bootstrapDirectories workingDir mounts).map makeDir ++ files.flatMap fileOps) :=
    (grounded_makeDir (grounded_bootstrapDirectories workingDir mounts)).append (hfiles files)
  refine ⟨_, ?_, fun pre op rest hops dir hdir => hgrounded pre op rest hops _ ⟨dir, hdir, rfl⟩,
    fun dir hdir => ?_, ?_⟩
  · rw [buildBootstrapPatch, foldl_bootstrapFile, foldl_makeDir, List.append_assoc]
  · exact List.mem_append_left _ (List.mem_map_of_mem (mem_bootstrapDirectories hdir))
  · rw [List.filterMap_append, written_makeDir, List.nil_append, written_fileOps]

end MicrosandboxAdapter

end Microsandbox
