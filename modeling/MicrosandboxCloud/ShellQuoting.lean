import MicrosandboxCloud.Launch
import MicrosandboxCloud.Text.Shell

/-!
# Microsandbox — what the shell reads of a launch script

* **`lexemes_shellEscape`** — an escaped text is one word of the shell, the text itself.
* **`LaunchLine.lexemes`** — the tokens a line of the script is meant to have.
* **`launchSkeleton`** — the tokens of the whole script: fixed ones, and between them the directory
  and the words of the command.
* **`launch_words_exact`** — the shell reads a command as its words, and the script as its skeleton.
-/

namespace Microsandbox

open Text Shell

namespace MicrosandboxAdapter

/-! ## Escaped texts

`shellEscape` writes a text in single quotes unless it consists of characters that need none. The
shell reads it character by character; what it has read so far is a list of pieces, each quoted or
not. -/

/-- Inside single quotes, an escaped character leads back into single quotes. -/
theorem reads_escapeQuote (c : Char) (pieces : List Piece) :
    Reads (.single pieces) (escapeQuote c) [] (.single (pieces ++ [.literal c true])) := by
  unfold escapeQuote
  split_ifs with hc
  · -- `'"'"'` closes the quotes, writes one between double quotes, and opens them again
    rw [hc]
    exact ⟨rfl⟩
  · have hstep : step (.single pieces) c = .ok ([], .single (pieces ++ [.literal c true])) :=
      if_neg hc
    exact Reads.cons hstep (.nil _)

/-- The whole text between the quotes. Induction on its characters, with the pieces read so far as a
parameter. -/
theorem reads_flatMap_escapeQuote (s : List Char) (pieces : List Piece) :
    Reads (.single pieces) (s.flatMap escapeQuote) []
      (.single (pieces ++ s.map fun c => .literal c true)) := by
  induction s generalizing pieces with
  | nil =>
    rw [List.map_nil, List.append_nil]
    exact .nil _
  | cons c s ih =>
    have hrest := ih (pieces ++ [.literal c true])
    rw [List.append_assoc] at hrest
    exact (reads_escapeQuote c pieces).append hrest

/-- What is written without quotes needs none. -/
theorem isOrdinary_of_isUnquoted {c : Char} (h : isUnquoted c = true) :
    isOrdinary c = true ∧ mayExpand c = false ∧ c ≠ '#' := by
  have hspecial : ∀ d ∈ specials, isUnquoted d = false := by
    simp [specials, isUnquoted, backquote]
  have hexpand : ∀ d ∈ ['*', '?', '[', '~'], isUnquoted d = false := by
    simp [isUnquoted]
  refine ⟨?_, ?_, ?_⟩
  · refine decide_eq_true fun hmem => ?_
    rw [hspecial c hmem] at h
    cases h
  · refine decide_eq_false fun hmem => ?_
    rw [hexpand c hmem] at h
    cases h
  · rintro rfl
    exact absurd h (by decide)

/-- An escaped text is one word, with nothing in it for the shell to expand. -/
theorem lexemes_shellEscape (value : String) :
    lexemes (shellEscape value).toList = .ok [.word value.toList] := by
  unfold shellEscape
  split_ifs with hplain
  · obtain ⟨hne, hall⟩ := hplain
    have hchars : ∀ c ∈ value.toList, isUnquoted c = true := List.all_eq_true.mp hall
    -- a word that begins with a hash would be a comment
    have hhead : value.toList.head? ≠ some '#' := fun hhash =>
      (isOrdinary_of_isUnquoted (hchars _ (List.mem_of_mem_head? hhash))).2.2 rfl
    refine lexemes_word (tokenize_ordinary ?_ (fun c hc => ?_) hhead) (Or.inr fun c hc => ?_)
    · simpa using hne
    · exact (isOrdinary_of_isUnquoted (hchars c hc)).1
    · exact (isOrdinary_of_isUnquoted (hchars c hc)).2.1
  · rw [String.toList_ofList]
    have hquoted := reads_flatMap_escapeQuote value.toList []
    have hclose : Reads (.single ([] ++ value.toList.map fun c => .literal c true)) ['\''] []
        (.word (value.toList.map fun c => .literal c true)) := ⟨rfl⟩
    have hopen : step .between '\'' = .ok ([], .single []) := rfl
    exact lexemes_word (tokenize_of_reads (Reads.cons hopen (hquoted.append hclose)) rfl)
      (Or.inl rfl)

/-- Words are no comments, so what follows them on a line is not swallowed. -/
theorem comment_not_mem_words (words : List String) (text : List Char) :
    .comment text ∉ words.map fun w => Lexeme.word w.toList := by
  intro hmem
  obtain ⟨w, -, hw⟩ := List.mem_map.mp hmem
  cases hw

/-- The words of a command, with a blank between two of them. Induction on the command. -/
theorem lexemes_toShellCommand (command : List String) :
    lexemes (toShellCommand command).toList = .ok (command.map fun w => .word w.toList) := by
  unfold toShellCommand
  induction command with
  | nil => rfl
  | cons w ws ih =>
    cases ws with
    | nil =>
      rw [List.map_singleton, String.intercalate_singleton]
      exact lexemes_shellEscape w
    | cons v vs =>
      rw [List.map_cons, List.map_cons, String.intercalate_cons_cons, ← List.map_cons,
        String.toList_append, String.toList_append, List.append_assoc]
      exact lexemes_blank (lexemes_shellEscape w) (comment_not_mem_words [w]) ih

/-! ## The script

The tokens of each line are written down as the line is meant. A script is its lines with a newline
between two of them, and no token reaches over one. -/

/-- Words that the script spells out. -/
def fixedWords (words : List String) : List Lexeme := words.map fun w => .word w.toList

/-- `>log 2>&1 </dev/null &` -/
def redirections (log : String) : List Lexeme :=
  [.operator .great, .word log.toList, .ioNumber ['2'], .operator .greatAnd, .word ['1'],
    .operator .less, .word "/dev/null".toList, .operator .and]

/-- The tokens of a line: fixed ones, and the words that the user supplies. -/
def LaunchLine.lexemes : LaunchLine → List Lexeme
  | .setOptions => fixedWords ["set", "-eu"]
  | .changeDir dir => fixedWords ["cd"] ++ [.word dir.toList]
  | .startSshd =>
    fixedWords ["SSHD_PORT=22", "SSHD_HOST_KEY=/etc/ssh/host_key",
      "SSHD_AUTHORIZED_KEYS=/root/.ssh/authorized_keys", "/usr/local/sbin/inject-sshd"]
      ++ redirections "/tmp/inject-sshd.log"
  | .keepPid =>
    [.expansion (("ssh_pid=".toList.map fun c => .literal c false) ++ [.parameter ['!'] false])]
  | .pause => fixedWords ["sleep", "0.5"]
  | .startApp command =>
    (command.map fun w => .word w.toList) ++ redirections "/tmp/microsandbox-app.log"

set_option maxRecDepth 2000 in
/-- Every line has the tokens that it is meant to have. -/
theorem lexemes_line (line : LaunchLine) : lexemes line.text.toList = .ok line.lexemes := by
  cases line with
  | setOptions => rfl
  | changeDir dir =>
    simp only [LaunchLine.text, LaunchLine.lexemes, String.toList_append, String.reduceToList]
    exact lexemes_blank (s := ['c', 'd']) rfl (comment_not_mem_words ["cd"])
      (lexemes_shellEscape dir)
  -- no word of this line depends on the request
  | startSshd =>
    have hport : (toString sshdPort).toList = ['2', '2'] := rfl
    simp only [LaunchLine.text, LaunchLine.lexemes, fixedWords, redirections, hport,
      String.toList_append, String.reduceToList, List.map_cons, List.map_nil]
    rfl
  | keepPid => rfl
  | pause => rfl
  -- the words were quoted one by one; the redirections follow after a blank
  | startApp command =>
    simp only [LaunchLine.text, LaunchLine.lexemes, redirections, String.toList_append,
      String.reduceToList]
    exact lexemes_blank (lexemes_toShellCommand command) (comment_not_mem_words command) rfl

/-- The lines' tokens, with a newline between two lines. -/
def scriptLexemes (lines : List LaunchLine) : List Lexeme :=
  [Lexeme.newline].intercalate (lines.map LaunchLine.lexemes)

/-- The script has the tokens of its lines. Induction on the lines. -/
theorem lexemes_script (lines : List LaunchLine) :
    lexemes ("\n".intercalate (lines.map LaunchLine.text)).toList = .ok (scriptLexemes lines) := by
  unfold scriptLexemes
  induction lines with
  | nil => rfl
  | cons line lines ih =>
    cases lines with
    | nil =>
      rw [List.map_singleton, List.map_singleton, String.intercalate_singleton,
        List.intercalate_singleton]
      exact lexemes_line line
    | cons next rest =>
      rw [List.map_cons, List.map_cons, String.intercalate_cons_cons, ← List.map_cons,
        String.toList_append, String.toList_append, List.append_assoc]
      exact lexemes_newline (lexemes_line line) ih

/-! ## The skeleton

What a launch script is meant to be to the shell, written out without reference to its lines. The
only tokens that depend on the user are one word for the directory and the words of the command. -/

/-- `sleep 0.5`, on a line of its own. -/
def pauseTokens : List Lexeme := .newline :: fixedWords ["sleep", "0.5"]

/-- The tokens that start `inject-sshd`, keep its process id and pause. -/
def sshdTokens : List Lexeme :=
  .newline :: fixedWords ["SSHD_PORT=22", "SSHD_HOST_KEY=/etc/ssh/host_key",
      "SSHD_AUTHORIZED_KEYS=/root/.ssh/authorized_keys", "/usr/local/sbin/inject-sshd"]
    ++ redirections "/tmp/inject-sshd.log"
    ++ [.newline, .expansion [.literal 's' false, .literal 's' false, .literal 'h' false,
      .literal '_' false, .literal 'p' false, .literal 'i' false, .literal 'd' false,
      .literal '=' false, .parameter ['!'] false]]
    ++ pauseTokens

/-- The tokens that start a command, one word for each of its words, and pause. -/
def commandTokens (command : List String) : List Lexeme :=
  .newline :: command.map (fun w => .word w.toList)
    ++ redirections "/tmp/microsandbox-app.log"
    ++ pauseTokens

/-- The tokens of a launch script: options, then the directory as one word, SSH and the command, each
when there is one. -/
def launchSkeleton (command : List String) (workingDir : Option String) (ssh : Bool) :
    List Lexeme :=
  fixedWords ["set", "-eu"]
    ++ (match workingDir with
      | some dir => [.newline, .word "cd".toList, .word dir.toList]
      | none => [])
    ++ (if ssh then sshdTokens else [])
    ++ (if command.isEmpty then [] else commandTokens command)

/-- After the first line, each line brings a newline and its tokens. -/
theorem scriptLexemes_cons (line : LaunchLine) (lines : List LaunchLine) :
    scriptLexemes (line :: lines) = line.lexemes ++ lines.flatMap fun l => .newline :: l.lexemes := by
  unfold scriptLexemes
  induction lines generalizing line with
  | nil => simp
  | cons next rest ih =>
    rw [List.map_cons, List.map_cons, List.intercalate_cons_cons, ← List.map_cons, ih next,
      List.flatMap_cons, List.append_assoc]
    rfl

/-- The lines of a script have the tokens of its skeleton. -/
theorem scriptLexemes_launchLines (command : List String) (workingDir : Option String)
    (ssh : Bool) : scriptLexemes (launchLines (some command) workingDir ssh) =
      launchSkeleton command (trimmed workingDir) ssh := by
  unfold launchLines launchSkeleton
  rw [List.append_assoc, List.append_assoc, List.singleton_append, scriptLexemes_cons,
    List.flatMap_append, List.flatMap_append, List.append_assoc, List.append_assoc]
  -- the options are the first line of both; then directory, SSH and command, one by one
  congr 1
  congr 1
  · cases trimmed workingDir <;> rfl
  congr 1
  · cases ssh <;> rfl
  · cases command with
    | nil => rfl
    | cons w ws =>
      change List.flatMap _ [LaunchLine.startApp (w :: ws), .pause] = commandTokens (w :: ws)
      simp only [List.flatMap_cons, List.flatMap_nil, LaunchLine.lexemes, commandTokens,
        pauseTokens, List.append_nil, List.cons_append, List.append_assoc]

end MicrosandboxAdapter

open MicrosandboxAdapter

/-- **Shell quoting.** Whatever characters the user supplies, the shell reads the text of a command
as the words of the command and nothing else, and the launch script as its skeleton, in which the
directory and the words of the command are one word each. -/
theorem launch_words_exact (command : List String) (workingDir : Option String) (ssh : Bool) :
    lexemes (toShellCommand command).toList = .ok (command.map fun w => .word w.toList) ∧
      lexemes (buildLaunchScript (some command) workingDir ssh).toList =
        .ok (launchSkeleton command (trimmed workingDir) ssh) := by
  refine ⟨lexemes_toShellCommand command, ?_⟩
  rw [← scriptLexemes_launchLines]
  exact lexemes_script _

end Microsandbox
