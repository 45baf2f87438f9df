import MicrosandboxCloud.Control
import MicrosandboxCloud.Process.Refine

/-!
# Microsandbox — what is launched in a VM

`MicrosandboxAdapterService` from the creation or the start of a VM to the script it runs there.

* **`launchLines` / `buildLaunchScript`** — the script, line by line and as a text.
  `launchedBy` is what the lines start.
* **`execWithTransientRetry`** — up to three attempts of a command. An attempt may have taken effect
  although it failed, since the time limit does not cancel it.
* **`createDetachedRuntime` / `start`** — the two ways to a running VM, call by call.
* **`launched_at_most_once_iff`** — one provisioning launches once exactly when no attempt that took
  effect and failed for a moment is followed by one that takes effect.
-/

namespace Microsandbox

open Process Text

/-! ## The launch script

`launchManagedCommand` runs one shell script in the VM. It is put together as text from its lines:
the options of the shell, the working directory, the SSH daemon and the command of the user, each
word of which is escaped. -/

namespace MicrosandboxAdapter

/-- `/[A-Za-z0-9_./:-]/` -/
def isUnquoted (c : Char) : Bool := c.isAlphanum || c ∈ ['_', '.', '/', ':', '-']

/-- A quote is closed, written between double quotes, and opened again. -/
def escapeQuote (c : Char) : List Char :=
  if c = '\'' then ['\'', '"', '\'', '"', '\''] else [c]

/-- A text of unquoted characters stays as it is; any other, the empty one included, is put into
single quotes. -/
def shellEscape (value : String) : String :=
  if value ≠ "" ∧ value.toList.all isUnquoted = true then value
  else String.ofList ('\'' :: value.toList.flatMap escapeQuote ++ ['\''])

/-- The words of a command, escaped and separated by blanks. -/
def toShellCommand (command : List String) : String :=
  " ".intercalate (command.map shellEscape)

/-- The port that the script gives to `inject-sshd`. -/
def sshdPort : Int := 22

/-- The lines of the launch script. -/
inductive LaunchLine where
  | setOptions
  | changeDir (dir : String)
  | startSshd
  | keepPid
  | pause
  | startApp (command : List String)

/-- The text of a line in the script. -/
def LaunchLine.text : LaunchLine → String
  | .setOptions => "set -eu"
  | .changeDir dir => "cd " ++ shellEscape dir
  | .startSshd => "SSHD_PORT=" ++ toString sshdPort ++ " SSHD_HOST_KEY=/etc/ssh/host_key " ++
      "SSHD_AUTHORIZED_KEYS=/root/.ssh/authorized_keys /usr/local/sbin/inject-sshd " ++
      ">/tmp/inject-sshd.log 2>&1 </dev/null &"
  | .keepPid => "ssh_pid=$!"
  | .pause => "sleep 0.5"
  | .startApp command =>
    toShellCommand command ++ " >/tmp/microsandbox-app.log 2>&1 </dev/null &"

/-- The lines in the order in which the code pushes them; absent parts have no line. -/
def launchLines (command : Option (List String)) (workingDir : Option String) (ssh : Bool) :
    List LaunchLine :=
  [.setOptions]
    ++ (trimmed workingDir).toList.map .changeDir
    ++ (if ssh then [.startSshd, .keepPid, .pause] else [])
    ++ (if (command.getD []).isEmpty then [] else [.startApp (command.getD []), .pause])

/-- The lines joined by line breaks. -/
def buildLaunchScript (command : Option (List String)) (workingDir : Option String) (ssh : Bool) :
    String :=
  "\n".intercalate ((launchLines command workingDir ssh).map LaunchLine.text)

/-- There is neither a command nor SSH to launch. -/
def nothingToLaunch (command : Option (List String)) (ssh : Bool) : Bool :=
  (command.getD []).isEmpty && !ssh

/-- The lines that are executed, if any. -/
def executedLines (command : Option (List String)) (workingDir : Option String) (ssh : Bool) :
    List LaunchLine :=
  if nothingToLaunch command ssh then [] else launchLines command workingDir ssh

/-! ## What the script starts

A shell that reads the lines starts at most two processes in the background: the SSH daemon, and the
command in the directory that the shell is in by then. -/

/-- What the script leaves running. -/
inductive VmProcess where
  | injectSshd (port : Int)
  | app (command : List String) (workingDir : Option String)
  deriving DecidableEq

/-- The shell that reads the lines: the directory it is in, and what it has started. -/
structure LaunchShell where
  workingDir : Option String
  started : List VmProcess

/-- What a line does to the shell. -/
def LaunchLine.run (shell : LaunchShell) : LaunchLine → LaunchShell
  | .changeDir dir => { shell with workingDir := some dir }
  | .startSshd => { shell with started := shell.started ++ [.injectSshd sshdPort] }
  | .startApp command =>
    { shell with started := shell.started ++ [.app command shell.workingDir] }
  | .setOptions | .keepPid | .pause => shell

/-- The processes that the lines start. -/
def launchedBy (lines : List LaunchLine) : List VmProcess :=
  (lines.foldl LaunchLine.run ⟨none, []⟩).started

/-- A script that runs to its end has started the daemon if SSH was asked for, and then the command
if there is one. -/
theorem launchedBy_executedLines (command : Option (List String)) (workingDir : Option String)
    (ssh : Bool) : launchedBy (executedLines command workingDir ssh) =
      (if ssh then [.injectSshd sshdPort] else []) ++
        (if (command.getD []).isEmpty then []
          else [.app (command.getD []) (trimmed workingDir)]) := by
  unfold executedLines nothingToLaunch launchLines launchedBy
  cases hdir : trimmed workingDir <;> cases ssh <;> cases hcommand : (command.getD []).isEmpty <;>
    simp [LaunchLine.run]

end MicrosandboxAdapter

/-! ## The backend calls

The calls that `createDetachedRuntime` and `start` make on a VM, one by one, so that a failure can
come at each of them. An attempt to run a command may have run it although it throws. -/

/-- Text, or the bytes of a binary. -/
inductive FileContent where
  | bytes (content : List UInt8)
  | text (content : String)

/-- What a launch awaits, and every other request of the services as it is. -/
inductive LaunchRequest where
  | service (op : Request)
  | createSandbox (input : CreateRuntimeInput)
  | getSandbox (name : String)
  | startDetached (name : String)
  | readBinary
  | readGatewayPublicKey
  | writeFile (path : String) (content : FileContent)
  | mkdir (path : String)
  | exec (command : String) (args : List String)
  | detach
  | delay (ms : Nat)

/-- Most calls return nothing but may throw. -/
@[reducible] def LaunchRequest.Reply : LaunchRequest → Type
  | .service op => op.Reply
  | .createSandbox _ => Except ServiceError Unit
  | .getSandbox _ => Except ServiceError Unit
  | .startDetached _ => Except ServiceError Unit
  | .readBinary => Except ServiceError (List UInt8)
  | .readGatewayPublicKey => Except ServiceError String
  | .writeFile _ _ => Except ServiceError Unit
  | .mkdir _ => Except ServiceError Unit
  | .exec _ _ => Except ServiceError Unit
  | .detach => Except ServiceError Unit
  | .delay _ => Unit

abbrev launchRequests : Signature := ⟨LaunchRequest, LaunchRequest.Reply⟩

abbrev LaunchAsync (α : Type) := Prog launchRequests ServiceError α

abbrev awaitLaunch (op : LaunchRequest) : LaunchAsync op.Reply :=
  Prog.request (σ := launchRequests) op

/-- How one attempt to execute a command goes. The time limit of an attempt is one of its errors. -/
inductive ExecOutcome where
  | returned
  | failedBefore (e : ServiceError)
  | tookEffect (e : ServiceError)

namespace ExecOutcome

/-- What the caller of an attempt gets to see. -/
def reply : ExecOutcome → Except ServiceError Unit
  | .returned => .ok ()
  | .failedBefore e => .error e
  | .tookEffect e => .error e

/-- The command has run. -/
def ran : ExecOutcome → Bool
  | .failedBefore _ => false
  | _ => true

end ExecOutcome

/-- The environment's choices. -/
structure LaunchAnswer extends Fallible ServiceError where
  service : Answer := {}
  exec : ExecOutcome := .returned
  binary : List UInt8 := []
  gatewayKey : String := ""

instance : Inhabited LaunchAnswer := ⟨{}⟩

/-- The world, and the launch scripts that took effect in the VM. -/
structure LaunchWorld where
  world : World
  launches : List String

/-- The launch script that a command executes. The other commands of a launch prepare SSH. -/
def launchScriptOf (command : String) (args : List String) : Option String :=
  match args with
  | [option, script] => if command = "sh" ∧ option = "-lc" then some script else none
  | _ => none

/-- The meaning of each request. -/
def LaunchRequest.act :
    (op : LaunchRequest) → LaunchAnswer → LaunchWorld → Option (op.Reply × LaunchWorld)
  | .service op, a, s =>
    (Microsandbox.act op a.service s.world).map fun result =>
      (result.1, { s with world := result.2 })
  | .createSandbox input, a, s =>
    some (a.outcome (), if a.failure.isNone
      then { s with world := s.world.setVm input.sandboxName (some input) } else s)
  | .getSandbox _, a, s => some (a.outcome (), s)
  | .startDetached _, a, s => some (a.outcome (), s)
  | .readBinary, a, s => some (a.outcome a.binary, s)
  | .readGatewayPublicKey, a, s => some (a.outcome a.gatewayKey, s)
  | .writeFile _ _, a, s => some (a.outcome (), s)
  | .mkdir _, a, s => some (a.outcome (), s)
  -- the script may have run although the call failed
  | .exec command args, a, s =>
    some (a.exec.reply, if a.exec.ran
      then { s with launches := s.launches ++ (launchScriptOf command args).toList } else s)
  | .detach, a, s => some (a.outcome (), s)
  | .delay _, _, s => some ((), s)

/-- The world with its launch scripts as a handler of requests. -/
def launchBackend : Handler launchRequests LaunchWorld LaunchAnswer := ⟨LaunchRequest.act⟩

/-! ## The code

`MicrosandboxAdapterService`, from the retry of commands up to the two calls of the service. -/

namespace MicrosandboxAdapter

/-- The errors after which a command is tried again. -/
def isRetryableExecError (e : ServiceError) : Bool :=
  includes e.message "exec session ended without exit event"
    || includes e.message "sandbox exec timed out"

/-- What `throw lastError` would throw without an attempt; there always is one. -/
def noAttempt : ServiceError := ⟨.error, "undefined"⟩

/-- The loop of `execWithTransientRetry` with `left` attempts of three to go. The last one throws
its error itself. -/
def execAttempts (command : String) (args : List String) : (left : Nat) → LaunchAsync Unit
  | 0 => throw noAttempt
  | left + 1 => do
    match ← awaitLaunch (.exec command args) with
    | .ok _ => return
    | .error e =>
      if isRetryableExecError e = false ∨ left = 0 then throw e
      else do
        awaitLaunch (.delay (250 * (3 - left)))
        execAttempts command args left

/-- Three attempts, with a longer delay after each. -/
def execWithTransientRetry (command : String) (args : List String) : LaunchAsync Unit :=
  execAttempts command args 3

/-- The keys that are not blank, trimmed, one on a line. -/
def buildAuthorizedKeysContent (keys : List String) : String :=
  "\n".intercalate ((keys.map fun key => String.ofList (trim key.toList)).filter (· ≠ "")) ++ "\n"

/-- A host key is made where `ssh-keygen` is there to make it. -/
def hostKeyScript : String :=
  "if command -v ssh-keygen >/dev/null 2>&1; then " ++
    "ssh-keygen -t ed25519 -f /etc/ssh/host_key -N \"\"; fi"

/-- The daemon, the gateway's key and a host key are put into the VM; without a binary of the daemon
nothing is done. -/
def injectSshBinary : LaunchAsync Unit := do
  let binary ← Prog.ofExcept (← awaitLaunch .readBinary)
  if binary = [] then return
  else do
    Prog.ofExcept (← awaitLaunch (.writeFile "/usr/local/sbin/inject-sshd" (.bytes binary)))
    execWithTransientRetry "chmod" ["+x", "/usr/local/sbin/inject-sshd"]
    let gatewayKey ← Prog.ofExcept (← awaitLaunch .readGatewayPublicKey)
    let authKeysContent := if gatewayKey = "" then "" else buildAuthorizedKeysContent [gatewayKey]
    let _ ← awaitLaunch (.mkdir "/root/.ssh")
    Prog.ofExcept (← awaitLaunch (.writeFile "/root/.ssh/authorized_keys" (.text authKeysContent)))
    tryCatch (execWithTransientRetry "sh" ["-c", hostKeyScript]) fun _ => return

/-- Without a command and without SSH nothing is run. -/
def launchManagedCommand (command : Option (List String)) (workingDir : Option String)
    (ssh : Bool) : LaunchAsync Unit :=
  if nothingToLaunch command ssh then return
  else execWithTransientRetry "sh" ["-lc", buildLaunchScript command workingDir ssh]

/-- The two stages of a launch in a new VM; SSH is set up at best effort. -/
def launchInNewVm (input : CreateRuntimeInput) : LaunchAsync Unit := do
  if input.ssh then tryCatch injectSshBinary fun _ => return
  launchManagedCommand input.command input.workingDir input.ssh

/-- A new VM, and the launch in it. The handle is detached in the end, whatever failed. -/
def createDetachedRuntime (input : CreateRuntimeInput) : LaunchAsync Unit := do
  Prog.ofExcept (← awaitLaunch (.createSandbox input))
  let launched ← Prog.attempt (launchInNewVm input)
  -- `finally`, where a failed `detach` is only logged
  let _ ← awaitLaunch .detach
  Prog.ofExcept launched

/-- A VM that is there is started and its command launched, without SSH. -/
def start (name : String) (command : Option (List String)) (workingDir : Option String) :
    LaunchAsync Unit := do
  Prog.ofExcept (← awaitLaunch (.getSandbox name))
  Prog.ofExcept (← awaitLaunch (.startDetached name))
  let launched ← Prog.attempt (launchManagedCommand command workingDir false)
  -- `finally`, where the error of `detach` takes the place of the launch's own
  Prog.ofExcept (← awaitLaunch .detach)
  Prog.ofExcept launched

end MicrosandboxAdapter

/-- How the requests of the services that launch something are carried out. -/
def launchAdapter : (op : Request) → LaunchAsync op.Reply
  | .createDetachedRuntime input => Prog.attempt (MicrosandboxAdapter.createDetachedRuntime input)
  | .start name command workingDir =>
    Prog.attempt (MicrosandboxAdapter.start name command workingDir)
  | op => awaitLaunch (.service op)

/-- `createDetachedRuntime` with `provision`'s handling of its errors, down to the backend calls. -/
def provisionVm (input : CreateRuntimeInput) : LaunchAsync Unit :=
  (RuntimeControl.createVm input).implement launchAdapter

/-! ## Attempts

How often the launch script was started is a matter of the attempts of one command. The history of
attempts is followed through the code: every stage either prepares the VM or launches, and only the
last one launches. -/

/-- The launch script that an event executed, and how that went. -/
def launchAttempt (ev : Event launchRequests LaunchWorld LaunchAnswer) : Option ExecOutcome :=
  match ev.op with
  | .exec command args => (launchScriptOf command args).map fun _ => ev.answer.exec
  | _ => none

/-- The attempts of a run to execute a launch script, in order. -/
def launchAttempts (tr : List (Event launchRequests LaunchWorld LaunchAnswer)) :
    List ExecOutcome :=
  tr.filterMap launchAttempt

/-- The request executes no launch script. -/
def LaunchRequest.Prepares : LaunchRequest → Prop
  | .exec command args => launchScriptOf command args = none
  | _ => True

section Attempts

variable {α : Type} {p : LaunchAsync α} {s s' : LaunchWorld} {x : Except ServiceError α}
  {tr : List (Event launchRequests LaunchWorld LaunchAnswer)}

/-- Each attempt that ran has added its script. -/
theorem launches_length (hexec : Exec launchBackend p s tr x s') :
    s'.launches.length = s.launches.length + (launchAttempts tr).countP ExecOutcome.ran := by
  induction hexec with
  | pure a s => rfl
  | throw e s => rfl
  | @await op k a s s₁ s' r tr x hact hrest ih =>
    rw [ih]
    -- one step adds its script if it ran one
    have hstep : s₁.launches.length =
        s.launches.length + (launchAttempt ⟨s, op, a⟩).toList.countP ExecOutcome.ran := by
      cases op with
      | service op =>
        obtain ⟨result, -, heq⟩ := Option.map_eq_some_iff.mp hact
        cases heq
        rfl
      | exec command args =>
        cases hact
        dsimp only [launchAttempt]
        cases hran : a.exec.ran <;> cases hscript : launchScriptOf command args <;>
          simp [hran]
      | createSandbox input =>
        cases hact
        dsimp only [launchAttempt]
        split <;> rfl
      | _ =>
        cases hact
        rfl
    -- the attempts of the run are that of its first step and those of the rest
    have hcons : launchAttempts (⟨s, op, a⟩ :: tr) =
        (launchAttempt ⟨s, op, a⟩).toList ++ launchAttempts tr := by
      unfold launchAttempts
      rw [List.filterMap_cons]
      cases launchAttempt ⟨s, op, a⟩ <;> rfl
    rw [hcons, List.countP_append, hstep, Nat.add_assoc]

/-- A run that prepares makes no attempt. -/
theorem launchAttempts_of_prepares (hexec : Exec launchBackend p s tr x s')
    (hp : p.Uses LaunchRequest.Prepares) : launchAttempts tr = [] := by
  apply List.filterMap_eq_nil_iff.mpr
  intro ev hev
  have hop := hexec.uses hp ev hev
  obtain ⟨w, op, a⟩ := ev
  cases op with
  | exec command args =>
    have hnone : launchScriptOf command args = none := hop
    simp [launchAttempt, hnone]
  | _ => rfl

/-- Only an attempt that failed for a moment is followed by another. -/
def Retried (attempts : List ExecOutcome) : Prop :=
  ∀ pre o rest, attempts = pre ++ o :: rest → rest ≠ [] →
    ∃ e, o.reply = .error e ∧ MicrosandboxAdapter.isRetryableExecError e = true

theorem retried_nil : Retried [] := by
  intro pre o rest h
  simp at h

/-- An attempt is followed by others only if it failed with an error after which the code tries
again. -/
theorem Retried.cons {o : ExecOutcome} {attempts : List ExecOutcome} (h : Retried attempts)
    (ho : attempts ≠ [] →
      ∃ e, o.reply = .error e ∧ MicrosandboxAdapter.isRetryableExecError e = true) :
    Retried (o :: attempts) := by
  intro pre o' rest heq hrest
  cases pre with
  | nil =>
    obtain ⟨rfl, rfl⟩ := List.cons.inj heq
    exact ho hrest
  | cons _ pre => exact h pre o' rest (List.cons.inj heq).2 hrest

/-- The attempts of one command. Induction on those that are left. -/
theorem MicrosandboxAdapter.execAttempts_retried {script : String} {left : Nat}
    {x : Except ServiceError Unit}
    (hexec : Exec launchBackend (execAttempts "sh" ["-lc", script] left) s tr x s') :
    Retried (launchAttempts tr) := by
  induction left generalizing s tr with
  | zero =>
    cases hexec
    exact retried_nil
  | succ left ih =>
    obtain ⟨r, s₁, tr₁, tr₂, rfl, hattempt, hrest⟩ | ⟨e, -, hattempt⟩ := hexec.of_bind
    · obtain ⟨a, r', hact, hr, rfl⟩ := hattempt.of_request
      cases hr
      simp only [launchBackend, LaunchRequest.act, Option.some.injEq, Prod.mk.injEq] at hact
      obtain ⟨rfl, -⟩ := hact
      change Retried (a.exec :: launchAttempts tr₂)
      cases hreply : a.exec.reply with
      | ok u =>
        rw [hreply] at hrest
        cases hrest
        exact retried_nil.cons fun h => absurd rfl h
      | error e =>
        rw [hreply] at hrest
        dsimp only at hrest
        -- the error is final, or no attempt is left
        split_ifs at hrest with hlast
        · cases hrest
          exact retried_nil.cons fun h => absurd rfl h
        -- a transient error is followed by a delay and the next attempt
        · rw [not_or, Bool.not_eq_false] at hlast
          obtain ⟨u, s₂, tr₃, tr₄, rfl, hdelay, hagain⟩ | ⟨e', -, hdelay⟩ := hrest.of_bind
          · obtain ⟨a', r', -, -, rfl⟩ := hdelay.of_request
            exact (ih hagain).cons fun _ => ⟨e, hreply, hlast.1⟩
          · obtain ⟨a', r', -, hr, -⟩ := hdelay.of_request
            cases hr
    · obtain ⟨a, r', -, hr, -⟩ := hattempt.of_request
      cases hr

end Attempts

/-- Whatever the program is answered, only failures for a moment make it launch again. -/
def RetriesLaunch {α : Type} (p : LaunchAsync α) : Prop :=
  ∀ s tr x s', Exec launchBackend p s tr x s' → Retried (launchAttempts tr)

namespace RetriesLaunch

variable {α β : Type} {p : LaunchAsync α} {f : α → LaunchAsync β}

theorem after (hp : p.Uses LaunchRequest.Prepares) (hf : ∀ a, RetriesLaunch (f a)) :
    RetriesLaunch (p >>= f) := by
  intro s tr x s' hexec
  rcases hexec.of_bind with ⟨a, s₁, tr₁, tr₂, rfl, hfirst, hrest⟩ | ⟨e, -, hfirst⟩
  · rw [launchAttempts, List.filterMap_append]
    change Retried (launchAttempts tr₁ ++ launchAttempts tr₂)
    rw [launchAttempts_of_prepares hfirst hp]
    exact hf a _ _ _ _ hrest
  · rw [launchAttempts_of_prepares hfirst hp]
    exact retried_nil

theorem before (hp : RetriesLaunch p) (hf : ∀ a, (f a).Uses LaunchRequest.Prepares) :
    RetriesLaunch (p >>= f) := by
  intro s tr x s' hexec
  rcases hexec.of_bind with ⟨a, s₁, tr₁, tr₂, rfl, hfirst, hrest⟩ | ⟨e, -, hfirst⟩
  · rw [launchAttempts, List.filterMap_append]
    change Retried (launchAttempts tr₁ ++ launchAttempts tr₂)
    rw [launchAttempts_of_prepares hrest (hf a), List.append_nil]
    exact hp _ _ _ _ hfirst
  · exact hp _ _ _ _ hfirst

/-- An exception of the launch that is kept for later. -/
theorem attempt (hp : RetriesLaunch p) : RetriesLaunch p.attempt := by
  intro s tr x s' hexec
  obtain ⟨y, -, hrun⟩ := hexec.of_attempt
  exact hp _ _ _ _ hrun

theorem of_uses (hp : p.Uses LaunchRequest.Prepares) : RetriesLaunch p := by
  intro s tr x s' hexec
  rw [launchAttempts_of_prepares hexec hp]
  exact retried_nil

end RetriesLaunch

namespace MicrosandboxAdapter

section Prepares

variable {α : Type}

theorem prepares_pure (a : α) :
    Prog.Uses (σ := launchRequests) (ε := ServiceError) LaunchRequest.Prepares (.pure a) :=
  (Prog.uses_pure a).mpr trivial

/-- A call that prepares, and then a program that only prepares whatever the reply is. -/
theorem prepares_request {op : LaunchRequest} {k : op.Reply → LaunchAsync α} (h : op.Prepares)
    (hk : ∀ r, (k r).Uses LaunchRequest.Prepares) :
    (awaitLaunch op >>= k).Uses LaunchRequest.Prepares :=
  (Prog.Uses.request h).bind hk

/-- All attempts run the same command. Induction on the attempts left. -/
theorem execAttempts_uses {allowed : LaunchRequest → Prop} {command : String} {args : List String}
    (hexec : allowed (.exec command args)) (hdelay : ∀ ms, allowed (.delay ms)) (left : Nat) :
    (execAttempts command args left).Uses allowed := by
  induction left with
  | zero => exact (Prog.uses_throw _).mpr trivial
  | succ left ih =>
    refine (Prog.Uses.request hexec).bind fun r => ?_
    cases r with
    | ok u => exact (Prog.uses_pure u).mpr trivial
    | error e =>
      dsimp only
      split_ifs
      · exact (Prog.uses_throw e).mpr trivial
      · exact (Prog.Uses.request (hdelay _)).bind fun _ => ih

/-- A command that is no launch script may be tried as often as it takes. -/
theorem execAttempts_prepares {command : String} {args : List String}
    (h : launchScriptOf command args = none) (left : Nat) :
    (execAttempts command args left).Uses LaunchRequest.Prepares :=
  execAttempts_uses h (fun _ => trivial) left

/-- The daemon is put into the VM without starting it. -/
theorem injectSshBinary_prepares : injectSshBinary.Uses LaunchRequest.Prepares := by
  refine prepares_request trivial fun binary => (Prog.Uses.ofExcept binary).bind fun binary => ?_
  split_ifs
  · exact prepares_pure ()
  refine prepares_request trivial fun written => (Prog.Uses.ofExcept written).bind fun _ => ?_
  refine (execAttempts_prepares (by decide) 3).bind fun _ => ?_
  refine prepares_request trivial fun key => (Prog.Uses.ofExcept key).bind fun key => ?_
  refine prepares_request trivial fun _ => prepares_request trivial fun written => ?_
  refine (Prog.Uses.ofExcept written).bind fun _ => ?_
  exact (execAttempts_prepares (by decide) 3).catchError fun _ => prepares_pure ()

end Prepares

/-- The launch script is one command, tried again as the code does. -/
theorem launchManagedCommand_retries (command : Option (List String)) (workingDir : Option String)
    (ssh : Bool) : RetriesLaunch (launchManagedCommand command workingDir ssh) := by
  unfold launchManagedCommand
  split_ifs
  · exact .of_uses (prepares_pure ())
  · exact fun _ _ _ _ hexec => execAttempts_retried hexec

/-- The daemon first, if SSH is wanted, and then the script. -/
theorem launchInNewVm_retries (input : CreateRuntimeInput) :
    RetriesLaunch (launchInNewVm input) := by
  unfold launchInNewVm
  split_ifs
  · exact .after (injectSshBinary_prepares.catchError fun _ => prepares_pure ()) fun _ =>
      launchManagedCommand_retries _ _ _
  · exact launchManagedCommand_retries _ _ _

/-- The same between the opening and the detaching of the handle. -/
theorem createDetachedRuntime_retries (input : CreateRuntimeInput) :
    RetriesLaunch (createDetachedRuntime input) := by
  refine .after (Prog.Uses.request trivial) fun created => ?_
  refine .after (Prog.Uses.ofExcept created) fun _ => ?_
  refine (launchInNewVm_retries input).attempt.before fun launched => ?_
  exact prepares_request trivial fun _ => Prog.Uses.ofExcept launched

end MicrosandboxAdapter

/-- A transient error that `provision` swallows adds no attempt. -/
theorem provisionVm_retries (input : CreateRuntimeInput) : RetriesLaunch (provisionVm input) := by
  unfold provisionVm RuntimeControl.createVm
  rw [Prog.implement_request]
  refine (MicrosandboxAdapter.createDetachedRuntime_retries input).attempt.before fun created => ?_
  cases created with
  | ok u => exact MicrosandboxAdapter.prepares_pure u
  | error e =>
    dsimp only
    split_ifs
    · exact MicrosandboxAdapter.prepares_pure ()
    · exact (Prog.uses_throw e).mpr trivial

/-! ## One launch

A script is started twice when an attempt that has run it reports an error after which the code
tries again. Otherwise it is started once at most. -/

/-- An attempt that took effect and failed for a moment is followed by one that takes effect. -/
def Relaunches (attempts : List ExecOutcome) : Prop :=
  ∃ pre e rest, attempts = pre ++ .tookEffect e :: rest ∧
    MicrosandboxAdapter.isRetryableExecError e = true ∧ ∃ o ∈ rest, o.ran = true

/-- When something is counted twice in a list, there is a first time and one more after it.
Induction on the list. -/
theorem exists_split_of_one_lt_countP {X : Type} {q : X → Bool} {l : List X}
    (h : 1 < l.countP q) : ∃ pre x rest, l = pre ++ x :: rest ∧ q x = true ∧ 0 < rest.countP q := by
  induction l with
  | nil => simp at h
  | cons x l ih =>
    by_cases hx : q x = true
    · rw [List.countP_cons_of_pos hx] at h
      exact ⟨[], x, l, rfl, hx, by omega⟩
    · rw [List.countP_cons_of_neg hx] at h
      obtain ⟨pre, y, rest, rfl, hy, hrest⟩ := ih h
      exact ⟨x :: pre, y, rest, rfl, hy, hrest⟩

/-- The attempt that took effect and the one after it are two. -/
theorem Relaunches.one_lt_countP {attempts : List ExecOutcome} (h : Relaunches attempts) :
    1 < attempts.countP ExecOutcome.ran := by
  obtain ⟨pre, e, rest, rfl, -, o, ho, hran⟩ := h
  have hpos : 0 < rest.countP ExecOutcome.ran := List.countP_pos_iff.mpr ⟨o, ho, hran⟩
  rw [List.countP_append, List.countP_cons_of_pos rfl]
  omega

/-- **At most once.** However the attempts go, one provisioning of a VM runs the launch script at
most once exactly when no attempt that took effect and failed for a moment is followed by one that
takes effect. -/
theorem launched_at_most_once_iff (input : CreateRuntimeInput) {s s' : LaunchWorld}
    {tr : List (Event launchRequests LaunchWorld LaunchAnswer)} {x : Except ServiceError Unit}
    (hexec : Exec launchBackend (provisionVm input) s tr x s') :
    s'.launches.length ≤ s.launches.length + 1 ↔ ¬ Relaunches (launchAttempts tr) := by
  have hretried : Retried (launchAttempts tr) := provisionVm_retries input _ _ _ _ hexec
  rw [launches_length hexec]
  constructor
  -- two attempts that ran have added two scripts
  · intro hle hrelaunches
    have hmore := hrelaunches.one_lt_countP
    omega
  · intro hnot
    by_contra hgt
    obtain ⟨pre, o, rest, heq, hran, hpos⟩ :=
      exists_split_of_one_lt_countP (show 1 < (launchAttempts tr).countP ExecOutcome.ran by omega)
    obtain ⟨o', ho', hran'⟩ := List.countP_pos_iff.mp hpos
    obtain ⟨e, hreply, hretry⟩ := hretried pre o rest heq (List.ne_nil_of_mem ho')
    -- an attempt that ran and was followed by another has failed, and for a moment only
    cases o with
    | returned => cases hreply
    | failedBefore _ => cases hran
    | tookEffect e' =>
      cases hreply
      exact hnot ⟨pre, e, rest, heq, hretry, o', ho', hran'⟩

/-- The error of an attempt that was given up. -/
def execTimedOut : ServiceError := ⟨.error, "sandbox exec timed out after 5000ms"⟩

/-- A VM with a command and without SSH. -/
def nodeInput : CreateRuntimeInput where
  sandboxName := "runtime-a"
  image := "node:22"
  registryAuth := none
  command := some ["node", "app.js"]
  workingDir := none
  ports := [⟨none, 8080, 31000, .tcp, false⟩]
  mounts := []
  cpu := 1
  memoryMiB := 512
  diskGiB := 4
  env := []
  secrets := []
  files := []
  autoStopMinutes := none
  ssh := false

/-- The first attempt is given up before the script runs, and the second returns. -/
theorem launched_at_most_once_late : ∃ tr x s',
    Exec launchBackend (provisionVm nodeInput) ⟨World.fresh .empty, []⟩ tr x s' ∧
      (launchAttempts tr).length = 2 ∧ s'.launches.length ≤ 1 := by
  obtain ⟨tr, x, s', hexec, hp⟩ := exists_exec_of_run (h := launchBackend)
    (p := provisionVm nodeInput) (s := ⟨World.fresh .empty, []⟩)
    [{}, { exec := .failedBefore execTimedOut }]
    (fun tr _ _ => (launchAttempts tr).length == 2 &&
      (launchAttempts tr).countP ExecOutcome.ran == 1)
    (by decide +kernel)
  rw [Bool.and_eq_true, beq_iff_eq, beq_iff_eq] at hp
  refine ⟨tr, x, s', hexec, hp.1,
    (launched_at_most_once_iff nodeInput hexec).mpr fun hrelaunches => ?_⟩
  have hmore := hrelaunches.one_lt_countP
  omega

/-- The script has started when the first attempt is given up; the second starts it again. -/
theorem launched_twice :
    ¬ ∀ (input : CreateRuntimeInput) (s s' : LaunchWorld)
      (tr : List (Event launchRequests LaunchWorld LaunchAnswer)) (x : Except ServiceError Unit),
      Exec launchBackend (provisionVm input) s tr x s' →
        s'.launches.length ≤ s.launches.length + 1 := by
  intro hclaim
  obtain ⟨tr, x, s', hexec, hp⟩ := exists_exec_of_run (h := launchBackend)
    (p := provisionVm nodeInput) (s := ⟨World.fresh .empty, []⟩)
    [{}, { exec := .tookEffect execTimedOut }]
    (fun _ _ s' => s'.launches.length == 2) (by decide +kernel)
  rw [beq_iff_eq] at hp
  have hle := hclaim _ _ _ _ _ hexec
  rw [hp] at hle
  exact absurd hle (by decide)

end Microsandbox
