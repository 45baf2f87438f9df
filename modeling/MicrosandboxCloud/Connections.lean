import MicrosandboxCloud.Bootstrap
import MicrosandboxCloud.Launch
import MicrosandboxCloud.Strangers
import MicrosandboxCloud.Process.Custody

/-!
# Microsandbox — connections to sandboxes

`MicrosandboxAdapterService` down to the connections that it opens to the VMs, and the API over it.

* **`VmRequest`** — handles are looked up by name; creating a sandbox, starting it or connecting to it
  gives a connection, and everything in the VM is done over one.
* **`vmAdapter`** — the methods of the service. What `Launch` says of the creation and the start is
  said of these, once the connections are forgotten (`forget_createDetachedRuntime`,
  `forget_start`).
* **`connections_given_up`** — however requests to the API interleave, no connection is used by
  another request than the one that opened it or after it was detached, and a request that has ended
  has detached all of its own.
-/

namespace Microsandbox

open Process

/-! ## Requests

What the adapter does with a VM, down to the connections: a VM is reached over a connection that is
opened by creating, starting or connecting to it, and that has to be detached. Requests of the
services that open none stay as they are. -/

/-- The output of a command, whose code is `null` where there is none. -/
structure ExecOutput where
  stdout : String
  stderr : String
  code : Option Int

/-- What is done over a connection. -/
inductive SandboxOp where
  | exec (command : String) (args : List String)
  | shell (script : String)
  | write (path : String) (content : FileContent)
  | mkdir (path : String)
  | readToString (path : String)
  | detach

/-- Every operation over a connection may throw. -/
@[reducible] def SandboxOp.Reply : SandboxOp → Type
  | .exec _ _ => Except ServiceError ExecOutput
  | .shell _ => Except ServiceError ExecOutput
  | .write _ _ => Except ServiceError Unit
  | .mkdir _ => Except ServiceError Unit
  | .readToString _ => Except ServiceError String
  | .detach => Except ServiceError Unit

/-- What the adapter awaits, and every other request of the services as it is. `Sandbox.get` is
answered by the status that the handle shows. -/
inductive VmRequest where
  | service (op : Request)
  | getSandbox (name : String)
  | createSandbox (input : CreateRuntimeInput)
  | startDetached (name : String)
  | connect (name : String)
  | sandbox (connection : Nat) (op : SandboxOp)
  | readBinary
  | readGatewayPublicKey
  | delay (ms : Nat)

/-- Opening returns the number of the connection, if it does not throw. -/
@[reducible] def VmRequest.Reply : VmRequest → Type
  | .service op => op.Reply
  | .getSandbox _ => Except ServiceError String
  | .createSandbox _ => Except ServiceError Nat
  | .startDetached _ => Except ServiceError Nat
  | .connect _ => Except ServiceError Nat
  | .sandbox _ op => op.Reply
  | .readBinary => Except ServiceError (List UInt8)
  | .readGatewayPublicKey => Except ServiceError String
  | .delay _ => Unit

abbrev vmRequests : Signature := ⟨VmRequest, VmRequest.Reply⟩

abbrev VmAsync (α : Type) := Prog vmRequests ServiceError α

abbrev awaitVm (op : VmRequest) : VmAsync op.Reply := Prog.request (σ := vmRequests) op

/-- The environment's choices. -/
structure VmAnswer extends Fallible ServiceError where
  service : Answer := {}
  status : String := "running"
  output : ExecOutput := ⟨"", "", none⟩
  content : String := ""
  binary : List UInt8 := []
  gatewayKey : String := ""

instance : Inhabited VmAnswer := ⟨{}⟩

/-- The world, and how many connections were opened. -/
structure VmWorld where
  world : World
  opened : Nat

/-- A connection is opened, if the call does not throw. -/
def VmWorld.openConnection (s : VmWorld) (a : VmAnswer) : VmWorld :=
  if a.failure.isNone then { s with opened := s.opened + 1 } else s

/-- Numbers that were given out stay given out. -/
theorem VmWorld.openConnection_mono (s : VmWorld) {a : VmAnswer} {connection : Nat}
    (h : connection < s.opened) : connection < (s.openConnection a).opened := by
  unfold openConnection
  split
  · exact Nat.lt_succ_of_lt h
  · exact h

/-- What the environment chose for the operation. -/
def SandboxOp.reply (a : VmAnswer) : (op : SandboxOp) → op.Reply
  | .exec _ _ => a.outcome a.output
  | .shell _ => a.outcome a.output
  | .write _ _ => a.outcome ()
  | .mkdir _ => a.outcome ()
  | .readToString _ => a.outcome a.content
  | .detach => a.outcome ()

/-- The meaning of each request. -/
def VmRequest.act : (op : VmRequest) → VmAnswer → VmWorld → Option (op.Reply × VmWorld)
  | .service op, a, s =>
    (Microsandbox.act op a.service s.world).map fun result =>
      (result.1, { s with world := result.2 })
  | .getSandbox _, a, s => some (a.outcome a.status, s)
  | .createSandbox input, a, s =>
    some (a.outcome s.opened, if a.failure.isNone
      then { world := s.world.setVm input.sandboxName (some input), opened := s.opened + 1 } else s)
  | .startDetached _, a, s => some (a.outcome s.opened, s.openConnection a)
  | .connect _, a, s => some (a.outcome s.opened, s.openConnection a)
  | .sandbox _ op, a, s => some (op.reply a, s)
  | .readBinary, a, s => some (a.outcome a.binary, s)
  | .readGatewayPublicKey, a, s => some (a.outcome a.gatewayKey, s)
  | .delay _, _, s => some ((), s)

/-- The world and the number of connections as a handler of requests. -/
def vmBackend : Handler vmRequests VmWorld VmAnswer := ⟨VmRequest.act⟩

/-! ## The code

The functions of the adapter that open connections, under the names they have in
`MicrosandboxAdapterService`. Where the code has `try … finally`, the result is kept, the connection
detached, and the result passed on. -/

/-- What a launch in the VM asks for. -/
def LaunchRequest.InVm : LaunchRequest → Prop
  | .exec _ _ | .writeFile _ _ | .mkdir _ | .readBinary | .readGatewayPublicKey | .delay _ => True
  | .service _ | .createSandbox _ | .getSandbox _ | .startDetached _ | .detach => False

namespace MicrosandboxAdapter

/-- A launch, over a connection. -/
def onConnection (connection : Nat) : (op : LaunchRequest) → VmAsync op.Reply
  | .exec command args => do
    let output ← awaitVm (.sandbox connection (.exec command args))
    return output.map fun _ => ()
  | .writeFile path content => awaitVm (.sandbox connection (.write path content))
  | .mkdir path => awaitVm (.sandbox connection (.mkdir path))
  | .readBinary => awaitVm .readBinary
  | .readGatewayPublicKey => awaitVm .readGatewayPublicKey
  | .delay ms => awaitVm (.delay ms)
  -- a launch asks for none of these: `launchInNewVm_inVm`, `launchManagedCommand_inVm`
  | .service _ | .createSandbox _ | .getSandbox _ | .startDetached _ | .detach => throw noAttempt

/-- `try { … } finally { await sandbox.detach(); }` -/
def detaching {α : Type} (connection : Nat) (body : VmAsync α) : VmAsync α := do
  let result ← Prog.attempt body
  Prog.ofExcept (← awaitVm (.sandbox connection .detach))
  Prog.ofExcept result

namespace Vm

/-- The VM is created with a connection; the launch in it may fail, and the connection is detached
all the same. -/
def createDetachedRuntime (input : CreateRuntimeInput) : VmAsync Unit := do
  let connection ← Prog.ofExcept (← awaitVm (.createSandbox input))
  let launched ← Prog.attempt ((launchInNewVm input).implement (onConnection connection))
  -- `detachBestEffort`
  let _ ← awaitVm (.sandbox connection .detach)
  Prog.ofExcept launched

/-- The sandbox is looked up, started with a connection, and its command launched. -/
def start (name : String) (command : Option (List String)) (workingDir : Option String) :
    VmAsync Unit := do
  let _ ← Prog.ofExcept (← awaitVm (.getSandbox name))
  let connection ← Prog.ofExcept (← awaitVm (.startDetached name))
  detaching connection
    ((launchManagedCommand command workingDir false).implement (onConnection connection))

/-- A connection to a sandbox, which is started if it does not run. -/
def openSandbox (name : String) : VmAsync (Except ServiceError Nat) := do
  let status ← Prog.ofExcept (← awaitVm (.getSandbox name))
  if status = "running" then awaitVm (.connect name) else awaitVm (.startDetached name)

/-- A command in a sandbox, which is started for it if it does not run. -/
def exec (name command : String) (args : List String) : VmAsync ExecResult := do
  let connection ← Prog.ofExcept (← openSandbox name)
  detaching connection do
    let output ← Prog.ofExcept (← awaitVm (.sandbox connection (.exec command args)))
    return { stdout := output.stdout, stderr := output.stderr, exitCode := output.code.getD 0 }

/-- The exception of a call that does not start a sandbox. -/
def sandboxNotRunning (name : String) : ServiceError :=
  ⟨.error, "Sandbox is not running: " ++ name⟩

/-- An empty command, only in a running sandbox. -/
def refreshActivity (name : String) : VmAsync Unit := do
  let status ← Prog.ofExcept (← awaitVm (.getSandbox name))
  if status ≠ "running" then throw (sandboxNotRunning name)
  else do
    let connection ← Prog.ofExcept (← awaitVm (.connect name))
    detaching connection do
      let _ ← Prog.ofExcept (← awaitVm (.sandbox connection (.shell ":")))

/-- `mkdir` for each directory, whose errors are ignored. -/
def ensureDirs (connection : Nat) : List String → VmAsync Unit
  | [] => return
  | dir :: dirs => do
    let _ ← awaitVm (.sandbox connection (.mkdir dir))
    ensureDirs connection dirs

/-- Each of the directories above a file is made, and errors are ignored. -/
def ensureParentDirs (connection : Nat) (filePath : String) : VmAsync Unit :=
  ensureDirs connection (parentDirectories filePath)

/-- The files in the order of the request. -/
def writeFilesToSandbox (connection : Nat) : List RuntimeFileDto → VmAsync Unit
  | [] => return
  | file :: files => do
    ensureParentDirs connection file.path
    Prog.ofExcept (← awaitVm (.sandbox connection (.write file.path (.text file.content))))
    writeFilesToSandbox connection files

/-- Without files no connection is opened. -/
def writeFiles (name : String) (files : List RuntimeFileDto) : VmAsync Unit :=
  if files = [] then return
  else do
    let connection ← Prog.ofExcept (← openSandbox name)
    detaching connection (writeFilesToSandbox connection files)

/-- The loop of `readFiles`. -/
def readPaths (connection : Nat) (results : List RuntimeFileDto) :
    List String → VmAsync (List RuntimeFileDto)
  | [] => return results
  | path :: paths => do
    let content ← Prog.ofExcept (← awaitVm (.sandbox connection (.readToString path)))
    readPaths connection (results ++ [{ path, content }]) paths

/-- The same for reading. -/
def readFiles (name : String) (paths : List String) : VmAsync (List RuntimeFileDto) :=
  if paths = [] then return []
  else do
    let connection ← Prog.ofExcept (← openSandbox name)
    detaching connection (readPaths connection [] paths)

end Vm

end MicrosandboxAdapter

/-- How the requests of the services are carried out that need a connection. -/
def vmAdapter : (op : Request) → VmAsync op.Reply
  | .createDetachedRuntime input => Prog.attempt (MicrosandboxAdapter.Vm.createDetachedRuntime input)
  | .start name command workingDir =>
    Prog.attempt (MicrosandboxAdapter.Vm.start name command workingDir)
  | .exec name command args => Prog.attempt (MicrosandboxAdapter.Vm.exec name command args)
  | .refreshActivity name => Prog.attempt (MicrosandboxAdapter.Vm.refreshActivity name)
  | .writeFiles name files => Prog.attempt (MicrosandboxAdapter.Vm.writeFiles name files)
  | .readFiles name paths => Prog.attempt (MicrosandboxAdapter.Vm.readFiles name paths)
  | op => awaitVm (.service op)

/-! ## A launch without its connections

`Launch.lean` has the same functions without connections. Forgetting the connections of the
functions here gives those, so that the two models of the adapter are one. -/

namespace MicrosandboxAdapter

/-- The launch script is run in the VM. -/
theorem launchManagedCommand_inVm (command : Option (List String)) (workingDir : Option String)
    (ssh : Bool) : (launchManagedCommand command workingDir ssh).Uses LaunchRequest.InVm := by
  unfold launchManagedCommand
  split_ifs
  · exact (Prog.uses_pure ()).mpr trivial
  · exact execAttempts_uses trivial (fun _ => trivial) 3

/-- The daemon is put there by calls over the connection, and the files are read from the host. -/
theorem injectSshBinary_inVm : injectSshBinary.Uses LaunchRequest.InVm := by
  have hexec : ∀ command args,
      (execWithTransientRetry command args).Uses LaunchRequest.InVm :=
    fun _ _ => execAttempts_uses trivial (fun _ => trivial) 3
  refine (Prog.Uses.request trivial).bind fun read => ?_
  refine (Prog.Uses.ofExcept read).bind fun binary => ?_
  split_ifs
  · exact (Prog.uses_pure ()).mpr trivial
  -- the daemon is written and made executable
  refine (Prog.Uses.request trivial).bind fun written => ?_
  refine (Prog.Uses.ofExcept written).bind fun _ => ?_
  refine (hexec _ _).bind fun _ => ?_
  -- and the key of the gateway authorised
  refine (Prog.Uses.request trivial).bind fun read => ?_
  refine (Prog.Uses.ofExcept read).bind fun key => ?_
  refine (Prog.Uses.request trivial).bind fun _ => ?_
  refine (Prog.Uses.request trivial).bind fun written => ?_
  refine (Prog.Uses.ofExcept written).bind fun _ => ?_
  exact (hexec _ _).catchError fun _ => (Prog.uses_pure ()).mpr trivial

/-- All of the launch is done inside the VM that was created. -/
theorem launchInNewVm_inVm (input : CreateRuntimeInput) :
    (launchInNewVm input).Uses LaunchRequest.InVm := by
  unfold launchInNewVm
  split_ifs
  · -- a failed injection is only logged
    have hinject := injectSshBinary_inVm.catchError fun _ => (Prog.uses_pure ()).mpr trivial
    exact hinject.bind fun _ => launchManagedCommand_inVm _ _ _
  · exact launchManagedCommand_inVm _ _ _

/-- A request of the adapter without its connection. -/
def forget : (op : VmRequest) → LaunchAsync op.Reply
  | .service op => awaitLaunch (.service op)
  | .getSandbox name => do
    let found ← awaitLaunch (.getSandbox name)
    return found.map fun _ => ""
  | .createSandbox input => do
    let created ← awaitLaunch (.createSandbox input)
    return created.map fun _ => 0
  | .startDetached name => do
    let started ← awaitLaunch (.startDetached name)
    return started.map fun _ => 0
  | .sandbox _ (.exec command args) => do
    let run ← awaitLaunch (.exec command args)
    return run.map fun _ => ⟨"", "", none⟩
  | .sandbox _ (.write path content) => awaitLaunch (.writeFile path content)
  | .sandbox _ (.mkdir path) => awaitLaunch (.mkdir path)
  | .sandbox _ .detach => awaitLaunch .detach
  | .readBinary => awaitLaunch .readBinary
  | .readGatewayPublicKey => awaitLaunch .readGatewayPublicKey
  | .delay ms => awaitLaunch (.delay ms)
  -- no creation and no start asks for these
  | .connect _ | .sandbox _ (.shell _) | .sandbox _ (.readToString _) => throw noAttempt

/-- A launch over a connection is the launch. Induction on the launch. -/
theorem forget_launch {connection : Nat} {p : LaunchAsync Unit} (hp : p.Uses LaunchRequest.InVm) :
    (p.implement (onConnection connection)).attempt.implement forget = p.attempt := by
  induction p with
  | pure a => rfl
  | throw e => rfl
  | await op k ih =>
    obtain ⟨hop, hk⟩ := (Prog.uses_await op k).mp hp
    cases op with
    -- over a connection `exec` returns its output, which the launch does not look at
    | exec command args =>
      change Prog.await (σ := launchRequests) (.exec command args) _ =
        Prog.await (σ := launchRequests) (.exec command args) _
      congr 1
      funext r
      have hr : (r.map fun _ => (⟨"", "", none⟩ : ExecOutput)).map (fun _ => ()) = r := by
        cases r <;> rfl
      refine Eq.trans ?_ (ih r (hk r))
      change Prog.implement (σ := vmRequests) forget
        ((k ((r.map fun _ => (⟨"", "", none⟩ : ExecOutput)).map fun _ => ())).implement
          (onConnection connection)).attempt = _
      rw [hr]
    -- all other requests go through unchanged
    | writeFile path content => exact congrArg _ (funext fun r => ih r (hk r))
    | mkdir path => exact congrArg _ (funext fun r => ih r (hk r))
    | readBinary => exact congrArg _ (funext fun r => ih r (hk r))
    | readGatewayPublicKey => exact congrArg _ (funext fun r => ih r (hk r))
    | delay ms => exact congrArg _ (funext fun r => ih r (hk r))
    | _ => exact hop.elim

/-- Without its connection the creation is the one of `Launch.lean`. -/
theorem forget_createDetachedRuntime (input : CreateRuntimeInput) :
    (Vm.createDetachedRuntime input).implement forget = createDetachedRuntime input := by
  change Prog.await (σ := launchRequests) (.createSandbox input) _ =
    Prog.await (σ := launchRequests) (.createSandbox input) _
  congr 1
  funext created
  cases created with
  -- no VM was made, so there is no connection
  | error e => rfl
  | ok u =>
    change Prog.implement (σ := vmRequests) forget (Prog.attempt _ >>= _) =
      Prog.attempt _ >>= _
    rw [Prog.implement_bind, forget_launch (launchInNewVm_inVm input)]
    congr 1
    funext launched
    change Prog.await (σ := launchRequests) .detach _ = Prog.await (σ := launchRequests) .detach _
    congr 1
    funext _
    exact Prog.implement_ofExcept launched

theorem forget_start (name : String) (command : Option (List String)) (workingDir : Option String) :
    (Vm.start name command workingDir).implement forget = start name command workingDir := by
  change Prog.await (σ := launchRequests) (.getSandbox name) _ =
    Prog.await (σ := launchRequests) (.getSandbox name) _
  congr 1
  funext found
  cases found with
  -- the sandbox is not there
  | error e => rfl
  | ok u =>
    change Prog.await (σ := launchRequests) (.startDetached name) _ =
      Prog.await (σ := launchRequests) (.startDetached name) _
    congr 1
    funext started
    cases started with
    | error e => rfl
    | ok u =>
      change Prog.implement (σ := vmRequests) forget (Prog.attempt _ >>= _) =
      Prog.attempt _ >>= _
      rw [Prog.implement_bind, forget_launch (launchManagedCommand_inVm command workingDir false)]
      congr 1
      funext launched
      change Prog.await (σ := launchRequests) .detach _ =
        Prog.await (σ := launchRequests) .detach _
      congr 1
      funext detached
      cases detached with
      | error e => rfl
      | ok u => exact Prog.implement_ofExcept launched

end MicrosandboxAdapter

/-! ## Custody

A connection is held by the request that opened it until it asks to detach it. The lemmas follow the
functions of the adapter: what is done over a connection keeps it, `detaching` releases it, and a
whole call keeps what was held before. -/

/-- Which requests open, use and close a connection. -/
def connectionCustody : Custody vmRequests Nat where
  opens
    | .createSandbox _, r => r.toOption
    | .startDetached _, r => r.toOption
    | .connect _, r => r.toOption
    | _, _ => none
  uses
    | .sandbox connection _ => some connection
    | _ => none
  closes
    | .sandbox _ .detach => true
    | _ => false
  opens_eq_none op r h := by
    cases op with
    | sandbox connection op => rfl
    | _ => exact absurd rfl h

namespace MicrosandboxAdapter

section Custody

variable {α : Type} {connection : Nat} {P : Nat → Prop}

/-- A request that has nothing to do with connections. -/
theorem keeps_await {op : VmRequest} (huses : connectionCustody.uses op = none)
    (hopens : ∀ r, connectionCustody.opens op r = none) : connectionCustody.Keeps P (awaitVm op) := by
  refine Custody.Keeps.request (fun x hx => ?_) ?_ hopens
  · rw [huses] at hx
    cases hx
  · cases op with
    | sandbox connection op => cases huses
    | _ => rfl

/-- Anything but `detach` over the connection that is held. -/
theorem keeps_sandbox (op : SandboxOp) (hop : op ≠ .detach) :
    connectionCustody.Keeps (· = connection) (awaitVm (.sandbox connection op)) := by
  refine Custody.Keeps.request (fun x hx => (Option.some.inj hx).symm) ?_ fun _ => rfl
  cases op with
  | detach => exact absurd rfl hop
  | _ => rfl

/-- A call of the launch is made over the connection that is held, or needs none. -/
theorem onConnection_keeps (op : LaunchRequest) :
    connectionCustody.Keeps (· = connection) (onConnection connection op) := by
  cases op with
  | exec command args =>
    exact (keeps_sandbox (.exec command args) nofun).bind fun _ => Custody.Keeps.pure _
  | writeFile path content => exact keeps_sandbox (.write path content) nofun
  | mkdir path => exact keeps_sandbox (.mkdir path) nofun
  | readBinary => exact keeps_await rfl fun _ => rfl
  | readGatewayPublicKey => exact keeps_await rfl fun _ => rfl
  | delay ms => exact keeps_await rfl fun _ => rfl
  | _ => exact Custody.Keeps.throw _

theorem launch_keeps {p : LaunchAsync α} (hp : p.Uses LaunchRequest.InVm) :
    connectionCustody.Keeps (· = connection) (p.implement (onConnection connection)) :=
  Custody.Keeps.implement hp fun op _ => onConnection_keeps op

/-- The body keeps the connection, whether it returns or throws, and then it is detached. -/
theorem detaching_releases {body : VmAsync α}
    (hbody : connectionCustody.Keeps (· = connection) body) :
    connectionCustody.Releases connection (detaching connection body) := by
  refine Custody.Releases.attempt hbody fun result => ?_
  refine Custody.Releases.closing rfl rfl fun detached => ?_
  exact (Custody.Keeps.ofExcept detached).bind fun _ => Custody.Keeps.ofExcept result

/-- What was opened is given up by the rest of the call. -/
theorem keeps_opened {op : VmRequest} {x : op.Reply → Except ServiceError Nat}
    {k : Nat → VmAsync α} (huses : connectionCustody.uses op = none)
    (hopens : ∀ r, connectionCustody.opens op r = (x r).toOption)
    (hk : ∀ connection, connectionCustody.Releases connection (k connection)) :
    connectionCustody.Keeps P (awaitVm op >>= fun r => Prog.ofExcept (x r) >>= k) := by
  -- if the request has opened a connection it returned one, and what comes after it gives that one
  -- up
  refine Custody.Keeps.opening huses (fun r connection hr => ?_) fun r hr => ?_
  · rw [hopens] at hr
    cases hx : x r with
    | ok opened =>
      rw [hx] at hr
      cases hr
      exact hk connection
    | error e =>
      rw [hx] at hr
      cases hr
  · rw [hopens] at hr
    cases hx : x r with
    | ok opened =>
      rw [hx] at hr
      cases hr
    | error e => exact Custody.Keeps.throw e

namespace Vm

/-- The connection of a new VM is detached after the launch, and the result of the launch is passed
on. -/
theorem createDetachedRuntime_keeps (input : CreateRuntimeInput) :
    connectionCustody.Keeps P (createDetachedRuntime input) := by
  refine keeps_opened rfl (fun _ => rfl) fun connection => ?_
  have hlaunch : connectionCustody.Keeps (· = connection)
      ((launchInNewVm input).implement (onConnection connection)) :=
    launch_keeps (launchInNewVm_inVm input)
  refine Custody.Releases.attempt hlaunch fun launched => ?_
  exact Custody.Releases.closing rfl rfl fun _ => Custody.Keeps.ofExcept launched

/-- The connection of a started VM is detached after its command was launched. -/
theorem start_keeps (name : String) (command : Option (List String)) (workingDir : Option String) :
    connectionCustody.Keeps P (start name command workingDir) := by
  have hfound : connectionCustody.Keeps P (awaitVm (.getSandbox name)) :=
    keeps_await rfl fun _ => rfl
  refine hfound.checked fun status => ?_
  refine keeps_opened rfl (fun _ => rfl) fun connection => ?_
  exact detaching_releases (launch_keeps (launchManagedCommand_inVm command workingDir false))

/-- A connection to a sandbox that runs already, or that is started. -/
theorem openSandbox_keeps {name : String} {k : Nat → VmAsync α}
    (hk : ∀ connection, connectionCustody.Releases connection (k connection)) :
    connectionCustody.Keeps P (openSandbox name >>= fun r => Prog.ofExcept r >>= k) := by
  simp only [openSandbox, Prog.bind_assoc]
  have hfound : connectionCustody.Keeps P (awaitVm (.getSandbox name)) :=
    keeps_await rfl fun _ => rfl
  refine hfound.checked fun status => ?_
  split_ifs
  · exact keeps_opened rfl (fun _ => rfl) hk
  · exact keeps_opened rfl (fun _ => rfl) hk

/-- The connection is detached after the command has ended. -/
theorem exec_keeps (name command : String) (args : List String) :
    connectionCustody.Keeps P (exec name command args) := by
  refine openSandbox_keeps fun connection => ?_
  have hexec : connectionCustody.Keeps (· = connection)
      (awaitVm (.sandbox connection (.exec command args))) := keeps_sandbox _ nofun
  exact detaching_releases (hexec.checked fun output => Custody.Keeps.pure _)

/-- The connection is detached after the empty command. -/
theorem refreshActivity_keeps (name : String) :
    connectionCustody.Keeps P (refreshActivity name) := by
  have hfound : connectionCustody.Keeps P (awaitVm (.getSandbox name)) :=
    keeps_await rfl fun _ => rfl
  refine hfound.checked fun status => ?_
  split_ifs
  · exact Custody.Keeps.throw _
  · refine keeps_opened rfl (fun _ => rfl) fun connection => ?_
    have hshell : connectionCustody.Keeps (· = connection)
        (awaitVm (.sandbox connection (.shell ":"))) := keeps_sandbox _ nofun
    exact detaching_releases (hshell.checked fun output => Custody.Keeps.pure _)

/-- Induction on the directories. -/
theorem ensureDirs_keeps (dirs : List String) :
    connectionCustody.Keeps (· = connection) (ensureDirs connection dirs) := by
  induction dirs with
  | nil => exact Custody.Keeps.pure ()
  | cons dir dirs ih =>
    have hmkdir : connectionCustody.Keeps (· = connection)
        (awaitVm (.sandbox connection (.mkdir dir))) := keeps_sandbox _ nofun
    exact hmkdir.bind fun _ => ih

/-- Induction on the files. -/
theorem writeFilesToSandbox_keeps (files : List RuntimeFileDto) :
    connectionCustody.Keeps (· = connection) (writeFilesToSandbox connection files) := by
  induction files with
  | nil => exact Custody.Keeps.pure ()
  | cons file files ih =>
    refine (ensureDirs_keeps (parentDirectories file.path)).bind fun _ => ?_
    have hwrite : connectionCustody.Keeps (· = connection)
        (awaitVm (.sandbox connection (.write file.path (.text file.content)))) := keeps_sandbox _ nofun
    exact hwrite.checked fun _ => ih

/-- The connection is detached after the last file, or after the first one that failed. -/
theorem writeFiles_keeps (name : String) (files : List RuntimeFileDto) :
    connectionCustody.Keeps P (writeFiles name files) := by
  unfold writeFiles
  split_ifs
  · exact Custody.Keeps.pure ()
  · refine openSandbox_keeps fun connection => ?_
    exact detaching_releases (writeFilesToSandbox_keeps files)

/-- Induction on the paths. -/
theorem readPaths_keeps (paths : List String) (results : List RuntimeFileDto) :
    connectionCustody.Keeps (· = connection) (readPaths connection results paths) := by
  induction paths generalizing results with
  | nil => exact Custody.Keeps.pure results
  | cons path paths ih =>
    have hread : connectionCustody.Keeps (· = connection)
        (awaitVm (.sandbox connection (.readToString path))) := keeps_sandbox _ nofun
    exact hread.checked fun content => ih (results ++ [⟨path, content⟩])

/-- The connection is detached after the last file was read, or one could not be. -/
theorem readFiles_keeps (name : String) (paths : List String) :
    connectionCustody.Keeps P (readFiles name paths) := by
  unfold readFiles
  split_ifs
  · exact Custody.Keeps.pure []
  · refine openSandbox_keeps fun connection => ?_
    exact detaching_releases (readPaths_keeps paths [])

end Vm

end Custody

end MicrosandboxAdapter

/-- Every request of the services keeps what was held: those above open a connection and give it up,
and all others open none. -/
theorem vmAdapter_keeps {P : Nat → Prop} (op : Request) :
    connectionCustody.Keeps P (vmAdapter op) := by
  cases op with
  | createDetachedRuntime input =>
    exact (MicrosandboxAdapter.Vm.createDetachedRuntime_keeps input).attempt
  | start name command workingDir =>
    exact (MicrosandboxAdapter.Vm.start_keeps name command workingDir).attempt
  | exec name command args => exact (MicrosandboxAdapter.Vm.exec_keeps name command args).attempt
  | refreshActivity name => exact (MicrosandboxAdapter.Vm.refreshActivity_keeps name).attempt
  | writeFiles name files => exact (MicrosandboxAdapter.Vm.writeFiles_keeps name files).attempt
  | readFiles name paths => exact (MicrosandboxAdapter.Vm.readFiles_keeps name paths).attempt
  | _ => exact MicrosandboxAdapter.keeps_await rfl fun _ => rfl

/-- Connections are numbered as they are opened. -/
theorem connections_mint :
    connectionCustody.Mints vmBackend fun s connection => connection < s.opened where
  opened op a s r s' connection hact hopens := by
    cases op with
    | createSandbox input =>
      cases hact
      cases hfailure : a.failure <;> simp_all [connectionCustody, Fallible.outcome, Except.toOption]
    -- the number of a new connection is the one that is counted up
    | startDetached name =>
      cases hact
      cases hfailure : a.failure <;>
        simp_all [connectionCustody, Fallible.outcome, Except.toOption, VmWorld.openConnection]
    | connect name =>
      cases hact
      cases hfailure : a.failure <;>
        simp_all [connectionCustody, Fallible.outcome, Except.toOption, VmWorld.openConnection]
    | _ => cases hopens
  kept op a s r s' connection hact hminted := by
    cases op with
    -- a call of another service opens nothing
    | service op =>
      obtain ⟨result, -, heq⟩ := Option.map_eq_some_iff.mp hact
      cases heq
      exact hminted
    | createSandbox input =>
      cases hact
      split
      · exact Nat.lt_succ_of_lt hminted
      · exact hminted
    | startDetached name =>
      cases hact
      exact s.openConnection_mono hminted
    | connect name =>
      cases hact
      exact s.openConnection_mono hminted
    | _ =>
      cases hact
      exact hminted

/-! ## Requests together

Requests of the API run side by side down to their connections. Each of them keeps its own, and the
numbers that the backend gives out are new, so that no two requests ever hold the same connection.
-/

/-- The pools that requests to the API reach when they interleave at everything they await, down to
the connections. -/
def ServingVms {ι : Type} [DecidableEq ι] (cfg : ApiConfig) (reqs : ι → HttpRequest) (s : VmWorld)
    (tr : List (ι × Event vmRequests VmWorld VmAnswer))
    (c : Pool vmRequests ServiceError HttpReply VmWorld ι) : Prop :=
  Pool.Run vmBackend (fun _ _ _ => True)
    ⟨fun i => ((reqs i).prog cfg).implement vmAdapter, s⟩ tr c

/-- The request of the thread has opened the connection. -/
abbrev OpenedBy {ι : Type} [DecidableEq ι] (tr : List (ι × Event vmRequests VmWorld VmAnswer)) (i : ι)
    (connection : Nat) : Prop :=
  connectionCustody.OpenedIn (Pool.transcript vmBackend i tr) connection

/-- The request of the thread has asked for the connection to be detached. -/
abbrev DetachedBy {ι : Type} [DecidableEq ι] (tr : List (ι × Event vmRequests VmWorld VmAnswer))
    (i : ι) (connection : Nat) : Prop :=
  connectionCustody.ClosedIn (Pool.transcript vmBackend i tr) connection

/-- **No connection is shared or leaked.** However requests on the routes of `Route` interleave and
whatever fails, what is done over a connection is done by the request that opened it, which is the
only one that did, and before it asked for the connection to be detached, and a request that has
ended has asked so for every connection it opened. -/
theorem connections_given_up {ι : Type} [DecidableEq ι] (cfg : ApiConfig) (reqs : ι → HttpRequest)
    (s : VmWorld) {tr : List (ι × Event vmRequests VmWorld VmAnswer)}
    {c : Pool vmRequests ServiceError HttpReply VmWorld ι} (hrun : ServingVms cfg reqs s tr c) :
    (∀ pre i ev rest connection op, tr = pre ++ (i, ev) :: rest →
      ev.op = .sandbox connection op →
        OpenedBy pre i connection ∧ ¬ DetachedBy pre i connection ∧
          ∀ j, OpenedBy pre j connection → j = i) ∧
    ∀ i connection, (c.thread i).outcome ≠ none → OpenedBy tr i connection →
      DetachedBy tr i connection := by
  have hkeeps : ∀ i, connectionCustody.Keeps (fun _ => False)
      (((reqs i).prog cfg).implement vmAdapter) :=
    fun i => Custody.Keeps.implement (Prog.uses_all _) fun op _ => vmAdapter_keeps op
  obtain ⟨hsteps, hended⟩ := Pool.Run.custody connections_mint hkeeps hrun
  refine ⟨fun pre i ev rest connection op htr hop => ?_, hended⟩
  exact hsteps pre i ev rest connection htr (by rw [hop]; rfl)

/-- One request executes a command in a sandbox, all others write a file there. -/
def execAndWrites : Nat → HttpRequest
  | 0 => ⟨some (.single "Bearer internal"), .exec "a" "make" none⟩
  | _ => ⟨some (.single "Bearer internal"), .writeFiles "a" [⟨"/srv/app/index.js", ""⟩]⟩

/-- A world with a row and its VM. -/
def runningSandbox : World :=
  (World.only { bareRow "a" with sandboxName := "runtime-a" }).setVm "runtime-a" (some nodeInput)

/-- The command fails after the other request has opened its connection. -/
def commandFails : List (Nat × VmAnswer) :=
  List.replicate 4 (0, default) ++ List.replicate 4 (1, default) ++
    (0, { failure := some ⟨.error, "killed"⟩ }) :: (1, default) :: (0, default) ::
      List.replicate 5 (1, default)

/-- The command fails while the file is written over another connection. Both are detached. -/
theorem failed_exec_given_up : ∃ tr c,
    ServingVms closedApi execAndWrites ⟨runningSandbox, 0⟩ tr c ∧
      OpenedBy tr 0 0 ∧ DetachedBy tr 0 0 ∧ OpenedBy tr 1 1 ∧ DetachedBy tr 1 1 := by
  obtain ⟨tr, c, hrun, hfound⟩ := Pool.exists_run_of_schedule (h := vmBackend) commandFails
    (fun tr (c : Pool vmRequests ServiceError HttpReply VmWorld Nat) =>
      ((c.thread 0).outcome.isSome && (c.thread 1).outcome.isSome) &&
        ((Pool.transcript vmBackend 0 tr).any (fun e => connectionCustody.opens e.1 e.2 == some 0) &&
          (Pool.transcript vmBackend 1 tr).any (fun e => connectionCustody.opens e.1 e.2 == some 1)))
    (show (Pool.schedule vmBackend commandFails
      ⟨fun i => ((execAndWrites i).prog closedApi).implement vmAdapter,
        ⟨runningSandbox, 0⟩⟩).any _ = true by decide +kernel)
  simp only [Bool.and_eq_true, List.any_eq_true, beq_iff_eq] at hfound
  obtain ⟨⟨hended₀, hended₁⟩, hopened₀, hopened₁⟩ := hfound
  obtain ⟨-, hgiven⟩ := connections_given_up closedApi execAndWrites _ hrun
  exact ⟨tr, c, hrun, hopened₀, hgiven 0 0 (Option.isSome_iff_ne_none.mp hended₀) hopened₀,
    hopened₁, hgiven 1 1 (Option.isSome_iff_ne_none.mp hended₁) hopened₁⟩

end Microsandbox
