import Mathlib.Algebra.GroupWithZero.Nat
import MicrosandboxCloud.SshBridge

/-!
# Microsandbox — when the bridge stands still

What is left for `bridgeChannel` to do once the sandbox has closed its channel, for a client that
keeps its input open and waits for the gateway's close.

* **`ClientOpen`** — the invariant of the client's channel: neither end closes it first.
* **`Idle`** — nothing is left of the client's, and the sandbox's goroutines have returned or wait
  for the client.
* **`Bridge.work`** — a rank that every step of the bridge lowers.
* **`bridge_moves_iff`** — the bridge moves exactly while it is not idle, and becomes idle by its
  own steps.
-/

namespace Microsandbox

namespace SshBridge

open Process

/-! ## The client's channel

The invariant has two halves. As long as the client waits for the gateway's close, neither end of
its channel has closed it; and once the sandbox's close has been taken, its channel is at its end
and has been answered with a close. Each small lemma says that one operation on a half keeps its
part. -/

/-- The client keeps its input open, and closes its channel only after the gateway has. -/
def clientWaits (b : Bridge) : Action → Prop
  | .send .client .eof => False
  | .send .client .close => .close ∈ b.client.seen
  | _ => True

/-- Neither end has closed the client's channel. -/
structure ClientOpen (h : Half) : Prop where
  sentClose : h.sentClose = false
  closed : h.closed = false
  eof : h.eof = false
  ranging : h.forwarder ≠ .done
  passed : .close ∉ h.passed
  noClose : .close ∉ h.incoming
  noEof : .eof ∉ h.incoming

/-- What the gateway knows of the sandbox's channel once it has been closed. -/
structure SandboxSide (h : Half) : Prop where
  held : h.copier ≠ .holding []
  closed : .close ∈ h.taken → h.closed = true ∧ h.eof = true ∧ h.sentClose = true

section Halves

variable {h : Half} {p : Packet}

/-- Sending anything but a close leaves the channel open. -/
theorem ClientOpen.emit (hopen : ClientOpen h) (hp : p ≠ .close) : ClientOpen (h.emit p) := by
  constructor
  · rw [h.emit_sentClose]
    exact hopen.sentClose
  · rw [h.emit_closed]
    exact hopen.closed
  · rw [h.emit_eof]
    exact hopen.eof
  · rw [h.emit_forwarder]
    exact hopen.ranging
  · rw [h.passed_emit_of_open p hopen.sentClose, List.mem_append, List.mem_singleton]
    exact fun hmem => hmem.elim hopen.passed fun heq => hp heq.symm
  · rw [h.emit_incoming]
    exact hopen.noClose
  · rw [h.emit_incoming]
    exact hopen.noEof

theorem ClientOpen.answer (hopen : ClientOpen h) (request : ChannelRequest) (ok : Bool) :
    ClientOpen (h.answer request ok) := by
  unfold Half.answer
  split_ifs
  · exact hopen.emit nofun
  · exact hopen

/-- The client sends neither the end of its input nor a close. -/
theorem ClientOpen.send (hopen : ClientOpen h) (hclose : p ≠ .close) (heof : p ≠ .eof) :
    ClientOpen { h with incoming := h.incoming ++ [p] } := by
  refine { hopen with noClose := ?_, noEof := ?_ }
  · rw [List.mem_append, List.mem_singleton]
    exact fun hmem => hmem.elim hopen.noClose fun heq => hclose heq.symm
  · rw [List.mem_append, List.mem_singleton]
    exact fun hmem => hmem.elim hopen.noEof fun heq => heof heq.symm

/-- What the client receives is none of it a close. -/
theorem ClientOpen.receive {rest : List Packet} (hopen : ClientOpen h)
    (houtgoing : h.outgoing = p :: rest) :
    ClientOpen { h with outgoing := rest, seen := h.seen ++ [p] } := by
  have hpassed : .close ∉ h.seen ++ [p] ++ rest := by
    rw [List.append_assoc, List.singleton_append, ← houtgoing]
    exact hopen.passed
  exact { hopen with passed := hpassed }

/-- Nor is what the library takes from the client. -/
theorem ClientOpen.deliver {rest : List Packet} (hopen : ClientOpen h)
    (hincoming : h.incoming = p :: rest) :
    ClientOpen ({ h with incoming := rest, taken := h.taken ++ [p] }.accept p) := by
  have hclose : .close ∉ p :: rest := hincoming ▸ hopen.noClose
  have heof : .eof ∉ p :: rest := hincoming ▸ hopen.noEof
  have hmoved : ClientOpen { h with incoming := rest, taken := h.taken ++ [p] } :=
    { hopen with
      noClose := fun hmem => hclose (List.mem_cons_of_mem p hmem)
      noEof := fun hmem => heof (List.mem_cons_of_mem p hmem) }
  cases p with
  | eof => exact absurd List.mem_cons_self heof
  | close => exact absurd List.mem_cons_self hclose
  | _ => exact { hmoved with }

/-- Sending to the sandbox changes nothing that it has sent. -/
theorem SandboxSide.emit (hside : SandboxSide h) : SandboxSide (h.emit p) := by
  constructor
  · rw [h.emit_copier]
    exact hside.held
  · rw [h.emit_taken, h.emit_closed, h.emit_eof, h.emit_sentClose]
    exact hside.closed

theorem SandboxSide.answer (hside : SandboxSide h) (request : ChannelRequest) (ok : Bool) :
    SandboxSide (h.answer request ok) := by
  unfold Half.answer
  split_ifs
  · exact hside.emit
  · exact hside

/-- A packet that is taken is sorted, and a close is remembered and answered. -/
theorem SandboxSide.deliver {rest : List Packet} (hside : SandboxSide h) :
    SandboxSide ({ h with incoming := rest, taken := h.taken ++ [p] }.accept p) := by
  -- a packet other than a close leaves what a close has brought about
  have hbefore : p ≠ .close → .close ∈ h.taken ++ [p] →
      h.closed = true ∧ h.eof = true ∧ h.sentClose = true := by
    intro hp hmem
    rcases List.mem_append.mp hmem with hmem | hmem
    · exact hside.closed hmem
    · exact absurd (List.mem_singleton.mp hmem).symm hp
  cases p with
  -- a close sets the three flags itself
  | close =>
    constructor
    · simpa [Half.accept, Half.close] using hside.held
    · simp [Half.accept, Half.close]
  | eof =>
    refine { hside with closed := fun hmem => ?_ }
    obtain ⟨hclosed, -, hsent⟩ := hbefore nofun hmem
    exact ⟨hclosed, rfl, hsent⟩
  | _ => exact { hside with closed := fun hmem => hbefore nofun hmem }

end Halves

/-! ## The invariant

One case for each action, by its inversion lemma. Only the main goroutine closes the client's
channel, and it waits for the goroutine that ranges over the client's requests, which goes on for as
long as the channel is open. -/

/-- Every step keeps the client's channel open. -/
theorem clientOpen_step {b b' : Bridge} {a : Action} (hmay : clientWaits b a)
    (hstep : Bridge.step a b = some b') (hopen : ClientOpen b.client)
    (hside : SandboxSide b.sandbox) : ClientOpen b'.client ∧ SandboxSide b'.sandbox := by
  cases a with
  | send side p =>
    obtain ⟨-, rfl⟩ := Bridge.step_send hstep
    cases side with
    | client =>
      -- the client closes only after the gateway has, which it has not
      have hclose : p ≠ .close := by
        rintro rfl
        exact hopen.passed (List.mem_append_left _ hmay)
      have heof : p ≠ .eof := by
        rintro rfl
        exact hmay
      exact ⟨hopen.send hclose heof, hside⟩
    | sandbox => exact ⟨hopen, { hside with }⟩
  | receive side =>
    obtain ⟨p, rest, houtgoing, rfl⟩ := Bridge.step_receive hstep
    cases side with
    | client => exact ⟨hopen.receive houtgoing, hside⟩
    | sandbox => exact ⟨hopen, { hside with }⟩
  | deliver side =>
    obtain ⟨p, rest, hincoming, rfl⟩ := Bridge.step_deliver hstep
    cases side with
    | client => exact ⟨hopen.deliver hincoming, hside⟩
    | sandbox => exact ⟨hopen, hside.deliver⟩
  | takeRequest side =>
    obtain ⟨request, rest, -, -, hcase⟩ := Bridge.step_takeRequest hstep
    have hnext : (if request.wantReply then Forwarder.awaiting else .ranging) ≠ .done := by
      split_ifs <;> nofun
    cases side with
    | client =>
      have htaken : ClientOpen { b.client with requests := rest } := { hopen with }
      rcases hcase with ⟨-, rfl⟩ | ⟨-, rfl⟩
      · exact ⟨htaken.answer request false, hside⟩
      · exact ⟨{ hopen with ranging := hnext }, hside.emit⟩
    | sandbox =>
      have htaken : SandboxSide { b.sandbox with requests := rest } := { hside with }
      rcases hcase with ⟨-, rfl⟩ | ⟨-, rfl⟩
      · exact ⟨hopen, htaken.answer request false⟩
      · exact ⟨hopen.emit nofun, { hside with }⟩
  | takeReply side =>
    obtain ⟨-, hcase⟩ := Bridge.step_takeReply hstep
    cases side with
    | client =>
      have hreplied : ∀ ok, ClientOpen { b.client.emit (.reply ok) with forwarder := .ranging } :=
        fun ok => { hopen.emit (p := .reply ok) nofun with ranging := nofun }
      rcases hcase with ⟨ok, rest, -, rfl⟩ | ⟨-, -, rfl⟩
      · exact ⟨hreplied ok, { hside with }⟩
      · exact ⟨hreplied false, hside⟩
    | sandbox =>
      have hreplied : ∀ ok,
          SandboxSide { b.sandbox.emit (.reply ok) with forwarder := .ranging } :=
        fun ok => { hside.emit (p := .reply ok) with }
      rcases hcase with ⟨ok, rest, -, rfl⟩ | ⟨-, -, rfl⟩
      · exact ⟨{ hopen with }, hreplied ok⟩
      · exact ⟨hopen, hreplied false⟩
  -- the client's request channel closes with its side, and that stays open
  | endRequests side =>
    obtain ⟨-, -, hclosed, rfl⟩ := Bridge.step_endRequests hstep
    cases side with
    | client =>
      have hopen' : b.client.closed = false := hopen.closed
      rw [show b.client.closed = true from hclosed] at hopen'
      cases hopen'
    | sandbox => exact ⟨hopen, { hside with }⟩
  -- a chunk is never empty, so a copier that holds one has something to write
  | read side n =>
    obtain ⟨-, hpos, hle, rfl⟩ := Bridge.step_read hstep
    cases side with
    | client => exact ⟨{ hopen with }, hside⟩
    | sandbox =>
      refine ⟨hopen, { hside with held := ?_ }⟩
      intro hheld
      have hnil : b.sandbox.input.take n = [] := Copier.holding.inj hheld
      have hlength : n ≤ b.sandbox.input.length := hle
      have hzero : (b.sandbox.input.take n).length = 0 := by rw [hnil]; rfl
      rw [List.length_take] at hzero
      omega
  | write side n =>
    obtain ⟨bytes, -, hcase⟩ := Bridge.step_write hstep
    cases side with
    | client =>
      rcases hcase with ⟨-, rfl⟩ | ⟨-, -, -, rfl⟩
      · exact ⟨{ hopen with }, hside⟩
      · exact ⟨{ hopen with }, hside.emit⟩
    | sandbox =>
      rcases hcase with ⟨-, rfl⟩ | ⟨-, -, hle, rfl⟩
      · exact ⟨hopen, { hside with held := nofun }⟩
      · refine ⟨hopen.emit nofun, { hside with held := ?_ }⟩
        show (if n = bytes.length then Copier.reading else .holding (bytes.drop n)) ≠ .holding []
        split_ifs with hn
        · nofun
        · intro hheld
          have hnil : bytes.drop n = [] := Copier.holding.inj hheld
          have hlength := List.drop_eq_nil_iff.mp hnil
          omega
  -- likewise the client's input never ends
  | endCopy side =>
    obtain ⟨-, -, heof, rfl⟩ := Bridge.step_endCopy hstep
    cases side with
    | client =>
      have hopen' : b.client.eof = false := hopen.eof
      rw [show b.client.eof = true from heof] at hopen'
      cases hopen'
    | sandbox => exact ⟨hopen.emit nofun, { hside with held := nofun }⟩
  | finish =>
    obtain ⟨-, hdone, -, -, -, rfl⟩ := Bridge.step_finish hstep
    exact absurd hdone hopen.ranging

/-- Induction on the run. At the start nothing has been sent. -/
theorem clientOpen_of_reached {b : Bridge} (hreached : Reached Bridge.step clientWaits {} b) :
    ClientOpen b.client ∧ SandboxSide b.sandbox := by
  refine hreached.invariant (I := fun b => ClientOpen b.client ∧ SandboxSide b.sandbox) ?_
    fun b a b' h hmay hstep => clientOpen_step hmay hstep h.1 h.2
  constructor <;> constructor <;> simp [Half.passed]

/-! ## Everything the sandbox sent is forwarded

Once a closed channel has been read to its end and all of it passed on, nothing that the gateway
does brings anything back. -/

/-- The peer has closed, and all it sent has been read and passed on. -/
structure Half.Drained (h : Half) : Prop where
  closed : .close ∈ h.sent
  incoming : h.incoming = []
  requests : h.requests = []
  input : h.input = []
  held : h.copier.held = []

/-- Sending to the sandbox adds nothing to what it has sent. -/
theorem Half.Drained.emit {h : Half} {p : Packet} (hdrained : h.Drained) : (h.emit p).Drained := by
  constructor
  · rw [h.emit_sent]
    exact hdrained.closed
  · rw [h.emit_incoming]
    exact hdrained.incoming
  · rw [h.emit_requests]
    exact hdrained.requests
  · rw [h.emit_input]
    exact hdrained.input
  · rw [h.emit_copier]
    exact hdrained.held

/-- The gateway takes nothing back: its steps leave the sandbox's channel drained. -/
theorem drained_step {b b' : Bridge} {a : Action} (ha : a.isBridge = true)
    (hstep : Bridge.step a b = some b') (hdrained : b.sandbox.Drained) : b'.sandbox.Drained := by
  cases a with
  | send side p => cases ha
  | receive side => cases ha
  | deliver side =>
    -- nothing of the sandbox's is left to deliver, take or read
    obtain ⟨p, rest, hincoming, rfl⟩ := Bridge.step_deliver hstep
    cases side with
    | client => exact hdrained
    | sandbox =>
      have hnil := hdrained.incoming
      rw [show b.sandbox.incoming = p :: rest from hincoming] at hnil
      cases hnil
  | takeRequest side =>
    obtain ⟨request, rest, -, hrequests, hcase⟩ := Bridge.step_takeRequest hstep
    cases side with
    | client =>
      rcases hcase with ⟨-, rfl⟩ | ⟨-, rfl⟩
      · exact hdrained
      · exact hdrained.emit
    | sandbox =>
      have hnil := hdrained.requests
      rw [show b.sandbox.requests = request :: rest from hrequests] at hnil
      cases hnil
  | takeReply side =>
    obtain ⟨-, hcase⟩ := Bridge.step_takeReply hstep
    cases side with
    | client =>
      rcases hcase with ⟨ok, rest, -, rfl⟩ | ⟨-, -, rfl⟩
      · exact { hdrained with }
      · exact hdrained
    | sandbox =>
      rcases hcase with ⟨ok, rest, -, rfl⟩ | ⟨-, -, rfl⟩
      · exact { hdrained.emit (p := .reply ok) with }
      · exact { hdrained.emit (p := .reply false) with }
  | endRequests side =>
    obtain ⟨-, -, -, rfl⟩ := Bridge.step_endRequests hstep
    cases side with
    | client => exact hdrained
    | sandbox => exact { hdrained with }
  | read side n =>
    obtain ⟨-, hpos, hle, rfl⟩ := Bridge.step_read hstep
    cases side with
    | client => exact hdrained
    | sandbox =>
      have hlength : n ≤ b.sandbox.input.length := hle
      rw [hdrained.input, List.length_nil] at hlength
      omega
  | write side n =>
    obtain ⟨bytes, hholding, hcase⟩ := Bridge.step_write hstep
    cases side with
    | client =>
      rcases hcase with ⟨-, rfl⟩ | ⟨-, -, -, rfl⟩
      · exact hdrained
      · exact hdrained.emit
    | sandbox =>
      -- a failed write ends the copier, a further write needs bytes that are not there
      rcases hcase with ⟨-, rfl⟩ | ⟨-, hpos, hle, rfl⟩
      · exact { hdrained with held := rfl }
      · have hheld := hdrained.held
        rw [show b.sandbox.copier = .holding bytes from hholding] at hheld
        have hbytes : bytes = [] := hheld
        rw [hbytes, List.length_nil] at hle
        omega
  | endCopy side =>
    obtain ⟨-, -, -, rfl⟩ := Bridge.step_endCopy hstep
    cases side with
    | client => exact hdrained.emit
    | sandbox => exact { hdrained with held := rfl }
  | finish =>
    obtain ⟨-, -, -, -, -, rfl⟩ := Bridge.step_finish hstep
    exact { hdrained.emit (p := .close) with }

/-! ## What is left to do

A measure for the steps of the gateway: packets on their way, requests and bytes that are read but
not passed on, and the goroutines that have not returned. Every step of the gateway makes it
smaller, so that the gateway comes to a stop whatever it does next. -/

/-- A packet has to be taken, its bytes read and written, its request forwarded and answered. -/
def Packet.work : Packet → Nat
  | .data bytes => 1 + 2 * bytes.length
  | .request _ => 3
  | _ => 1

/-- A goroutine that awaits a reply has to take it and return. -/
def Forwarder.work : Forwarder → Nat
  | .ranging => 1
  | .awaiting => 2
  | .done => 0

/-- Bytes that were read have to be written. -/
def Copier.work : Copier → Nat
  | .reading => 1
  | .holding bytes => 1 + bytes.length
  | .done => 0

/-- What the gateway has still to do for a channel. -/
def Half.work (h : Half) : Nat :=
  (h.incoming.map Packet.work).sum + 2 * h.input.length + 2 * h.requests.length +
    h.forwarder.work + h.copier.work

/-- Both channels, and the main goroutine. -/
def Bridge.work (b : Bridge) : Nat :=
  b.client.work + b.sandbox.work + if b.finished then 0 else 1

/-- What is sent to a peer is work for the peer and not for the gateway. -/
@[simp] theorem work_emit (h : Half) (p : Packet) : (h.emit p).work = h.work := by simp [Half.work]

/-- So is a close. -/
@[simp] theorem work_close (h : Half) : h.close.work = h.work := work_emit h .close

/-- And a reply. -/
@[simp] theorem work_answer (h : Half) (request : ChannelRequest) (ok : Bool) :
    (h.answer request ok).work = h.work := by
  unfold Half.answer
  split_ifs
  · exact work_emit h _
  · rfl

/-- Less to do for one channel is less to do in all. -/
theorem work_setHalf {b : Bridge} {side : Side} {h : Half} (hlt : h.work < (b.half side).work) :
    (b.setHalf side h).work < b.work := by
  cases side with
  | client =>
    have hclient : h.work < b.client.work := hlt
    show h.work + b.sandbox.work + (if b.finished then 0 else 1) <
      b.client.work + b.sandbox.work + if b.finished then 0 else 1
    omega
  | sandbox =>
    have hsandbox : h.work < b.sandbox.work := hlt
    show b.client.work + h.work + (if b.finished then 0 else 1) <
      b.client.work + b.sandbox.work + if b.finished then 0 else 1
    omega

/-- The other half may change as long as it has no more to do. -/
theorem work_setHalves {b : Bridge} {side : Side} {h h' : Half}
    (hle : h'.work = (b.half side.other).work) (hlt : h.work < (b.half side).work) :
    ((b.setHalf side.other h').setHalf side h).work < b.work := by
  cases side with
  | client =>
    have hclient : h.work < b.client.work := hlt
    have hsandbox : h'.work = b.sandbox.work := hle
    show h.work + h'.work + (if b.finished then 0 else 1) <
      b.client.work + b.sandbox.work + if b.finished then 0 else 1
    omega
  | sandbox =>
    have hclient : h'.work = b.client.work := hle
    have hsandbox : h.work < b.sandbox.work := hlt
    show h'.work + h.work + (if b.finished then 0 else 1) <
      b.client.work + b.sandbox.work + if b.finished then 0 else 1
    omega

/-- A packet that is taken is sorted into parts that weigh less than it did. -/
theorem work_accept {h : Half} {p : Packet} {rest : List Packet}
    (hincoming : h.incoming = p :: rest) :
    ({ h with incoming := rest, taken := h.taken ++ [p] }.accept p).work < h.work := by
  have hwork : h.work = p.work + (rest.map Packet.work).sum + 2 * h.input.length +
      2 * h.requests.length + h.forwarder.work + h.copier.work := by
    rw [Half.work, hincoming, List.map_cons, List.sum_cons]
  rw [hwork]
  cases p with
  | close =>
    simp only [Half.accept, Half.close, Half.work, Half.emit_incoming, Half.emit_input,
      Half.emit_requests, Half.emit_forwarder, Half.emit_copier, Packet.work]
    omega
  | _ =>
    simp only [Half.accept, Half.work, Packet.work, List.length_append, List.length_singleton]
    omega

/-- Every step of the gateway leaves it less to do. -/
theorem work_step {b b' : Bridge} {a : Action} (ha : a.isBridge = true)
    (hstep : Bridge.step a b = some b') : b'.work < b.work := by
  cases a with
  | send side p => cases ha
  | receive side => cases ha
  | deliver side =>
    obtain ⟨p, rest, hincoming, rfl⟩ := Bridge.step_deliver hstep
    exact work_setHalf (work_accept hincoming)
  | takeRequest side =>
    obtain ⟨request, rest, hranging, hrequests, hcase⟩ := Bridge.step_takeRequest hstep
    -- the other side is closed, so the request is refused, or it is passed on
    rcases hcase with ⟨-, rfl⟩ | ⟨-, rfl⟩
    · apply work_setHalf
      rw [work_answer]
      simp only [Half.work, hrequests, List.length_cons]
      omega
    · apply work_setHalves (work_emit _ _)
      simp only [Half.work, hranging, hrequests, List.length_cons, Forwarder.work]
      -- with or without a reply to wait for
      split_ifs <;> dsimp only <;> omega
  | takeReply side =>
    obtain ⟨hawaiting, hcase⟩ := Bridge.step_takeReply hstep
    have hless : ∀ ok,
        ({ (b.half side).emit (.reply ok) with forwarder := .ranging } : Half).work <
          (b.half side).work := by
      intro ok
      simp only [Half.work, hawaiting, Half.emit_incoming, Half.emit_input, Half.emit_requests,
        Half.emit_copier, Forwarder.work]
      omega
    rcases hcase with ⟨ok, rest, -, rfl⟩ | ⟨-, -, rfl⟩
    · exact work_setHalves rfl (hless ok)
    · exact work_setHalf (hless false)
  | endRequests side =>
    obtain ⟨hranging, -, -, rfl⟩ := Bridge.step_endRequests hstep
    apply work_setHalf
    simp only [Half.work, hranging, Forwarder.work]
    omega
  | read side n =>
    -- a byte read weighs less than a byte in the buffer
    obtain ⟨hreading, hpos, hle, rfl⟩ := Bridge.step_read hstep
    apply work_setHalf
    simp only [Half.work, hreading, Copier.work, List.length_drop, List.length_take]
    omega
  | write side n =>
    obtain ⟨bytes, hholding, hcase⟩ := Bridge.step_write hstep
    rcases hcase with ⟨-, rfl⟩ | ⟨-, hpos, hle, rfl⟩
    · apply work_setHalf
      simp only [Half.work, hholding, Copier.work]
      omega
    · apply work_setHalves (work_emit _ _)
      simp only [Half.work, hholding, Copier.work]
      split_ifs <;> simp only [List.length_drop] <;> omega
  | endCopy side =>
    obtain ⟨hreading, -, -, rfl⟩ := Bridge.step_endCopy hstep
    apply work_setHalves (work_emit _ _)
    simp only [Half.work, hreading, Copier.work]
    omega
  | finish =>
    -- finishing is done once
    obtain ⟨hfinished, -, -, -, -, rfl⟩ := Bridge.step_finish hstep
    simp only [Bridge.work, work_close, hfinished]
    simp

/-! ## Standing still

`Idle` describes the states in which the gateway has nothing left to do that it could do. That these
are the states in which no action of the gateway is possible is proved in both directions, one case
for each goroutine. -/

/-- All that the client sent is dealt with. Of the sandbox's side, both goroutines have returned, or
one waits for the client's reply. -/
structure Idle (b : Bridge) : Prop where
  incoming : b.client.incoming = []
  requests : b.client.requests = []
  forwarder : b.client.forwarder = .ranging
  input : b.client.copier = .done ∨ (b.client.copier = .reading ∧ b.client.input = [])
  copied : b.sandbox.copier = .done
  forwarded : b.sandbox.forwarder = .done ∨
    (b.sandbox.forwarder = .awaiting ∧ b.client.replies = [])

section Quiet

variable {b : Bridge}

/-- A bridge that cannot move is idle. -/
theorem idle_of_quiet (hopen : ClientOpen b.client) (hside : SandboxSide b.sandbox)
    (hdrained : b.sandbox.Drained) (hquiet : ∀ a, a.isBridge = true → Bridge.step a b = none) :
    Idle b := by
  have htaken : .close ∈ b.sandbox.taken := by
    have hsent := hdrained.closed
    rwa [Half.sent, hdrained.incoming, List.append_nil] at hsent
  -- with the close taken, the gateway can answer and end everything on the sandbox's side
  obtain ⟨hclosed, heof, hsentClose⟩ := hside.closed htaken
  have hranging : b.client.forwarder = .ranging := by
    cases hforwarder : b.client.forwarder with
    | ranging => rfl
    | done => exact absurd hforwarder hopen.ranging
    | awaiting =>
      -- the sandbox has closed, so the request is answered in any case
      have hreply := hquiet (.takeReply .client) rfl
      cases hreplies : b.sandbox.replies <;>
        simp [Bridge.step, Bridge.takeReply, Bridge.half, Side.other, hforwarder, hreplies,
          hclosed] at hreply
  constructor
  · have hdeliver := hquiet (.deliver .client) rfl
    cases hincoming : b.client.incoming with
    | nil => rfl
    | cons p rest => simp [Bridge.step, Bridge.half, hincoming] at hdeliver
  · have htake := hquiet (.takeRequest .client) rfl
    cases hrequests : b.client.requests with
    | nil => rfl
    | cons request rest =>
      simp [Bridge.step, Bridge.takeRequest, Bridge.half, Side.other, hranging, hrequests,
        hsentClose] at htake
  · exact hranging
  · cases hcopier : b.client.copier with
    | done => exact Or.inl rfl
    | reading =>
      have hread := hquiet (.read .client 1) rfl
      refine Or.inr ⟨rfl, ?_⟩
      cases hinput : b.client.input with
      | nil => rfl
      | cons byte rest => simp [Bridge.step, Bridge.read, Bridge.half, hcopier, hinput] at hread
    -- writing to the sandbox fails at once, so a chunk is not held for long
    | holding bytes =>
      have hwrite := hquiet (.write .client 1) rfl
      simp [Bridge.step, Bridge.write, Bridge.half, Side.other, hcopier, hsentClose] at hwrite
  -- the sandbox's copier has met its end of input
  · cases hcopier : b.sandbox.copier with
    | done => rfl
    | reading =>
      have hend := hquiet (.endCopy .sandbox) rfl
      simp [Bridge.step, Bridge.endCopy, Bridge.half, hcopier, hdrained.input, heof] at hend
    | holding bytes =>
      have hheld := hdrained.held
      rw [hcopier] at hheld
      have hbytes : bytes = [] := hheld
      exact absurd (hbytes ▸ hcopier) hside.held
  -- its forwarder ends too, unless a request of the sandbox wants the client's reply
  · cases hforwarder : b.sandbox.forwarder with
    | done => exact Or.inl rfl
    | ranging =>
      have hend := hquiet (.endRequests .sandbox) rfl
      simp [Bridge.step, Bridge.endRequests, Bridge.half, hforwarder, hdrained.requests,
        hclosed] at hend
    | awaiting =>
      have hreply := hquiet (.takeReply .sandbox) rfl
      refine Or.inr ⟨rfl, ?_⟩
      cases hreplies : b.client.replies with
      | nil => rfl
      | cons ok rest =>
        simp [Bridge.step, Bridge.takeReply, Bridge.half, Side.other, hforwarder,
          hreplies] at hreply

/-- An idle bridge cannot move. -/
theorem quiet_of_idle (hopen : ClientOpen b.client) (hdrained : b.sandbox.Drained)
    (hidle : Idle b) {a : Action} (ha : a.isBridge = true) : Bridge.step a b = none := by
  cases hstep : Bridge.step a b with
  | none => rfl
  | some b' =>
    exfalso
    -- each step of the gateway needs something that an idle bridge does not have
    cases a with
    | send side p => cases ha
    | receive side => cases ha
    | deliver side =>
      obtain ⟨p, rest, hincoming, -⟩ := Bridge.step_deliver hstep
      cases side with
      | client => exact absurd (hidle.incoming.symm.trans hincoming) nofun
      | sandbox => exact absurd (hdrained.incoming.symm.trans hincoming) nofun
    | takeRequest side =>
      obtain ⟨request, rest, -, hrequests, -⟩ := Bridge.step_takeRequest hstep
      cases side with
      | client => exact absurd (hidle.requests.symm.trans hrequests) nofun
      | sandbox => exact absurd (hdrained.requests.symm.trans hrequests) nofun
    | takeReply side =>
      obtain ⟨hawaiting, hcase⟩ := Bridge.step_takeReply hstep
      cases side with
      | client => exact absurd (hidle.forwarder.symm.trans hawaiting) nofun
      | sandbox =>
        -- the client has neither replied nor closed
        rcases hidle.forwarded with hforwarder | ⟨-, hnone⟩
        · exact absurd (hforwarder.symm.trans hawaiting) nofun
        · rcases hcase with ⟨ok, rest, hreplies, -⟩ | ⟨-, hclosed, -⟩
          · exact absurd (hnone.symm.trans hreplies) nofun
          · exact absurd (hopen.closed.symm.trans hclosed) nofun
    | endRequests side =>
      obtain ⟨hranging, -, hclosed, -⟩ := Bridge.step_endRequests hstep
      cases side with
      | client => exact absurd (hopen.closed.symm.trans hclosed) nofun
      | sandbox =>
        rcases hidle.forwarded with hforwarder | ⟨hforwarder, -⟩
        · exact absurd (hforwarder.symm.trans hranging) nofun
        · exact absurd (hforwarder.symm.trans hranging) nofun
    | read side n =>
      obtain ⟨hreading, hpos, hle, -⟩ := Bridge.step_read hstep
      cases side with
      | client =>
        rcases hidle.input with hcopier | ⟨-, hinput⟩
        · exact absurd (hcopier.symm.trans hreading) nofun
        · have hlength : n ≤ b.client.input.length := hle
          rw [hinput, List.length_nil] at hlength
          omega
      | sandbox => exact absurd (hidle.copied.symm.trans hreading) nofun
    | write side n =>
      obtain ⟨bytes, hholding, -⟩ := Bridge.step_write hstep
      cases side with
      | client =>
        rcases hidle.input with hcopier | ⟨hcopier, -⟩
        · exact absurd (hcopier.symm.trans hholding) nofun
        · exact absurd (hcopier.symm.trans hholding) nofun
      | sandbox => exact absurd (hidle.copied.symm.trans hholding) nofun
    | endCopy side =>
      obtain ⟨hreading, -, heof, -⟩ := Bridge.step_endCopy hstep
      cases side with
      | client => exact absurd (hopen.eof.symm.trans heof) nofun
      | sandbox => exact absurd (hidle.copied.symm.trans hreading) nofun
    | finish =>
      obtain ⟨-, hdone, -⟩ := Bridge.step_finish hstep
      exact hopen.ranging hdone

end Quiet

/-- Only the gateway acts. -/
def gatewayActs (_ : Bridge) (a : Action) : Prop := a.isBridge = true

/-- The condition on the client says nothing about the gateway. -/
theorem clientWaits_of_gatewayActs {b : Bridge} {a : Action} (ha : gatewayActs b a) :
    clientWaits b a := by
  cases a with
  | send side p => cases ha
  | _ => trivial

/-- **When the bridge gets stuck.** Let the client keep its input open and wait for the gateway's
close, and let the sandbox have closed with all that it sent forwarded. Then the gateway has closed
the client's channel, or can make a step, exactly while it is not idle; and by steps of its own it
always becomes idle. It waits then for a client that waits for the gateway. -/
theorem bridge_moves_iff {b : Bridge} (hreached : Reached Bridge.step clientWaits {} b)
    (hdrained : b.sandbox.Drained) :
    ((b.client.sentClose = true ∨ ∃ a, a.isBridge = true ∧ (Bridge.step a b).isSome = true) ↔
      ¬ Idle b) ∧
    ∃ b', Reached Bridge.step gatewayActs b b' ∧ b'.sandbox.Drained ∧ Idle b' := by
  obtain ⟨hopen, hside⟩ := clientOpen_of_reached hreached
  constructor
  · constructor
    · rintro (hclosed | ⟨a, ha, hsome⟩) hidle
      · rw [hopen.sentClose] at hclosed
        cases hclosed
      · rw [quiet_of_idle hopen hdrained hidle ha] at hsome
        cases hsome
    · intro hbusy
      by_contra hstuck
      refine hbusy (idle_of_quiet hopen hside hdrained fun a ha => ?_)
      cases hstep : Bridge.step a b with
      | none => rfl
      | some b' => exact absurd (Or.inr ⟨a, ha, by rw [hstep]; rfl⟩) hstuck
  -- every step leaves less to do, so the gateway's own steps come to an end
  · obtain ⟨b', hown, hquiet⟩ : ∃ b', Reached Bridge.step gatewayActs b b' ∧
        ∀ a, gatewayActs b' a → Bridge.step a b' = none :=
      exists_quiet Bridge.work (fun _ _ _ ha hstep => work_step ha hstep) b
    have hdrained' : b'.sandbox.Drained :=
      hown.invariant (I := fun b => b.sandbox.Drained) hdrained
        fun _ _ _ h ha hstep => drained_step ha hstep h
    have hreached' := hreached.trans (hown.mono fun _ _ ha => clientWaits_of_gatewayActs ha)
    obtain ⟨hopen', hside'⟩ := clientOpen_of_reached hreached'
    exact ⟨b', hown, hdrained', idle_of_quiet hopen' hside' hdrained' hquiet⟩

/-! ### A command that has exited

A session as it ends for `ssh host command`: the sandbox sends the output, the exit status and its
close. Run through the bridge it comes to stand still with the client's channel open. -/

instance (b : Bridge) : (a : Action) → Decidable (clientWaits b a)
  | .send .client .eof => inferInstanceAs (Decidable False)
  | .send .client .close => inferInstanceAs (Decidable (_ ∈ _))
  | .send .client (.data _) | .send .client (.extended _) | .send .client (.request _)
  | .send .client (.reply _) | .send .sandbox _ | .receive _ | .deliver _ | .takeRequest _
  | .takeReply _ | .endRequests _ | .read _ _ | .write _ _ | .endCopy _ | .finish =>
    inferInstanceAs (Decidable True)

instance (h : Half) : Decidable h.Drained :=
  decidable_of_iff (.close ∈ h.sent ∧ h.incoming = [] ∧ h.requests = [] ∧ h.input = [] ∧
      h.copier.held = [])
    ⟨fun ⟨hc, hi, hr, hn, hh⟩ => ⟨hc, hi, hr, hn, hh⟩,
      fun h => ⟨h.closed, h.incoming, h.requests, h.input, h.held⟩⟩

instance (b : Bridge) : Decidable (Idle b) :=
  decidable_of_iff (b.client.incoming = [] ∧ b.client.requests = [] ∧
      b.client.forwarder = .ranging ∧
      (b.client.copier = .done ∨ (b.client.copier = .reading ∧ b.client.input = [])) ∧
      b.sandbox.copier = .done ∧
      (b.sandbox.forwarder = .done ∨ (b.sandbox.forwarder = .awaiting ∧ b.client.replies = [])))
    ⟨fun ⟨hi, hr, hf, hn, hc, hs⟩ => ⟨hi, hr, hf, hn, hc, hs⟩,
      fun h => ⟨h.incoming, h.requests, h.forwarder, h.input, h.copied, h.forwarded⟩⟩

/-- The sandbox sends a line, the exit status and its close; all of it is forwarded and reaches the
client. -/
def exited : List Action :=
  [.send .sandbox (.data [0x6f, 0x6b, 0x0a]), .send .sandbox (.request (.exitStatus 0)),
    .send .sandbox .close, .deliver .sandbox, .deliver .sandbox, .deliver .sandbox,
    .read .sandbox 3, .write .sandbox 3, .takeRequest .sandbox, .endRequests .sandbox,
    .endCopy .sandbox, .receive .client, .receive .client, .receive .client]

/-- While packets are on their way the bridge moves. -/
theorem bridge_moves_after_close : ∃ b, Reached Bridge.step clientWaits {} b ∧
    b.sandbox.Drained ∧
    ((b.client.sentClose = true ∨ ∃ a, a.isBridge = true ∧ (Bridge.step a b).isSome = true) ↔
      ¬ Idle b) ∧
    ∃ b', Reached Bridge.step gatewayActs b b' ∧ b'.sandbox.Drained ∧ Idle b' := by
  obtain ⟨b, hreached, hend⟩ := exists_reached Bridge.step clientWaits {} exited
    (fun b => decide b.sandbox.Drained) (by decide)
  have hdrained : b.sandbox.Drained := by simpa using hend
  exact ⟨b, hreached, hdrained, bridge_moves_iff hreached hdrained⟩

/-- The client has the end of the data and the exit status and waits for the close; the gateway
waits for the client. -/
theorem bridge_stands_still : ∃ b, Reached Bridge.step clientWaits {} b ∧ b.sandbox.Drained ∧
    b.client.outgoing = [] ∧ b.sandbox.forwarder = .done ∧ b.sandbox.copier = .done ∧
    ¬ (b.client.sentClose = true ∨ ∃ a, a.isBridge = true ∧ (Bridge.step a b).isSome = true) := by
  obtain ⟨b, hreached, hend⟩ := exists_reached Bridge.step clientWaits {} exited
    (fun b => decide (b.sandbox.Drained ∧ Idle b ∧ b.client.outgoing = [] ∧
      b.sandbox.forwarder = .done ∧ b.sandbox.copier = .done)) (by decide)
  obtain ⟨hdrained, hidle, houtgoing, hforwarder, hcopier⟩ := of_decide_eq_true hend
  obtain ⟨hopen, -⟩ := clientOpen_of_reached hreached
  refine ⟨b, hreached, hdrained, houtgoing, hforwarder, hcopier, ?_⟩
  rintro (hclosed | ⟨a, ha, hsome⟩)
  · rw [hopen.sentClose] at hclosed
    cases hclosed
  · rw [quiet_of_idle hopen hdrained hidle ha] at hsome
    cases hsome

end SshBridge

end Microsandbox
