import MicrosandboxCloud.Process.Reached
import MicrosandboxCloud.Process.Transcript
import Mathlib.Data.List.Basic

/-!
# Microsandbox — the SSH gateway's channel bridge

`bridgeChannel` joins the client's channel and the sandbox's channel by four goroutines: one that
forwards requests and one that copies input, in each direction. It closes both channels when all
four have returned.

* **`Half`** — one channel as the gateway has it: the packets in flight both ways, what the SSH
  library has buffered, and the two goroutines that read from it.
* **`Bridge.step`** — one action of a peer, of the SSH library, or of a goroutine.
* **`step_takeRequest`, `step_write`, …** — what an action needs, and what it changes.
-/

namespace Microsandbox

namespace SshBridge

open Process

/-! ## Packets

What goes over an SSH channel as far as the bridge looks at it: bytes, requests with or without a
reply, the end of a direction and the end of the channel. Window sizes are left out. -/

/-- The two channels that are bridged. -/
inductive Side where
  | client
  | sandbox
  deriving DecidableEq

/-- Where the packets of a side go. -/
def Side.other : Side → Side
  | .client => .sandbox
  | .sandbox => .client

/-- A request on a channel. The payload of an exit status is kept as its number; it asks for no
reply. -/
inductive ChannelRequest where
  | exitStatus (code : UInt32)
  | other (name : String) (wantReply : Bool) (payload : List UInt8)
  deriving DecidableEq

/-- A request that wants no reply is not answered, and an exit status never wants one. -/
def ChannelRequest.wantReply : ChannelRequest → Bool
  | .exitStatus _ => false
  | .other _ wantReply _ => wantReply

/-- A packet of a channel. Standard error travels as extended data. -/
inductive Packet where
  | data (bytes : List UInt8)
  | extended (bytes : List UInt8)
  | request (request : ChannelRequest)
  | reply (ok : Bool)
  | eof
  | close
  deriving DecidableEq

/-- The bytes a packet adds to the data stream. -/
def Packet.dataBytes : Packet → List UInt8
  | .data bytes => bytes
  | _ => []

/-- The bytes a packet adds to the extended stream. -/
def Packet.extendedBytes : Packet → List UInt8
  | .extended bytes => bytes
  | _ => []

/-- The exit status in a packet, if it is one. -/
def Packet.status : Packet → List UInt32
  | .request (.exitStatus code) => [code]
  | _ => []

/-- The exit status in a request, if it is one. -/
def ChannelRequest.status : ChannelRequest → List UInt32
  | .exitStatus code => [code]
  | .other _ _ _ => []

/-- The bytes of the main stream, in order. -/
def dataOf (packets : List Packet) : List UInt8 := packets.flatMap Packet.dataBytes

/-- The bytes of the error stream, in order. -/
def extendedOf (packets : List Packet) : List UInt8 := packets.flatMap Packet.extendedBytes

/-- The exit statuses among the packets. -/
def statusesOf (packets : List Packet) : List UInt32 := packets.flatMap Packet.status

@[simp] theorem dataOf_nil : dataOf [] = [] := rfl

@[simp] theorem dataOf_append (ps qs : List Packet) : dataOf (ps ++ qs) = dataOf ps ++ dataOf qs :=
  List.flatMap_append

@[simp] theorem dataOf_cons (p : Packet) (ps : List Packet) :
    dataOf (p :: ps) = p.dataBytes ++ dataOf ps := rfl

@[simp] theorem extendedOf_nil : extendedOf [] = [] := rfl

@[simp] theorem extendedOf_append (ps qs : List Packet) :
    extendedOf (ps ++ qs) = extendedOf ps ++ extendedOf qs := List.flatMap_append

@[simp] theorem extendedOf_cons (p : Packet) (ps : List Packet) :
    extendedOf (p :: ps) = p.extendedBytes ++ extendedOf ps := rfl

@[simp] theorem statusesOf_nil : statusesOf [] = [] := rfl

@[simp] theorem statusesOf_append (ps qs : List Packet) :
    statusesOf (ps ++ qs) = statusesOf ps ++ statusesOf qs := List.flatMap_append

@[simp] theorem statusesOf_cons (p : Packet) (ps : List Packet) :
    statusesOf (p :: ps) = p.status ++ statusesOf ps := rfl

/-- Nothing follows a close. -/
def CloseLast (packets : List Packet) : Prop :=
  ∀ pre rest, packets = pre ++ .close :: rest → rest = []

/-- A packet may follow as long as the channel is not closed. -/
theorem CloseLast.snoc {packets : List Packet} {p : Packet} (hopen : .close ∉ packets) :
    CloseLast (packets ++ [p]) := by
  intro pre rest heq
  rcases snoc_eq_append_cons heq with ⟨-, -, hrest⟩ | ⟨rest', -, hpackets⟩
  · exact hrest
  · exact absurd (hpackets ▸ List.mem_append_right _ List.mem_cons_self) hopen

/-! ## The gateway's end of a channel

The gateway holds one end of each channel. The library takes packets in the order in which they came
and sorts them into what the goroutines read: bytes, requests and replies. What the gateway sends is
dropped once it has sent the close. -/

/-- The goroutine that ranges over the requests of a channel. While it awaits the reply to one it
has passed on, it takes no other. -/
inductive Forwarder where
  | ranging
  | awaiting
  | done
  deriving DecidableEq

/-- The goroutine that copies the input of a channel, with what it has read and not yet written. -/
inductive Copier where
  | reading
  | holding (bytes : List UInt8)
  | done
  deriving DecidableEq

/-- The bytes that a copying goroutine has read and not written yet. -/
def Copier.held : Copier → List UInt8
  | .holding bytes => bytes
  | _ => []

/-- A channel as the gateway has it, and what of it is in flight. -/
structure Half where
  /-- packets of the peer on their way -/
  incoming : List Packet := []
  /-- packets of the peer that have arrived -/
  taken : List Packet := []
  /-- packets of the gateway on their way -/
  outgoing : List Packet := []
  /-- packets of the gateway that have arrived -/
  seen : List Packet := []
  /-- what `Read` has still to return -/
  input : List UInt8 := []
  /-- what `Stderr` has still to return; the bridge does not read it -/
  extended : List UInt8 := []
  requests : List ChannelRequest := []
  replies : List Bool := []
  eof : Bool := false
  closed : Bool := false
  sentClose : Bool := false
  forwarder : Forwarder := .ranging
  copier : Copier := .reading

namespace Half

/-- What the peer has sent. -/
def sent (h : Half) : List Packet := h.taken ++ h.incoming

/-- What was sent to the peer. -/
def passed (h : Half) : List Packet := h.seen ++ h.outgoing

/-- Send a packet to the peer. After a close nothing is sent. -/
def emit (h : Half) (p : Packet) : Half :=
  if h.sentClose then h else { h with outgoing := h.outgoing ++ [p] }

/-- `Close`. -/
def close (h : Half) : Half := { h.emit .close with sentClose := true }

/-- `Reply`. -/
def answer (h : Half) (request : ChannelRequest) (ok : Bool) : Half :=
  if request.wantReply then h.emit (.reply ok) else h

/-- What the SSH library does with a packet of the peer. It answers a close with one. -/
def accept (h : Half) : Packet → Half
  | .data bytes => { h with input := h.input ++ bytes }
  | .extended bytes => { h with extended := h.extended ++ bytes }
  | .request request => { h with requests := h.requests ++ [request] }
  | .reply ok => { h with replies := h.replies ++ [ok] }
  | .eof => { h with eof := true }
  | .close => { h.close with eof := true, closed := true }

section Emit

variable (h : Half) (p : Packet)

/-- Sending changes what is sent, and nothing else of this end. -/
@[simp] theorem emit_incoming : (h.emit p).incoming = h.incoming := by
  unfold emit
  split_ifs <;> rfl

@[simp] theorem emit_taken : (h.emit p).taken = h.taken := by unfold emit; split_ifs <;> rfl

@[simp] theorem emit_seen : (h.emit p).seen = h.seen := by unfold emit; split_ifs <;> rfl

@[simp] theorem emit_input : (h.emit p).input = h.input := by unfold emit; split_ifs <;> rfl

@[simp] theorem emit_requests : (h.emit p).requests = h.requests := by
  unfold emit; split_ifs <;> rfl

@[simp] theorem emit_replies : (h.emit p).replies = h.replies := by unfold emit; split_ifs <;> rfl

@[simp] theorem emit_eof : (h.emit p).eof = h.eof := by unfold emit; split_ifs <;> rfl

@[simp] theorem emit_closed : (h.emit p).closed = h.closed := by unfold emit; split_ifs <;> rfl

@[simp] theorem emit_sentClose : (h.emit p).sentClose = h.sentClose := by
  unfold emit; split_ifs <;> rfl

@[simp] theorem emit_forwarder : (h.emit p).forwarder = h.forwarder := by
  unfold emit; split_ifs <;> rfl

@[simp] theorem emit_copier : (h.emit p).copier = h.copier := by unfold emit; split_ifs <;> rfl

/-- What was sent is what arrived and what is under way. -/
@[simp] theorem emit_sent : (h.emit p).sent = h.sent := by simp [sent]

theorem emit_of_open (hopen : h.sentClose = false) :
    h.emit p = { h with outgoing := h.outgoing ++ [p] } := by
  rw [emit, hopen]
  rfl

theorem emit_of_closed (hclosed : h.sentClose = true) : h.emit p = h := by
  rw [emit, hclosed]
  rfl

/-- A packet is added to what was passed on, or nothing is. -/
theorem passed_emit : (h.emit p).passed = h.passed ++ [p] ∨ (h.emit p).passed = h.passed := by
  cases hsent : h.sentClose with
  | true => exact Or.inr (by rw [emit_of_closed h p hsent])
  | false => exact Or.inl (by simp [emit_of_open h p hsent, passed])

theorem passed_emit_of_open (hopen : h.sentClose = false) :
    (h.emit p).passed = h.passed ++ [p] := by
  simp [emit_of_open h p hopen, passed]

/-- Nothing is passed on after a close. -/
theorem closeLast_emit (hlast : CloseLast h.passed)
    (hclosed : .close ∈ h.passed → h.sentClose = true) :
    CloseLast (h.emit p).passed := by
  cases hsent : h.sentClose with
  | true =>
    rw [emit_of_closed h p hsent]
    exact hlast
  | false =>
    rw [passed_emit_of_open h p hsent]
    refine CloseLast.snoc fun hmem => ?_
    rw [hclosed hmem] at hsent
    cases hsent

end Emit

end Half

/-! ## The bridge

`bridgeChannel`: two goroutines that copy bytes and two that forward requests, one of each for each
direction, and the main goroutine, which waits for all four and closes both channels. An action is a
step of one of them, of the library or of one of the two parties. -/

/-- Both ends, and whether the main goroutine is done. -/
structure Bridge where
  client : Half := {}
  sandbox : Half := {}
  finished : Bool := false

namespace Bridge

/-- The gateway's end of the channel to a side. -/
def half (b : Bridge) : Side → Half
  | .client => b.client
  | .sandbox => b.sandbox

/-- One end is replaced. -/
def setHalf (b : Bridge) (side : Side) (h : Half) : Bridge :=
  match side with
  | .client => { b with client := h }
  | .sandbox => { b with sandbox := h }

end Bridge

/-- Who makes the next step. -/
inductive Action where
  /-- the peer sends -/
  | send (side : Side) (p : Packet)
  /-- a packet reaches the peer -/
  | receive (side : Side)
  /-- a packet reaches the gateway -/
  | deliver (side : Side)
  | takeRequest (side : Side)
  | takeReply (side : Side)
  | endRequests (side : Side)
  | read (side : Side) (n : Nat)
  | write (side : Side) (n : Nat)
  | endCopy (side : Side)
  | finish

/-- Is it an action of the gateway? -/
def Action.isBridge : Action → Bool
  | .send _ _ => false
  | .receive _ => false
  | _ => true

namespace Bridge

/-- The next request of a side is passed on to the other. -/
def takeRequest (b : Bridge) (side : Side) : Option Bridge :=
  let h := b.half side
  let dest := b.half side.other
  match h.forwarder, h.requests with
  | .ranging, request :: rest =>
    -- `SendRequest` on a closed channel returns an error
    if dest.sentClose then
      some (b.setHalf side ({ h with requests := rest }.answer request false))
    else
      some ((b.setHalf side.other (dest.emit (.request request))).setHalf side
        { h with
          requests := rest
          forwarder := if request.wantReply then .awaiting else .ranging })
  | _, _ => none

/-- `SendRequest` returns the other side's reply, or an error once the other side has closed. -/
def takeReply (b : Bridge) (side : Side) : Option Bridge :=
  let h := b.half side
  let dest := b.half side.other
  match h.forwarder, dest.replies with
  | .awaiting, ok :: rest =>
    some ((b.setHalf side.other { dest with replies := rest }).setHalf side
      { h.emit (.reply ok) with forwarder := .ranging })
  | .awaiting, [] =>
    if dest.closed then some (b.setHalf side { h.emit (.reply false) with forwarder := .ranging })
    else none
  | _, _ => none

/-- The range over the requests ends when the peer has closed. -/
def endRequests (b : Bridge) (side : Side) : Option Bridge :=
  let h := b.half side
  if h.forwarder = .ranging ∧ h.requests = [] ∧ h.closed then
    some (b.setHalf side { h with forwarder := .done })
  else none

/-- `Read` of `io.Copy` returns some of the input. -/
def read (b : Bridge) (side : Side) (n : Nat) : Option Bridge :=
  let h := b.half side
  if h.copier = .reading ∧ 0 < n ∧ n ≤ h.input.length then
    some (b.setHalf side
      { h with input := h.input.drop n, copier := .holding (h.input.take n) })
  else none

/-- `Write` of `io.Copy` sends some of what was read. On a closed channel it fails, which ends the
copy. -/
def write (b : Bridge) (side : Side) (n : Nat) : Option Bridge :=
  let h := b.half side
  let dest := b.half side.other
  match h.copier with
  | .holding bytes =>
    if dest.sentClose then some (b.setHalf side { h with copier := .done })
    else if 0 < n ∧ n ≤ bytes.length then
      some ((b.setHalf side.other (dest.emit (.data (bytes.take n)))).setHalf side
        { h with copier := if n = bytes.length then .reading else .holding (bytes.drop n) })
    else none
  | _ => none

/-- The copy ends with the input, and `CloseWrite` sends the end of the data. -/
def endCopy (b : Bridge) (side : Side) : Option Bridge :=
  let h := b.half side
  if h.copier = .reading ∧ h.input = [] ∧ h.eof then
    some ((b.setHalf side.other ((b.half side.other).emit .eof)).setHalf side
      { h with copier := .done })
  else none

/-- `wg.Wait` and the deferred closes. -/
def finish (b : Bridge) : Option Bridge :=
  if b.finished = false ∧ b.client.forwarder = .done ∧ b.client.copier = .done ∧
      b.sandbox.forwarder = .done ∧ b.sandbox.copier = .done then
    some { client := b.client.close, sandbox := b.sandbox.close, finished := true }
  else none

/-- The effect of a step, if it can be made: a goroutine that waits for something that is not there
cannot. -/
def step : Action → Bridge → Option Bridge
  | .send side p, b =>
    let h := b.half side
    -- nothing is sent after a close
    if .close ∈ h.sent then none
    else some (b.setHalf side { h with incoming := h.incoming ++ [p] })
  | .receive side, b =>
    let h := b.half side
    match h.outgoing with
    | [] => none
    | p :: rest => some (b.setHalf side { h with outgoing := rest, seen := h.seen ++ [p] })
  | .deliver side, b =>
    let h := b.half side
    match h.incoming with
    | [] => none
    | p :: rest =>
      some (b.setHalf side ({ h with incoming := rest, taken := h.taken ++ [p] }.accept p))
  | .takeRequest side, b => b.takeRequest side
  | .takeReply side, b => b.takeReply side
  | .endRequests side, b => b.endRequests side
  | .read side n, b => b.read side n
  | .write side n, b => b.write side n
  | .endCopy side, b => b.endCopy side
  | .finish, b => b.finish

/-! ### What each action needs and changes

One inversion lemma for each action. The invariants of the bridge are proved from these, so that the
step function is taken apart once. -/

section Inversion

variable {b b' : Bridge} {side : Side}

/-- A party sends as long as it has not closed its channel. -/
theorem step_send {p : Packet} (h : step (.send side p) b = some b') :
    .close ∉ (b.half side).sent ∧ b' = b.setHalf side
      { b.half side with incoming := (b.half side).incoming ++ [p] } := by
  simp only [step, Option.ite_none_left_eq_some, Option.some.injEq] at h
  exact ⟨h.1, h.2.symm⟩

/-- What the gateway has sent arrives, first in first out. -/
theorem step_receive (h : step (.receive side) b = some b') :
    ∃ p rest, (b.half side).outgoing = p :: rest ∧ b' = b.setHalf side
      { b.half side with outgoing := rest, seen := (b.half side).seen ++ [p] } := by
  simp only [step] at h
  split at h
  · cases h
  · rename_i p rest houtgoing
    exact ⟨p, rest, houtgoing, (Option.some.inj h).symm⟩

/-- The library takes the next packet and sorts it. -/
theorem step_deliver (h : step (.deliver side) b = some b') :
    ∃ p rest, (b.half side).incoming = p :: rest ∧ b' = b.setHalf side
      ({ b.half side with incoming := rest, taken := (b.half side).taken ++ [p] }.accept p) := by
  simp only [step] at h
  split at h
  · cases h
  · rename_i p rest hincoming
    exact ⟨p, rest, hincoming, (Option.some.inj h).symm⟩

/-- A forwarding goroutine takes a request and sends it on, and waits if a reply is wanted; over a
closed channel the sending fails, and the request is answered with a failure. -/
theorem step_takeRequest (h : step (.takeRequest side) b = some b') :
    ∃ request rest, (b.half side).forwarder = .ranging ∧ (b.half side).requests = request :: rest ∧
      (((b.half side.other).sentClose = true ∧
        b' = b.setHalf side ({ b.half side with requests := rest }.answer request false)) ∨
      ((b.half side.other).sentClose = false ∧
        b' = (b.setHalf side.other ((b.half side.other).emit (.request request))).setHalf side
          { b.half side with
            requests := rest
            forwarder := if request.wantReply then .awaiting else .ranging })) := by
  simp only [step, takeRequest] at h
  split at h
  · rename_i request rest hforwarder hrequests
    refine ⟨request, rest, hforwarder, hrequests, ?_⟩
    -- `SendRequest` fails on a channel that the gateway has closed
    by_cases hclosed : (b.half side.other).sentClose = true
    · rw [if_pos hclosed] at h
      exact Or.inl ⟨hclosed, (Option.some.inj h).symm⟩
    · rw [if_neg hclosed] at h
      exact Or.inr ⟨by simpa using hclosed, (Option.some.inj h).symm⟩
  · cases h

/-- The reply is passed back to where the request came from, or the channel ended without one. -/
theorem step_takeReply (h : step (.takeReply side) b = some b') :
    (b.half side).forwarder = .awaiting ∧
      ((∃ ok rest, (b.half side.other).replies = ok :: rest ∧
        b' = (b.setHalf side.other { b.half side.other with replies := rest }).setHalf side
          { (b.half side).emit (.reply ok) with forwarder := .ranging }) ∨
      ((b.half side.other).replies = [] ∧ (b.half side.other).closed = true ∧
        b' = b.setHalf side { (b.half side).emit (.reply false) with forwarder := .ranging })) := by
  simp only [step, takeReply] at h
  split at h
  · rename_i ok rest hforwarder hreplies
    exact ⟨hforwarder, Or.inl ⟨ok, rest, hreplies, (Option.some.inj h).symm⟩⟩
  · rename_i hforwarder hreplies
    rw [Option.ite_none_right_eq_some] at h
    exact ⟨hforwarder, Or.inr ⟨hreplies, h.1, (Option.some.inj h.2).symm⟩⟩
  · cases h

/-- The channel is closed and no request is left. -/
theorem step_endRequests (h : step (.endRequests side) b = some b') :
    (b.half side).forwarder = .ranging ∧ (b.half side).requests = [] ∧
      (b.half side).closed = true ∧
      b' = b.setHalf side { b.half side with forwarder := .done } := by
  simp only [step, endRequests, Option.ite_none_right_eq_some, Option.some.injEq] at h
  exact ⟨h.1.1, h.1.2.1, h.1.2.2, h.2.symm⟩

/-- A copying goroutine reads some of the bytes that are there. -/
theorem step_read {n : Nat} (h : step (.read side n) b = some b') :
    (b.half side).copier = .reading ∧ 0 < n ∧ n ≤ (b.half side).input.length ∧
      b' = b.setHalf side
        { b.half side with
          input := (b.half side).input.drop n
          copier := .holding ((b.half side).input.take n) } := by
  simp only [step, read, Option.ite_none_right_eq_some, Option.some.injEq] at h
  exact ⟨h.1.1, h.1.2.1, h.1.2.2, h.2.symm⟩

/-- It writes what it has read, or fails and ends. -/
theorem step_write {n : Nat} (h : step (.write side n) b = some b') :
    ∃ bytes, (b.half side).copier = .holding bytes ∧
      (((b.half side.other).sentClose = true ∧
        b' = b.setHalf side { b.half side with copier := .done }) ∨
      ((b.half side.other).sentClose = false ∧ 0 < n ∧ n ≤ bytes.length ∧
        b' = (b.setHalf side.other ((b.half side.other).emit (.data (bytes.take n)))).setHalf side
          { b.half side with
            copier := if n = bytes.length then .reading else .holding (bytes.drop n) })) := by
  simp only [step, write] at h
  split at h
  · rename_i bytes hcopier
    refine ⟨bytes, hcopier, ?_⟩
    -- so does `Write`
    by_cases hclosed : (b.half side.other).sentClose = true
    · rw [if_pos hclosed] at h
      exact Or.inl ⟨hclosed, (Option.some.inj h).symm⟩
    · rw [if_neg hclosed, Option.ite_none_right_eq_some] at h
      exact Or.inr ⟨by simpa using hclosed, h.1.1, h.1.2, (Option.some.inj h.2).symm⟩
  · cases h

/-- At the end of the stream it passes the end on. -/
theorem step_endCopy (h : step (.endCopy side) b = some b') :
    (b.half side).copier = .reading ∧ (b.half side).input = [] ∧ (b.half side).eof = true ∧
      b' = (b.setHalf side.other ((b.half side.other).emit .eof)).setHalf side
        { b.half side with copier := .done } := by
  simp only [step, endCopy, Option.ite_none_right_eq_some, Option.some.injEq] at h
  exact ⟨h.1.1, h.1.2.1, h.1.2.2, h.2.symm⟩

/-- When all four goroutines are done both channels are closed. -/
theorem step_finish (h : step .finish b = some b') :
    b.finished = false ∧ b.client.forwarder = .done ∧ b.client.copier = .done ∧
      b.sandbox.forwarder = .done ∧ b.sandbox.copier = .done ∧
      b' = { client := b.client.close, sandbox := b.sandbox.close, finished := true } := by
  simp only [step, finish, Option.ite_none_right_eq_some, Option.some.injEq] at h
  exact ⟨h.1.1, h.1.2.1, h.1.2.2.1, h.1.2.2.2.1, h.1.2.2.2.2, h.2.symm⟩

end Inversion

end Bridge

end SshBridge

end Microsandbox
