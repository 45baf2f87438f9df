import MicrosandboxCloud.SshBridge

/-!
# Microsandbox — the results of a command

A command run without a PTY, from `sessionHandler` in the sandbox through `bridgeChannel` to the
client.

* **`sessionMay`** — what the sandbox's SSH server sends for a command.
* **`Carried`** — the invariant: the client's data and exit status are the sandbox's, in order, and
  no extended data is passed on.
* **`results_survive_iff`** — the results arrive as they are exactly when the command wrote nothing
  to standard error and exited with 0.
-/

namespace Microsandbox

namespace SshBridge

open Process

/-! ## The sandbox's side

What is known of the server in the sandbox: the handler of a session without a PTY runs the command,
and the library sends its output, an exit status and a close. `LegalSession` sums up what such a
server has sent at any time. -/

/-- A command and what the process does: what it writes, and the code it exits with. -/
structure Command where
  rawCommand : String
  stdout : List UInt8
  stderr : List UInt8
  exitCode : UInt32

/-- What a handler did: the lines it logged, and the code it called `Exit` with, if it did. -/
structure HandlerRun where
  log : List String
  exit : Option UInt32

/-- The error of `cmd.Run`. -/
def Command.runError (cmd : Command) : Option String :=
  if cmd.exitCode = 0 then none else some ("exit status " ++ toString cmd.exitCode.toNat)

/-- `sessionHandler`, for a session without a PTY. -/
def sessionHandler (cmd : Command) : HandlerRun :=
  if cmd.rawCommand ≠ "" then
    { log := cmd.runError.toList.map ("command failed: " ++ ·), exit := none }
  else
    -- after `cmd.Run` the process cannot be waited for again
    { log := cmd.runError.toList.map ("shell failed: " ++ ·) ++
        ["shell exited: exec: Wait was already called"]
      exit := none }

/-- A session whose handler returns without calling `Exit` exits with 0. -/
def exitStatus (cmd : Command) : UInt32 := (sessionHandler cmd).exit.getD 0

/-- What the SSH server of the sandbox may send next: output of the process while it has not exited,
then the exit status, then a close; replies at any time. -/
def sessionMay (cmd : Command) (h : Half) : Packet → Prop
  | .data bytes => statusesOf h.sent = [] ∧ dataOf h.sent ++ bytes <+: cmd.stdout
  | .extended bytes => statusesOf h.sent = [] ∧ extendedOf h.sent ++ bytes <+: cmd.stderr
  | .request (.exitStatus code) => statusesOf h.sent = [] ∧ dataOf h.sent = cmd.stdout ∧
      extendedOf h.sent = cmd.stderr ∧ code = exitStatus cmd
  | .request (.other _ _ _) => False
  | .reply _ => True
  | .eof => False
  | .close => statusesOf h.sent ≠ []

/-- A client does not leave before it has seen the end of the data and an exit status, or a
close. -/
def clientMay (h : Half) : Packet → Prop
  | .close => .close ∈ h.seen ∨ (.eof ∈ h.seen ∧ statusesOf h.seen ≠ [])
  | _ => True

/-- Which actions a run of the command may take. -/
def commandMay (cmd : Command) (b : Bridge) : Action → Prop
  | .send .client p => clientMay b.client p
  | .send .sandbox p => sessionMay cmd b.sandbox p
  | _ => True

/-- What the sandbox has sent of a session. -/
structure LegalSession (cmd : Command) (sent : List Packet) : Prop where
  data : dataOf sent <+: cmd.stdout
  extended : extendedOf sent <+: cmd.stderr
  noEof : .eof ∉ sent
  requests : ∀ r, .request r ∈ sent → ∃ code, r = .exitStatus code
  status : statusesOf sent = [] ∨
    (statusesOf sent = [exitStatus cmd] ∧ dataOf sent = cmd.stdout ∧ extendedOf sent = cmd.stderr)
  close : .close ∈ sent → statusesOf sent ≠ []
  last : CloseLast sent

/-- One case for each packet that the server may send next. -/
theorem LegalSession.send {cmd : Command} {h : Half} {p : Packet} (hlegal : LegalSession cmd h.sent)
    (hmay : sessionMay cmd h p) (hopen : .close ∉ h.sent) : LegalSession cmd (h.sent ++ [p]) := by
  have hclose : ∀ q : Packet, q ≠ .close → .close ∈ h.sent ++ [q] →
      statusesOf (h.sent ++ [q]) ≠ [] := by
    intro q hq hmem
    rcases List.mem_append.mp hmem with hmem | hmem
    · exact absurd hmem hopen
    · exact absurd (List.mem_singleton.mp hmem).symm hq
  have hlast : ∀ q : Packet, CloseLast (h.sent ++ [q]) := fun q => CloseLast.snoc hopen
  obtain ⟨hdata, hextended, hnoEof, hrequests, hstatus, -, -⟩ := hlegal
  cases p with
  | data bytes =>
    obtain ⟨hnone, hbytes⟩ := hmay
    refine ⟨?_, ?_, by simpa using hnoEof, by simpa using hrequests, Or.inl ?_, hclose _ nofun,
      hlast _⟩
    · simpa [Packet.dataBytes] using hbytes
    · simpa [Packet.extendedBytes] using hextended
    · simp [hnone, Packet.status]
  | extended bytes =>
    obtain ⟨hnone, hbytes⟩ := hmay
    refine ⟨?_, ?_, by simpa using hnoEof, by simpa using hrequests, Or.inl ?_, hclose _ nofun,
      hlast _⟩
    · simpa [Packet.dataBytes] using hdata
    · simpa [Packet.extendedBytes] using hbytes
    · simp [hnone, Packet.status]
  | request r =>
    cases r with
    | other name wantReply payload => exact hmay.elim
    | exitStatus code =>
      -- the status is sent once, after all output
      obtain ⟨hnone, hall, hallExtended, rfl⟩ := hmay
      refine ⟨?_, ?_, by simpa using hnoEof, ?_, Or.inr ⟨?_, ?_, ?_⟩, hclose _ nofun, hlast _⟩
      · simp [Packet.dataBytes, hall]
      · simp [Packet.extendedBytes, hallExtended]
      · intro r hr
        rcases List.mem_append.mp hr with hr | hr
        · exact hrequests r hr
        · exact ⟨_, Packet.request.inj (List.mem_singleton.mp hr)⟩
      · simp [hnone, Packet.status]
      · simp [Packet.dataBytes, hall]
      · simp [Packet.extendedBytes, hallExtended]
  | reply ok =>
    refine ⟨?_, ?_, by simpa using hnoEof, by simpa using hrequests, ?_, hclose _ nofun, hlast _⟩
    · simpa [Packet.dataBytes] using hdata
    · simpa [Packet.extendedBytes] using hextended
    · simpa [Packet.dataBytes, Packet.extendedBytes, Packet.status] using hstatus
  | eof => exact hmay.elim
  | close =>
    refine ⟨?_, ?_, by simpa using hnoEof, by simpa using hrequests, ?_, fun _ => ?_, hlast _⟩
    · simpa [Packet.dataBytes] using hdata
    · simpa [Packet.extendedBytes] using hextended
    · simpa [Packet.dataBytes, Packet.extendedBytes, Packet.status] using hstatus
    · have hnone : statusesOf h.sent ≠ [] := hmay
      simpa [Packet.status] using hnone

/-! ## The invariant

At any time, what the client has been sent, what the gateway holds and what is still on its way from
the sandbox make up what the sandbox has sent, in this order. `Carried` says so of the data and of
the exit status. Steps that have nothing to do with either are dealt with by `SameSource` and
`SameTarget`. -/

/-- What is on its way from the sandbox (`src`) to the client (`dst`). -/
structure Carried (cmd : Command) (src dst : Half) : Prop where
  legal : LegalSession cmd src.sent
  data : dataOf dst.passed ++ src.copier.held ++ src.input ++ dataOf src.incoming = dataOf src.sent
  statuses : statusesOf dst.passed ++ src.requests.flatMap ChannelRequest.status ++
    statusesOf src.incoming = statusesOf src.sent
  noExtended : extendedOf dst.passed = []
  onlyStatuses : ∀ r ∈ src.requests, ∃ code, r = .exitStatus code
  copyDone : src.copier = .done → src.closed = true ∧ src.input = []
  requestsDone : src.forwarder = .done → src.closed = true ∧ src.requests = []
  eofPassed : .eof ∈ dst.passed → src.copier = .done
  closePassed : .close ∈ dst.passed → dst.sentClose = true
  sentClose : dst.sentClose = true → src.copier = .done ∧ src.requests = [] ∧
    statusesOf src.incoming = [] ∧ statusesOf src.sent ≠ []
  srcEof : src.eof = true → src.closed = true
  srcClosed : src.closed = true → src.incoming = [] ∧ .close ∈ src.taken
  passedLast : CloseLast dst.passed
  dstClose : .close ∈ dst.sent → .close ∈ dst.seen ∨ (.eof ∈ dst.seen ∧ statusesOf dst.seen ≠ [])

/-- What the invariant says of a source is the same of both. -/
structure SameSource (src src' : Half) : Prop where
  taken : src'.taken = src.taken
  incoming : src'.incoming = src.incoming
  input : src'.input = src.input
  requests : src'.requests = src.requests
  copier : src'.copier = src.copier
  closed : src'.closed = src.closed
  eof : src'.eof = src.eof
  forwarder : src'.forwarder = .done → src.forwarder = .done

/-- A reply was passed on, or what was passed on has moved on. -/
structure SameTarget (dst dst' : Half) : Prop where
  passed : dst'.passed = dst.passed ∨
    (dst.sentClose = false ∧ ∃ ok, dst'.passed = dst.passed ++ [.reply ok])
  seen : dst.seen ⊆ dst'.seen
  statuses : statusesOf dst.seen ≠ [] → statusesOf dst'.seen ≠ []
  sentClose : dst'.sentClose = dst.sentClose
  sent : dst'.sent = dst.sent

theorem SameSource.refl (src : Half) : SameSource src src :=
  ⟨rfl, rfl, rfl, rfl, rfl, rfl, rfl, fun h => h⟩

theorem SameTarget.refl (dst : Half) : SameTarget dst dst :=
  ⟨Or.inl rfl, fun _ h => h, fun h => h, rfl, rfl⟩

/-- When the fields that count are the same. -/
theorem SameTarget.of_eq {dst dst' : Half} (houtgoing : dst'.outgoing = dst.outgoing)
    (hseen : dst'.seen = dst.seen) (hsentClose : dst'.sentClose = dst.sentClose)
    (htaken : dst'.taken = dst.taken) (hincoming : dst'.incoming = dst.incoming) :
    SameTarget dst dst' where
  passed := Or.inl (by rw [Half.passed, Half.passed, houtgoing, hseen])
  seen := by
    rw [hseen]
    exact fun _ h => h
  statuses := by
    rw [hseen]
    exact fun h => h
  sentClose := hsentClose
  sent := by rw [Half.sent, Half.sent, htaken, hincoming]

/-- A reply adds to no stream. -/
theorem SameTarget.streams {dst dst' : Half} (h : SameTarget dst dst') :
    dataOf dst'.passed = dataOf dst.passed ∧ extendedOf dst'.passed = extendedOf dst.passed ∧
      statusesOf dst'.passed = statusesOf dst.passed ∧
      (.eof ∈ dst'.passed → .eof ∈ dst.passed) ∧ (.close ∈ dst'.passed → .close ∈ dst.passed) := by
  rcases h.passed with hpassed | ⟨-, ok, hpassed⟩
  · rw [hpassed]
    exact ⟨rfl, rfl, rfl, id, id⟩
  · rw [hpassed]
    simp [Packet.dataBytes, Packet.extendedBytes, Packet.status]

/-- Steps that concern neither the data nor the statuses keep the invariant. -/
theorem Carried.congr {cmd : Command} {src src' dst dst' : Half} (h : Carried cmd src dst)
    (hsrc : SameSource src src') (hdst : SameTarget dst dst') : Carried cmd src' dst' := by
  obtain ⟨hdata, hextended, hstatuses, heof, hclose⟩ := hdst.streams
  have hsent : src'.sent = src.sent := by rw [Half.sent, Half.sent, hsrc.taken, hsrc.incoming]
  constructor
  · rw [hsent]
    exact h.legal
  -- data: what was passed on and what is held or unread make up what the sandbox sent
  · rw [hdata, hsrc.copier, hsrc.input, hsrc.incoming, hsent]
    exact h.data
  · rw [hstatuses, hsrc.requests, hsrc.incoming, hsent]
    exact h.statuses
  · rw [hextended]
    exact h.noExtended
  · rw [hsrc.requests]
    exact h.onlyStatuses
  · rw [hsrc.copier, hsrc.closed, hsrc.input]
    exact h.copyDone
  · rw [hsrc.closed, hsrc.requests]
    exact fun hdone => h.requestsDone (hsrc.forwarder hdone)
  · rw [hsrc.copier]
    exact fun hmem => h.eofPassed (heof hmem)
  · rw [hdst.sentClose]
    exact fun hmem => h.closePassed (hclose hmem)
  · rw [hdst.sentClose, hsrc.copier, hsrc.requests, hsrc.incoming, hsent]
    exact h.sentClose
  · rw [hsrc.eof, hsrc.closed]
    exact h.srcEof
  · rw [hsrc.closed, hsrc.incoming, hsrc.taken]
    exact h.srcClosed
  -- a reply may be passed on, but only while the channel is open
  · rcases hdst.passed with hpassed | ⟨hopen, ok, hpassed⟩
    · rw [hpassed]
      exact h.passedLast
    · rw [hpassed]
      refine CloseLast.snoc fun hmem => ?_
      rw [h.closePassed hmem] at hopen
      cases hopen
  · rw [hdst.sent]
    intro hmem
    rcases h.dstClose hmem with hseen | ⟨hseen, hstatus⟩
    · exact Or.inl (hdst.seen hseen)
    · exact Or.inr ⟨hdst.seen hseen, hdst.statuses hstatus⟩

/-- A reply to the client. -/
theorem sameTarget_emit_reply (dst : Half) (ok : Bool) : SameTarget dst (dst.emit (.reply ok)) := by
  refine ⟨?_, by simp, by simp, by simp, by simp⟩
  cases hclosed : dst.sentClose with
  | true =>
    rw [Half.emit_of_closed dst _ hclosed]
    exact Or.inl rfl
  | false => exact Or.inr ⟨rfl, ok, dst.passed_emit_of_open (.reply ok) hclosed⟩

/-- Or an answer to one of its requests. -/
theorem sameTarget_answer (dst : Half) (request : ChannelRequest) (ok : Bool) :
    SameTarget dst (dst.answer request ok) := by
  unfold Half.answer
  split_ifs
  · exact sameTarget_emit_reply dst ok
  · exact .refl dst

/-- What is sent to the sandbox is nothing that it sends. -/
theorem sameSource_emit (src : Half) (p : Packet) : SameSource src (src.emit p) := by
  refine ⟨?_, ?_, ?_, ?_, ?_, ?_, ?_, ?_⟩ <;> simp

section Steps

variable {cmd : Command} {src dst : Half}

/-! ### What the sandbox sends

The sandbox sends the next packet of its session, and the gateway takes what arrives. Both move
bytes from one part of the invariant to the next. -/

/-- The new packet is the last one on its way. -/
theorem Carried.send {p : Packet} (h : Carried cmd src dst) (hmay : sessionMay cmd src p)
    (hopen : .close ∉ src.sent) :
    Carried cmd { src with incoming := src.incoming ++ [p] } dst := by
  have hsent : ({ src with incoming := src.incoming ++ [p] } : Half).sent = src.sent ++ [p] := by
    simp [Half.sent]
  refine { h with legal := ?_, data := ?_, statuses := ?_, sentClose := ?_, srcClosed := ?_ }
  · rw [hsent]
    exact h.legal.send hmay hopen
  · rw [hsent]
    simp only [dataOf_append, ← h.data, List.append_assoc]
  · rw [hsent]
    simp only [statusesOf_append, ← h.statuses, List.append_assoc]
  · intro hclosed
    obtain ⟨hcopier, hrequests, hincoming, hstatus⟩ := h.sentClose hclosed
    -- a second exit status is not sent
    have hp : p.status = [] := by
      cases p with
      | request r =>
        cases r with
        | exitStatus code => exact absurd hmay.1 hstatus
        | other name wantReply payload => rfl
      | _ => rfl
    refine ⟨hcopier, hrequests, by simp [hincoming, hp], ?_⟩
    rw [hsent]
    simp [hstatus]
  · intro hclosed
    exact absurd (List.mem_append_left _ (h.srcClosed hclosed).2) hopen

/-- The first packet on its way becomes bytes to read or a request to forward. One case for each
kind of packet. -/
theorem Carried.deliver {p : Packet} {rest : List Packet} (h : Carried cmd src dst)
    (hincoming : src.incoming = p :: rest) :
    Carried cmd ({ src with incoming := rest, taken := src.taken ++ [p] }.accept p) dst := by
  have hsent : src.taken ++ [p] ++ rest = src.sent := by simp [Half.sent, hincoming]
  have hnotClosed : src.closed = false := by
    by_contra hclosed
    have hnil := (h.srcClosed (by simpa using hclosed)).1
    rw [hincoming] at hnil
    cases hnil
  have hmem : p ∈ src.sent := by simp [← hsent]
  have hlegal : LegalSession cmd (src.taken ++ [p] ++ rest) := hsent ▸ h.legal
  have hdata : dataOf dst.passed ++ src.copier.held ++ src.input ++ (p.dataBytes ++ dataOf rest) =
      dataOf (src.taken ++ [p] ++ rest) := by
    rw [hsent, ← h.data, hincoming, dataOf_cons]
  have hstatuses : statusesOf dst.passed ++ src.requests.flatMap ChannelRequest.status ++
      (p.status ++ statusesOf rest) = statusesOf (src.taken ++ [p] ++ rest) := by
    rw [hsent, ← h.statuses, hincoming, statusesOf_cons]
  -- a side that still delivers is not closed, so both goroutines of its direction are at work
  have hcopying : src.copier ≠ .done := fun hdone => by
    have hclosed := (h.copyDone hdone).1
    simp [hnotClosed] at hclosed
  have hranging : src.forwarder ≠ .done := fun hdone => by
    have hclosed := (h.requestsDone hdone).1
    simp [hnotClosed] at hclosed
  have hopen : dst.sentClose ≠ true := fun hclosed => hcopying (h.sentClose hclosed).1
  cases p with
  | data bytes =>
    refine { h with
      legal := hlegal
      data := ?_
      statuses := hstatuses
      copyDone := fun hdone => absurd hdone hcopying
      sentClose := fun hclosed => absurd hclosed hopen
      srcClosed := ?_ }
    · simpa [Half.accept, Half.sent, Packet.dataBytes] using hdata
    · simp [Half.accept, hnotClosed]
  | extended bytes =>
    refine { h with
      legal := hlegal
      data := hdata
      statuses := hstatuses
      sentClose := fun hclosed => absurd hclosed hopen
      srcClosed := ?_ }
    simp [Half.accept, hnotClosed]
  | request r =>
    obtain ⟨code, rfl⟩ := h.legal.requests r hmem
    refine { h with
      legal := hlegal
      data := hdata
      statuses := ?_
      onlyStatuses := ?_
      requestsDone := fun hdone => absurd hdone hranging
      sentClose := fun hclosed => absurd hclosed hopen
      srcClosed := ?_ }
    · simpa [Half.accept, Half.sent, Packet.status, ChannelRequest.status] using hstatuses
    · intro r' hr'
      rcases List.mem_append.mp hr' with hr' | hr'
      · exact h.onlyStatuses r' hr'
      · exact ⟨code, List.mem_singleton.mp hr'⟩
    · simp [Half.accept, hnotClosed]
  | reply ok =>
    refine { h with
      legal := hlegal
      data := hdata
      statuses := hstatuses
      sentClose := fun hclosed => absurd hclosed hopen
      srcClosed := ?_ }
    simp [Half.accept, hnotClosed]
  | eof => exact absurd hmem h.legal.noEof
  | close =>
    -- nothing comes after it, and what was read before stays in `input` and `requests`
    obtain rfl : rest = [] := h.legal.last src.taken rest (by simp [← hsent])
    refine { h with
      legal := ?_
      data := ?_
      statuses := ?_
      onlyStatuses := ?_
      copyDone := ?_
      requestsDone := ?_
      eofPassed := ?_
      sentClose := fun hclosed => absurd hclosed hopen
      srcEof := fun _ => rfl
      srcClosed := ?_ }
    all_goals simp only [Half.accept, Half.close, Half.sent, Half.emit_requests, Half.emit_copier,
      Half.emit_forwarder, Half.emit_taken, Half.emit_incoming, Half.emit_input]
    · exact hlegal
    · exact hdata
    · exact hstatuses
    · exact h.onlyStatuses
    · exact fun hdone => absurd hdone hcopying
    · exact fun hdone => absurd hdone hranging
    · exact h.eofPassed
    · simp

/-! ### What the gateway passes on

The goroutines forward the requests and copy the bytes of the main stream. Nobody reads the extended
stream: this is where the error output is lost. -/

/-- A packet that the gateway passes on moves what the source no longer holds. -/
theorem Carried.pass {p : Packet} {requests : List ChannelRequest} {copier : Copier}
    (h : Carried cmd src dst) (hopen : dst.sentClose = false) (hclose : p ≠ .close)
    (hextended : p.extendedBytes = []) (hdata : p.dataBytes ++ copier.held = src.copier.held)
    (hstatuses : p.status ++ requests.flatMap ChannelRequest.status =
      src.requests.flatMap ChannelRequest.status)
    (hrequests : requests ⊆ src.requests)
    (hcopyDone : copier = .done → src.closed = true ∧ src.input = [])
    (heof : p = .eof ∨ src.copier = .done → copier = .done) :
    Carried cmd { src with requests := requests, copier := copier } (dst.emit p) := by
  have hpassed := dst.passed_emit_of_open p hopen
  have hearlier : ∀ {q : Packet}, q ∈ dst.passed ++ [p] → q ∈ dst.passed ∨ p = q := fun hmem =>
    (List.mem_append.mp hmem).imp_right fun hq => (List.mem_singleton.mp hq).symm
  constructor
  · exact h.legal
  -- what was held in front is now passed on at the back
  · have hstream := h.data
    rw [← hdata] at hstream
    rw [hpassed]
    simpa [Half.sent] using hstream
  · have hstream := h.statuses
    rw [← hstatuses] at hstream
    rw [hpassed]
    simpa [Half.sent] using hstream
  · simp [hpassed, h.noExtended, hextended]
  · exact fun r hr => h.onlyStatuses r (hrequests hr)
  · exact hcopyDone
  -- the forwarder of requests has ended with none left, so none is passed on now
  · intro hdone
    obtain ⟨hclosed, hnil⟩ := h.requestsDone hdone
    exact ⟨hclosed, List.subset_nil.mp (hnil ▸ hrequests)⟩
  · rw [hpassed]
    exact fun hmem => heof ((hearlier hmem).symm.imp_right h.eofPassed)
  · rw [hpassed, Half.emit_sentClose]
    intro hmem
    rcases hearlier hmem with hmem | hp
    · exact h.closePassed hmem
    · exact absurd hp hclose
  -- nothing is closed by passing a packet on
  · rw [Half.emit_sentClose, hopen]
    intro hclosed
    cases hclosed
  · exact h.srcEof
  · exact h.srcClosed
  · exact dst.closeLast_emit _ h.passedLast h.closePassed
  · rw [Half.emit_sent, Half.emit_seen]
    exact h.dstClose

/-- While the source has something to pass on, the client's channel is open. -/
theorem Carried.open_of_copying (h : Carried cmd src dst) (hcopying : src.copier ≠ .done) :
    dst.sentClose = false := by
  by_contra hclosed
  exact hcopying (h.sentClose (by simpa using hclosed)).1

/-- An exit status is passed on. -/
theorem Carried.takeRequest {r : ChannelRequest} {rest : List ChannelRequest}
    (h : Carried cmd src dst) (hrequests : src.requests = r :: rest) :
    Carried cmd { src with requests := rest } (dst.emit (.request r)) := by
  have hopen : dst.sentClose = false := by
    by_contra hclosed
    have hnil := (h.sentClose (by simpa using hclosed)).2.1
    rw [hrequests] at hnil
    cases hnil
  obtain ⟨code, rfl⟩ := h.onlyStatuses r (by simp [hrequests])
  refine h.pass hopen nofun rfl rfl ?_ ?_ h.copyDone ?_
  · rw [hrequests]
    rfl
  · rw [hrequests]
    exact List.subset_cons_self _ _
  · rintro (heof | hdone)
    · cases heof
    · exact hdone

/-- The goroutine returns when no request is left. -/
theorem Carried.endRequests (h : Carried cmd src dst) (hrequests : src.requests = [])
    (hclosed : src.closed = true) : Carried cmd { src with forwarder := .done } dst :=
  { h with requestsDone := fun _ => ⟨hclosed, hrequests⟩ }

/-- What is read is held before it is written. -/
theorem Carried.read (n : Nat) (h : Carried cmd src dst) (hreading : src.copier = .reading) :
    Carried cmd { src with input := src.input.drop n, copier := .holding (src.input.take n) }
      dst := by
  have hnotDone : src.copier ≠ .done := by simp [hreading]
  have hdata : dataOf dst.passed ++ src.input.take n ++ src.input.drop n ++ dataOf src.incoming =
      dataOf src.sent := by
    rw [List.append_assoc (dataOf dst.passed), List.take_append_drop, ← h.data, hreading]
    simp [Copier.held]
  refine { h with
    data := hdata
    copyDone := nofun
    eofPassed := fun hmem => absurd (h.eofPassed hmem) hnotDone
    sentClose := fun hsent => absurd (h.sentClose hsent).1 hnotDone }

/-- What is written is next for the client. -/
theorem Carried.write (n : Nat) {bytes : List UInt8} (h : Carried cmd src dst)
    (hholding : src.copier = .holding bytes) :
    Carried cmd
      { src with copier := if n = bytes.length then .reading else .holding (bytes.drop n) }
      (dst.emit (.data (bytes.take n))) := by
  have hnotDone : src.copier ≠ .done := by simp [hholding]
  -- a write may take part of the bytes; the rest is held for the next
  have hheld : (if n = bytes.length then Copier.reading else .holding (bytes.drop n)).held =
      bytes.drop n := by
    split_ifs with hn
    · simp [hn, Copier.held]
    · rfl
  refine h.pass (h.open_of_copying hnotDone) nofun rfl ?_ rfl (fun _ hr => hr) ?_ ?_
  · rw [hheld, hholding]
    exact List.take_append_drop n bytes
  · intro hdone
    split_ifs at hdone
  · rintro (heof | hdone)
    · cases heof
    · exact absurd hdone hnotDone

/-- The end of the data is passed on. -/
theorem Carried.endCopy (h : Carried cmd src dst) (hreading : src.copier = .reading)
    (hinput : src.input = []) (heof : src.eof = true) :
    Carried cmd { src with copier := .done } (dst.emit .eof) := by
  have hnotDone : src.copier ≠ .done := by simp [hreading]
  refine h.pass (h.open_of_copying hnotDone) nofun rfl ?_ rfl (fun _ hr => hr)
    (fun _ => ⟨h.srcEof heof, hinput⟩) fun _ => rfl
  rw [hreading]
  rfl

/-- The client's channel is closed once the sandbox has ended. -/
theorem Carried.close (h : Carried cmd src dst) (hcopier : src.copier = .done)
    (hrequests : src.requests = []) (hincoming : statusesOf src.incoming = [])
    (hstatus : statusesOf src.sent ≠ []) : Carried cmd src dst.close := by
  -- a close goes out once, whether or not it was sent before
  have hpassed : dst.close.passed = (dst.emit .close).passed := rfl
  have hseen : dst.close.seen = dst.seen := dst.emit_seen .close
  have hsent : dst.close.sent = dst.sent := dst.emit_sent .close
  refine { h with
    data := ?_, statuses := ?_, noExtended := ?_, eofPassed := fun _ => hcopier
    closePassed := fun _ => rfl
    sentClose := fun _ => ⟨hcopier, hrequests, hincoming, hstatus⟩
    passedLast := dst.closeLast_emit .close h.passedLast h.closePassed
    dstClose := ?_ }
  · rw [hpassed]
    rcases dst.passed_emit .close with heq | heq
    · rw [heq, dataOf_append]
      simpa [Packet.dataBytes] using h.data
    · rw [heq]
      exact h.data
  · rw [hpassed]
    rcases dst.passed_emit .close with heq | heq
    · rw [heq, statusesOf_append]
      simpa [Packet.status] using h.statuses
    · rw [heq]
      exact h.statuses
  · rw [hpassed]
    rcases dst.passed_emit .close with heq | heq
    · rw [heq, extendedOf_append, h.noExtended]
      rfl
    · rw [heq]
      exact h.noExtended
  · rw [hsent, hseen]
    exact h.dstClose

/-! ### What the client does

The client takes what arrives and leaves when it has seen the end of the data and an exit status, or
a close. -/

/-- All that the sandbox sent of the exit status has been passed on once the client has seen it. -/
theorem Carried.statusSeen (h : Carried cmd src dst) (hseen : statusesOf dst.seen ≠ []) :
    src.requests = [] ∧ statusesOf src.incoming = [] ∧ statusesOf src.sent ≠ [] := by
  have hpassed : statusesOf dst.passed ≠ [] := by
    rw [Half.passed, statusesOf_append]
    simp [hseen]
  obtain ⟨code, rest, hcons⟩ := List.exists_cons_of_ne_nil hpassed
  have hstatuses := h.statuses
  rw [hcons] at hstatuses
  -- an SSH server sends at most one exit status
  rcases h.legal.status with hnone | ⟨hone, -, -⟩
  · rw [hnone] at hstatuses
    cases hstatuses
  · rw [hone] at hstatuses
    -- the one that was seen is the only one, so nothing of it is left behind
    have hrest : rest ++ src.requests.flatMap ChannelRequest.status ++ statusesOf src.incoming =
        [] := (List.cons.inj hstatuses).2
    simp only [List.append_eq_nil_iff, List.flatMap_eq_nil_iff] at hrest
    refine ⟨?_, hrest.2, by simp [hone]⟩
    rw [List.eq_nil_iff_forall_not_mem]
    intro r hr
    obtain ⟨code', rfl⟩ := h.onlyStatuses r hr
    have hnone := hrest.1.2 _ hr
    cases hnone

/-- Packets of the client concern neither the data nor the status. -/
theorem Carried.sendClient {p : Packet} (h : Carried cmd src dst) (hmay : clientMay dst p) :
    Carried cmd src { dst with incoming := dst.incoming ++ [p] } := by
  refine { h with dstClose := ?_ }
  intro hmem
  have hsent : ({ dst with incoming := dst.incoming ++ [p] } : Half).sent = dst.sent ++ [p] := by
    simp [Half.sent]
  rw [hsent] at hmem
  rcases List.mem_append.mp hmem with hmem | hmem
  · exact h.dstClose hmem
  · obtain rfl := List.mem_singleton.mp hmem
    exact hmay

theorem Carried.deliverClient {p : Packet} {rest : List Packet} (h : Carried cmd src dst)
    (hincoming : dst.incoming = p :: rest) :
    Carried cmd src ({ dst with incoming := rest, taken := dst.taken ++ [p] }.accept p) := by
  have hmoved : SameTarget dst { dst with incoming := rest, taken := dst.taken ++ [p] } := by
    refine ⟨Or.inl rfl, fun _ hm => hm, fun hs => hs, rfl, ?_⟩
    simp [Half.sent, hincoming]
  have hcarried := h.congr (SameSource.refl src) hmoved
  cases p with
  | close =>
    -- the client has seen the end of the sandbox's stream, or the gateway's close
    have hended : src.copier = .done ∧ src.requests = [] ∧ statusesOf src.incoming = [] ∧
        statusesOf src.sent ≠ [] := by
      rcases h.dstClose (by simp [Half.sent, hincoming]) with hclose | ⟨heof, hstatus⟩
      · exact h.sentClose (h.closePassed (List.mem_append_left _ hclose))
      · exact ⟨h.eofPassed (List.mem_append_left _ heof), h.statusSeen hstatus⟩
    obtain ⟨hcopier, hrequests, hnone, hstatus⟩ := hended
    exact (hcarried.close hcopier hrequests hnone hstatus).congr (SameSource.refl src)
      (.of_eq rfl rfl rfl rfl rfl)
  | _ => exact hcarried.congr (SameSource.refl src) (.of_eq rfl rfl rfl rfl rfl)

end Steps

/-! ## Every run

One case for each action, by its inversion lemma: every case is one of the lemmas above, or a step
that concerns nothing of the invariant. -/

/-- Every step keeps the invariant. -/
theorem Carried.step {cmd : Command} {b b' : Bridge} {a : Action}
    (h : Carried cmd b.sandbox b.client) (hmay : commandMay cmd b a)
    (hstep : Bridge.step a b = some b') : Carried cmd b'.sandbox b'.client := by
  -- the sandbox is the source and the client the target: most actions move only one of them
  have hsame := SameSource.refl b.sandbox
  cases a with
  | send side p =>
    obtain ⟨hopen, rfl⟩ := Bridge.step_send hstep
    cases side with
    | client => exact h.sendClient hmay
    | sandbox => exact h.send hmay hopen
  | receive side =>
    obtain ⟨p, rest, houtgoing, rfl⟩ := Bridge.step_receive hstep
    cases side with
    | client =>
      have hout : b.client.outgoing = p :: rest := houtgoing
      refine h.congr hsame ⟨Or.inl ?_, ?_, ?_, rfl, rfl⟩
      · simp [Half.passed, Bridge.setHalf, Bridge.half, hout]
      · exact List.subset_append_left _ _
      · intro hstatus
        simp [Bridge.setHalf, Bridge.half, hstatus]
    | sandbox => exact h.congr ⟨rfl, rfl, rfl, rfl, rfl, rfl, rfl, fun hf => hf⟩ (.refl _)
  | deliver side =>
    obtain ⟨p, rest, hincoming, rfl⟩ := Bridge.step_deliver hstep
    cases side with
    | client => exact h.deliverClient hincoming
    | sandbox => exact h.deliver hincoming
  | takeRequest side =>
    obtain ⟨request, rest, hranging, hrequests, hcase⟩ := Bridge.step_takeRequest hstep
    cases side with
    | client =>
      rcases hcase with ⟨-, rfl⟩ | ⟨-, rfl⟩
      · have hmoved : SameTarget b.client { b.client with requests := rest } :=
          .of_eq rfl rfl rfl rfl rfl
        exact (h.congr hsame hmoved).congr hsame (sameTarget_answer _ request false)
      · exact h.congr (sameSource_emit _ _) (.of_eq rfl rfl rfl rfl rfl)
    | sandbox =>
      rcases hcase with ⟨hclosed, rfl⟩ | ⟨-, rfl⟩
      · -- the client was closed only after the last request
        have hnone := (h.sentClose hclosed).2.1
        rw [show b.sandbox.requests = request :: rest from hrequests] at hnone
        cases hnone
      · refine (h.takeRequest hrequests).congr ?_ (.refl _)
        refine ⟨rfl, rfl, rfl, rfl, rfl, rfl, rfl, fun hdone => ?_⟩
        simp only [Bridge.setHalf] at hdone
        split_ifs at hdone
  | takeReply side =>
    obtain ⟨hawaiting, hcase⟩ := Bridge.step_takeReply hstep
    cases side with
    | client =>
      have hanswered : ∀ ok, Carried cmd b.sandbox (b.client.emit (.reply ok)) := fun ok =>
        h.congr hsame (sameTarget_emit_reply b.client ok)
      rcases hcase with ⟨ok, rest, -, rfl⟩ | ⟨-, -, rfl⟩
      · exact (hanswered ok).congr ⟨rfl, rfl, rfl, rfl, rfl, rfl, rfl, fun hf => hf⟩
          (.of_eq rfl rfl rfl rfl rfl)
      · exact (hanswered false).congr hsame (.of_eq rfl rfl rfl rfl rfl)
    | sandbox =>
      have hsource : ∀ ok, SameSource b.sandbox
          { b.sandbox.emit (.reply ok) with forwarder := .ranging } := fun ok =>
        { sameSource_emit b.sandbox (.reply ok) with forwarder := fun hdone => by cases hdone }
      rcases hcase with ⟨ok, rest, -, rfl⟩ | ⟨-, -, rfl⟩
      · exact h.congr (hsource ok) (.of_eq rfl rfl rfl rfl rfl)
      · exact h.congr (hsource false) (.refl _)
  | endRequests side =>
    obtain ⟨-, hrequests, hclosed, rfl⟩ := Bridge.step_endRequests hstep
    cases side with
    | client => exact h.congr hsame (.of_eq rfl rfl rfl rfl rfl)
    | sandbox => exact h.endRequests hrequests hclosed
  | read side n =>
    obtain ⟨hreading, -, -, rfl⟩ := Bridge.step_read hstep
    cases side with
    | client => exact h.congr hsame (.of_eq rfl rfl rfl rfl rfl)
    | sandbox => exact h.read n hreading
  | write side n =>
    obtain ⟨bytes, hholding, hcase⟩ := Bridge.step_write hstep
    cases side with
    | client =>
      rcases hcase with ⟨-, rfl⟩ | ⟨-, -, -, rfl⟩
      · exact h.congr hsame (.of_eq rfl rfl rfl rfl rfl)
      · exact h.congr (sameSource_emit _ _) (.of_eq rfl rfl rfl rfl rfl)
    | sandbox =>
      rcases hcase with ⟨hclosed, rfl⟩ | ⟨-, -, -, rfl⟩
      · -- and only after the last bytes
        have hdone := (h.sentClose hclosed).1
        rw [show b.sandbox.copier = .holding bytes from hholding] at hdone
        cases hdone
      · exact h.write n hholding
  | endCopy side =>
    obtain ⟨hreading, hinput, heof, rfl⟩ := Bridge.step_endCopy hstep
    cases side with
    | client => exact h.congr (sameSource_emit _ _) (.of_eq rfl rfl rfl rfl rfl)
    | sandbox => exact h.endCopy hreading hinput heof
  | finish =>
    obtain ⟨-, -, -, hforwarder, hcopier, rfl⟩ := Bridge.step_finish hstep
    -- the forwarder ends only after the sandbox has closed, which it does after the status
    have hclosed := h.requestsDone hforwarder
    have hended := h.srcClosed hclosed.1
    have hstatus : statusesOf b.sandbox.sent ≠ [] :=
      h.legal.close (List.mem_append_left _ hended.2)
    have hnone : statusesOf b.sandbox.incoming = [] := by
      rw [hended.1]
      rfl
    refine (h.close hcopier hclosed.2 hnone hstatus).congr ?_ (SameTarget.refl _)
    exact ⟨by simp [Half.close], by simp [Half.close], by simp [Half.close], by simp [Half.close],
      by simp [Half.close], by simp [Half.close], by simp [Half.close], by simp [Half.close]⟩

/-- The invariant holds throughout a run of a command. -/
theorem Carried.of_reached {cmd : Command} {b : Bridge}
    (hreached : Reached Bridge.step (commandMay cmd) {} b) : Carried cmd b.sandbox b.client := by
  refine hreached.invariant (I := fun b => Carried cmd b.sandbox b.client) ?_
    fun b a b' h hmay hstep => h.step hmay hstep
  constructor <;> simp [Half.sent, Half.passed, Copier.held, CloseLast]
  constructor <;> simp [CloseLast]

/-! ## The results

In an ended channel the invariant says what the client has got: the output of the command and the
status that the server sent, which is 0 for every command. -/

/-- The channel has ended: the client has the gateway's close, or the sandbox's end of the bridge is
done and all it passed on has arrived. -/
def Ended (b : Bridge) : Prop :=
  .close ∈ b.client.seen ∨
    (b.sandbox.forwarder = .done ∧ b.sandbox.copier = .done ∧ b.client.outgoing = [])

/-- The client has received the results of the command as they are. -/
def Survives (cmd : Command) (b : Bridge) : Prop :=
  dataOf b.client.seen = cmd.stdout ∧ extendedOf b.client.seen = cmd.stderr ∧
    statusesOf b.client.seen = [cmd.exitCode]

/-- A handler without a PTY never calls `Exit`. -/
theorem exitStatus_eq_zero (cmd : Command) : exitStatus cmd = 0 := by
  unfold exitStatus sessionHandler
  split_ifs <;> rfl

/-- When the channel has ended, the sandbox's close has come through and nothing is on its way. -/
theorem Carried.of_ended {cmd : Command} {b : Bridge} (h : Carried cmd b.sandbox b.client)
    (hended : Ended b) : b.client.outgoing = [] ∧ b.sandbox.copier = .done ∧
      b.sandbox.requests = [] ∧ b.sandbox.incoming = [] ∧ statusesOf b.sandbox.sent ≠ [] := by
  rcases hended with hclose | ⟨hforwarder, hcopier, houtgoing⟩
  · obtain ⟨pre, rest, hseen⟩ := List.append_of_mem hclose
    have hlast := h.passedLast pre (rest ++ b.client.outgoing) (by simp [Half.passed, hseen])
    obtain ⟨hcopier, hrequests, -, hstatus⟩ :=
      h.sentClose (h.closePassed (List.mem_append_left _ hclose))
    have hincoming := (h.srcClosed (h.copyDone hcopier).1).1
    exact ⟨(List.append_eq_nil_iff.mp hlast).2, hcopier, hrequests, hincoming, hstatus⟩
  · obtain ⟨hclosed, hrequests⟩ := h.requestsDone hforwarder
    obtain ⟨hincoming, htaken⟩ := h.srcClosed hclosed
    exact ⟨houtgoing, hcopier, hrequests, hincoming, h.legal.close (List.mem_append_left _ htaken)⟩

/-- The client receives what the command wrote to standard output, nothing of what it wrote to
standard error, and the status 0. -/
theorem Carried.results {cmd : Command} {b : Bridge} (h : Carried cmd b.sandbox b.client)
    (hended : Ended b) : dataOf b.client.seen = cmd.stdout ∧ extendedOf b.client.seen = [] ∧
      statusesOf b.client.seen = [0] := by
  obtain ⟨houtgoing, hcopier, hrequests, hincoming, hstatus⟩ := h.of_ended hended
  have hpassed : b.client.passed = b.client.seen := by rw [Half.passed, houtgoing, List.append_nil]
  obtain ⟨hsent, hall, -⟩ := h.legal.status.resolve_left hstatus
  have hdata := h.data
  have hstatuses := h.statuses
  rw [hpassed, hcopier, (h.copyDone hcopier).2, hincoming, hall] at hdata
  rw [hpassed, hrequests, hincoming, hsent, exitStatus_eq_zero] at hstatuses
  refine ⟨by simpa [Copier.held] using hdata, ?_, by simpa using hstatuses⟩
  rw [← hpassed]
  exact h.noExtended

/-- **The results of a command.** In every run of a command through the bridge that has ended, the
client has received what the process wrote and the code it exited with exactly when it wrote nothing
to standard error and exited with 0. The error output is not copied by the gateway, and the handler
in the sandbox does not pass the exit code on. -/
theorem results_survive_iff (cmd : Command) {b : Bridge}
    (hreached : Reached Bridge.step (commandMay cmd) {} b) (hended : Ended b) :
    Survives cmd b ↔ cmd.stderr = [] ∧ cmd.exitCode = 0 := by
  obtain ⟨hdata, hextended, hstatuses⟩ := (Carried.of_reached hreached).results hended
  rw [Survives, hdata, hextended, hstatuses]
  constructor
  · rintro ⟨-, hstderr, hcode⟩
    exact ⟨hstderr.symm, (List.cons.inj hcode).1.symm⟩
  · rintro ⟨hstderr, hcode⟩
    exact ⟨rfl, hstderr.symm, by rw [hcode]⟩

/-! ### A quiet command, and one that fails

The same run of the bridge for two commands. One writes a line and exits with 0, and its results
survive; the other fails, and its client is told that it succeeded. -/

instance (cmd : Command) (h : Half) : (p : Packet) → Decidable (sessionMay cmd h p)
  | .data bytes => inferInstanceAs (Decidable (_ ∧ dataOf h.sent ++ bytes <+: cmd.stdout))
  | .extended bytes => inferInstanceAs (Decidable (_ ∧ extendedOf h.sent ++ bytes <+: cmd.stderr))
  | .request (.exitStatus _) => inferInstanceAs (Decidable (_ ∧ _ ∧ _ ∧ _))
  | .request (.other _ _ _) => inferInstanceAs (Decidable False)
  | .reply _ => inferInstanceAs (Decidable True)
  | .eof => inferInstanceAs (Decidable False)
  | .close => inferInstanceAs (Decidable (_ ≠ _))

instance (h : Half) : (p : Packet) → Decidable (clientMay h p)
  | .close => inferInstanceAs (Decidable (_ ∨ _))
  | .data _ | .extended _ | .request _ | .reply _ | .eof => inferInstanceAs (Decidable True)

instance (cmd : Command) (b : Bridge) : (a : Action) → Decidable (commandMay cmd b a)
  | .send .client p => inferInstanceAs (Decidable (clientMay b.client p))
  | .send .sandbox p => inferInstanceAs (Decidable (sessionMay cmd b.sandbox p))
  | .receive _ | .deliver _ | .takeRequest _ | .takeReply _ | .endRequests _ | .read _ _
  | .write _ _ | .endCopy _ | .finish => inferInstanceAs (Decidable True)

instance (b : Bridge) : Decidable (Ended b) := inferInstanceAs (Decidable (_ ∨ _))

instance (cmd : Command) (b : Bridge) : Decidable (Survives cmd b) :=
  inferInstanceAs (Decidable (_ ∧ _ ∧ _))

/-- A run in which everything is forwarded at once. The client leaves when it has the end of the
data and the status. -/
def promptRun (cmd : Command) : List Action :=
  [.send .sandbox (.data cmd.stdout), .send .sandbox (.extended cmd.stderr),
    .send .sandbox (.request (.exitStatus (exitStatus cmd))), .send .sandbox .close,
    .deliver .sandbox, .deliver .sandbox, .deliver .sandbox, .deliver .sandbox,
    .read .sandbox cmd.stdout.length, .write .sandbox cmd.stdout.length, .endCopy .sandbox,
    .takeRequest .sandbox, .endRequests .sandbox,
    .receive .client, .receive .client, .receive .client,
    .send .client .close, .deliver .client, .receive .client]

/-- Writes `ok` and exits with 0. -/
def quiet : Command :=
  { rawCommand := "printf ok", stdout := [0x6f, 0x6b], stderr := [], exitCode := 0 }

/-- Writes `ok` to standard output and `no` to standard error, and exits with 2. -/
def failing : Command :=
  { rawCommand := "printf ok; printf no >&2; exit 2"
    stdout := [0x6f, 0x6b]
    stderr := [0x6e, 0x6f]
    exitCode := 2 }

/-- The theorem at a run of the quiet command. -/
theorem results_survive_quiet : ∃ b, Reached Bridge.step (commandMay quiet) {} b ∧ Ended b ∧
    (Survives quiet b ↔ quiet.stderr = [] ∧ quiet.exitCode = 0) := by
  obtain ⟨b, hreached, hended⟩ := exists_reached Bridge.step (commandMay quiet) {}
    (promptRun quiet) (fun b => decide (Ended b)) (by decide)
  have hend : Ended b := by simpa using hended
  exact ⟨b, hreached, hend, results_survive_iff quiet hreached hend⟩

/-- The client of a failing command has its channel closed, without the error output and with the
status 0. -/
theorem failing_command_succeeds : ∃ b, Reached Bridge.step (commandMay failing) {} b ∧
    Ended b ∧ .close ∈ b.client.seen ∧ ¬ Survives failing b ∧
      extendedOf b.client.seen = [] ∧ statusesOf b.client.seen = [0] := by
  obtain ⟨b, hreached, hend⟩ := exists_reached Bridge.step (commandMay failing) {}
    (promptRun failing)
    (fun b => decide (Ended b ∧ .close ∈ b.client.seen ∧ ¬ Survives failing b ∧
      extendedOf b.client.seen = [] ∧ statusesOf b.client.seen = [0])) (by decide)
  exact ⟨b, hreached, by simpa using hend⟩

end SshBridge

end Microsandbox
