import Mathlib.Tactic.Common
import ContainerClients.Bridge.Copying

/-!
# No byte is lost on the way to the editor

Both directions of the bridge are a queue of bytes in four parts: what has been handed on, what the
pump holds, what has been lost, and what is unread.  A read moves a chunk from the last part to the
second, a piece that is handed on moves from the second to the first, and only giving up makes the
third.  The parts in this order are always the whole source, and that is the invariant.

A pump that has not given up has lost nothing, so that the editor has the whole output once its pump
has found the end of it.  Copying to the server may lose bytes, but only at its end: what the server
has is a front of the input even then, and a closed pump takes no step.

* `Accounts` — the four parts of a source; `Accounts.read`, `.handOn`, `.giveUp`, `.append` are what
  the steps do to them.
* `State.Sound`, `Step.sound`, `Run.sound` — the invariant, kept by every step and every run.
* `Run.inward_eq`, `Run.settled` — what a closed pump and a bridge that has returned leave alone.
* **`streams_intact`** — both directions, in every state that a bridge comes to.
* `exists_run_returned` — a bridge whose server has ended can always go on until it returns.
-/

namespace ContainerClients.Bridge

/-! ## The parts of a source -/

section Accounts

variable {source handed held unread chunk rest piece lost bytes : List UInt8}
  {whole whole' : Prop}

/-- **The parts of a source of bytes**: what has been handed on, what a pump holds, what has been
lost and what is unread.  Nothing is lost as long as it is `whole`. -/
def Accounts (source handed held unread : List UInt8) (whole : Prop) : Prop :=
  ∃ lost, source = handed ++ held ++ lost ++ unread ∧ (whole → lost = [])

/-- What has been handed on is a front of the source. -/
lemma Accounts.isPrefix (h : Accounts source handed held unread whole) : handed <+: source := by
  obtain ⟨lost, rfl, -⟩ := h
  simp only [List.append_assoc]
  exact List.prefix_append ..

/-- Without a loss, the other three parts are the source. -/
lemma Accounts.eq_append (h : Accounts source handed held unread whole) (hwhole : whole) :
    source = handed ++ held ++ unread := by
  obtain ⟨lost, rfl, hlost⟩ := h
  rw [hlost hwhole, List.append_nil]

lemma Accounts.of_eq (h : source = handed ++ held ++ unread) :
    Accounts source handed held unread whole :=
  ⟨[], by simpa using h, fun _ => rfl⟩

lemma Accounts.mono (h : Accounts source handed held unread whole) (himp : whole' → whole) :
    Accounts source handed held unread whole' := by
  obtain ⟨lost, heq, hlost⟩ := h
  exact ⟨lost, heq, fun hwhole => hlost (himp hwhole)⟩

/-- A pump that holds nothing reads a chunk. -/
lemma Accounts.read (h : Accounts source handed [] unread whole) (hwhole : whole)
    (hread : IsRead unread chunk rest) : Accounts source handed chunk rest whole' := by
  refine .of_eq ?_
  rw [h.eq_append hwhole, hread.eq_append]
  simp only [List.append_nil, List.append_assoc]

/-- A piece of what is held is handed on. -/
lemma Accounts.handOn (h : Accounts source handed (piece ++ rest) unread whole) :
    Accounts source (handed ++ piece) rest unread whole := by
  obtain ⟨lost, rfl, hlost⟩ := h
  exact ⟨lost, by simp only [List.append_assoc], hlost⟩

/-- Giving up loses what is held, and a front of what is unread. -/
lemma Accounts.giveUp_append (h : Accounts source handed held (lost ++ unread) whole)
    (hnot : ¬ whole') : Accounts source handed [] unread whole' := by
  obtain ⟨before, rfl, -⟩ := h
  refine ⟨held ++ before ++ lost, ?_, fun hwhole => absurd hwhole hnot⟩
  simp only [List.append_assoc, List.nil_append]

/-- Giving up loses what is held. -/
lemma Accounts.giveUp (h : Accounts source handed held unread whole) (hnot : ¬ whole') :
    Accounts source handed [] unread whole' := by
  rw [← List.nil_append unread] at h
  exact h.giveUp_append hnot

lemma Accounts.append (h : Accounts source handed held unread whole) :
    Accounts (source ++ bytes) handed held (unread ++ bytes) whole := by
  obtain ⟨lost, rfl, hlost⟩ := h
  exact ⟨lost, by simp only [List.append_assoc], hlost⟩

end Accounts

/-! ## From the editor to the server -/

/-- Whether a pump still copies. -/
def InputPump.IsOpen (pump : InputPump) : Prop := ∀ cause, pump ≠ .closed cause

lemma InputPump.isOpen_reading : InputPump.reading.IsOpen := nofun

lemma InputPump.isOpen_sending (rest : List UInt8) : (InputPump.sending rest).IsOpen := nofun

lemma InputPump.not_isOpen_closed (cause : Cause) : ¬ (InputPump.closed cause).IsOpen :=
  fun h => h cause rfl

/-- The direction to the server accounts for the input, and has lost nothing before its pump is
closed. -/
def Inward.Sound (input : List UInt8) (inward : Inward) : Prop :=
  Accounts input inward.delivered inward.pump.held inward.unread inward.pump.IsOpen

/-- **One step towards the server** keeps account of the input. -/
lemma Inward.Step.sound {input : List UInt8} {serverReads outputEnded : Bool}
    {inward next : Inward} (hstep : Inward.Step serverReads outputEnded inward next)
    (h : inward.Sound input) : next.Sound input := by
  unfold Inward.Sound at h ⊢
  cases hstep with
  | read unread chunk rest delivered hread => exact h.read InputPump.isOpen_reading hread
  | send unread piece rest delivered => exact h.handOn.mono fun _ => InputPump.isOpen_sending _
  | sent unread delivered => exact h.mono fun _ => InputPump.isOpen_sending _
  | refuse unread rest delivered => exact h.giveUp (InputPump.not_isOpen_closed _)
  | finish delivered => exact h.giveUp (InputPump.not_isOpen_closed _)
  | fail unread delivered => exact h.giveUp (InputPump.not_isOpen_closed _)
  | cancelReading lost unread delivered => exact h.giveUp_append (InputPump.not_isOpen_closed _)
  | cancelSending unread rest delivered => exact h.giveUp (InputPump.not_isOpen_closed _)

lemma Inward.Step.not_closed {serverReads outputEnded : Bool} {inward next : Inward}
    (hstep : Inward.Step serverReads outputEnded inward next) (cause : Cause) :
    inward.pump ≠ .closed cause := by
  cases hstep <;> nofun

/-! ## From the server to the editor -/

/-- The direction to the editor accounts for what the server has written, loses nothing unless it
fails, and ends behind the last byte of an output that is closed. -/
structure Outward.Sound (server : Server) (outward : Outward) : Prop where
  /-- the account of the output -/
  accounts : Accounts server.written outward.sink outward.pump.held outward.pending
    (outward.pump ≠ .failed)
  /-- where it ends -/
  finished : outward.pump = .finished → server.outputClosed = true ∧ outward.pending = []

/-- **One step towards the editor** keeps account of the output. -/
lemma Outward.Step.sound {server : Server} {outward next : Outward}
    (hstep : Outward.Step server.outputClosed outward next) (h : outward.Sound server) :
    next.Sound server := by
  obtain ⟨haccounts, -⟩ := h
  cases hstep with
  | read pending chunk rest sink hread => exact ⟨haccounts.read nofun hread, nofun⟩
  | write pending piece rest sink => exact ⟨haccounts.handOn.mono fun _ => nofun, nofun⟩
  | written pending sink => exact ⟨haccounts.mono fun _ => nofun, nofun⟩
  -- the end is found where nothing is pending of an output that is closed
  | finish sink hclosed => exact ⟨haccounts.mono fun _ => nofun, fun _ => ⟨hclosed, rfl⟩⟩
  | fail outward hgoes =>
    exact ⟨haccounts.giveUp fun hne => hne rfl, nofun⟩

lemma Outward.Step.hasEnded_eq {outputClosed : Bool} {outward next : Outward}
    (hstep : Outward.Step outputClosed outward next) : outward.pump.hasEnded = false := by
  cases hstep with
  | fail outward hgoes => exact hgoes
  | _ => rfl

/-! ## The server -/

section Server

variable {bytes : List UInt8} {server next : Server}

/-- What the server writes comes behind what it has written. -/
lemma Server.Step.written_eq (hstep : Server.Step bytes server next) :
    next.written = server.written ++ bytes := by
  cases hstep with
  | write => rfl
  | _ => exact (List.append_nil _).symm

/-- Nothing is written to an output that is closed, and it stays closed. -/
lemma Server.Step.of_outputClosed (hstep : Server.Step bytes server next)
    (hclosed : server.outputClosed = true) : bytes = [] ∧ next.outputClosed = true := by
  cases hstep with
  | write _ _ hopen => simp [hclosed] at hopen
  | closeOutput => exact ⟨rfl, rfl⟩
  | _ => exact ⟨rfl, hclosed⟩

lemma Server.Step.exit_eq {code : Int} (hstep : Server.Step bytes server next)
    (hexit : server.exit = some code) : next.exit = some code := by
  cases hstep with
  | exit _ _ hnone => simp [hexit] at hnone
  | _ => exact hexit

/-- **One step of the server** keeps account of its output. -/
lemma Server.Step.sound {outward : Outward} (hstep : Server.Step bytes server next)
    (h : outward.Sound server) : (outward.receive bytes).Sound next where
  accounts := by
    rw [hstep.written_eq]
    exact h.accounts.append
  finished hpump := by
    obtain ⟨hclosed, hpending⟩ := h.finished hpump
    obtain ⟨rfl, hnext⟩ := hstep.of_outputClosed hclosed
    exact ⟨hnext, by rw [Outward.receive, hpending, List.append_nil]⟩

end Server

/-! ## Every state -/

/-- **The invariant of the bridge.** -/
structure State.Sound (input : List UInt8) (s : State) : Prop where
  /-- the account of the input -/
  inward : s.inward.Sound input
  /-- the account of the output -/
  outward : s.outward.Sound s.server
  /-- the bridge returns when everything has ended -/
  returned : ∀ code, s.returned = some code →
    (∃ cause, s.inward.pump = .closed cause) ∧ s.outward.pump = .finished ∧
      s.server.exit = some code

lemma State.initial_sound (input : List UInt8) : (State.initial input).Sound input where
  inward := .of_eq rfl
  outward := ⟨.of_eq rfl, nofun⟩
  returned := nofun

/-- **One step** keeps the invariant. -/
lemma Step.sound {input : List UInt8} {s t : State} (hstep : Step s t) (h : s.Sound input) :
    t.Sound input := by
  obtain ⟨hinward, houtward, hreturned⟩ := h
  cases hstep with
  | inward next hnext =>
    refine ⟨hnext.sound hinward, houtward, fun code hcode => ?_⟩
    -- a bridge that has returned has a closed pump here, which takes no step
    obtain ⟨⟨cause, hpump⟩, -⟩ := hreturned code hcode
    exact absurd hpump (hnext.not_closed cause)
  | server bytes next hnext =>
    refine ⟨hinward, hnext.sound houtward, fun code hcode => ?_⟩
    obtain ⟨hclosed, hpump, hexit⟩ := hreturned code hcode
    exact ⟨hclosed, hpump, hnext.exit_eq hexit⟩
  | outward next hnext =>
    refine ⟨hinward, hnext.sound houtward, fun code hcode => ?_⟩
    obtain ⟨-, hpump, -⟩ := hreturned code hcode
    have hgoes := hnext.hasEnded_eq
    rw [hpump] at hgoes
    cases hgoes
  | finish cause code hpump hclosed hcause hexit hnone =>
    refine ⟨hinward, houtward, fun other hother => ?_⟩
    obtain rfl : code = other := Option.some.inj hother
    exact ⟨⟨cause, hclosed⟩, hpump, hexit⟩

/-- **Every run** keeps the invariant. -/
lemma Run.sound {input : List UInt8} {s t : State} (hrun : Run s t) (h : s.Sound input) :
    t.Sound input := by
  induction hrun with
  | refl => exact h
  | tail _ hstep ih => exact hstep.sound ih

/-! ## What stays -/

/-- **A closed pump** stays as it is, and so does all that it has handed to the server. -/
lemma Run.inward_eq {s t : State} {cause : Cause} (hrun : Run s t)
    (hclosed : s.inward.pump = .closed cause) : t.inward = s.inward := by
  induction hrun with
  | refl => rfl
  | tail _ hstep ih =>
    cases hstep with
    | inward next hnext => exact absurd (ih ▸ hclosed) (hnext.not_closed cause)
    | _ => exact ih

/-- **After the bridge has returned** the server writes no more, the editor gets no more, and what
was returned stays. -/
lemma Run.settled {input : List UInt8} {s t : State} {code : Int} (hrun : Run s t)
    (h : s.Sound input) (hcode : s.returned = some code) :
    t.server.written = s.server.written ∧ t.outward.sink = s.outward.sink ∧
      t.returned = some code := by
  induction hrun with
  | refl => exact ⟨rfl, rfl, hcode⟩
  | tail hbefore hstep ih =>
    obtain ⟨hwritten, hsink, hreturned⟩ := ih
    have hsound := hbefore.sound h
    obtain ⟨-, hpump, -⟩ := hsound.returned code hreturned
    cases hstep with
    | inward next hnext => exact ⟨hwritten, hsink, hreturned⟩
    | server bytes next hnext =>
      -- the pump has found the end of the output, so the server writes nothing in this step
      obtain ⟨rfl, -⟩ := hnext.of_outputClosed (hsound.outward.finished hpump).1
      refine ⟨?_, hsink, hreturned⟩
      rw [← hwritten, hnext.written_eq, List.append_nil]
    | outward next hnext =>
      have hgoes := hnext.hasEnded_eq
      rw [hpump] at hgoes
      cases hgoes
    | finish cause other hpump hclosed hcause hexit hnone =>
      rw [hreturned] at hnone
      cases hnone

/-- A pump that has copied everything to the editor has lost nothing. -/
lemma Outward.Sound.sink_eq {server : Server} {outward : Outward} (h : outward.Sound server)
    (hpump : outward.pump = .finished) : outward.sink = server.written := by
  have heq := h.accounts.eq_append (by rw [hpump]; nofun)
  rw [hpump, (h.finished hpump).2] at heq
  simpa [OutputPump.held] using heq.symm

/-- **Streams pass through the bridge intact**, in every state that it comes to.  What the server
has been given is a front of the input, and what the editor has been given is a front of the output.
The server is given nothing more once its input is closed, for whatever cause.  When the bridge
returns, the server has ended with the status that is returned, its output is closed, and the editor
has been given all of it; nothing of that changes any more. -/
theorem streams_intact (input : List UInt8) (s : State) (hrun : Run (.initial input) s) :
    s.inward.delivered <+: input ∧ s.outward.sink <+: s.server.written ∧
      (∀ cause t, s.inward.pump = .closed cause → Run s t →
        t.inward.delivered = s.inward.delivered) ∧
      ∀ code, s.returned = some code →
        s.server.exit = some code ∧ s.server.outputClosed = true ∧
          s.outward.sink = s.server.written ∧
          (∃ cause, s.inward.pump = .closed cause) ∧
          ∀ t, Run s t → t.server.written = s.server.written ∧
            t.outward.sink = s.outward.sink ∧ t.returned = some code := by
  have hsound := hrun.sound (State.initial_sound input)
  refine ⟨hsound.inward.isPrefix, hsound.outward.accounts.isPrefix, ?_, ?_⟩
  · intro cause t hclosed hfrom
    rw [hfrom.inward_eq hclosed]
  · intro code hcode
    obtain ⟨hclosed, hpump, hexit⟩ := hsound.returned code hcode
    have houtput := (hsound.outward.finished hpump).1
    exact ⟨hexit, houtput, hsound.outward.sink_eq hpump, hclosed,
      fun t hfrom => hfrom.settled hsound hcode⟩

/-- A bridge that has returned after it was cancelled in the middle of a chunk: the server has read
one byte of three, has written two and has ended with status 3. -/
def cancelledMidChunk : State where
  inward := ⟨[30], .closed .cancelled, [10]⟩
  server := ⟨true, [1, 2], true, some 3⟩
  outward := ⟨[], .finished, [1, 2]⟩
  returned := some 3

lemma run_cancelledMidChunk : Run (.initial [10, 20, 30]) cancelledMidChunk := by
  have hread : IsRead [10, 20, 30] [10, 20] [30] := ⟨rfl, by simp, by decide⟩
  have houtput : IsRead [1, 2] [1, 2] [] := ⟨rfl, by simp, by decide⟩
  refine Run.refl
    |>.tail (.inward _ _ (.read _ _ _ _ hread))
    |>.tail (.inward _ _ (.send _ [10] [20] _ rfl))
    |>.tail (.server _ _ _ (.write _ [1, 2] rfl))
    |>.tail (.server _ _ _ (.closeOutput _))
    |>.tail (.server _ _ _ (.exit _ 3 rfl))
    |>.tail (.outward _ _ (.read _ _ _ _ houtput))
    |>.tail (.outward _ _ (.write _ [1, 2] [] _))
    |>.tail (.outward _ _ (.written _ _))
    |>.tail (.outward _ _ (.finish _ rfl))
    |>.tail (.inward _ _ (.cancelSending _ _ _ rfl))
    |>.tail (.finish _ .cancelled 3 rfl rfl nofun rfl rfl)

theorem streams_intact_cancelledMidChunk :
    Run (.initial [10, 20, 30]) cancelledMidChunk ∧
      cancelledMidChunk.inward.delivered <+: [10, 20, 30] ∧
      (∀ t, Run cancelledMidChunk t → t.inward.delivered = [10]) ∧
      cancelledMidChunk.outward.sink = cancelledMidChunk.server.written ∧
      cancelledMidChunk.server.exit = some 3 := by
  obtain ⟨hdelivered, -, hclosed, hreturned⟩ :=
    streams_intact [10, 20, 30] cancelledMidChunk run_cancelledMidChunk
  obtain ⟨hexit, -, hsink, -⟩ := hreturned 3 rfl
  exact ⟨run_cancelledMidChunk, hdelivered, fun t hrun => hclosed .cancelled t rfl hrun, hsink,
    hexit⟩

/-! ## Runs on which the bridge returns -/

section

variable {inward : Inward} {server : Server} {returned : Option Int} {s t u : State}

lemma Run.trans (hfirst : Run s t) (hsecond : Run t u) : Run s u := by
  induction hsecond with
  | refl => exact hfirst
  | tail _ hstep ih => exact ih.tail hstep

lemma Run.single (hstep : Step s t) : Run s t := .tail .refl hstep

/-- What is held goes to the editor as one piece. -/
lemma run_writing (pending rest sink : List UInt8) :
    Run ⟨inward, server, ⟨pending, .writing rest, sink⟩, returned⟩
      ⟨inward, server, ⟨pending, .reading, sink ++ rest⟩, returned⟩ := by
  have hwrite : Outward.Step server.outputClosed ⟨pending, .writing (rest ++ []), sink⟩
      ⟨pending, .writing [], sink ++ rest⟩ := .write pending rest [] sink
  rw [List.append_nil] at hwrite
  exact (Run.single (.outward _ _ hwrite)).tail (.outward _ _ (.written ..))

/-- All that is unread of a closed output can be copied, byte by byte. -/
lemma exists_run_reading (hclosed : server.outputClosed = true) (pending sink : List UInt8) :
    ∃ copied, Run ⟨inward, server, ⟨pending, .reading, sink⟩, returned⟩
      ⟨inward, server, ⟨[], .finished, copied⟩, returned⟩ := by
  induction pending generalizing sink with
  | nil => exact ⟨sink, .single (.outward _ _ (.finish sink hclosed))⟩
  | cons byte pending ih =>
    obtain ⟨copied, hrest⟩ := ih (sink ++ [byte])
    have hread : IsRead (byte :: pending) [byte] pending := ⟨rfl, by simp, by simp [chunkSize]⟩
    refine ⟨copied, Run.trans (.single (.outward _ _ (.read _ _ _ sink hread))) ?_⟩
    exact (run_writing pending [byte] sink).trans hrest

/-- **Copying to the editor can be finished** once the output is closed, unless it has failed. -/
lemma exists_run_finished {input : List UInt8} (h : s.Sound input)
    (hclosed : s.server.outputClosed = true) (houtward : s.outward.pump ≠ .failed) :
    ∃ copied, Run s { s with outward := ⟨[], .finished, copied⟩ } := by
  have hfinished := h.outward.finished
  obtain ⟨inward, server, ⟨pending, pump, sink⟩, returned⟩ := s
  cases pump with
  | reading => exact exists_run_reading hclosed pending sink
  | writing rest =>
    obtain ⟨copied, hrest⟩ := exists_run_reading hclosed pending (sink ++ rest)
    exact ⟨copied, (run_writing pending rest sink).trans hrest⟩
  | finished =>
    obtain ⟨-, rfl⟩ := hfinished rfl
    exact ⟨sink, .refl⟩
  | failed => exact absurd rfl houtward

/-- Copying to the server can be given up once the other direction has ended. -/
lemma exists_run_closed (houtward : s.outward.pump.hasEnded = true)
    (hinward : s.inward.pump ≠ .closed .failed) :
    ∃ next cause, Run s { s with inward := next } ∧ next.pump = .closed cause ∧
      cause ≠ .failed := by
  obtain ⟨⟨unread, pump, delivered⟩, server, outward, returned⟩ := s
  cases pump with
  | reading =>
    refine ⟨⟨unread, .closed .cancelled, delivered⟩, .cancelled, .single (.inward _ _ ?_), rfl,
      nofun⟩
    exact .cancelReading [] unread delivered houtward (Nat.zero_le _)
  | sending rest =>
    refine ⟨⟨unread, .closed .cancelled, delivered⟩, .cancelled, .single (.inward _ _ ?_), rfl,
      nofun⟩
    exact .cancelSending unread rest delivered houtward
  | closed cause =>
    exact ⟨⟨unread, .closed cause, delivered⟩, cause, .refl, rfl, fun h => hinward (h ▸ rfl)⟩

end

/-- **The bridge does not get stuck**: once the server has closed its output and ended, and nothing
has failed, the bridge can go on until it returns the server's exit status. -/
theorem exists_run_returned {input : List UInt8} {s : State} {code : Int}
    (hrun : Run (.initial input) s) (houtward : s.outward.pump ≠ .failed)
    (hinward : s.inward.pump ≠ .closed .failed) (hclosed : s.server.outputClosed = true)
    (hexit : s.server.exit = some code) : ∃ t, Run s t ∧ t.returned = some code := by
  have hsound := hrun.sound (State.initial_sound input)
  cases hreturned : s.returned with
  | some other =>
    obtain ⟨-, -, hother⟩ := hsound.returned other hreturned
    exact ⟨s, .refl, by rw [hreturned, ← hother, hexit]⟩
  | none =>
    obtain ⟨copied, hcopied⟩ := exists_run_finished hsound hclosed houtward
    obtain ⟨next, cause, hnext, hpump, hcause⟩ :=
      exists_run_closed (s := { s with outward := ⟨[], .finished, copied⟩ }) rfl hinward
    exact ⟨_, (hcopied.trans hnext).tail (.finish _ cause code rfl hpump hcause hexit hreturned),
      rfl⟩

end ContainerClients.Bridge
