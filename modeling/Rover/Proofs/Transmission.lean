import Rover.Proofs.Outbound

/-!
# What goes out over a line

Nothing but the sending of a message writes to a line. Where every write goes through, at once or piece
by piece, the message's whole frame is added to what has been written; where writing fails for good, the
front of it. So a pass adds what it sends, frame by frame.
-/

namespace Rover
open Motion Wire
set_option autoImplicit false

namespace Wire

namespace Line

/-- Every write moves some bytes, perhaps after interruptions. -/
structure Writes (line : Line) : Prop where
  chunk : line.writeChunk ≠ some 0
  script : ∀ fault, some fault ∈ line.script.write → fault.kind = .interrupted

/-- Nothing has been written, and writing will go as before. -/
structure Unwritten (line after : Line) : Prop where
  written : after.written = line.written
  chunk : after.writeChunk = line.writeChunk
  script : after.script.write = line.script.write

theorem Unwritten.writes {line after : Line} (h : line.Unwritten after) (writes : line.Writes) : after.Writes where
  chunk := h.chunk ▸ writes.chunk
  script := h.script ▸ writes.script

section Calls

variable (line : Line)

theorem unwritten_countWaiting : line.Unwritten line.countWaiting.2 := by
  rw [countWaiting]
  split <;> exact ⟨rfl, rfl, rfl⟩

theorem unwritten_countPending : line.Unwritten line.countPending.2 := by
  rw [countPending]
  split <;> exact ⟨rfl, rfl, rfl⟩

theorem unwritten_read (size : Nat) : line.Unwritten (line.read size).2 := by
  rw [read]
  split <;> exact ⟨rfl, rfl, rfl⟩

theorem unwritten_clearInput : line.Unwritten line.clearInput.2 := by
  rw [clearInput]
  split <;> exact ⟨rfl, rfl, rfl⟩

theorem unwritten_flush : line.Unwritten line.flush.2 := ⟨rfl, rfl, rfl⟩

theorem writeAll_front (data : Bytes) : ∃ front, front <+: data ∧
    (line.writeAll data).2.written.toList = line.written.toList ++ front := by
  fun_induction writeAll line data with
  | case1 line => exact ⟨[], List.nil_prefix, (List.append_nil _).symm⟩
  | case2 line b rest size left fault met interrupted ih => exact ih
  | case3 line b rest size left fault met failed => exact ⟨[], List.nil_prefix, (List.append_nil _).symm⟩
  | case4 line b rest size left met moved none => exact ⟨[], List.nil_prefix, (List.append_nil _).symm⟩
  | case5 line b rest size left met moved some ih =>
    obtain ⟨front, before, written⟩ := ih
    refine ⟨(b :: rest).take moved ++ front, ?_, ?_⟩
    · have whole := (List.prefix_append_right_inj ((b :: rest).take moved)).mpr before
      rwa [List.take_append_drop] at whole
    · rw [written, Array.toList_append, List.append_assoc]

end Calls

theorem mem_of_next {outcomes : List Outcome} {fault : Fault} (h : next outcomes = some fault) :
    some fault ∈ outcomes := by
  cases outcomes with
  | nil => cases h
  | cons outcome outcomes =>
    cases h
    exact .head _

namespace Writes

variable {line : Line} (h : line.Writes)
include h

theorem moves {size : Nat} (some : size ≠ 0) : atMost line.writeChunk size ≠ 0 := by
  cases limit : line.writeChunk with
  | none => exact some
  | some most =>
    have positive : most ≠ 0 := fun zero => h.chunk (zero ▸ limit)
    rw [atMost]
    omega

theorem afterCall (size : Nat) (written : Array UInt8) :
    Writes { line.log (.write size) with script.write := line.script.write.tail, written } where
  chunk := h.chunk
  script fault met := h.script fault (List.mem_of_mem_tail met)

theorem writeAll (data : Bytes) : (line.writeAll data).2.Writes ∧
    (line.writeAll data).2.written.toList = line.written.toList ++ data := by
  fun_induction Line.writeAll line data with
  | case1 line => exact ⟨h, (List.append_nil _).symm⟩
  | case2 line b rest size left fault met interrupted ih => exact ih (h.afterCall size line.written)
  | case3 line b rest size left fault met failed => exact absurd (h.script fault (mem_of_next met)) failed
  | case4 line b rest size left met moved none => exact absurd none (h.moves (Nat.succ_ne_zero _))
  | case5 line b rest size left met moved some ih =>
    obtain ⟨writes, written⟩ := ih (h.afterCall size _)
    refine ⟨writes, ?_⟩
    rw [written, Array.toList_append, List.append_assoc, List.take_append_drop]

end Writes

end Line

namespace Link

def output (link : Link) : Array UInt8 :=
  match link.transport with
  | .loopback => #[]
  | .line line => line.written

def Writes (link : Link) : Prop := ∃ line, link.transport = .line line ∧ line.Writes

theorem writes_of_openLine {name : String} {baud : Nat} {devices : Devices} {link : Link}
    (opened : openLine name baud devices = .ok link)
    (takes : ∀ line, devices name baud = .ok line → line.Writes) : link.Writes := by
  obtain ⟨line, found, rfl⟩ := openLine_eq_ok_iff.mp opened
  exact ⟨line, rfl, takes line found⟩

/-- Of each of these messages, the front of its frame has been written, and all of it if the line writes. -/
structure Wrote (link : Link) (sent : List Message) (after : Link) : Prop where
  fronts : ∃ fronts, List.Forall₂ (fun front m => front <+: m.encode) fronts sent ∧
    after.output.toList = link.output.toList ++ fronts.flatten
  whole : link.Writes →
    after.Writes ∧ after.output.toList = link.output.toList ++ sent.flatMap Message.encode

theorem Wrote.trans {link middle after : Link} {sent more : List Message} (h : link.Wrote sent middle)
    (later : middle.Wrote more after) : link.Wrote (sent ++ more) after where
  fronts := by
    obtain ⟨fronts, ofSent, written⟩ := h.fronts
    obtain ⟨fronts', ofMore, written'⟩ := later.fronts
    refine ⟨fronts ++ fronts', List.rel_append ofSent ofMore, ?_⟩
    rw [written', written, List.flatten_append, List.append_assoc]
  whole writes := by
    obtain ⟨writes', written⟩ := h.whole writes
    obtain ⟨writes'', written'⟩ := later.whole writes'
    refine ⟨writes'', ?_⟩
    rw [written', written, List.flatMap_append, List.append_assoc]

theorem wrote_of_unwritten {inbox inbox' : Inbox} {line after : Line} (h : line.Unwritten after) :
    Wrote ⟨inbox, .line line⟩ [] ⟨inbox', .line after⟩ := by
  have silent : after.written.toList = line.written.toList ++ [] := by rw [h.written, List.append_nil]
  refine ⟨⟨[], .nil, silent⟩, ?_⟩
  rintro ⟨_, ⟨⟩, writes⟩
  exact ⟨⟨after, rfl, h.writes writes⟩, silent⟩

theorem wrote_of_transport {link after : Link} (same : after.transport = link.transport) :
    link.Wrote [] after := by
  obtain ⟨inbox, transport⟩ := link
  obtain ⟨inbox', _⟩ := after
  cases same
  cases transport with
  | loopback => exact ⟨⟨[], .nil, rfl⟩, fun ⟨_, line, _⟩ => nomatch line⟩
  | line line => exact wrote_of_unwritten ⟨rfl, rfl, rfl⟩

theorem wrote_frame (inbox : Inbox) (line : Line) (m : Message) :
    Wrote ⟨inbox, .line line⟩ [m] ⟨inbox, .line (line.writeAll m.encode).2⟩ where
  fronts := by
    obtain ⟨front, before, written⟩ := line.writeAll_front m.encode
    exact ⟨[front], .cons before .nil, written.trans (congrArg _ (List.append_nil front).symm)⟩
  whole := by
    rintro ⟨_, ⟨⟩, writes⟩
    obtain ⟨writes', written⟩ := writes.writeAll m.encode
    exact ⟨⟨_, rfl, writes'⟩, written.trans (congrArg _ (List.append_nil m.encode).symm)⟩

section Operations

variable (link : Link)

theorem wrote_nothing : link.Wrote [] link := wrote_of_transport rfl

theorem inbox_pendingOutput : link.pendingOutput.2.inbox = link.inbox := by
  rw [pendingOutput]
  split <;> rfl

theorem wrote_pendingOutput : link.Wrote [] link.pendingOutput.2 := by
  obtain ⟨inbox, transport⟩ := link
  cases transport with
  | loopback => exact wrote_nothing _
  | line line => exact wrote_of_unwritten line.unwritten_countPending

theorem wrote_flushInput : link.Wrote [] link.flushInput.2 := by
  obtain ⟨inbox, transport⟩ := link
  cases transport with
  | loopback => exact wrote_of_transport rfl
  | line line => exact wrote_of_unwritten line.unwritten_clearInput

theorem wrote_upkeep : link.Wrote [] link.upkeep.2 := by
  obtain ⟨inbox, transport⟩ := link
  cases transport with
  | loopback => exact wrote_nothing _
  | line line =>
    have counted := line.unwritten_countWaiting
    rw [upkeep]
    dsimp only
    cases hCount : line.countWaiting with
    | mk count left =>
      rw [hCount] at counted
      cases count with
      | error fault => exact wrote_of_unwritten counted
      | ok waiting =>
        dsimp only
        split
        · exact wrote_of_unwritten counted
        · have read := left.unwritten_read (min (min waiting inbox.room) maxRead)
          cases hRead : left.read (min (min waiting inbox.room) maxRead) with
          | mk outcome rest =>
            rw [hRead] at read
            have silent : line.Unwritten rest :=
              ⟨read.written.trans counted.written, read.chunk.trans counted.chunk, read.script.trans counted.script⟩
            cases outcome <;> exact wrote_of_unwritten silent

theorem wrote_send (m : Message) : link.Wrote [m] (link.send m).2 := by
  obtain ⟨inbox, transport⟩ := link
  cases transport with
  | loopback => exact ⟨⟨[[]], .cons List.nil_prefix .nil, rfl⟩, fun ⟨_, line, _⟩ => nomatch line⟩
  | line line =>
    have frame := wrote_frame inbox line m
    rw [send]
    dsimp only
    cases hWrite : line.writeAll m.encode with
    | mk outcome left =>
      rw [hWrite] at frame
      cases outcome with
      | some fault => exact frame
      | none => exact frame.trans (wrote_of_unwritten left.unwritten_flush)

end Operations

end Link

end Wire

namespace Robot

/-- The messages that have been added to the journal have been written to the line. -/
def Transmits (r t : Robot) : Prop :=
  ∃ sent, t.journal.messages = r.journal.messages ++ sent ∧ r.link.Wrote sent t.link

theorem Transmits.trans {r s t : Robot} (h : r.Transmits s) (later : s.Transmits t) : r.Transmits t := by
  obtain ⟨sent, messages, wrote⟩ := h
  obtain ⟨more, messages', wrote'⟩ := later
  exact ⟨sent ++ more, by rw [messages', messages, List.append_assoc], wrote.trans wrote'⟩

/-- Messages may have been sent, but the inbox is what it was, and so is what the dispatcher is doing, unless
it is idle now. -/
structure SameInput (r t : Robot) : Prop where
  inbox : t.link.inbox = r.link.inbox
  dispatch : t.dispatch = r.dispatch ∨ t.dispatch = .idle
  transmits : r.Transmits t

section Tasks

variable (r : Robot)

@[simp] theorem note_dispatch (n : Note) : (r.note n).dispatch = r.dispatch := rfl

@[simp] theorem notes_dispatch (ns : List Note) : (r.notes ns).dispatch = r.dispatch := by
  induction ns generalizing r with
  | nil => rfl
  | cons n ns ih => exact ih (r.note n)

@[simp] theorem send_dispatch (m : Message) : (r.send m).dispatch = r.dispatch := by simp [send]

theorem transmits_of_link {r t : Robot} (messages : t.journal.messages = r.journal.messages)
    (wrote : r.link.Wrote [] t.link) : r.Transmits t :=
  ⟨[], messages.trans (List.append_nil _).symm, wrote⟩

theorem transmits_send (m : Message) : r.Transmits (r.send m) := by
  refine ⟨[m], r.send_messages m, ?_⟩
  rw [send, notes_link]
  exact r.link.wrote_send m

namespace SameInput

variable {r} {t : Robot}

theorem refl : r.SameInput r := ⟨rfl, .inl rfl, transmits_of_link rfl r.link.wrote_nothing⟩

variable (h : r.SameInput t)
include h

theorem silent {u : Robot} (link : u.link = t.link) (dispatch : u.dispatch = t.dispatch)
    (messages : u.journal.messages = t.journal.messages) : r.SameInput u where
  inbox := (congrArg Link.inbox link).trans h.inbox
  dispatch := dispatch ▸ h.dispatch
  transmits := h.transmits.trans (transmits_of_link messages (Link.wrote_of_transport (congrArg _ link)))

theorem setControl (c : Control) : r.SameInput (t.setControl c) := h.silent rfl rfl rfl

theorem onBoard (board : Board) : r.SameInput { t with board } := h.silent rfl rfl rfl

theorem note (n : Note) : r.SameInput (t.note n) := h.silent rfl rfl (t.note_messages n)

theorem notes (ns : List Note) : r.SameInput (t.notes ns) :=
  h.silent (t.notes_link ns) (t.notes_dispatch ns) (t.notes_messages ns)

theorem send (m : Message) : r.SameInput (t.send m) where
  inbox := (t.send_inbox m).trans h.inbox
  dispatch := t.send_dispatch m ▸ h.dispatch
  transmits := h.transmits.trans (t.transmits_send m)

theorem halt : r.SameInput t.halt := (h.onBoard _).notes _

theorem drive (left right : Int16) : r.SameInput (t.drive left right) := (h.onBoard _).notes _

theorem stop : r.SameInput t.stop := (h.halt.onBoard _).setControl _

theorem diagnose (m : Message) : r.SameInput (t.diagnose m) := by
  rw [Robot.diagnose]
  split
  · exact h.send _
  · exact h

theorem forgetStart (timing : Timing) : r.SameInput (t.forgetStart timing) := by
  cases timing <;> exact h.silent rfl rfl rfl

theorem reportSpan (task : Task) (timing : Timing) (start now : Time) :
    r.SameInput (t.reportSpan task timing start now) :=
  ((h.setControl _).forgetStart timing).send _

theorem armStopTimer (limit : Option Float32) : r.SameInput (t.armStopTimer limit) := by
  cases limit
  · exact h
  · exact h.setControl _

end SameInput

theorem sameInput_perform (task : Task) (now : Time) : r.SameInput (r.perform task now) := by
  have same : r.SameInput r := .refl
  cases task
  case restart =>
    have stopped := (same.note .restarting).stop
    exact ⟨stopped.inbox, .inr rfl, stopped.transmits⟩
  case batteryTask =>
    simp only [perform, sampleBattery]
    split
    · split
      · exact (same.setControl _).setControl _
      · exact (((same.setControl _).note _).setControl _).setControl _
    · exact ((same.setControl _).setControl _).setControl _
  case floatTrip =>
    simp only [perform, measureTrip]
    split
    · exact (same.setControl _).send _
    · have drained : r.SameInput { r with link := r.link.pendingOutput.2 } :=
        ⟨r.link.inbox_pendingOutput, .inl rfl, transmits_of_link rfl r.link.wrote_pendingOutput⟩
      split
      · exact drained.reportSpan ..
      · exact drained
  case loopTimer =>
    simp only [perform, measureLoop]
    split
    · exact same.setControl _
    · exact same.reportSpan ..
  case distanceControl =>
    simp only [perform, controlDistance]
    split
    · exact (((same.setControl _).note _).halt).setControl _
    · exact (same.setControl _).setControl _
    · exact (((same.setControl _).drive _ _).diagnose _).setControl _
  case velocityControl =>
    simp only [perform, controlVelocity]
    split
    · exact (((same.setControl _).drive _ _).diagnose _).setControl _
    · exact (same.setControl _).setControl _
  case avoidance =>
    have ticked : r.SameInput r.avoidanceTick.2 := ((same.onBoard _).setControl _).notes _
    simp only [perform, avoidObstacles]
    split
    · exact ticked.setControl _
    · split
      · exact ((ticked.onBoard _).setControl _)
      · exact (ticked.setControl _).setControl _
  case proximityReport => exact (((same.onBoard _).send _).setControl _)
  case lowBattery => exact ((same.note _).send _).setControl _
  case timedDuty => exact ((same.note _).halt).setControl _
  case stopTimer => exact (same.note _).stop
  all_goals exact (same.send _).setControl _

theorem sameInput_comply (letter : UInt8) (command : Command) : r.SameInput (r.comply letter command) := by
  have same : r.SameInput r := .refl
  cases command with
  | restart => exact (same.note _).setControl _
  | arithmetic op lhs rhs => exact same.send _
  | time action period =>
    rw [comply]
    split
    · exact same
    · exact (same.setControl _).forgetStart _
  | report stream period => exact same.setControl _
  | duty left right limit =>
    have driven := (same.setControl r.control.retireMotion).drive left right
    cases limit
    · exact driven
    · exact driven.setControl _
  | stop => exact same.stop
  | drive mode linear angular limit =>
    have started {t : Robot} (h : r.SameInput t) (plan : Plan) : r.SameInput (t.startDrive mode plan) :=
      ((h.onBoard _).setControl _).note _
    simp only [comply]
    split
    · exact (started (same.send _) _).armStopTimer _
    · exact (started same _).armStopTimer _
  | avoid limit => exact ((same.note _).setControl _).armStopTimer _

end Tasks

theorem transmits_poll (r : Robot) : r.Transmits r.poll := by
  obtain empty | ⟨letter, first, unknown⟩ | ⟨letter, first, known, part⟩ | ⟨letter, command, offers⟩ :=
    r.poll_cases
  · rw [poll_of_empty empty]
    exact transmits_of_link rfl r.link.wrote_nothing
  · rw [poll_of_unknown first unknown]
    have flushed : (r.note (.unknownLetter letter)).Transmits (r.note (.unknownLetter letter)).flushInput := by
      refine transmits_of_link (flushInput_messages _) ?_
      rw [flushInput, notes_link]
      exact r.link.wrote_flushInput
    have noted : r.Transmits (r.note (.unknownLetter letter)) :=
      transmits_of_link (r.note_messages _) r.link.wrote_nothing
    exact (noted.trans flushed).trans (transmits_send ..)
  · rw [poll_of_part first known part]
    exact transmits_of_link rfl r.link.wrote_nothing
  · rw [poll_of_offers offers]
    have received : r.Transmits (r.received letter) :=
      transmits_of_link (r.received_messages letter) (Link.wrote_of_transport rfl)
    cases carriedOut : (r.received letter).carryOut letter command with
    | ok s =>
      obtain ⟨_, rfl⟩ := carryOut_eq_ok_iff.mp carriedOut
      exact received.trans (sameInput_comply _ letter command).transmits
    | error refusal =>
      have refused : (r.received letter).SameInput ((r.received letter).refuse letter refusal) :=
        (SameInput.refl.note _).send _
      exact received.trans refused.transmits

/-- What a pass sends has been written to the line as the pass finds it. -/
theorem transmits_pass (r : Robot) (s : Surroundings) : (r.meet s).Transmits (r.pass s) := by
  have served : (r.meet s).Transmits (r.served s) := transmits_of_link rfl (r.link.meet s).wrote_upkeep
  obtain ⟨_, swept⟩ | failed := r.pass_cases s
  · rw [swept]
    refine served.trans ((transmits_poll (r.served s)).trans ?_)
    exact sweep_induct (P := (r.polled s).Transmits)
      (fun t task now h _ => h.trans (t.sameInput_perform task now).transmits) SameInput.refl.transmits
  · rw [failed]
    exact served

theorem transmits_meet (r : Robot) {s : Surroundings} (silent : ∀ line : Line, line.Unwritten (s.line line)) :
    r.Transmits (r.meet s) := by
  refine transmits_of_link rfl ?_
  obtain ⟨_, ⟨inbox, transport⟩, _⟩ := r
  cases transport with
  | loopback => exact Link.wrote_of_transport rfl
  | line line => exact Link.wrote_of_unwritten ⟨(silent line).written, (silent line).chunk, (silent line).script⟩

/-- As long as nobody else writes to the line, all that a run sends has been written to it, in order. -/
theorem transmits_passAll {r : Robot} {run : List Surroundings}
    (silent : ∀ s ∈ run, ∀ line : Line, line.Unwritten (s.line line)) : r.Transmits (r.passAll run) := by
  induction run generalizing r with
  | nil => exact SameInput.refl.transmits
  | cons s run ih =>
    obtain ⟨now, later⟩ := List.forall_mem_cons.mp silent
    exact ((r.transmits_meet now).trans (r.transmits_pass s)).trans (ih later)

end Robot

end Rover
