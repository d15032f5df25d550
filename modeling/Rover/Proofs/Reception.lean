import Rover.Proofs.Cutting
import Rover.Proofs.Restart
import Rover.Proofs.Transmission

/-!
# What is received over a line

An upkeep asks the line how much is waiting and reads no more than there is room for. Whatever the
line answers, the bytes that its reads have handed over are those that were taken out of the inbox,
followed by those still in it. The frames of commands are far shorter than the inbox, so the rest of
a frame always has room.
-/

namespace Rover
open Motion Wire
set_option autoImplicit false

namespace Wire

/-- What a line answers in one upkeep. -/
inductive Answer where
  | countFailed (fault : Fault)
  | unread
  | readFailed (fault : Fault)
  | handedOver (bytes : Bytes)
  deriving DecidableEq

namespace Answer

def bytes : Answer → Bytes
  | .handedOver bytes => bytes
  | _ => []

def fault? : Answer → Option Fault
  | .countFailed fault | .readFailed fault => some fault
  | _ => none

/-- What is made of a fault. To wait in vain for a byte is none. -/
def error? : Answer → Option LinkError
  | .countFailed fault => some (.serial fault.description)
  | .readFailed fault => if fault.kind = .timedOut then none else some (.io fault.description)
  | _ => none

theorem bytes_of_fault {answer : Answer} {fault : Fault} (h : answer.fault? = some fault) :
    answer.bytes = [] := by
  cases answer with
  | handedOver => cases h
  | _ => rfl

theorem error?_eq_none_iff {answer : Answer} {fault : Fault} (h : answer.fault? = some fault) :
    answer.error? = none ↔ answer = .readFailed fault ∧ fault.kind = .timedOut := by
  cases answer with
  | countFailed met => simp [error?]
  | readFailed met =>
    cases h
    simp [error?]
  | _ => cases h

theorem error?_of_fine {answer : Answer} (h : answer.fault? = none) : answer.error? = none := by
  cases answer with
  | countFailed fault | readFailed fault => cases h
  | _ => rfl

theorem exists_fault {answer : Answer} {error : LinkError} (h : answer.error? = some error) :
    ∃ fault, answer.fault? = some fault := by
  cases answer with
  | countFailed fault | readFailed fault => exact ⟨fault, rfl⟩
  | _ => cases h

end Answer

def Line.answer (line : Line) (room : Nat) : Answer :=
  match line.countWaiting with
  | (.error fault, _) => .countFailed fault
  | (.ok waiting, line) =>
    let wanted := min (min waiting room) Link.maxRead
    if wanted = 0 then .unread
    else
      match (line.read wanted).1 with
      | .ok bytes => .handedOver bytes
      | .error fault => .readFailed fault

theorem Inbox.eq_of_bytes {a b : Inbox} (h : a.bytes = b.bytes) : a = b := by
  obtain ⟨bytes, _⟩ := a
  obtain ⟨_, _⟩ := b
  subst h
  rfl

theorem Inbox.feed_nil (inbox : Inbox) : inbox.feed [] = inbox := by
  apply Inbox.eq_of_bytes
  rw [inbox.bytes_feed [] (Nat.zero_le _), List.append_nil]

theorem Line.atMost_le (limit : Option Nat) (n : Nat) : Line.atMost limit n ≤ n := by
  cases limit with
  | none => exact Nat.le_refl n
  | some most => exact Nat.min_le_right most n

theorem Line.length_read_le {line left : Line} {size : Nat} {bytes : Bytes}
    (h : line.read size = (.ok bytes, left)) : bytes.length ≤ size := by
  unfold Line.read at h
  dsimp only at h
  split at h
  · cases h
  · cases h
    rw [List.length_take]
    exact Nat.le_trans (Nat.min_le_left _ _) (Line.atMost_le _ _)

theorem Line.arriving_countWaiting (line : Line) : line.countWaiting.2.arriving = line.arriving := by
  rw [countWaiting]
  split <;> rfl

/-- A read hands over the front of what has arrived. -/
theorem Line.arriving_read (line : Line) (size : Nat) :
    line.arriving = (line.read size).1.toOption.getD [] ++ (line.read size).2.arriving := by
  rw [read]
  split
  · rfl
  · exact (List.take_append_drop ..).symm

namespace Link

def answer (link : Link) : Answer :=
  match link.transport with
  | .loopback => .unread
  | .line line => line.answer link.inbox.room

/-- What has arrived at the line and was not read. -/
def arriving (link : Link) : Bytes :=
  match link.transport with
  | .loopback => []
  | .line line => line.arriving

/-- What an upkeep does, by what the line has answered in it. -/
structure Upkept (link : Link) (answer : Answer) (error : Option LinkError) (after : Link) : Prop where
  error : error = answer.error?
  inbox : after.inbox = link.inbox.feed answer.bytes
  fits : answer.bytes.length ≤ min link.inbox.room maxRead
  front : link.arriving = answer.bytes ++ after.arriving
  output : after.output = link.output

theorem upkept (link : Link) : link.Upkept link.answer link.upkeep.1 link.upkeep.2 := by
  obtain ⟨inbox, transport⟩ := link
  have silent : inbox = inbox.feed [] := inbox.feed_nil.symm
  cases transport with
  | loopback => exact ⟨rfl, silent, Nat.zero_le _, rfl, rfl⟩
  | line line =>
    have same := line.arriving_countWaiting
    have written := line.unwritten_countWaiting.written
    rw [answer, upkeep]
    dsimp only
    rw [Line.answer]
    cases hCount : line.countWaiting with
    | mk count left =>
      rw [hCount] at same written
      cases count with
      | error fault => exact ⟨rfl, silent, Nat.zero_le _, same.symm, written⟩
      | ok waiting =>
        dsimp only
        split
        · exact ⟨rfl, silent, Nat.zero_le _, same.symm, written⟩
        · have front := left.arriving_read (min (min waiting inbox.room) maxRead)
          have unwritten := (left.unwritten_read (min (min waiting inbox.room) maxRead)).written
          cases hRead : left.read (min (min waiting inbox.room) maxRead) with
          | mk outcome rest =>
            rw [hRead, same] at front
            rw [hRead, written] at unwritten
            cases outcome with
            | error fault => exact ⟨rfl, silent, Nat.zero_le _, front, unwritten⟩
            | ok bytes =>
              refine ⟨rfl, rfl, ?_, front, unwritten⟩
              have read := Line.length_read_le hRead
              dsimp only [Answer.bytes]
              omega

section Upkeep

variable (link : Link)

theorem upkeep_error : link.upkeep.1 = link.answer.error? := link.upkept.error

theorem answer_fits : link.answer.bytes.length ≤ link.inbox.room :=
  Nat.le_trans link.upkept.fits (Nat.min_le_left ..)

theorem size_answer_le : link.inbox.size + link.answer.bytes.length ≤ Inbox.capacity := by
  have bounded : link.inbox.size ≤ Inbox.capacity := link.inbox.length_le
  have fits := link.answer_fits
  rw [Inbox.room] at fits
  omega

theorem upkeep_bytes : link.upkeep.2.inbox.bytes = link.inbox.bytes ++ link.answer.bytes := by
  rw [link.upkept.inbox, Inbox.bytes_feed _ _ link.answer_fits]

theorem upkeep_inbox_of_fault {fault : Fault} (h : link.answer.fault? = some fault) :
    link.upkeep.2.inbox = link.inbox := by
  rw [link.upkept.inbox, Answer.bytes_of_fault h, Inbox.feed_nil]

theorem take_bytes (n : Nat) : link.inbox.bytes = (link.take n).1 ++ (link.take n).2.inbox.bytes :=
  (List.take_append_drop ..).symm

end Upkeep

end Link

/-- A call on a link over a line, or something that becomes of the line between calls. -/
inductive Access where
  | upkeep
  | peek
  | consume
  | readInto (size : Nat)
  | port (change : Line → Line)

namespace Link

def access (link : Link) : Access → Link
  | .upkeep => link.upkeep.2
  | .peek => link
  | .consume => (link.take 1).2
  | .readInto size => (link.take size).2
  | .port change =>
    match link.transport with
    | .loopback => link
    | .line line => { link with transport := .line (change line) }

def accessAll (link : Link) (course : List Access) : Link := course.foldl access link

def comesIn (link : Link) : Access → Bytes
  | .upkeep => link.answer.bytes
  | _ => []

def goesOut (link : Link) : Access → Bytes
  | .consume => (link.take 1).1
  | .readInto size => (link.take size).1
  | _ => []

def handedOver : Link → List Access → Bytes
  | _, [] => []
  | link, call :: course => link.comesIn call ++ handedOver (link.access call) course

def consumed : Link → List Access → Bytes
  | _, [] => []
  | link, call :: course => link.goesOut call ++ consumed (link.access call) course

theorem access_bytes (link : Link) (call : Access) :
    link.inbox.bytes ++ link.comesIn call = link.goesOut call ++ (link.access call).inbox.bytes := by
  cases call with
  | upkeep => exact link.upkeep_bytes.symm
  | peek => exact List.append_nil _
  | consume => exact (List.append_nil _).trans (link.take_bytes 1)
  | readInto size => exact (List.append_nil _).trans (link.take_bytes size)
  | port change =>
    have same : (link.access (.port change)).inbox = link.inbox := by
      rw [access]
      split <;> rfl
    exact (List.append_nil _).trans (congrArg Inbox.bytes same).symm

theorem bytes_along (link : Link) (course : List Access) :
    link.inbox.bytes ++ link.handedOver course =
      link.consumed course ++ (link.accessAll course).inbox.bytes := by
  induction course generalizing link with
  | nil => exact List.append_nil _
  | cons call course ih =>
    calc
      link.inbox.bytes ++ (link.comesIn call ++ (link.access call).handedOver course)
        = (link.goesOut call ++ (link.access call).inbox.bytes) ++ (link.access call).handedOver course := by
          rw [← List.append_assoc, link.access_bytes]
      _ = link.goesOut call ++
            ((link.access call).consumed course ++ ((link.access call).accessAll course).inbox.bytes) := by
          rw [List.append_assoc, ih]
      _ = _ := (List.append_assoc ..).symm

theorem consumed_append_inbox (line : Line) (course : List Access) :
    (overLine line).consumed course ++ ((overLine line).accessAll course).inbox.bytes =
      (overLine line).handedOver course :=
  ((overLine line).bytes_along course).symm

end Link

theorem Head.payloadWidth_le (head : Head) : head.payloadWidth ≤ 12 := by
  rcases head with _ | op | timed | ⟨stream, timed⟩ | timed | _ | ⟨mode, timed⟩ | timed
  all_goals try cases timed
  all_goals simp [payloadWidth, tailWidth, floatField, byteField, shortField]

theorem frameLength_le (letter : UInt8) : frameLength letter ≤ 13 := by
  rw [frameLength]
  split
  · exact Nat.zero_le _
  · next head _ => exact Nat.add_le_add_left head.payloadWidth_le 1

end Wire

namespace Robot

/-- While the dispatcher waits, a part of the frame is still to come, and there is room for it. -/
def Accommodates (r : Robot) : Prop :=
  ∀ letter needed, r.dispatch = .waiting letter needed →
    r.link.inbox.size < needed ∧ needed - r.link.inbox.size ≤ r.link.inbox.room

theorem Accommodates.of_input {r t : Robot} (room : r.Accommodates) (inbox : t.link.inbox = r.link.inbox)
    (dispatch : t.dispatch = r.dispatch ∨ t.dispatch = .idle) : t.Accommodates := by
  intro letter needed waiting
  rw [inbox]
  obtain same | idle := dispatch
  · exact room letter needed (same.symm.trans waiting)
  · cases idle.symm.trans waiting

section Dispatching

variable (r : Robot)

theorem accommodates_of_size {letter : UInt8} {needed : Nat} (short : needed ≤ 13)
    (part : r.link.inbox.size < needed) (waiting : r.dispatch = .waiting letter needed) : r.Accommodates := by
  intro other length h
  rw [waiting] at h
  cases h
  refine ⟨part, ?_⟩
  rw [Inbox.room, Inbox.capacity]
  omega

theorem poll_accommodates : r.poll.Accommodates := by
  have busy {t : Robot} (h : ∀ letter needed, t.dispatch ≠ .waiting letter needed) : t.Accommodates :=
    fun letter needed waiting => absurd waiting (h letter needed)
  obtain empty | ⟨letter, first, unknown⟩ | ⟨letter, first, known, part⟩ | ⟨letter, command, offers⟩ :=
    r.poll_cases
  · rw [poll_of_empty empty]
    exact busy nofun
  · rw [poll_of_unknown first unknown]
    exact busy nofun
  · rw [poll_of_part first known part]
    exact accommodates_of_size _ (frameLength_le letter) part rfl
  · rw [poll_of_offers offers]
    exact busy nofun

end Dispatching

variable {settings : Settings} {r : Robot}

theorem tick_error (r : Robot) : r.tick.1 = r.link.upkeep.1 := by
  rw [tick]
  dsimp only
  split
  · next error _ hUpkeep => rw [hUpkeep]
  · next hUpkeep => rw [hUpkeep]

theorem exists_fault_of_fails {s : Surroundings} (h : ¬ r.Succeeds s) :
    ∃ fault, (r.link.meet s).answer.fault? = some fault := by
  have failed : (r.link.meet s).upkeep.1 ≠ none := fun ok => h ((tick_error _).trans ok)
  obtain ⟨error, hError⟩ := Option.ne_none_iff_exists'.mp failed
  rw [Link.upkeep_error] at hError
  exact Answer.exists_fault hError

theorem served_inbox_of_fails {s : Surroundings} (h : ¬ r.Succeeds s) :
    (r.served s).link.inbox = r.link.inbox := by
  obtain ⟨fault, hFault⟩ := exists_fault_of_fails h
  have same : (r.served s).link.inbox = (r.link.meet s).inbox := Link.upkeep_inbox_of_fault _ hFault
  rw [same, Link.meet]
  cases hTransport : r.link.transport with
  | loopback =>
    rw [Link.meet, hTransport] at hFault
    cases hFault
  | line port => rfl

theorem Reachable.accommodates (h : Reachable settings r) : r.Accommodates := by
  induction h with
  | start _ hStart =>
    obtain ⟨setup, _, hSetup, _⟩ := start_control hStart
    rw [start_eq hSetup] at hStart
    cases hStart
    exact nofun
  | @pass r s _ ih =>
    rcases Classical.em (r.Succeeds s) with ok | failed
    · rw [pass_of_succeeds ok]
      refine sweep_induct (fun t task now room _ => ?_) (poll_accommodates _)
      have same := t.sameInput_perform task now
      exact room.of_input same.inbox same.dispatch
    · rw [pass_of_fails failed]
      exact ih.of_input (served_inbox_of_fails failed) (.inl rfl)

/-- Over a line, whatever it answers and whatever becomes of it in between, the bytes that were consumed
and those in the inbox are together the bytes that were handed over, and what is seen next is the
first that was not consumed. An upkeep adds all that is handed over, for which there is room, and
nothing when it meets a fault; a fault is an error unless the read has timed out. While the
dispatcher waits there is room for the rest of its frame. -/
theorem input_kept_in_order (settings : Settings) :
    (∀ line course, let link := (Link.overLine line).accessAll course
      let handedOver := (Link.overLine line).handedOver course
      let consumed := (Link.overLine line).consumed course
      consumed ++ link.inbox.bytes = handedOver ∧ link.inbox.peek? = handedOver[consumed.length]? ∧
        link.inbox.size ≤ 256) ∧
    (∀ link : Link,
      link.upkeep.2.inbox.bytes = link.inbox.bytes ++ link.answer.bytes ∧
        link.inbox.size + link.answer.bytes.length ≤ 256 ∧
        link.arriving = link.answer.bytes ++ link.upkeep.2.arriving ∧
        (∀ fault, link.answer.fault? = some fault → link.upkeep.2.inbox = link.inbox ∧
          (link.upkeep.1 = none ↔ link.answer = .readFailed fault ∧ fault.kind = .timedOut)) ∧
        (link.answer.fault? = none → link.upkeep.1 = none)) ∧
    (∀ r : Robot, r.poll.Accommodates) ∧ ∀ r, Reachable settings r → r.Accommodates := by
  refine ⟨?_, ?_, poll_accommodates, fun r => Reachable.accommodates⟩
  · intro line course link handedOver consumed
    have conserved : consumed ++ link.inbox.bytes = handedOver := Link.consumed_append_inbox line course
    refine ⟨conserved, ?_, link.inbox.length_le⟩
    rw [← conserved, List.getElem?_append_right (Nat.le_refl _), Nat.sub_self, Inbox.peek?,
      List.head?_eq_getElem?]
  · intro link
    refine ⟨link.upkeep_bytes, link.size_answer_le, link.upkept.front, ?_, ?_⟩
    · intro fault hFault
      refine ⟨link.upkeep_inbox_of_fault hFault, ?_⟩
      rw [link.upkeep_error, Answer.error?_eq_none_iff hFault]
    · intro fine
      rw [link.upkeep_error, Answer.error?_of_fine fine]

/-- Short reads, a timeout and a line that overstates what is waiting; and a frame cut in two. -/
theorem input_kept_in_order_halting :
    let line : Line :=
      { device := "line", arriving := [0x64, 1, 2, 3, 4, 5], readChunk := some 4,
        script := { read := [none, some ⟨.timedOut, "no data"⟩] } }
    let grown (line : Line) : Line := { line with reported := some 1000, arriving := line.arriving ++ [6] }
    let course : List Access := [.upkeep, .consume, .upkeep, .peek, .port grown, .upkeep, .readInto 4]
    let cut := powerOn.pass { clock := .ofMillis 10, arriving := [0x64, 1, 2] }
    (Link.overLine line).consumed course ++ ((Link.overLine line).accessAll course).inbox.bytes =
        [0x64, 1, 2, 3, 4, 5, 6] ∧
      ((Link.overLine line).accessAll [.upkeep, .consume]).upkeep.1 = none ∧
      cut.dispatch = .waiting 0x64 9 ∧ cut.link.inbox.size < 9 ∧
      9 - cut.link.inbox.size ≤ cut.link.inbox.room := by
  intro line grown course cut
  obtain ⟨kept, upkept, _, room⟩ := input_kept_in_order .standard
  obtain ⟨conserved, _, _⟩ := kept line course
  have waiting : cut.dispatch = .waiting 0x64 9 := by decide +kernel
  refine ⟨conserved.trans (by decide), ?_, waiting, ?_⟩
  · obtain ⟨_, _, _, faults, _⟩ := upkept ((Link.overLine line).accessAll [.upkeep, .consume])
    exact (faults ⟨.timedOut, "no data"⟩ (by decide)).2.mpr (by decide)
  · exact room cut (reachable_powerOn.pass _) 0x64 9 waiting

end Robot
end Rover
