import LinkBus.Netlink.Reader
import LinkBus.Proofs.Wire.Envelope

/-!
# Two ways to read a datagram

A datagram is decoded strictly, where broken framing is an error, or read for its events, where the
reading ends at broken framing with what was good until then. A report of lost events means nothing
to the one, and takes everything away for the other. Apart from it, the two agree: a datagram that
is decoded is read with the same events, and one that is rejected is read with the events before its
first fault.

What is received from a socket is either a datagram or a fault of the socket, which means a loss as
well.
-/

namespace LinkBus.Netlink

open Wire

/-- One of the whole messages at some places reports lost events. -/
def ReportsLoss (bytes : List UInt8) (starts : List Nat) : Prop :=
  ∃ start ∈ starts, frameAt bytes start = .ok .overrun

/-- The events of the whole messages at some places, in order. -/
def eventsAt (bytes : List UInt8) (starts : List Nat) : List Event :=
  starts.filterMap fun start => Frame.event? (frameAt bytes start)

/-- Only the frame of a report reports lost events. -/
theorem isOverrun_iff {item : Except Malformed Frame} :
    isOverrun item = true ↔ item = .ok .overrun := by
  cases item with
  | error fault => simp [isOverrun]
  | ok frame => cases frame <;> simp [isOverrun]

variable {bytes : List UInt8} {starts : List Nat} {stop : Nat}

/-- The frames of a datagram are those of its row of whole messages, and behind them there is a
fault at most. -/
theorem exists_readFrames_eq (h : Row bytes 0 starts stop)
    (hstop : stop = bytes.length ∨ stop < bytes.length ∧ ¬ FitsAt bytes stop) :
    ∃ faults : List FramingFault, readFrames bytes =
      starts.map (frameAt bytes) ++ faults.map fun fault => .error (.framing fault) := by
  rcases hstop with rfl | ⟨hinside, hbad⟩
  · exact ⟨[], by rw [h.readFrames_eq, List.map_nil, List.append_nil]⟩
  · exact ⟨[faultAt bytes stop], h.readFrames_eq_of_not_fitsAt hinside hbad⟩

/-- A report of lost events among the frames stands in the row of whole messages. -/
theorem overrun_mem_iff (h : Row bytes 0 starts stop)
    (hstop : stop = bytes.length ∨ stop < bytes.length ∧ ¬ FitsAt bytes stop) :
    .ok .overrun ∈ readFrames bytes ↔ ReportsLoss bytes starts := by
  obtain ⟨faults, hframes⟩ := exists_readFrames_eq h hstop
  simp [hframes, ReportsLoss]

/-- A datagram is read as a loss if one of its frames reports one, and for its events otherwise. -/
theorem Reading.ofDatagram_eq (h : Row bytes 0 starts stop)
    (hstop : stop = bytes.length ∨ stop < bytes.length ∧ ¬ FitsAt bytes stop) :
    (Reading.ofDatagram bytes = .lost ↔ ReportsLoss bytes starts) ∧
      (¬ ReportsLoss bytes starts →
        Reading.ofDatagram bytes = .events (eventsAt bytes starts)) := by
  obtain ⟨faults, hframes⟩ := exists_readFrames_eq h hstop
  have hany : (readFrames bytes).any isOverrun = true ↔ ReportsLoss bytes starts := by
    rw [← overrun_mem_iff h hstop, List.any_eq_true]
    simp [isOverrun_iff]
  have hevents : (readFrames bytes).filterMap Frame.event? = eventsAt bytes starts := by
    rw [hframes, List.filterMap_append, List.filterMap_map, List.filterMap_map]
    have hfaults : faults.filterMap
        (Frame.event? ∘ fun fault => .error (.framing fault)) = [] :=
      List.filterMap_eq_nil_iff.2 fun fault _ => rfl
    rw [hfaults, List.append_nil]
    rfl
  rw [ofDatagram, hevents]
  constructor
  · rw [← hany]
    split <;> simp_all
  · intro hnone
    rw [if_neg (mt hany.1 hnone)]

/-- Whole messages stand at some places, one after the other from the front of the datagram, and
none stands behind them. -/
def WholeRow (bytes : List UInt8) (starts : List Nat) : Prop :=
  ∃ stop, Row bytes 0 starts stop ∧ ¬ FitsAt bytes stop

/-- The events that the whole messages at some places announce, in order. Any other message is left
out, and so is one that cannot be read. -/
inductive ListsEvents (bytes : List UInt8) : List Nat → List Event → Prop
  | nil : ListsEvents bytes [] []
  | event {start : Nat} {starts : List Nat} {event : Event} {events : List Event}
      (hevent : (messageAt bytes start).Announces event)
      (hrest : ListsEvents bytes starts events) :
      ListsEvents bytes (start :: starts) (event :: events)
  | other {start : Nat} {starts : List Nat} {events : List Event}
      (hother : ∀ event, ¬ (messageAt bytes start).Announces event)
      (hrest : ListsEvents bytes starts events) : ListsEvents bytes (start :: starts) events

/-- What a receipt means, if a datagram is cut to some size. -/
inductive Receipt.Means (size : Nat) : Receipt → Reading → Prop
  /-- A fault of the socket is a loss. -/
  | fault (errno : Int) : Means size (.fault errno) .lost
  /-- A datagram is a loss if one of its whole messages reports lost events, whatever stands before
  and behind it. -/
  | report {bytes : List UInt8} {starts : List Nat} {start : Nat}
      (hrow : WholeRow (bytes.take size) starts) (hstart : start ∈ starts)
      (htype : (messageAt (bytes.take size) start).type = overrunType) :
      Means size (.datagram bytes) .lost
  /-- Without such a report it means all its events. -/
  | events {bytes : List UInt8} {starts : List Nat} {events : List Event}
      (hrow : WholeRow (bytes.take size) starts)
      (hnone : ∀ start ∈ starts, (messageAt (bytes.take size) start).type ≠ overrunType)
      (hevents : ListsEvents (bytes.take size) starts events) :
      Means size (.datagram bytes) (.events events)

section Receipts

variable {size : Nat} {events : List Event}

/-- Every datagram is a row of whole messages, and at most a broken one behind them. -/
theorem exists_wholeRow (bytes : List UInt8) : ∃ starts, WholeRow bytes starts := by
  obtain ⟨starts, stop, hrow, rfl | ⟨-, hbad⟩⟩ := exists_row (Nat.zero_le bytes.length)
  · refine ⟨starts, bytes.length, hrow, fun hfits => ?_⟩
    have hheader := hfits.header
    simp only [headerLength] at hheader
    omega
  · exact ⟨starts, stop, hrow, hbad⟩

/-- A datagram is read by its whole messages. -/
theorem WholeRow.ofDatagram_eq (h : WholeRow bytes starts) :
    (Reading.ofDatagram bytes = .lost ↔ ReportsLoss bytes starts) ∧
      (¬ ReportsLoss bytes starts →
        Reading.ofDatagram bytes = .events (eventsAt bytes starts)) := by
  obtain ⟨stop, hrow, hbad⟩ := h
  have hle := (hrow.stop_bounds (Nat.zero_le _)).2
  exact Reading.ofDatagram_eq hrow ((Nat.eq_or_lt_of_le hle).imp_right fun hlt => ⟨hlt, hbad⟩)

/-- A report of lost events is a message of its type. -/
theorem reportsLoss_iff :
    ReportsLoss bytes starts ↔ ∃ start ∈ starts, (messageAt bytes start).type = overrunType := by
  simp only [ReportsLoss, frameAt_eq, Message.type_eq_overrunType_iff]

/-- The event of the first message comes first. -/
theorem eventsAt_cons (bytes : List UInt8) (start : Nat) (starts : List Nat) :
    eventsAt bytes (start :: starts) =
      (Frame.event? (frameAt bytes start)).toList ++ eventsAt bytes starts := by
  rw [eventsAt, List.filterMap_cons]
  cases Frame.event? (frameAt bytes start) <;> rfl

/-- The event at a place is the one that the message there announces. -/
theorem event?_frameAt {start : Nat} {event : Event} :
    Frame.event? (frameAt bytes start) = some event ↔ (messageAt bytes start).Announces event := by
  rw [frameAt_eq, Message.announces_iff]
  cases Frame.ofMessage (messageAt bytes start) with
  | error malformed => simp [Frame.event?]
  | ok frame => cases frame <;> simp [Frame.event?]

/-- The events at some places are those that the messages there announce. -/
theorem listsEvents_iff : ListsEvents bytes starts events ↔ events = eventsAt bytes starts := by
  constructor
  · intro h
    induction h with
    | nil => rfl
    | event hevent _ ih =>
      rw [eventsAt_cons, event?_frameAt.2 hevent, ih]
      rfl
    | other hother _ ih =>
      have hnone : Frame.event? (frameAt bytes _) = none :=
        Option.eq_none_iff_forall_ne_some.2 fun event => mt event?_frameAt.1 (hother event)
      rw [eventsAt_cons, hnone, ih]
      rfl
  · rintro rfl
    induction starts with
    | nil => exact .nil
    | cons start starts ih =>
      rw [eventsAt_cons]
      cases hevent : Frame.event? (frameAt bytes start) with
      | some event => exact .event (event?_frameAt.1 hevent) ih
      | none => exact .other (fun event h => nomatch hevent.symm.trans (event?_frameAt.2 h)) ih

/-- A datagram that fits into the buffer is not cut. -/
theorem take_room {bufferSize : UInt64} (h : bytes.length ≤ bufferSize.toNat) :
    bytes.take (room bufferSize) = bytes := by
  refine List.take_of_length_le ?_
  unfold room
  split
  · next hzero =>
    subst hzero
    exact Nat.le_trans h (Nat.zero_le 64)
  · exact h

/-- What was received is read as what it means. -/
theorem Receipt.read_eq_iff {receipt : Receipt} {reading : Reading} :
    receipt.read size = reading ↔ receipt.Means size reading := by
  constructor
  · rintro rfl
    cases receipt with
    | fault errno => exact .fault errno
    | datagram bytes =>
      obtain ⟨starts, hrow⟩ := exists_wholeRow (bytes.take size)
      obtain ⟨hlost, hevents⟩ := hrow.ofDatagram_eq
      rw [read]
      by_cases hreport : ReportsLoss (bytes.take size) starts
      · obtain ⟨start, hstart, htype⟩ := reportsLoss_iff.1 hreport
        rw [hlost.2 hreport]
        exact .report hrow hstart htype
      · have hnone : ∀ start ∈ starts, (messageAt (bytes.take size) start).type ≠ overrunType :=
          fun start hstart htype => hreport (reportsLoss_iff.2 ⟨start, hstart, htype⟩)
        rw [hevents hreport]
        exact .events hrow hnone (listsEvents_iff.2 rfl)
  · intro h
    cases h with
    | fault => rfl
    | report hrow hstart htype =>
      exact hrow.ofDatagram_eq.1.2 (reportsLoss_iff.2 ⟨_, hstart, htype⟩)
    | events hrow hnone hevents =>
      obtain rfl := listsEvents_iff.1 hevents
      refine hrow.ofDatagram_eq.2 fun hreport => ?_
      obtain ⟨start, hstart, htype⟩ := reportsLoss_iff.1 hreport
      exact hnone start hstart htype

end Receipts

end LinkBus.Netlink
