import LinkBus.Proofs.Netlink.Leftovers

/-!
# The status of a last message

The last message of an answer carries a status: zero if the list is complete, and otherwise the
negated number of the error for which the kernel gave up. A dump waits for the last message of each
of its requests, but it does not look at the status. So a list that was broken off is taken for a
complete one.
-/

namespace LinkBus.Wire

/-! ## Messages with and without a status -/

/-- Ends an answer. -/
def Message.IsLast (m : Message) : Prop := m.type = 3

instance (m : Message) : Decidable m.IsLast := inferInstanceAs (Decidable (m.type = 3))

/-- The status of a last message. -/
def Message.status (m : Message) : Int := signed (field m.payload 0 4)

/-- The message as it would be if its list was complete. -/
def Message.cleared (m : Message) : Message :=
  if m.IsLast ∧ 4 ≤ m.payload.length then { m with payload := leBytes 4 0 } else m

/-- The last frame of an answer is read from a last message. -/
theorem Message.isLast_of_ofMessage {m : Message} {seq : UInt32}
    (h : Frame.ofMessage m = .ok (.done seq)) : m.IsLast ∧ m.seq = seq := by
  unfold Frame.ofMessage at h
  split at h
  · next frame hread =>
    obtain rfl := Except.ok.inj h
    unfold Frame.read? at hread
    split at hread
    case h_2 htype =>
      split at hread
      · obtain rfl := Frame.done.inj (Option.some.inj hread)
        exact ⟨htype, rfl⟩
      · cases hread
    -- no other type is read as a last frame
    all_goals grind [Option.map_eq_some_iff]
  · cases h

/-- No frame tells the status. -/
theorem Frame.ofMessage_cleared (m : Message) : Frame.ofMessage m.cleared = Frame.ofMessage m := by
  unfold Message.cleared
  split
  · next h =>
    obtain ⟨hlast, hlength⟩ := h
    have htype : m.type = 3 := hlast
    simp [Frame.ofMessage, Frame.read?, htype, hlength]
  · rfl

end LinkBus.Wire

namespace LinkBus.Netlink

open Wire

/-! ## Receipts with and without statuses -/

section Receipts

variable (size : Nat) (keep : Except Malformed Frame → Bool)

/-- What is received, as it would be if all lists were complete: the messages of a datagram and the
fault of its framing, or a fault of the socket. -/
def Receipt.cleared : Receipt → Except Int (List Wire.Message × Option FramingFault)
  | .fault errno => .error errno
  | .datagram bytes =>
    .ok ((messages (bytes.take size)).1.map Wire.Message.cleared, (messages (bytes.take size)).2)

/-- What comes for a request, as it would be if all lists were complete. -/
def Reply.cleared :
    Reply → Except Failure (List (Except Int (List Wire.Message × Option FramingFault)))
  | .queued receipts => .ok (receipts.map (Receipt.cleared size))
  | .refused errno => .error (.io (.errno errno))

/-- What messages and a fault come to, if anything of them counts. -/
def gistOf? : Except Int (List Wire.Message × Option FramingFault) → Option Gist
  | .error errno => some (.fault errno)
  | .ok (ms, fault) =>
    let broken := fault.toList.map fun f => Except.error (Malformed.framing f)
    match (ms.map Frame.ofMessage ++ broken).filter keep with
    | [] => none
    | item :: items => some (.frames (item :: items))

/-- What a receipt comes to is the same if its list is complete. -/
theorem Receipt.gist?_eq_gistOf? (receipt : Receipt) :
    receipt.gist? size keep = gistOf? keep (receipt.cleared size) := by
  cases receipt with
  | fault errno => rfl
  | datagram bytes =>
    have hframes : ∀ ms : List Wire.Message,
        (ms.map Wire.Message.cleared).map Frame.ofMessage = ms.map Frame.ofMessage := by
      intro ms
      rw [List.map_map]
      exact List.map_congr_left fun m _ => Frame.ofMessage_cleared m
    rw [gist?, cleared, gistOf?, hframes]
    rfl

theorem gists_eq_filterMap_gistOf? (receipts : List Receipt) :
    gists size keep receipts = (receipts.map (Receipt.cleared size)).filterMap (gistOf? keep) := by
  rw [gists, List.filterMap_map]
  exact List.filterMap_congr fun receipt _ => receipt.gist?_eq_gistOf? size keep

theorem Reply.gists_eq_map_gistOf? (reply : Reply) :
    reply.gists size keep = (reply.cleared size).map (List.filterMap (gistOf? keep)) := by
  cases reply with
  | refused errno => rfl
  | queued receipts =>
    rw [gists, gists_eq_filterMap_gistOf?]
    rfl

end Receipts

/-! ## Dumps with and without statuses -/

namespace Client

/-- To two clients the same comes, apart from the statuses of last messages. -/
structure SameButStatus (c c' : Client) : Prop where
  /-- They have the same time limits and sizes. -/
  settings : c'.settings = c.settings
  /-- They draw the same numbers. -/
  counter : c'.counter = c.counter
  /-- Their sockets were seen ready for the same. -/
  readiness : c'.readiness = c.readiness
  /-- The same waits. -/
  inbox : c'.inbox.map (Receipt.cleared (room c.settings.receiveBuffer)) =
    c.inbox.map (Receipt.cleared (room c.settings.receiveBuffer))
  /-- The same will come for requests. -/
  replies : c'.kernel.replies.map (Reply.cleared (room c.settings.receiveBuffer)) =
    c.kernel.replies.map (Reply.cleared (room c.settings.receiveBuffer))

/-- Statuses never count. -/
theorem SameButStatus.agreeOn {c c' : Client} (h : SameButStatus c c')
    (keep : Except Malformed Frame → Bool) : AgreeOn keep c c' where
  settings := h.settings
  counter := h.counter
  readiness := .inr h.readiness
  inbox := by rw [gists_eq_filterMap_gistOf?, gists_eq_filterMap_gistOf?, h.inbox]
  replies := by
    have hgists : Reply.gists (room c.settings.receiveBuffer) keep =
        Except.map (List.filterMap (gistOf? keep)) ∘
          Reply.cleared (room c.settings.receiveBuffer) :=
      funext (Reply.gists_eq_map_gistOf? _ keep)
    rw [hgists, ← List.map_map, ← List.map_map, h.replies]

/-- A last message with the number of the next request, in a datagram that is received after the
request was sent. -/
def EndedBy (c : Client) (request : Request) (m : Wire.Message) : Prop :=
  ∃ receipts bytes, c.reply request = .ok receipts ∧ .datagram bytes ∈ c.inbox ++ receipts ∧
    m ∈ (messages (bytes.take (room c.settings.receiveBuffer))).1 ∧ m.IsLast ∧ m.seq = c.number

/-- An answer that is listed was ended by a last message. -/
theorem Lists.exists_endedBy {c next : Client} {request : Request} {events : List Event}
    (h : c.Lists request events next) : ∃ m, c.EndedBy request m := by
  obtain ⟨receipts, rest, hsent, ⟨earlier, bytes, before, after, hwaiting, hframes, -, -⟩, -⟩ :=
    h.listed
  have hmem : .ok (.done c.number) ∈ readFrames (bytes.take (room c.settings.receiveBuffer)) := by
    rw [hframes]
    exact List.mem_append_right _ List.mem_cons_self
  obtain ⟨m, hm, hframe⟩ := ok_mem_readFrames_iff.1 hmem
  refine ⟨m, receipts, bytes, hsent, ?_, hm, Wire.Message.isLast_of_ofMessage hframe⟩
  rw [hwaiting]
  exact List.mem_append_right _ List.mem_cons_self

/-- A dump lists tables only if each of its requests was ended by a last message with its number.
But it takes the same course whatever the statuses of the last messages are. -/
theorem dump_ended_whatever_status (c : Client) :
    (∀ events, c.dump.2.result = .ok events →
      ∃ c₁ c₂ c₃ links addresses routes, c.Lists .dumpLinks links c₁ ∧
        c₁.Lists .dumpAddresses addresses c₂ ∧ c₂.Lists .dumpRoutes routes c₃ ∧
        events = links ++ addresses ++ routes ∧ (∃ m, c.EndedBy .dumpLinks m) ∧
        (∃ m, c₁.EndedBy .dumpAddresses m) ∧ ∃ m, c₂.EndedBy .dumpRoutes m) ∧
    ∀ c', SameButStatus c c' → c'.dump.2 = c.dump.2 := by
  refine ⟨fun events h => ?_, fun c' h => ?_⟩
  · obtain ⟨c₁, c₂, c₃, links, addresses, routes, hlinks, haddresses, hroutes, hevents⟩ :=
      listsAll_dumpRequests_iff.1 (dump_eq_ok_iff.1 h)
    exact ⟨c₁, c₂, c₃, links, addresses, routes, hlinks, haddresses, hroutes, hevents,
      hlinks.exists_endedBy, haddresses.exists_endedBy, hroutes.exists_endedBy⟩
  · exact (h.agreeOn fun _ => true).dump fun _ _ _ _ => rfl

/-- An answer that is broken off behind one link: its last message has the status of an interrupted
call. -/
def interruptedAnswer : List UInt8 := linkMessage 1 2 ++ lastMessage 1 (2 ^ 32 - 4)

/-- The list that was broken off is taken for a complete one. -/
theorem interrupted_dump_succeeds :
    (∃ m ∈ (messages interruptedAnswer).1, m.IsLast ∧ m.seq = 1 ∧ m.status = -4) ∧
      (answeredBy interruptedAnswer).dump.2.result = .ok [.newLink (bareLink 2)] := by
  constructor
  · have hfield : field (leBytes 4 (2 ^ 32 - 4)) 0 4 = 2 ^ 32 - 4 := by
      rw [← List.append_nil (leBytes 4 _), field_leBytes_append (by decide)]
    have hstatus : Wire.Message.status ⟨3, 1, leBytes 4 (2 ^ 32 - 4)⟩ = -4 := by
      rw [Wire.Message.status, hfield]
      decide
    refine ⟨⟨3, 1, leBytes 4 (2 ^ 32 - 4)⟩, ?_, rfl, rfl, hstatus⟩
    rw [interruptedAnswer, messages_of_cut_eq_ok (cut_linkMessage_append 1 2 _),
      ← List.append_nil (lastMessage 1 _), messages_of_cut_eq_ok (cut_lastMessage_append 1 _ [])]
    exact List.mem_cons_of_mem _ List.mem_cons_self
  · have hshort : interruptedAnswer.take
        (room (answeredBy interruptedAnswer).settings.receiveBuffer) = interruptedAnswer := rfl
    have hframes : readFrames interruptedAnswer =
        [.ok (.event 1 (.newLink (bareLink 2)))] ++ .ok (.done 1) :: [] := by
      rw [interruptedAnswer, readFrames_linkMessage_append, readFrames_lastMessage]
      rfl
    exact (dump_answeredBy (hshort.symm ▸ hframes) (by simp [endsAnswer])).2

end Client

end LinkBus.Netlink
