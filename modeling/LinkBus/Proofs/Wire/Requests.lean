import LinkBus.Proofs.Wire.Envelope
import LinkBus.Proofs.Wire.Splicing

/-!
# Requests as their receiver reads them

The receiver of a request knows the layouts of headers and of link messages, and nothing of how
requests are written. It finds one message that fills the datagram, and reads from it the request
and its number. A request to turn a link on or off changes one flag of one link.
-/

namespace LinkBus.Wire

/-! ## Layouts -/

/-- Marks a request. -/
def requestFlag : BitVec 16 := 0x1

/-- Asks for an acknowledgment. -/
def ackFlag : BitVec 16 := 0x4

/-- Asks for all records: from the root of a table, and all that match. -/
def dumpFlag : BitVec 16 := 0x300

/-- The administrative state of a link among its flags. -/
def upFlag : BitVec 32 := 0x1

/-- The header of a message. -/
structure Header where
  length : Nat
  type : Nat
  flags : BitVec 16
  seq : UInt32
  sender : UInt32
  deriving DecidableEq, Repr

/-- Reads the header at the front of some bytes. -/
def Header.read? (bytes : List UInt8) : Option Header :=
  if bytes.length < headerLength then none
  else
    some
      { length := field bytes 0 4
        type := field bytes 4 2
        flags := .ofNat 16 (field bytes 6 2)
        seq := UInt32.ofNat (field bytes 8 4)
        sender := UInt32.ofNat (field bytes 12 4) }

/-- The fixed part of a link message. -/
structure LinkFields where
  family : Nat
  layerType : Nat
  index : UInt32
  flags : BitVec 32
  /-- The flags that are to change. -/
  mask : BitVec 32
  deriving DecidableEq, Repr

/-- Reads the fixed part of a link message. -/
def LinkFields.read? (payload : List UInt8) : Option LinkFields :=
  if payload.length < 16 then none
  else
    some
      { family := field payload 0 1
        layerType := field payload 2 2
        index := UInt32.ofNat (field payload 4 4)
        flags := .ofNat 32 (field payload 8 4)
        mask := .ofNat 32 (field payload 12 4) }

/-! ## Receivers -/

/-- The request that a header and a payload are. A request for records names none of them: its
payload is zero. One that sets flags sets the administrative state alone. -/
def Request.ofParts? (header : Header) (payload : List UInt8) : Option Request :=
  let asksForAll (length : Nat) : Bool :=
    header.flags == requestFlag ||| dumpFlag && payload == List.replicate length 0
  match header.type with
  | 18 => if asksForAll 16 then some .dumpLinks else none
  | 22 => if asksForAll 8 then some .dumpAddresses else none
  | 26 => if asksForAll 12 then some .dumpRoutes else none
  | 19 => do
    let link ← LinkFields.read? payload
    if header.flags = requestFlag ||| ackFlag ∧ link.mask = upFlag ∧
        (link.flags = 0 ∨ link.flags = upFlag) then
      some (.setLink link.index (link.flags = upFlag))
    else none
  | _ => none

/-- Reads a request and its number from a datagram that holds nothing else. -/
def Request.read? (bytes : List UInt8) : Option (Request × UInt32) := do
  let header ← Header.read? bytes
  if header.length ≠ bytes.length then none
  let request ← Request.ofParts? header (bytes.drop headerLength)
  return (request, header.seq)

/-- The flags of a link after those in the mask were set. An empty mask stands for all flags. -/
def LinkFields.set (link : LinkFields) (old : BitVec 32) : BitVec 32 :=
  let mask := if link.mask = 0 then BitVec.allOnes 32 else link.mask
  (old &&& ~~~mask) ||| (link.flags &&& mask)

/-- What a message does to the flags of all links. Only messages that set a link change any. -/
def Message.carryOut (m : Message) (flags : UInt32 → BitVec 32) : UInt32 → BitVec 32 :=
  match if m.type = 19 then LinkFields.read? m.payload else none with
  | some link => fun i => if i = link.index then link.set (flags i) else flags i
  | none => flags

/-- What a datagram does to the flags of all links. -/
def carryOutAll (bytes : List UInt8) (flags : UInt32 → BitVec 32) : UInt32 → BitVec 32 :=
  (messages bytes).1.foldl (fun flags m => m.carryOut flags) flags

/-! ## Reading back -/

section Envelopes

variable {type flags : Nat} {seq : UInt32} {payload : List UInt8}

/-- The header of an envelope is read back. -/
theorem Header.read?_envelope (htype : type < 256 ^ 2) (hflags : flags < 256 ^ 2)
    (hlength : headerLength + payload.length < 256 ^ 4) :
    Header.read? (envelope type flags seq payload) =
      some ⟨headerLength + payload.length, type, .ofNat 16 flags, seq, 0⟩ := by
  have hheader : ¬ (envelope type flags seq payload).length < headerLength := by
    rw [length_envelope]
    exact Nat.not_lt.2 (Nat.le_add_right _ _)
  rw [Header.read?, if_neg hheader, ← List.append_nil (envelope type flags seq payload),
    field_length_envelope_append [] hlength, field_type_envelope_append [] htype,
    field_flags_envelope_append [] hflags, field_seq_envelope_append,
    field_sender_envelope_append, UInt32.ofNat_toNat]
  rfl

theorem drop_envelope : (envelope type flags seq payload).drop headerLength = payload := by
  refine List.drop_left' ?_
  simp [headerLength]

/-- An envelope with a short payload is one message. -/
theorem fills_envelope (hlength : headerLength + payload.length < 256 ^ 4) :
    Message.Fills (envelope type flags seq payload) := by
  refine ⟨?_, ?_⟩
  · rw [length_envelope]
    exact Nat.le_add_right _ _
  · rw [length_envelope, lengthAt, ← List.append_nil (envelope type flags seq payload),
      field_length_envelope_append [] hlength]

end Envelopes

/-- The fixed part of a link message is read back. -/
theorem LinkFields.read?_linkHeader (index : UInt32) {flags mask : Nat} (hflags : flags < 256 ^ 4)
    (hmask : mask < 256 ^ 4) :
    LinkFields.read? (linkHeader index flags mask) =
      some ⟨0, 0, index, .ofNat 32 flags, .ofNat 32 mask⟩ := by
  have hlength : ¬ (linkHeader index flags mask).length < 16 := by simp [linkHeader]
  have hfields : linkHeader index flags mask =
      leBytes 4 0 ++ (leBytes 4 index.toNat ++ (leBytes 4 flags ++ leBytes 4 mask)) := by
    simp only [linkHeader, List.append_assoc]
  have hindex : field (linkHeader index flags mask) 4 4 = index.toNat := by
    rw [hfields, show (4 : Nat) = 4 + 0 from rfl, field_append_right (length_leBytes 4 _)]
    exact field_leBytes_append index.toNat_lt _
  have hflagsField : field (linkHeader index flags mask) 8 4 = flags := by
    rw [hfields, show (8 : Nat) = 4 + (4 + 0) from rfl, field_append_right (length_leBytes 4 _),
      field_append_right (length_leBytes 4 _)]
    exact field_leBytes_append hflags _
  have hmaskField : field (linkHeader index flags mask) 12 4 = mask := by
    rw [hfields, show (12 : Nat) = 4 + (4 + (4 + 0)) from rfl,
      field_append_right (length_leBytes 4 _), field_append_right (length_leBytes 4 _),
      field_append_right (length_leBytes 4 _), ← List.append_nil (leBytes 4 mask)]
    exact field_leBytes_append hmask _
  have hfamily : field (linkHeader index flags mask) 0 1 = 0 := rfl
  have hlayer : field (linkHeader index flags mask) 2 2 = 0 := rfl
  rw [read?, if_neg hlength, hindex, hflagsField, hmaskField, hfamily, hlayer, UInt32.ofNat_toNat]

/-- Where the mask is the up flag, no other flag is set. -/
theorem LinkFields.getLsbD_set_upFlag (family layerType : Nat) (index : UInt32) (up : Bool)
    (old : BitVec 32) (bit : Nat) :
    (LinkFields.set ⟨family, layerType, index, if up then upFlag else 0, upFlag⟩ old).getLsbD bit =
      if bit = 0 then up else old.getLsbD bit := by
  have hmask : ¬ upFlag = 0 := by decide
  have hup : ∀ n, upFlag.getLsbD n = decide (n = 0) := by
    intro n
    simp [upFlag]
  simp only [set, if_neg hmask, BitVec.getLsbD_or, BitVec.getLsbD_and, BitVec.getLsbD_not, hup]
  by_cases hbit : bit = 0
  · subst hbit
    cases up <;> simp [hup]
  · have hsmall : bit < 32 ∨ old.getLsbD bit = false := by
      rcases Nat.lt_or_ge bit 32 with h | h
      · exact .inl h
      · exact .inr (BitVec.getLsbD_of_ge old bit h)
    rcases hsmall with h | h <;> simp [hbit, h]

/-! ## What requests are made of -/

namespace Request

/-- The type of the message. -/
def type : Request → Nat
  | dumpLinks => 18
  | dumpAddresses => 22
  | dumpRoutes => 26
  | setLink .. => 19

/-- What a request asks for beside being one: all records, or an acknowledgment. -/
def wish : Request → BitVec 16
  | dumpLinks | dumpAddresses | dumpRoutes => dumpFlag
  | setLink .. => ackFlag

/-- What stands behind the header. -/
def payload : Request → List UInt8
  | dumpLinks => leBytes 16 0
  | dumpAddresses => leBytes 8 0
  | dumpRoutes => leBytes 12 0
  | setLink index up => linkHeader index (if up then 1 else 0) 1

/-- What a request asks of a flag of a link, if anything. -/
def asks (request : Request) (index : UInt32) (bit : Nat) : Option Bool :=
  match request with
  | setLink target up => if index = target ∧ bit = 0 then some up else none
  | _ => none

variable (request : Request) (seq : UInt32)

/-- A request is written as a message in an envelope. -/
theorem toBytes_eq :
    request.toBytes seq =
      envelope request.type (requestFlag ||| request.wish).toNat seq request.payload := by
  have hdump : (requestFlag ||| dumpFlag).toNat = dumpFlags := by decide
  have hack : (requestFlag ||| ackFlag).toNat = ackFlags := by decide
  cases request with
  | setLink index up => rw [wish, hack, toBytes, type, payload]
  | _ => rw [wish, hdump, toBytes, type, payload]

theorem length_payload : 4 ∣ request.payload.length ∧ request.payload.length ≤ 16 := by
  cases request <;> simp [payload, linkHeader]

theorem type_lt : request.type < 256 ^ 2 := by
  cases request <;> simp [type]

/-- The fixed part of a request to turn a link on or off. -/
theorem read?_payload_setLink (index : UInt32) (up : Bool) :
    LinkFields.read? (setLink index up).payload =
      some ⟨0, 0, index, if up then upFlag else 0, upFlag⟩ := by
  cases up
  · exact LinkFields.read?_linkHeader index (by decide) (by decide)
  · exact LinkFields.read?_linkHeader index (by decide) (by decide)

/-- From the parts of a request the request is read back. -/
theorem ofParts?_parts {header : Header} (htype : header.type = request.type)
    (hflags : header.flags = requestFlag ||| request.wish) :
    ofParts? header request.payload = some request := by
  cases request with
  | setLink index up =>
    simp only [ofParts?, htype, hflags, type, wish, read?_payload_setLink, Option.bind_eq_bind,
      Option.bind_some]
    cases up <;> rfl
  | _ => simp [ofParts?, htype, hflags, type, wish, payload, leBytes]

/-- On a link that a request is for, the up flag alone is set. -/
theorem getLsbD_carryOut (flags : UInt32 → BitVec 32) (index : UInt32) (bit : Nat) :
    ((Message.carryOut ⟨request.type, seq, request.payload⟩ flags) index).getLsbD bit =
      (request.asks index bit).getD ((flags index).getLsbD bit) := by
  cases request with
  | setLink target up =>
    simp only [Message.carryOut, type, if_true, read?_payload_setLink, asks]
    by_cases htarget : index = target
    · simp only [htarget, true_and, if_true]
      rw [LinkFields.getLsbD_set_upFlag]
      split <;> rfl
    · simp [htarget]
  | _ => rfl

/-- What the receiver of some bytes finds in them, if they are a request with a number. -/
structure Carries (bytes : List UInt8) : Prop where
  /-- They are one message, behind which no padding is missing. -/
  fills : Message.Fills bytes
  aligned : 4 ∣ bytes.length
  /-- Nothing else is found in them. -/
  alone : messages bytes = ([⟨request.type, seq, request.payload⟩], none)
  /-- The header tells the length, the number, and that all records or an acknowledgment are asked
  for. -/
  header : Header.read? bytes =
    some ⟨bytes.length, request.type, requestFlag ||| request.wish, seq, 0⟩
  /-- The request and its number are read back. -/
  read : read? bytes = some (request, seq)
  /-- A request to turn a link on or off names this link, and the up flag alone as what is to
  change. -/
  target : ∀ index up, request = setLink index up →
    LinkFields.read? (bytes.drop headerLength) =
      some ⟨0, 0, index, if up then upFlag else 0, upFlag⟩
  /-- No flag of any link changes but the one that is asked for. -/
  effect : ∀ flags index bit, (carryOutAll bytes flags index).getLsbD bit =
    (request.asks index bit).getD ((flags index).getLsbD bit)

/-- The receiver of a written request finds it. -/
theorem carries_toBytes : request.Carries seq (request.toBytes seq) := by
  obtain ⟨hpayload, hsmall⟩ := request.length_payload
  have hlength : headerLength + request.payload.length < 256 ^ 4 := by
    rw [headerLength]
    omega
  have hmessages : messages (request.toBytes seq) =
      ([⟨request.type, seq, request.payload⟩], none) := by
    rw [toBytes_eq, ← List.append_nil (envelope ..), messages_of_cut_eq_ok
      (cut_envelope_append request.type_lt hlength hpayload []), messages_nil]
  have hheader : Header.read? (request.toBytes seq) = some ⟨(request.toBytes seq).length,
      request.type, requestFlag ||| request.wish, seq, 0⟩ := by
    rw [toBytes_eq, Header.read?_envelope request.type_lt (BitVec.isLt _) hlength, length_envelope,
      BitVec.ofNat_toNat, BitVec.setWidth_eq]
  have hdrop : (request.toBytes seq).drop headerLength = request.payload := by
    rw [toBytes_eq, drop_envelope]
  refine ⟨?_, ?_, hmessages, hheader, ?_, ?_, ?_⟩
  · rw [toBytes_eq]
    exact fills_envelope hlength
  · rw [toBytes_eq, length_envelope]
    exact (Nat.dvd_add_right (by decide)).2 hpayload
  · have hparts : ofParts? ⟨(request.toBytes seq).length, request.type,
        requestFlag ||| request.wish, seq, 0⟩ request.payload = some request :=
      request.ofParts?_parts rfl rfl
    simp [read?, hheader, hdrop, hparts]
  · rintro index up rfl
    rw [hdrop, read?_payload_setLink]
  · intro flags index bit
    rw [carryOutAll, hmessages]
    exact request.getLsbD_carryOut seq flags index bit

/-- Every request with every number is written as one message that its receiver reads back, so that
no two of them are written alike, and that changes nothing but what is asked for. -/
theorem toBytes_uniquely_readable :
    (∀ (request : Request) (seq : UInt32), request.Carries seq (request.toBytes seq)) ∧
      ∀ (request request' : Request) (seq seq' : UInt32),
        request.toBytes seq = request'.toBytes seq' → request = request' ∧ seq = seq' := by
  refine ⟨carries_toBytes, fun request request' seq seq' h => ?_⟩
  have hread := (request.carries_toBytes seq).read
  rw [h, (request'.carries_toBytes seq').read] at hread
  exact ⟨(Prod.mk.inj (Option.some.inj hread)).1.symm, (Prod.mk.inj (Option.some.inj hread)).2.symm⟩

end Request

end LinkBus.Wire
