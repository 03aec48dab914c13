import LinkBus.Proofs.Wire.Envelope
import LinkBus.Proofs.Wire.Splicing

/-!
# Attributes of unknown types

A message about a link, an address or a route may hold attributes of types that its family does not
define. Such an attribute can be put wherever an attribute can stand: the message, with its length
adjusted, is read as before, and so are all the others of its datagram.
-/

namespace LinkBus.Wire

/-! ## Rows of attributes -/

/-- Some bytes with as many zero bytes behind them as they lack to a length. -/
def padTo (n : Nat) (bytes : List UInt8) : List UInt8 :=
  bytes ++ List.replicate (n - bytes.length) 0

/-- Bytes put in at a place. Up to a place behind the end, what is missing is padding. -/
def insertAt (bytes : List UInt8) (place : Nat) (own : List UInt8) : List UInt8 :=
  padTo place (bytes.take place) ++ own ++ bytes.drop place

@[simp] theorem length_padTo (n : Nat) (bytes : List UInt8) :
    (padTo n bytes).length = max n bytes.length := by
  rw [padTo, List.length_append, List.length_replicate]
  omega

/-- Padding behind a part that is full, or of one behind which nothing stands, is that of what
stands behind it. -/
theorem padTo_add_append {front rest : List UInt8} {n m : Nat}
    (h : front.length = n ∨ front.length ≤ n ∧ rest = []) :
    padTo (n + m) (front ++ rest) = padTo n front ++ padTo m rest := by
  rcases h with rfl | ⟨hle, rfl⟩
  · simp [padTo, Nat.add_sub_add_left]
  · rw [List.append_nil, padTo, padTo, padTo, List.nil_append, List.append_assoc,
      List.length_nil, Nat.sub_zero, List.replicate_append_replicate]
    congr 2
    omega

namespace Attribute

/-- Some bytes are one attribute with its padding. -/
structure Fills (own : List UInt8) : Prop where
  /-- The announced length covers the header. -/
  covers : 4 ≤ field own 0 2
  /-- The bytes end where the next attribute would start. -/
  padded : own.length = align (field own 0 2)

/-- The attribute at the front of some bytes. -/
def ofBytes (own : List UInt8) : Attribute where
  type := field own 2 2 % 0x4000
  value := (own.take (field own 0 2)).drop 4

/-- Where attributes can stand in some bytes: at the front, and behind each attribute that can be
cut off, at the next multiple of four. -/
inductive Place : List UInt8 → Nat → Prop
  | front (bytes : List UInt8) : Place bytes 0
  | behind {bytes rest : List UInt8} {a : Attribute} {place : Nat}
      (hcut : cut? bytes = some (a, rest)) (hrest : Place rest place) :
      Place bytes (align (field bytes 0 2) + place)

variable {bytes own rest : List UInt8} {a : Attribute}

/-- What an attribute that can be cut off is, and what is left. -/
theorem cut?_eq_some_iff :
    cut? bytes = some (a, rest) ↔ 4 ≤ field bytes 0 2 ∧ field bytes 0 2 ≤ bytes.length ∧
      a = ofBytes bytes ∧ rest = bytes.drop (align (field bytes 0 2)) := by
  unfold cut?
  constructor
  · intro h
    split at h
    · cases h
    · simp only at h
      split at h
      · cases h
      · cases h
        exact ⟨by omega, by omega, rfl, rfl⟩
  · rintro ⟨hcovers, hinside, rfl, rfl⟩
    rw [if_neg (by omega)]
    simp only
    rw [if_neg (by omega)]
    rfl

/-- An attribute is read from its own bytes alone: where the same bytes stand, and its padding is
full, it is cut off as well. -/
theorem cut?_append_of_take_eq {front : List UInt8} (hcut : cut? bytes = some (a, rest))
    (hlength : front.length = align (field bytes 0 2))
    (hfront : front.take (field bytes 0 2) = bytes.take (field bytes 0 2)) (more : List UInt8) :
    cut? (front ++ more) = some (a, more) := by
  obtain ⟨hcovers, hinside, rfl, rfl⟩ := cut?_eq_some_iff.1 hcut
  have hle : field bytes 0 2 ≤ front.length := by
    rw [hlength, align]
    omega
  have htake : (front ++ more).take (field bytes 0 2) = bytes.take (field bytes 0 2) := by
    rw [List.take_append_of_le_length hle, hfront]
  have hfield : ∀ offset, offset + 2 ≤ 4 →
      field (front ++ more) offset 2 = field bytes offset 2 :=
    fun offset hoffset => field_eq_of_take_eq htake (by omega)
  refine cut?_eq_some_iff.2 ⟨?_, ?_, ?_, ?_⟩
  · rwa [hfield 0 (by decide)]
  · rw [hfield 0 (by decide), List.length_append]
    omega
  · rw [ofBytes, ofBytes, hfield 0 (by decide), hfield 2 (by decide), htake]
  · rw [hfield 0 (by decide), List.drop_left' hlength]

/-- Reading goes on behind an attribute that can be cut off. -/
theorem readAll?_of_cut? (h : cut? bytes = some (a, rest)) :
    readAll? bytes = (readAll? rest).map (a :: ·) := by
  have hne : ¬ bytes.isEmpty = true := by
    intro hempty
    rw [List.isEmpty_iff.1 hempty] at h
    cases h
  rw [readAll?, if_neg hne]
  split
  · next hnone =>
    rw [h] at hnone
    cases hnone
  · next hcut =>
    rw [h] at hcut
    cases hcut
    rfl

/-- One attribute that fills its bytes is cut off in front of anything. -/
theorem Fills.cut?_append (h : Fills own) (more : List UInt8) :
    cut? (own ++ more) = some (ofBytes own, more) := by
  have hinside : field own 0 2 ≤ own.length := by
    rw [h.padded, align]
    omega
  exact cut?_append_of_take_eq (cut?_eq_some_iff.2 ⟨h.covers, hinside, rfl, rfl⟩) h.padded rfl more

/-- What is put in behind the first attribute is put in among the others. -/
theorem insertAt_behind (hcut : cut? bytes = some (a, rest)) (place : Nat) (own : List UInt8) :
    insertAt bytes (align (field bytes 0 2) + place) own =
      padTo (align (field bytes 0 2)) (bytes.take (align (field bytes 0 2))) ++
        insertAt rest place own := by
  obtain ⟨-, -, -, rfl⟩ := cut?_eq_some_iff.1 hcut
  have hfull : (bytes.take (align (field bytes 0 2))).length = align (field bytes 0 2) ∨
      (bytes.take (align (field bytes 0 2))).length ≤ align (field bytes 0 2) ∧
        (bytes.drop (align (field bytes 0 2))).take place = [] := by
    rcases Nat.le_total (align (field bytes 0 2)) bytes.length with hle | hge
    · exact .inl (List.length_take_of_le hle)
    · refine .inr ⟨List.length_take_le _ _, ?_⟩
      rw [List.drop_eq_nil_of_le hge, List.take_nil]
  rw [insertAt, insertAt, List.take_add, padTo_add_append hfull, List.drop_drop]
  simp only [List.append_assoc]

/-- An attribute that is put in where one can stand is read there among the others. If these cannot
be read, they cannot be read with it. -/
theorem readAll?_insertAt {place : Nat} (hplace : Place bytes place) (hown : Fills own) :
    (readAll? bytes = none ∧ readAll? (insertAt bytes place own) = none) ∨
      ∃ before after, readAll? bytes = some (before ++ after) ∧
        readAll? (insertAt bytes place own) = some (before ++ ofBytes own :: after) := by
  induction hplace with
  | front bytes =>
    have hread : readAll? (insertAt bytes 0 own) = (readAll? bytes).map (ofBytes own :: ·) :=
      readAll?_of_cut? (hown.cut?_append bytes)
    cases hall : readAll? bytes with
    | none => exact .inl ⟨rfl, by rw [hread, hall]; rfl⟩
    | some all => exact .inr ⟨[], all, rfl, by rw [hread, hall]; rfl⟩
  | @behind bytes rest a place hcut _ ih =>
    have hinside := (cut?_eq_some_iff.1 hcut).2.1
    have hround : field bytes 0 2 ≤ align (field bytes 0 2) := by
      rw [align]
      omega
    have hread : readAll? (insertAt bytes (align (field bytes 0 2) + place) own) =
        (readAll? (insertAt rest place own)).map (a :: ·) := by
      rw [insertAt_behind hcut]
      refine readAll?_of_cut? (cut?_append_of_take_eq hcut ?_ ?_ _)
      · rw [length_padTo, List.length_take]
        omega
      · rw [padTo, List.take_append_of_le_length (by rw [List.length_take]; omega), List.take_take,
          Nat.min_eq_left hround]
    rw [hread, readAll?_of_cut? hcut]
    rcases ih with ⟨hnone, hnone'⟩ | ⟨before, after, hsome, hsome'⟩
    · exact .inl ⟨by rw [hnone]; rfl, by rw [hnone']; rfl⟩
    · exact .inr ⟨a :: before, after, by rw [hsome]; rfl, by rw [hsome']; rfl⟩

end Attribute

/-! ## Attributes that say nothing -/

/-- What a message tells of. -/
inductive Topic
  | link
  | address
  | route
  deriving DecidableEq, Repr

namespace Topic

/-- The topic of messages of a type, if they tell of anything. -/
def ofType? : Nat → Option Topic
  | 16 | 17 => some link
  | 20 | 21 => some address
  | 24 | 25 => some route
  | _ => none

/-- The length of what stands in front of the attributes. -/
def fixedLength : Topic → Nat
  | link => 16
  | address => 8
  | route => 12

/-- The last type of attribute that is defined. They are numbered from one. -/
def lastType : Topic → Nat
  | link => 55
  | address => 8
  | route => 26

/-- Whether a type of attribute is defined. -/
def Defines (topic : Topic) (type : Nat) : Prop := 1 ≤ type ∧ type ≤ topic.lastType

instance (topic : Topic) (type : Nat) : Decidable (topic.Defines type) :=
  inferInstanceAs (Decidable (_ ∧ _))

/-- Each topic has two types of messages, one for what is there and one for what is gone. -/
theorem ofType?_eq_some {type : Nat} {topic : Topic} (h : ofType? type = some topic) :
    topic = link ∧ (type = 16 ∨ type = 17) ∨ topic = address ∧ (type = 20 ∨ type = 21) ∨
      topic = route ∧ (type = 24 ∨ type = 25) := by
  unfold ofType? at h
  split at h <;> simp_all

end Topic

section Parts

variable {a : Attribute}

/-- Nothing is taken from an attribute of a type that is not defined for links. -/
theorem LinkPart.ofAttribute?_of_not_defines (h : ¬ Topic.link.Defines a.type) :
    LinkPart.ofAttribute? a = some .other := by
  simp only [Topic.Defines, Topic.lastType] at h
  have hwords : ¬ linkWords.contains a.type = true := by
    simp only [linkWords, List.contains_iff_mem, List.mem_cons, List.not_mem_nil, or_false]
    omega
  unfold LinkPart.ofAttribute?
  split
  case h_12 => rw [if_neg hwords]
  all_goals omega

/-- Nothing is taken from an attribute of a type that is not defined for addresses. -/
theorem AddressPart.ofAttribute?_of_not_defines (h : ¬ Topic.address.Defines a.type) :
    AddressPart.ofAttribute? a = some .other := by
  simp only [Topic.Defines, Topic.lastType] at h
  unfold AddressPart.ofAttribute?
  split
  case h_9 => rfl
  all_goals omega

/-- Nothing is taken from an attribute of a type that is not defined for routes. -/
theorem RoutePart.ofAttribute?_of_not_defines (h : ¬ Topic.route.Defines a.type)
    (family : RouteFamily) (type : Nat) :
    RoutePart.ofAttribute? family type a = some .other := by
  simp only [Topic.Defines, Topic.lastType] at h
  unfold RoutePart.ofAttribute?
  split
  case h_14 => rfl
  all_goals omega

/-- An item that a reading finds nothing in does not count. -/
theorem lastSome_append_cons {α β : Type} {read : α → Option β} {item : α}
    (h : read item = none) (before after : List α) :
    lastSome read (before ++ item :: after) = lastSome read (before ++ after) := by
  simp [lastSome, h]

/-- A part that says nothing changes nothing in what is told of a link. -/
theorem linkReport_append_cons (payload : List UInt8) (before after : List LinkPart) :
    linkReport payload (before ++ .other :: after) = linkReport payload (before ++ after) := by
  simp [linkReport, lastSome_append_cons]

/-- A part that says nothing changes nothing in what is told of an address. -/
theorem addressReport?_append_cons (payload : List UInt8) (before after : List AddressPart) :
    addressReport? payload (before ++ .other :: after) =
      addressReport? payload (before ++ after) := by
  simp [addressReport?, lastSome_append_cons]

/-- A part that says nothing changes nothing in what is told of a route. -/
theorem routeReport_append_cons (family : Family) (payload : List UInt8)
    (before after : List RoutePart) :
    routeReport family payload (before ++ .other :: after) =
      routeReport family payload (before ++ after) := by
  simp [routeReport, lastSome_append_cons]

end Parts

/-! ## Payloads -/

section Payloads

open Attribute

variable {own : List UInt8} {place : Nat}

/-- Where nothing is taken from an attribute, and its part changes nothing, putting it in changes
nothing. -/
theorem bind_parts_insertAt {α β : Type} {bytes : List UInt8} (hplace : Place bytes place)
    (hown : Fills own) {read : Attribute → Option α} {other : α}
    (hother : read (ofBytes own) = some other) {report : List α → β}
    (hreport : ∀ before after, report (before ++ other :: after) = report (before ++ after)) :
    ((readAll? (insertAt bytes place own)).bind fun attributes =>
        (attributes.mapM read).map report) =
      (readAll? bytes).bind fun attributes => (attributes.mapM read).map report := by
  rcases readAll?_insertAt hplace hown with ⟨hnone, hnone'⟩ | ⟨before, after, hsome, hsome'⟩
  · rw [hnone, hnone']
  · rw [hsome, hsome', Option.bind_some, Option.bind_some]
    cases hbefore : before.mapM read <;> cases hafter : after.mapM read <;>
      simp [hbefore, hafter, hother, hreport]

/-- A payload with an attribute put in at a place behind its fixed part. -/
def Topic.insert (topic : Topic) (payload : List UInt8) (place : Nat) (own : List UInt8) :
    List UInt8 :=
  payload.take topic.fixedLength ++ insertAt (payload.drop topic.fixedLength) place own

variable {topic : Topic} {payload : List UInt8}

theorem Topic.drop_insert (h : topic.fixedLength ≤ payload.length) :
    (topic.insert payload place own).drop topic.fixedLength =
      insertAt (payload.drop topic.fixedLength) place own :=
  List.drop_left' (List.length_take_of_le h)

/-- The fields of the fixed part stay as they are. -/
theorem Topic.field_insert (h : topic.fixedLength ≤ payload.length) {offset count : Nat}
    (hinside : offset + count ≤ topic.fixedLength) :
    field (topic.insert payload place own) offset count = field payload offset count :=
  field_eq_of_take_eq (List.take_left' (List.length_take_of_le h)) hinside

theorem Topic.fixedLength_le_length_insert (h : topic.fixedLength ≤ payload.length) :
    topic.fixedLength ≤ (topic.insert payload place own).length := by
  rw [insert, List.length_append, List.length_take_of_le h]
  exact Nat.le_add_right _ _

/-- A link message is read from its fixed part and the parts of its attributes. -/
theorem readLink?_eq (h : Topic.link.fixedLength ≤ payload.length) :
    readLink? payload = (readAll? (payload.drop Topic.link.fixedLength)).bind fun attributes =>
      (attributes.mapM LinkPart.ofAttribute?).map (linkReport payload) := by
  have hlength : ¬ payload.length < 16 := Nat.not_lt.2 h
  simp only [readLink?, if_neg hlength, Option.map_eq_bind]
  rfl

/-- An address message is read from its fixed part and the parts of its attributes. -/
theorem readAddress?_eq (h : Topic.address.fixedLength ≤ payload.length) :
    readAddress? payload =
      (readAll? (payload.drop Topic.address.fixedLength)).bind fun attributes =>
        (attributes.mapM AddressPart.ofAttribute?).map (addressReport? payload) := by
  have hlength : ¬ payload.length < 8 := Nat.not_lt.2 h
  simp only [readAddress?, if_neg hlength, Option.map_eq_bind]
  rfl

/-- A route message is read from its fixed part and the parts of its attributes. -/
theorem readRoute?_eq (h : Topic.route.fixedLength ≤ payload.length) :
    readRoute? payload = (readAll? (payload.drop Topic.route.fixedLength)).bind fun attributes =>
      (attributes.mapM (RoutePart.ofAttribute? (.ofWire (field payload 0 1))
        (field payload 7 1))).map fun parts =>
          (RouteFamily.ofWire (field payload 0 1)).internet?.map fun f =>
            routeReport f payload parts := by
  have hlength : ¬ payload.length < 12 := Nat.not_lt.2 h
  simp only [readRoute?, if_neg hlength, Option.map_eq_bind]
  rfl

/-- An attribute of a type that is not defined for links changes nothing in a link message. -/
theorem readLink?_insert (h : Topic.link.fixedLength ≤ payload.length)
    (hplace : Place (payload.drop Topic.link.fixedLength) place) (hown : Fills own)
    (hunknown : ¬ Topic.link.Defines (ofBytes own).type) :
    readLink? (Topic.link.insert payload place own) = readLink? payload := by
  have hreport : linkReport (Topic.link.insert payload place own) = linkReport payload := by
    funext parts
    simp only [linkReport]
    rw [Topic.field_insert h (by decide), Topic.field_insert h (by decide),
      Topic.field_insert h (by decide), Topic.field_insert h (by decide)]
  rw [readLink?_eq h, readLink?_eq (Topic.fixedLength_le_length_insert h), hreport,
    Topic.drop_insert h]
  exact bind_parts_insertAt hplace hown (LinkPart.ofAttribute?_of_not_defines hunknown)
    (linkReport_append_cons payload)

/-- An attribute of a type that is not defined for addresses changes nothing in an address
message. -/
theorem readAddress?_insert (h : Topic.address.fixedLength ≤ payload.length)
    (hplace : Place (payload.drop Topic.address.fixedLength) place) (hown : Fills own)
    (hunknown : ¬ Topic.address.Defines (ofBytes own).type) :
    readAddress? (Topic.address.insert payload place own) = readAddress? payload := by
  have hreport : addressReport? (Topic.address.insert payload place own) =
      addressReport? payload := by
    funext parts
    simp only [addressReport?]
    rw [Topic.field_insert h (by decide), Topic.field_insert h (by decide),
      Topic.field_insert h (by decide), Topic.field_insert h (by decide)]
  rw [readAddress?_eq h, readAddress?_eq (Topic.fixedLength_le_length_insert h), hreport,
    Topic.drop_insert h]
  exact bind_parts_insertAt hplace hown (AddressPart.ofAttribute?_of_not_defines hunknown)
    (addressReport?_append_cons payload)

/-- An attribute of a type that is not defined for routes changes nothing in a route message. -/
theorem readRoute?_insert (h : Topic.route.fixedLength ≤ payload.length)
    (hplace : Place (payload.drop Topic.route.fixedLength) place) (hown : Fills own)
    (hunknown : ¬ Topic.route.Defines (ofBytes own).type) :
    readRoute? (Topic.route.insert payload place own) = readRoute? payload := by
  have hreport : ∀ family, routeReport family (Topic.route.insert payload place own) =
      routeReport family payload := by
    intro family
    funext parts
    simp only [routeReport]
    rw [Topic.field_insert h (by decide), Topic.field_insert h (by decide),
      Topic.field_insert h (by decide)]
  rw [readRoute?_eq h, readRoute?_eq (Topic.fixedLength_le_length_insert h),
    Topic.drop_insert h, Topic.field_insert h (by decide), Topic.field_insert h (by decide)]
  simp only [hreport]
  refine bind_parts_insertAt hplace hown (RoutePart.ofAttribute?_of_not_defines hunknown _ _)
    fun before after => ?_
  simp only [routeReport_append_cons]

/-- An attribute of a type that is not defined changes nothing in what a message means, whether it
can be read or not. -/
theorem Frame.read?_insert {m : Message} (htopic : Topic.ofType? m.type = some topic)
    (h : topic.fixedLength ≤ m.payload.length)
    (hplace : Place (m.payload.drop topic.fixedLength) place) (hown : Fills own)
    (hunknown : ¬ topic.Defines (ofBytes own).type) :
    Frame.read? { m with payload := topic.insert m.payload place own } = Frame.read? m := by
  obtain ⟨type, seq, payload⟩ := m
  rcases Topic.ofType?_eq_some htopic with ⟨rfl, rfl | rfl⟩ | ⟨rfl, rfl | rfl⟩ | ⟨rfl, rfl | rfl⟩
  · simp only [Frame.read?, readLink?_insert h hplace hown hunknown]
  · simp only [Frame.read?, readLink?_insert h hplace hown hunknown]
  · simp only [Frame.read?, readAddress?_insert h hplace hown hunknown]
  · simp only [Frame.read?, readAddress?_insert h hplace hown hunknown]
  · simp only [Frame.read?, readRoute?_insert h hplace hown hunknown]
  · simp only [Frame.read?, readRoute?_insert h hplace hown hunknown]

end Payloads

/-! ## Messages and datagrams -/

/-- A message with an attribute put in at a place of its payload. The length in the header is
adjusted and all else in it stays. -/
def Topic.insertInto (topic : Topic) (bytes : List UInt8) (place : Nat) (own : List UInt8) :
    List UInt8 :=
  let payload := topic.insert (bytes.drop headerLength) place own
  leBytes 4 (headerLength + payload.length) ++ ((bytes.take headerLength).drop 4 ++ payload)

section Messages

variable {topic : Topic} {bytes own : List UInt8} {place : Nat}

theorem Topic.length_insertInto (h : headerLength ≤ bytes.length) :
    (topic.insertInto bytes place own).length =
      headerLength + (topic.insert (bytes.drop headerLength) place own).length := by
  have hheader : ((bytes.take headerLength).drop 4).length = headerLength - 4 := by
    rw [List.length_drop, List.length_take_of_le h]
  rw [insertInto, List.length_append, List.length_append, length_leBytes, hheader, headerLength]
  omega

theorem Topic.drop_insertInto (h : headerLength ≤ bytes.length) :
    (topic.insertInto bytes place own).drop headerLength =
      topic.insert (bytes.drop headerLength) place own := by
  rw [insertInto, ← List.append_assoc]
  refine List.drop_left' ?_
  rw [List.length_append, length_leBytes, List.length_drop, List.length_take_of_le h, headerLength]

/-- What stands in the header behind the length stays as it is. -/
theorem Topic.field_insertInto (h : headerLength ≤ bytes.length) {offset count : Nat}
    (hinside : 4 + offset + count ≤ headerLength) :
    field (topic.insertInto bytes place own) (4 + offset) count =
      field bytes (4 + offset) count := by
  have hlength : ((bytes.take headerLength).drop 4).length = headerLength - 4 := by
    rw [List.length_drop, List.length_take_of_le h]
  rw [insertInto, field_append_right (length_leBytes 4 _),
    ← field_take (by omega : offset + count ≤ headerLength - 4), List.take_left' hlength,
    field_drop, field_take hinside]

/-- A message with an attribute put in is a message, if its length fits into the header. -/
theorem Topic.fills_insertInto (h : headerLength ≤ bytes.length)
    (hroom : (topic.insertInto bytes place own).length < 2 ^ 32) :
    Message.Fills (topic.insertInto bytes place own) := by
  have hlength : (topic.insertInto bytes place own).length = _ := topic.length_insertInto h
  refine ⟨?_, ?_⟩
  · rw [hlength]
    exact Nat.le_add_right _ _
  · rw [hlength] at hroom ⊢
    exact field_leBytes_append hroom _

/-- An attribute that is put in changes the payload alone. -/
theorem Topic.ofBytes_insertInto (h : headerLength ≤ bytes.length) :
    Message.ofBytes (topic.insertInto bytes place own) =
      { Message.ofBytes bytes with
        payload := topic.insert (bytes.drop headerLength) place own } := by
  rw [Message.ofBytes, Message.ofBytes, drop_insertInto h,
    show (4 : Nat) = 4 + 0 from rfl, show (8 : Nat) = 4 + 4 from rfl,
    field_insertInto h (by decide), field_insertInto h (by decide)]

/-- Attributes of unknown types never matter. One can be put in wherever an attribute can stand in a
message about a link, an address or a route. With its length adjusted the message is whole again and
means what it meant before. In a datagram, where the same messages stand in front of it and behind
its padding, all is read as before. -/
theorem unknown_attribute_ignored (htopic : Topic.ofType? (field bytes 4 2) = some topic)
    (hbytes : Message.Fills bytes) (hfixed : headerLength + topic.fixedLength ≤ bytes.length)
    (hplace : Attribute.Place (bytes.drop (headerLength + topic.fixedLength)) place)
    (hown : Attribute.Fills own) (hunknown : ¬ topic.Defines (Attribute.ofBytes own).type)
    (hroom : (topic.insertInto bytes place own).length < 2 ^ 32) :
    let longer := topic.insertInto bytes place own
    Message.Fills longer ∧
      Frame.ofMessage (.ofBytes longer) = Frame.ofMessage (.ofBytes bytes) ∧
      ∀ before behind behind' : List UInt8, framingFails before = false → 4 ∣ before.length →
        behind'.drop (padding longer.length) = behind.drop (padding bytes.length) →
          readFrames (before ++ (longer ++ behind')) = readFrames (before ++ (bytes ++ behind)) ∧
            readEvents (before ++ (longer ++ behind')) =
              readEvents (before ++ (bytes ++ behind)) := by
  intro longer
  have hlonger : Message.Fills longer := topic.fills_insertInto hbytes.header hroom
  have hframe : Frame.ofMessage (.ofBytes longer) = Frame.ofMessage (.ofBytes bytes) := by
    have hlength : topic.fixedLength ≤ (bytes.drop headerLength).length := by
      rw [List.length_drop]
      omega
    have hread : Frame.read? (.ofBytes longer) = Frame.read? (.ofBytes bytes) := by
      rw [topic.ofBytes_insertInto hbytes.header]
      exact Frame.read?_insert (m := .ofBytes bytes) htopic hlength
        (List.drop_drop ▸ hplace) hown hunknown
    have htype : (Message.ofBytes longer).type = (Message.ofBytes bytes).type := by
      rw [topic.ofBytes_insertInto hbytes.header]
    rw [Frame.ofMessage, Frame.ofMessage, hread, htype]
  refine ⟨hlonger, hframe, fun before behind behind' hframed haligned hbehind => ?_⟩
  have hnone : (messages before).2 = none := by
    rwa [framingFails, Option.isSome_eq_false_iff, Option.isNone_iff_eq_none] at hframed
  have hshort := hbytes.messages_append hnone haligned behind
  have hlong := hlonger.messages_append hnone haligned behind'
  rw [hbehind] at hlong
  have hframes : readFrames (before ++ (longer ++ behind')) =
      readFrames (before ++ (bytes ++ behind)) := by
    simp only [readFrames, hshort, hlong, List.map_append, List.map_cons, hframe]
  refine ⟨hframes, ?_⟩
  rw [readEvents, readEvents, hframes, hshort, hlong]

end Messages

/-- A message about a link with two attributes. The padding of the second one is missing. -/
def linkWithName : List UInt8 :=
  [49, 0, 0, 0, 16, 0, 0, 0, 7, 0, 0, 0, 0, 0, 0, 0,
    0, 0, 1, 0, 2, 0, 0, 0, 3, 0, 1, 0, 0, 0, 0, 0,
    8, 0, 4, 0, 220, 5, 0, 0,
    9, 0, 3, 0, 101, 116, 104, 48, 0]

/-- An attribute of type 100 that is marked as nested, with one byte and some padding. -/
def strangeAttribute : List UInt8 := [5, 0, 100, 128, 255, 1, 2, 3]

/-- The attribute can stand behind the name of the link. -/
theorem unknown_attribute_ignored_behindName :
    Topic.ofType? (field linkWithName 4 2) = some .link ∧ Message.Fills linkWithName ∧
      headerLength + Topic.link.fixedLength ≤ linkWithName.length ∧
      Attribute.Place (linkWithName.drop (headerLength + Topic.link.fixedLength)) 20 ∧
      Attribute.Fills strangeAttribute ∧
      ¬ Topic.link.Defines (Attribute.ofBytes strangeAttribute).type ∧
      (Topic.link.insertInto linkWithName 20 strangeAttribute).length < 2 ^ 32 ∧
      Topic.link.insertInto linkWithName 20 strangeAttribute =
        [60, 0, 0, 0] ++ linkWithName.drop 4 ++ [0, 0, 0] ++ strangeAttribute ∧
      (readEvents linkWithName).toOption = some [.newLink
        { index := 2, layerType := 1, flags := 65539, name := some "eth0", mtu := some 1500 }] ∧
      readEvents (Topic.link.insertInto linkWithName 20 strangeAttribute) =
        readEvents linkWithName := by
  have htopic : Topic.ofType? (field linkWithName 4 2) = some .link := rfl
  have hbytes : Message.Fills linkWithName := ⟨by decide, by decide⟩
  have hfixed : headerLength + Topic.link.fixedLength ≤ linkWithName.length := by decide
  have hmtu : Attribute.cut? (linkWithName.drop (headerLength + Topic.link.fixedLength)) =
      some (⟨4, [220, 5, 0, 0]⟩, linkWithName.drop 40) := rfl
  have hname : Attribute.cut? (linkWithName.drop 40) =
      some (⟨3, [101, 116, 104, 48, 0]⟩, []) := rfl
  have hplace : Attribute.Place (linkWithName.drop (headerLength + Topic.link.fixedLength)) 20 :=
    .behind hmtu (.behind hname (.front []))
  have hown : Attribute.Fills strangeAttribute := ⟨by decide, by decide⟩
  have hunknown : ¬ Topic.link.Defines (Attribute.ofBytes strangeAttribute).type := by decide
  have hroom : (Topic.link.insertInto linkWithName 20 strangeAttribute).length < 2 ^ 32 := by
    decide
  refine ⟨htopic, hbytes, hfixed, hplace, hown, hunknown, hroom, by decide, by decide +kernel, ?_⟩
  have hread := (unknown_attribute_ignored htopic hbytes hfixed hplace hown hunknown hroom).2.2
    [] [] [] (by rw [framingFails, messages_nil]; rfl) (Nat.dvd_zero 4) rfl
  simpa using hread.2

end LinkBus.Wire
