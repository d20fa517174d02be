/-
# What the rows of a capture say

The packets that the reader of captures accepts, told by their bytes and not by its
checks, and the fields that it takes from the twelve bytes of their RTP header. A file
that was written from records is read as the rows of the accepted ones, whatever its
byte order and however it arrives.
-/

import Raydio.Capture.Chunks

namespace Raydio.Capture

open Foundation Foundation.Decoder

/-- The length that the UDP header of a packet gives. -/
def udpLength (packet : List UInt8) : ℕ :=
  ByteOrder.big.number (slice packet 38 40)

/-- The bytes of a packet after the headers of Ethernet, IPv4 and UDP. -/
def rtpBytes (packet : List UInt8) : List UInt8 :=
  packet.drop 42

/-- The octet at a place of some bytes. -/
def octet (bytes : List UInt8) (place : ℕ) : ℕ :=
  (bytes.getD place 0).toNat

/-- A bit of a number is set. -/
def bit (n place : ℕ) : Bool :=
  n / 2 ^ place % 2 = 1

/-- What the twelve bytes of an RTP header say, with the length that UDP gives. -/
def headerOf (udp : ℕ) (bytes : List UInt8) : RtpHeader where
  sequence := ByteOrder.big.number (slice bytes 2 4)
  timestamp := ByteOrder.big.number (slice bytes 4 8)
  ssrc := ByteOrder.big.number (slice bytes 8 12)
  udpBytes := udp
  marker := bit (octet bytes 1) 7
  extension := bit (octet bytes 0) 4
  csrcs := octet bytes 0 % 16

/-- A packet of the one layout that is accepted: Ethernet with an IPv4 header without
options, a datagram of UDP that is no fragment, and the RTP header of the stream. -/
@[mk_iff]
structure Accepted (ssrc payloadType : ℕ) (packet : List UInt8) : Prop where
  size : packet.length = 54
  ipv4 : slice packet 12 14 = [0x08, 0x00]
  plain : packet.getD 14 0 = 0x45
  udp : packet.getD 23 0 = 17
  whole : ByteOrder.big.number (slice packet 20 22) % 2 ^ 14 = 0
  room : 20 ≤ udpLength packet
  version : octet (rtpBytes packet) 0 / 64 = 2
  payload : octet (rtpBytes packet) 1 % 128 = payloadType
  stream : ByteOrder.big.number (slice (rtpBytes packet) 8 12) = ssrc

variable {ssrc payloadType : ℕ}

instance : DecidablePred (Accepted ssrc payloadType) := fun packet =>
  decidable_of_iff _ (accepted_iff ssrc payloadType packet).symm

/-- An accepted packet ends with its RTP header. -/
theorem Accepted.exists_rtp {packet : List UInt8} (h : Accepted ssrc payloadType packet) :
    ∃ lead rtp, packet = lead ++ rtp ∧ lead.length = 42 ∧ rtp.length = 12 ∧
      rtpBytes packet = rtp := by
  refine ⟨packet.take 42, packet.drop 42, (List.take_append_drop 42 packet).symm, ?_, ?_, rfl⟩
  · rw [List.length_take, h.size]
    rfl
  · rw [List.length_drop, h.size]

theorem and_bit (n place : ℕ) : decide (n &&& 2 ^ place ≠ 0) = bit n place := by
  rw [bit, Nat.and_two_pow, Nat.testBit_eq_decide_div_mod_eq]
  by_cases hset : n / 2 ^ place % 2 = 1
  · simp [hset]
  · simp [hset]

theorem slice_eq (bytes : List UInt8) (start stop : ℕ) :
    slice bytes start stop = (bytes.drop start).take (stop - start) := by
  rw [slice, List.drop_take]

/-- The fields of the RTP header by their places. -/
theorem unpack_rtp (bytes : List UInt8) :
    ByteOrder.big.unpack [1, 1, 2, 4, 4] bytes
      = (ByteOrder.big.number (slice bytes 0 1), ByteOrder.big.number (slice bytes 1 2),
          ByteOrder.big.number (slice bytes 2 4), ByteOrder.big.number (slice bytes 4 8),
          ByteOrder.big.number (slice bytes 8 12), ()) := by
  simp only [ByteOrder.unpack, slice_eq, List.drop_drop, List.drop_zero, Nat.sub_zero,
    Nat.reduceAdd, Nat.reduceSub]

/-- The checks of `rtp_header` that come after those of the layout, in numbers. -/
theorem rtpHeader_of_size {packet : List UInt8}
    (hlayout : ¬(packet.length ≠ 54 ∨ slice packet 12 14 ≠ [0x08, 0x00]
      ∨ packet.getD 14 0 ≠ 0x45 ∨ packet.getD 23 0 ≠ 17)) (hsize : packet.length = 54) :
    rtpHeader packet ssrc payloadType
      = if ByteOrder.big.number (slice packet 20 22) % 2 ^ 14 ≠ 0 then none
        else if udpLength packet < 20 then none
        else if octet (rtpBytes packet) 0 / 64 ≠ 2
            ∨ octet (rtpBytes packet) 1 % 128 ≠ payloadType then none
        else if ByteOrder.big.number (slice (rtpBytes packet) 8 12) ≠ ssrc then none
        else some (headerOf (udpLength packet) (rtpBytes packet)) := by
  have hrtp : slice packet 42 54 = rtpBytes packet := by
    rw [slice, List.take_of_length_le hsize.le, rtpBytes]
  have hfragment (n : ℕ) : n &&& 0x3fff = n % 2 ^ 14 := Nat.and_two_pow_sub_one_eq_mod n 14
  have hpayload (n : ℕ) : n &&& 0x7f = n % 128 := Nat.and_two_pow_sub_one_eq_mod n 7
  have hsources (n : ℕ) : n &&& 15 = n % 16 := Nat.and_two_pow_sub_one_eq_mod n 4
  have hversion (n : ℕ) : n >>> 6 = n / 64 := Nat.shiftRight_eq_div_pow n 6
  have hmarker (n : ℕ) : decide (n &&& 0x80 ≠ 0) = bit n 7 := and_bit n 7
  have hextension (n : ℕ) : decide (n &&& 0x10 ≠ 0) = bit n 4 := and_bit n 4
  rw [rtpHeader, if_neg hlayout, hrtp]
  dsimp only
  rw [unpack_rtp]
  dsimp only
  rw [hfragment, hpayload, hsources, hversion, hmarker, hextension]
  rfl

/-- The checks of `rtp_header` accept what is described, and it takes what the header
of an accepted packet says. -/
theorem rtpHeader_eq (packet : List UInt8) :
    rtpHeader packet ssrc payloadType
      = if Accepted ssrc payloadType packet then
          some (headerOf (udpLength packet) (rtpBytes packet))
        else
          none := by
  by_cases hlayout : packet.length ≠ 54 ∨ slice packet 12 14 ≠ [0x08, 0x00]
      ∨ packet.getD 14 0 ≠ 0x45 ∨ packet.getD 23 0 ≠ 17
  · rw [rtpHeader, if_pos hlayout, if_neg]
    intro h
    obtain hsize | hipv4 | hplain | hudp := hlayout
    · exact hsize h.size
    · exact hipv4 h.ipv4
    · exact hplain h.plain
    · exact hudp h.udp
  · have hchecks := hlayout
    push Not at hchecks
    obtain ⟨hsize, hipv4, hplain, hudp⟩ := hchecks
    rw [rtpHeader_of_size hlayout hsize]
    -- one case for each check that is left, in the order in which they are made
    by_cases hwhole : ByteOrder.big.number (slice packet 20 22) % 2 ^ 14 = 0
    · rw [if_neg (not_not_intro hwhole)]
      by_cases hroom : udpLength packet < 20
      · rw [if_pos hroom, if_neg fun h => absurd h.room (not_le.mpr hroom)]
      · rw [if_neg hroom]
        by_cases hkind : octet (rtpBytes packet) 0 / 64 ≠ 2
            ∨ octet (rtpBytes packet) 1 % 128 ≠ payloadType
        · rw [if_pos hkind, if_neg]
          intro h
          obtain hversion | hpayload := hkind
          · exact hversion h.version
          · exact hpayload h.payload
        · rw [if_neg hkind]
          push Not at hkind
          by_cases hstream : ByteOrder.big.number (slice (rtpBytes packet) 8 12) = ssrc
          · have haccepted : Accepted ssrc payloadType packet :=
              ⟨hsize, hipv4, hplain, hudp, hwhole, not_lt.mp hroom, hkind.1, hkind.2, hstream⟩
            rw [if_pos haccepted, if_neg (not_not_intro hstream)]
          · rw [if_pos hstream, if_neg fun h => hstream h.stream]
    · rw [if_pos hwhole, if_neg fun h => hwhole h.whole]

/-- The row of a record with an accepted packet: when the packet came, its bytes on the
wire, and what its last twelve bytes say. -/
def Record.told (record : Record) : Row :=
  record.row (headerOf (udpLength record.data) (rtpBytes record.data))

theorem rowOf_eq (record : Record) :
    PcapHeaders.rowOf ssrc payloadType record.seconds.toNat record.micros.toNat
        record.original.toNat record.data
      = if Accepted ssrc payloadType record.data then some record.told else none := by
  rw [PcapHeaders.rowOf, rtpHeader_eq]
  split <;> rfl

/-- A record as tcpdump writes it: it has at most the bytes that are asked for, its
microseconds are less than a second, and the packet had at least the bytes that were
kept of it. -/
structure Record.Bounded (record : Record) : Prop where
  size : record.data.length ≤ 54
  micros : record.micros.toNat < 1000000
  original : record.data.length ≤ record.original.toNat

section encoding

variable {order : ByteOrder}

theorem uint32_lt (n : UInt32) : n.toNat < 256 ^ 4 :=
  n.toNat_lt

/-- The reader finds a bounded record at the front of what starts with it. -/
theorem look_encode {record : Record} (h : record.Bounded) (later : List UInt8) :
    (PcapHeaders.decoder ssrc payloadType).look (some order) (record.encode order ++ later)
      = .item (record.encode order).length
          [if Accepted ssrc payloadType record.data then some record.told else none]
          (some order) := by
  have hsize : record.data.length ≤ 54 := h.size
  have hfit : ByteOrder.Fit PcapHeaders.recordWidths
      (record.seconds.toNat, record.micros.toNat, record.data.length, record.original.toNat, ()) :=
    ⟨uint32_lt _, uint32_lt _, by norm_num; omega, uint32_lt _, trivial⟩
  have hvalid : ¬(record.data.length > 54 ∨ record.micros.toNat ≥ 1000000
      ∨ record.original.toNat < record.data.length) := by
    have hmicros := h.micros
    have horiginal := h.original
    omega
  rw [Record.encode, List.append_assoc, ← rowOf_eq]
  set head := order.pack PcapHeaders.recordWidths
    (record.seconds.toNat, record.micros.toNat, record.data.length, record.original.toNat, ())
    with hhead
  have hlength : head.length = 16 := ByteOrder.length_pack order _ _
  have hfields : order.unpack PcapHeaders.recordWidths ((head ++ (record.data ++ later)).take 16)
      = (record.seconds.toNat, record.micros.toNat, record.data.length,
          record.original.toNat, ()) := by
    rw [List.take_left' hlength, ← List.append_nil head]
    exact ByteOrder.unpack_pack order hfit []
  have hpacket : slice (head ++ (record.data ++ later)) 16 (16 + record.data.length)
      = record.data := by
    rw [slice_eq, List.drop_left' hlength, Nat.add_sub_cancel_left, List.take_left]
  have hwhole : (head ++ (record.data ++ later)).length
      = 16 + record.data.length + later.length := by
    rw [List.length_append, List.length_append, hlength, Nat.add_assoc]
  rw [List.length_append, hlength]
  refine (PcapHeaders.look_record (by omega) hfields hvalid (by omega)).trans ?_
  rw [hpacket]

/-- The reader waits on nothing. -/
theorem look_nil : (PcapHeaders.decoder ssrc payloadType).look (some order) [] = .more := by
  change PcapHeaders.look ssrc payloadType (some order) [] = .more
  exact PcapHeaders.look_short (by decide)

/-- Records that stand one after the other are read to their end. -/
theorem drain_records {records : List Record} (h : ∀ record ∈ records, record.Bounded) :
    (PcapHeaders.decoder ssrc payloadType).drain (some order)
        (records.flatMap (Record.encode order))
      = .ok (records.map fun record =>
          if Accepted ssrc payloadType record.data then some record.told else none,
          some order, []) := by
  induction records with
  | nil => exact drain_more look_nil
  | cons record records ih =>
      rw [List.flatMap_cons, drain_item (look_encode (h record List.mem_cons_self) _),
        List.drop_left, ih fun later hlater => h later (List.mem_cons_of_mem _ hlater)]
      rfl

theorem fit_fileFields (zone sigfigs : UInt32) :
    ByteOrder.Fit PcapHeaders.fileWidths (fileFields zone sigfigs) := by
  simp only [fileFields, ByteOrder.Fit, uint32_lt, and_true, true_and]
  decide

/-- The file starts with its magic number, which way round tells the byte order. -/
theorem take_fileFields (zone sigfigs : UInt32) :
    (order.pack PcapHeaders.fileWidths (fileFields zone sigfigs)).take 4
      = order.octets 4 0xa1b2c3d4 :=
  List.take_left' (ByteOrder.length_octets order 4 0xa1b2c3d4)

/-- The header of a file declares the byte order that it is written in. -/
theorem fileOrder_encode (zone sigfigs : UInt32) (records : List Record) :
    PcapHeaders.fileOrder (encode order zone sigfigs records) = .ok order := by
  have hlength : (order.pack PcapHeaders.fileWidths (fileFields zone sigfigs)).length = 24 :=
    ByteOrder.length_pack order _ _
  have hfields := ByteOrder.unpack_pack order (fit_fileFields zone sigfigs) []
  rw [List.append_nil] at hfields
  rw [encode, PcapHeaders.fileOrder_append hlength.ge, PcapHeaders.fileOrder]
  have hknown : ¬(order.octets 4 0xa1b2c3d4 ≠ [0xd4, 0xc3, 0xb2, 0xa1]
      ∧ order.octets 4 0xa1b2c3d4 ≠ [0xa1, 0xb2, 0xc3, 0xd4]) := by
    cases order <;> decide
  have hendian : (if order.octets 4 0xa1b2c3d4 = [0xd4, 0xc3, 0xb2, 0xa1] then
      ByteOrder.little else ByteOrder.big) = order := by
    cases order <;> decide
  dsimp only
  rw [take_fileFields, if_neg hknown, hendian, List.take_of_length_le hlength.le, hfields]
  exact if_neg (not_not_intro rfl)

/-- A file of bounded records is read to its end. -/
theorem drain_encode (zone sigfigs : UInt32) {records : List Record}
    (h : ∀ record ∈ records, record.Bounded) :
    (PcapHeaders.decoder ssrc payloadType).drain none (encode order zone sigfigs records)
      = .ok (records.map fun record =>
          if Accepted ssrc payloadType record.data then some record.told else none,
          some order, []) := by
  have hlength : (order.pack PcapHeaders.fileWidths (fileFields zone sigfigs)).length = 24 :=
    ByteOrder.length_pack order _ _
  have hlook : (PcapHeaders.decoder ssrc payloadType).look none (encode order zone sigfigs records)
      = .item 24 [] (some order) := by
    have hlong : ¬(encode order zone sigfigs records).length < 24 := by
      rw [encode, List.length_append, hlength]
      omega
    change PcapHeaders.look ssrc payloadType none (encode order zone sigfigs records) = _
    rw [PcapHeaders.look, if_neg hlong, fileOrder_encode]
  rw [drain_item hlook, after_nil, encode, List.drop_left' hlength, drain_records h]

end encoding

/-- A reader that has been fed nothing waits. -/
theorem init_waits (ssrc payloadType : ℕ) :
    (PcapHeaders.init ssrc payloadType).stream.look none [] = .more :=
  rfl

/-- Outputs that are there or not are told as those that are there. -/
theorem told_ite {α : Type} (records : List α) (accepted : α → Prop) [DecidablePred accepted]
    (row : α → Row) :
    (records.map fun record => if accepted record then some (row record) else none).reduceOption
        = (records.filter accepted).map row
      ∧ (records.map fun record => if accepted record then some (row record) else none).count none
        = records.countP fun record => ¬accepted record := by
  induction records with
  | nil => exact ⟨rfl, rfl⟩
  | cons record records ih =>
      by_cases haccepted : accepted record
      · simp [haccepted, ih]
      · simp [haccepted, ih]

/-- What a new reader tells of records that were all read. -/
theorem told_records (order : ByteOrder) (records : List Record) :
    (PcapHeaders.init ssrc payloadType).told
        (records.map fun record =>
          if Accepted ssrc payloadType record.data then some record.told else none,
          some order, [])
      = ((records.filter fun record => Accepted ssrc payloadType record.data).map Record.told,
          { ssrc := ssrc
            payloadType := payloadType
            buffer := []
            endian := some order
            rejected := records.countP fun record =>
              ¬Accepted ssrc payloadType record.data }) := by
  obtain ⟨hrows, hrejected⟩ := told_ite records
    (fun record => Accepted ssrc payloadType record.data) Record.told
  rw [PcapHeaders.told, hrows, hrejected, PcapHeaders.init, Nat.zero_add]

/-- A capture does not depend on how it was cut into chunks, and one of bounded records
is read as the rows of the accepted ones: what a row says of a packet is when it came,
its bytes on the wire, the length that UDP gives and the twelve bytes of its RTP
header. -/
theorem feedAll_chunks (ssrc payloadType : ℕ) :
    (∀ chunks chunks' : List (List UInt8), (∀ chunk ∈ chunks, chunk.length ≤ chunkLimit) →
      (∀ chunk ∈ chunks', chunk.length ≤ chunkLimit) → chunks.flatten = chunks'.flatten →
        (PcapHeaders.init ssrc payloadType).feedAll chunks
          = (PcapHeaders.init ssrc payloadType).feedAll chunks')
      ∧ ∀ (order : ByteOrder) (zone sigfigs : UInt32) (records : List Record)
          (chunks : List (List UInt8)), (∀ record ∈ records, record.Bounded) →
        (∀ chunk ∈ chunks, chunk.length ≤ chunkLimit) →
        chunks.flatten = encode order zone sigfigs records →
          (PcapHeaders.init ssrc payloadType).feedAll chunks
              = .ok
                  ((records.filter fun record =>
                      Accepted ssrc payloadType record.data).map Record.told,
                    { ssrc := ssrc
                      payloadType := payloadType
                      buffer := []
                      endian := some order
                      rejected := records.countP fun record =>
                        ¬Accepted ssrc payloadType record.data })
            ∧ ∀ record ∈ records, Accepted ssrc payloadType record.data →
                ∃ lead rtp, record.data = lead ++ rtp ∧ lead.length = 42 ∧ rtp.length = 12
                  ∧ record.told = record.row (headerOf (udpLength record.data) rtp) := by
  have hwaits := init_waits ssrc payloadType
  constructor
  · intro chunks chunks' hsize hsize' hflatten
    rw [PcapHeaders.feedAll_eq _ hwaits hsize, PcapHeaders.feedAll_eq _ hwaits hsize', hflatten]
  · intro order zone sigfigs records chunks hbounded hsize hflatten
    constructor
    · rw [PcapHeaders.feedAll_eq _ hwaits hsize, hflatten]
      change ((PcapHeaders.decoder ssrc payloadType).drain none
        (encode order zone sigfigs records)).map _ = _
      rw [drain_encode zone sigfigs hbounded]
      exact congrArg Except.ok (told_records order records)
    · intro record _ haccepted
      obtain ⟨lead, rtp, hdata, hlead, hrtp, hends⟩ := haccepted.exists_rtp
      exact ⟨lead, rtp, hdata, hlead, hrtp, by rw [Record.told, hends]⟩

/-- A packet of the stream with the synchronization source 7. -/
def opusPacket : List UInt8 :=
  List.replicate 12 0 ++ [0x08, 0x00, 0x45] ++ List.replicate 8 0 ++ [17]
    ++ List.replicate 14 0 ++ [1, 4, 0, 0]
    ++ [0x90, 120, 0xff, 0xff, 0xff, 0xff, 0xfc, 0x40, 0, 0, 0, 7]

/-- A record of that packet, which had so many bytes on the wire. -/
def opusRecord (original : UInt32) : Record where
  seconds := 100
  micros := 123456
  original := original
  data := opusPacket

theorem feedAll_chunks_opusRecord :
    (PcapHeaders.init 7 120).feedAll ((encode .little 0 0 [opusRecord 254]).map fun byte => [byte])
        = (PcapHeaders.init 7 120).feedAll [encode .little 0 0 [opusRecord 254]]
      ∧ (PcapHeaders.init 7 120).feedAll [encode .big 0 0 [opusRecord 254]]
        = .ok ([(opusRecord 254).told],
            { ssrc := 7, payloadType := 120, endian := some .big }) := by
  have hbounded : (opusRecord 254).Bounded := ⟨by decide, by decide, by decide⟩
  constructor
  · exact (feedAll_chunks 7 120).1 _ _ (by decide +kernel) (by decide +kernel) (by decide +kernel)
  · have hread := ((feedAll_chunks 7 120).2 .big 0 0 [opusRecord 254]
      [encode .big 0 0 [opusRecord 254]] (List.forall_mem_singleton.mpr hbounded)
      (by decide +kernel) (List.append_nil _)).1
    exact hread.trans (by decide +kernel)

/-- A record of which more bytes were kept than the packet had is not read. -/
theorem feedAll_opusRecord_cut :
    (opusRecord 53).data.length ≤ 54 ∧ (opusRecord 53).micros.toNat < 1000000
      ∧ Accepted 7 120 (opusRecord 53).data
      ∧ (PcapHeaders.init 7 120).feedAll [encode .little 0 0 [opusRecord 53]]
        = .error "Invalid bounded capture record" := by
  decide +kernel

end Raydio.Capture
