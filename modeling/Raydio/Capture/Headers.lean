/-
# Headers out of a packet capture

The reader of the capture that the benchmarks take of one RTP stream. It is fed the
capture file of tcpdump as it arrives, keeps the bytes that do not make a whole record
yet, and gives a row for each packet that has the one layout it accepts: Ethernet,
IPv4 without options, UDP and the twelve bytes of the RTP header.
-/

import Raydio.Foundation.Octets

namespace Raydio.Capture

open Foundation

/-- `bytes[start:stop]`. -/
def slice (bytes : List UInt8) (start stop : ℕ) : List UInt8 :=
  (bytes.take stop).drop start

/-- What `rtp_header` returns of a packet. -/
structure RtpHeader where
  sequence : ℕ
  timestamp : ℕ
  ssrc : ℕ
  udpBytes : ℕ
  marker : Bool
  extension : Bool
  csrcs : ℕ
  deriving DecidableEq, Repr

/-- `rtp_header`. -/
def rtpHeader (packet : List UInt8) (ssrc payloadType : ℕ) : Option RtpHeader :=
  if packet.length ≠ 54 ∨ slice packet 12 14 ≠ [0x08, 0x00] ∨ packet.getD 14 0 ≠ 0x45
      ∨ packet.getD 23 0 ≠ 17 then
    none
  -- IP fragments cannot be interpreted as an independent RTP packet.
  else if ByteOrder.big.number (slice packet 20 22) &&& 0x3fff ≠ 0 then
    none
  else
    let udp := ByteOrder.big.number (slice packet 38 40)
    if udp < 20 then
      none
    else
      let header := slice packet 42 54
      let first := (header.getD 0 0).toNat
      let second := (header.getD 1 0).toNat
      if first >>> 6 ≠ 2 ∨ second &&& 0x7f ≠ payloadType then
        none
      else
        let (_, _, sequence, timestamp, identity, _) :=
          ByteOrder.big.unpack [1, 1, 2, 4, 4] header
        if identity ≠ ssrc then
          none
        else
          some
            { sequence := sequence
              timestamp := timestamp
              ssrc := identity
              udpBytes := udp
              marker := second &&& 0x80 ≠ 0
              extension := first &&& 0x10 ≠ 0
              csrcs := first &&& 15 }

/-- A row of the capture: when the packet came, its bytes on the wire, its header. -/
structure Row where
  unixMicros : ℕ
  wireBytes : ℕ
  header : RtpHeader
  deriving DecidableEq, Repr

/-- `PcapHeaders`, as `__init__` leaves it when only the stream is given. -/
structure PcapHeaders where
  buffer : List UInt8 := []
  endian : Option ByteOrder := none
  ssrc : ℕ
  payloadType : ℕ := 120
  rejected : ℕ := 0
  deriving DecidableEq, Repr

namespace PcapHeaders

/-- `PcapHeaders(ssrc, payload_type)`. -/
def init (ssrc payloadType : ℕ) : PcapHeaders where
  ssrc := ssrc
  payloadType := payloadType

/-- The widths of the header of a capture file, `IHHIIII`. -/
abbrev fileWidths : List ℕ := [4, 2, 2, 4, 4, 4, 4]

/-- The widths of the header of a record, `IIII`. -/
abbrev recordWidths : List ℕ := [4, 4, 4, 4]

/-- The byte order that the header of the file declares, when it is the header of a
capture of the kind that is read. -/
def fileOrder (buffer : List UInt8) : Except String ByteOrder :=
  let magic := buffer.take 4
  if magic ≠ [0xd4, 0xc3, 0xb2, 0xa1] ∧ magic ≠ [0xa1, 0xb2, 0xc3, 0xd4] then
    .error "Expected microsecond pcap"
  else
    let endian := if magic = [0xd4, 0xc3, 0xb2, 0xa1] then ByteOrder.little else ByteOrder.big
    let (_, major, minor, _, _, snaplen, linktype, _) :=
      endian.unpack fileWidths (buffer.take 24)
    if (major, minor, snaplen, linktype) ≠ (2, 4, 54, 1) then
      .error "Expected 54-byte Ethernet capture"
    else
      .ok endian

/-- The loop of `feed` over the records that are in the buffer. Every round takes some
of the buffer, so that as many rounds as it has bytes are enough. -/
def readRecords (endian : ByteOrder) :
    ℕ → PcapHeaders → List Row → Except String (List Row × PcapHeaders)
  | 0, parser, rows => .ok (rows, parser)
  | rounds + 1, parser, rows =>
      if 16 ≤ parser.buffer.length then
        let (seconds, micros, captured, original, _) :=
          endian.unpack recordWidths (parser.buffer.take 16)
        if captured > 54 ∨ micros ≥ 1000000 ∨ original < captured then
          .error "Invalid bounded capture record"
        else if parser.buffer.length < 16 + captured then
          .ok (rows, parser)
        else
          let found := rtpHeader (slice parser.buffer 16 (16 + captured)) parser.ssrc
            parser.payloadType
          let parser := { parser with buffer := parser.buffer.drop (16 + captured) }
          match found with
          | some header =>
              readRecords endian rounds parser (rows ++
                [{ unixMicros := seconds * 1000000 + micros
                   wireBytes := original
                   header := header }])
          | none =>
              readRecords endian rounds { parser with rejected := parser.rejected + 1 } rows
      else
        .ok (rows, parser)

/-- `PcapHeaders.feed`. -/
def feed (parser : PcapHeaders) (chunk : List UInt8) : Except String (List Row × PcapHeaders) :=
  let parser := { parser with buffer := parser.buffer ++ chunk }
  if parser.buffer.length > 1024 * 1024 then
    .error "pcap buffer exceeded bound"
  else
    match parser.endian with
    | some endian => readRecords endian parser.buffer.length parser []
    | none =>
        if parser.buffer.length < 24 then
          .ok ([], parser)
        else
          match fileOrder parser.buffer with
          | .error error => .error error
          | .ok endian =>
              let parser :=
                { parser with endian := some endian, buffer := parser.buffer.drop 24 }
              readRecords endian parser.buffer.length parser []

/-- `feed` over one chunk after the other, with the rows of them all, until it raises. -/
def feedAll (parser : PcapHeaders) : List (List UInt8) → Except String (List Row × PcapHeaders)
  | [] => .ok ([], parser)
  | chunk :: chunks =>
      match parser.feed chunk with
      | .error error => .error error
      | .ok (rows, next) =>
          match feedAll next chunks with
          | .error error => .error error
          | .ok (more, last) => .ok (rows ++ more, last)

end PcapHeaders

/-- A packet as a capture file has it: when it was taken, its bytes on the wire, and
those of them that were kept. -/
structure Record where
  seconds : UInt32
  micros : UInt32
  original : UInt32
  data : List UInt8
  deriving DecidableEq, Repr

/-- A record as it is written. -/
def Record.encode (order : ByteOrder) (record : Record) : List UInt8 :=
  order.pack PcapHeaders.recordWidths
    (record.seconds.toNat, record.micros.toNat, record.data.length, record.original.toNat, ())
    ++ record.data

/-- The fields at the start of a capture file of the kind that is read. The time zone and
the accuracy are fields that the reader does not look at. -/
def fileFields (zone sigfigs : UInt32) : ByteOrder.Fields PcapHeaders.fileWidths :=
  (0xa1b2c3d4, 2, 4, zone.toNat, sigfigs.toNat, 54, 1, ())

/-- The capture file of some records, of the kind that is read. -/
def encode (order : ByteOrder) (zone sigfigs : UInt32) (records : List Record) : List UInt8 :=
  order.pack PcapHeaders.fileWidths (fileFields zone sigfigs)
    ++ records.flatMap (Record.encode order)

/-- The row of a record whose packet has a header. -/
def Record.row (record : Record) (header : RtpHeader) : Row where
  unixMicros := record.seconds.toNat * 1000000 + record.micros.toNat
  wireBytes := record.original.toNat
  header := header

end Raydio.Capture
