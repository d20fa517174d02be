/-
# A capture does not depend on how it arrives

The reader of captures is an incremental decoder: what it finds at the front of the
bytes it holds is not changed by the bytes that come later, and what it cannot use yet
is less than one record. So its results are those of the whole file, however the file
was cut, and for a file that was written from records they are the fields of the
accepted ones.
-/

import Mathlib
import Raydio.Foundation.Incremental
import Raydio.Capture.Headers

namespace Raydio.Capture

open Foundation Foundation.Decoder

/-- The longest chunk that `main` reads at once. -/
def chunkLimit : ℕ := 65536

namespace PcapHeaders

/-- The row of a record that says when its packet came and what bytes it had. -/
def rowOf (ssrc payloadType seconds micros original : ℕ) (packet : List UInt8) : Option Row :=
  (rtpHeader packet ssrc payloadType).map fun header =>
    { unixMicros := seconds * 1000000 + micros
      wireBytes := original
      header := header }

/-- What the reader finds at the front of what it holds, once the byte order is known
and before that. A record puts out its row, or nothing where its packet is rejected. -/
def look (ssrc payloadType : ℕ) :
    Option ByteOrder → List UInt8 → Verdict String (Option ByteOrder) (Option Row)
  | none, bytes =>
      if bytes.length < 24 then
        .more
      else
        match fileOrder bytes with
        | .error error => .bad error
        | .ok endian => .item 24 [] (some endian)
  | some endian, bytes =>
      if bytes.length < 16 then
        .more
      else
        let (seconds, micros, captured, original, _) :=
          endian.unpack recordWidths (bytes.take 16)
        if captured > 54 ∨ micros ≥ 1000000 ∨ original < captured then
          .bad "Invalid bounded capture record"
        else if bytes.length < 16 + captured then
          .more
        else
          .item (16 + captured)
            [rowOf ssrc payloadType seconds micros original (slice bytes 16 (16 + captured))]
            (some endian)

section look

variable {ssrc payloadType : ℕ} {endian : ByteOrder} {bytes : List UInt8}
  {seconds micros captured original : ℕ}

theorem fileOrder_append (h : 24 ≤ bytes.length) (later : List UInt8) :
    fileOrder (bytes ++ later) = fileOrder bytes := by
  have hmagic : (bytes ++ later).take 4 = bytes.take 4 :=
    List.take_append_of_le_length (by omega)
  rw [fileOrder, fileOrder, hmagic, List.take_append_of_le_length h]

theorem slice_append {start stop : ℕ} (h : stop ≤ bytes.length) (later : List UInt8) :
    slice (bytes ++ later) start stop = slice bytes start stop := by
  rw [slice, slice, List.take_append_of_le_length h]

theorem look_short (h : bytes.length < 16) :
    look ssrc payloadType (some endian) bytes = .more := by
  rw [look, if_pos h]

variable (hlength : 16 ≤ bytes.length)
  (hfields : endian.unpack recordWidths (bytes.take 16) = (seconds, micros, captured, original, ()))

include hlength hfields

theorem look_invalid (h : captured > 54 ∨ micros ≥ 1000000 ∨ original < captured) :
    look ssrc payloadType (some endian) bytes = .bad "Invalid bounded capture record" := by
  rw [look, if_neg (by omega), hfields]
  exact if_pos h

variable (hvalid : ¬(captured > 54 ∨ micros ≥ 1000000 ∨ original < captured))

include hvalid

theorem look_unfinished (h : bytes.length < 16 + captured) :
    look ssrc payloadType (some endian) bytes = .more := by
  rw [look, if_neg (by omega), hfields]
  exact (if_neg hvalid).trans (if_pos h)

theorem look_record (h : 16 + captured ≤ bytes.length) :
    look ssrc payloadType (some endian) bytes
      = .item (16 + captured)
          [rowOf ssrc payloadType seconds micros original (slice bytes 16 (16 + captured))]
          (some endian) := by
  rw [look, if_neg (by omega), hfields]
  exact (if_neg hvalid).trans (if_neg (by omega))

end look

variable {ssrc payloadType : ℕ}

/-- What the reader can find: it waits on less than the longest record, it raises, or
there is an item that is not empty. -/
theorem look_cases (state : Option ByteOrder) (bytes : List UInt8) :
    (look ssrc payloadType state bytes = .more ∧ bytes.length < 70)
      ∨ (∃ error, look ssrc payloadType state bytes = .bad error)
      ∨ ∃ length outputs next, look ssrc payloadType state bytes = .item length outputs next
          ∧ 0 < length ∧ length ≤ bytes.length := by
  cases state with
  | none =>
      rw [look]
      split
      · exact .inl ⟨rfl, by omega⟩
      · split
        · exact .inr (.inl ⟨_, rfl⟩)
        · exact .inr (.inr ⟨_, _, _, rfl, by omega, by omega⟩)
  | some endian =>
      rw [look]
      split
      · exact .inl ⟨rfl, by omega⟩
      · dsimp only
        split
        · exact .inr (.inl ⟨_, rfl⟩)
        · split
          · exact .inl ⟨rfl, by omega⟩
          · exact .inr (.inr ⟨_, _, _, rfl, by omega, by omega⟩)

/-- An item is there, and not empty. -/
theorem look_bounded {state next : Option ByteOrder} {bytes : List UInt8} {length : ℕ}
    {outputs : List (Option Row)}
    (h : look ssrc payloadType state bytes = .item length outputs next) :
    0 < length ∧ length ≤ bytes.length := by
  rcases look_cases state bytes with ⟨hlook, -⟩ | ⟨error, hlook⟩ | ⟨_, _, _, hlook, hbounds⟩
  · cases h.symm.trans hlook
  · cases h.symm.trans hlook
  · cases h.symm.trans hlook
    exact hbounds

/-- What the reader finds is not changed by bytes that come later. -/
theorem look_stable {state : Option ByteOrder} {bytes : List UInt8}
    (h : look ssrc payloadType state bytes ≠ .more) (later : List UInt8) :
    look ssrc payloadType state (bytes ++ later) = look ssrc payloadType state bytes := by
  have hgrown : (bytes ++ later).length = bytes.length + later.length := List.length_append
  cases state with
  | none =>
      by_cases hlength : bytes.length < 24
      · exact absurd (if_pos hlength) h
      · rw [look, look, if_neg hlength, if_neg (by omega), fileOrder_append (by omega)]
  | some endian =>
      by_cases hlength : bytes.length < 16
      · exact absurd (look_short hlength) h
      · have hlong : 16 ≤ bytes.length := by omega
        have hfront : (bytes ++ later).take 16 = bytes.take 16 :=
          List.take_append_of_le_length hlong
        rcases hfields : endian.unpack recordWidths (bytes.take 16)
          with ⟨seconds, micros, captured, original, _⟩
        have hfields' := hfront ▸ hfields
        by_cases hinvalid : captured > 54 ∨ micros ≥ 1000000 ∨ original < captured
        · rw [look_invalid hlong hfields hinvalid, look_invalid (by omega) hfields' hinvalid]
        · by_cases hwhole : bytes.length < 16 + captured
          · exact absurd (look_unfinished hlong hfields hinvalid hwhole) h
          · rw [look_record hlong hfields hinvalid (by omega),
              look_record (by omega) hfields' hinvalid (by omega), slice_append (by omega)]

/-- The reader as a decoder of bytes. -/
def decoder (ssrc payloadType : ℕ) :
    Decoder String (Option ByteOrder) (Option Row) UInt8 where
  look := look ssrc payloadType
  bounded := look_bounded
  stable := look_stable

/-- What the reader waits on is less than the longest record. -/
theorem length_of_waits {state : Option ByteOrder} {bytes : List UInt8}
    (h : look ssrc payloadType state bytes = .more) : bytes.length < 70 := by
  rcases look_cases state bytes with ⟨-, hshort⟩ | ⟨error, hlook⟩ | ⟨_, _, _, hlook, -⟩
  · exact hshort
  · cases h.symm.trans hlook
  · cases h.symm.trans hlook

/-- What a reader has told and is after it has decoded so much. -/
def told (parser : PcapHeaders)
    (found : List (Option Row) × Option ByteOrder × List UInt8) : List Row × PcapHeaders :=
  (found.1.reduceOption,
    { parser with
      buffer := found.2.2
      endian := found.2.1
      rejected := parser.rejected + found.1.count none })

/-- The decoder of a reader's stream. -/
abbrev stream (parser : PcapHeaders) : Decoder String (Option ByteOrder) (Option Row) UInt8 :=
  decoder parser.ssrc parser.payloadType

/-- Rows before what is told. -/
def ahead (rows : List Row) (told : List Row × PcapHeaders) : List Row × PcapHeaders :=
  (rows ++ told.1, told.2)

theorem told_after (parser : PcapHeaders) (outputs : List (Option Row))
    (state : Option ByteOrder) (left : List UInt8)
    (found : List (Option Row) × Option ByteOrder × List UInt8) :
    parser.told (outputs ++ found.1, found.2)
      = ahead outputs.reduceOption ((parser.told (outputs, state, left)).2.told found) := by
  simp only [told, ahead, List.reduceOption_append, List.count_append, Nat.add_assoc]

/-- Telling the rest of the outputs is telling them as the reader that told the first. -/
theorem map_told_after (parser : PcapHeaders) (rows : List Row) (outputs : List (Option Row))
    (state : Option ByteOrder) (left : List UInt8)
    (result : Except String (List (Option Row) × Option ByteOrder × List UInt8)) :
    ((after outputs result).map fun found => ahead rows (parser.told found))
      = result.map fun found => ahead (rows ++ outputs.reduceOption)
          ((parser.told (outputs, state, left)).2.told found) := by
  cases result with
  | error error => rfl
  | ok found =>
      change Except.ok (ahead rows (parser.told (outputs ++ found.1, found.2))) = Except.ok _
      rw [told_after parser outputs state left found]
      simp only [ahead, List.append_assoc]

section readRecords

variable {parser : PcapHeaders} {endian : ByteOrder} {rounds : ℕ} {rows : List Row}

theorem told_nothing (hendian : parser.endian = some endian) :
    parser.told ([], some endian, parser.buffer) = ([], parser) := by
  rw [← hendian]
  rfl

/-- A round over a record goes on as the reader that has told its row. -/
theorem readRecords_record {seconds micros captured original : ℕ}
    (hendian : parser.endian = some endian) (hlength : 16 ≤ parser.buffer.length)
    (hfields : endian.unpack recordWidths (parser.buffer.take 16)
      = (seconds, micros, captured, original, ()))
    (hvalid : ¬(captured > 54 ∨ micros ≥ 1000000 ∨ original < captured))
    (hwhole : 16 + captured ≤ parser.buffer.length) :
    readRecords endian (rounds + 1) parser rows
      = let row := rowOf parser.ssrc parser.payloadType seconds micros original
          (slice parser.buffer 16 (16 + captured))
        readRecords endian rounds
          (parser.told ([row], some endian, parser.buffer.drop (16 + captured))).2
          (rows ++ [row].reduceOption) := by
  rw [readRecords, if_pos hlength, hfields]
  dsimp only
  rw [if_neg hvalid, if_neg (by omega), rowOf]
  cases rtpHeader (slice parser.buffer 16 (16 + captured)) parser.ssrc parser.payloadType with
  | none =>
      rw [told, ← hendian]
      exact congrArg _ (List.append_nil rows).symm
  | some header =>
      rw [told, ← hendian]
      rfl

/-- A reader whose buffer does not make a whole record tells nothing. -/
theorem told_of_waits (hendian : parser.endian = some endian)
    (hlook : look parser.ssrc parser.payloadType (some endian) parser.buffer = .more) :
    ((parser.stream.drain (some endian) parser.buffer).map fun found =>
      ahead rows (parser.told found)) = .ok (rows, parser) := by
  rw [drain_more hlook]
  change Except.ok (ahead rows (parser.told ([], some endian, parser.buffer))) = _
  rw [told_nothing hendian, ahead, List.append_nil]

/-- The loop over the records tells what the decoder finds in the buffer. -/
theorem readRecords_eq (parser : PcapHeaders) (rows : List Row)
    (hendian : parser.endian = some endian)
    (hrounds : parser.buffer.length ≤ rounds) :
    readRecords endian rounds parser rows
      = (parser.stream.drain (some endian) parser.buffer).map fun found =>
          ahead rows (parser.told found) := by
  induction rounds generalizing parser rows with
  | zero =>
      have hempty : parser.buffer = [] := List.length_eq_zero_iff.mp (by omega)
      exact (told_of_waits hendian (look_short (by rw [hempty]; decide))).symm
  | succ rounds ih =>
      by_cases hlength : 16 ≤ parser.buffer.length
      · rcases hfields : endian.unpack recordWidths (parser.buffer.take 16)
          with ⟨seconds, micros, captured, original, _⟩
        by_cases hinvalid : captured > 54 ∨ micros ≥ 1000000 ∨ original < captured
        · rw [drain_bad (look_invalid hlength hfields hinvalid), readRecords, if_pos hlength,
            hfields]
          exact if_pos hinvalid
        · by_cases hwhole : parser.buffer.length < 16 + captured
          · rw [told_of_waits hendian (look_unfinished hlength hfields hinvalid hwhole),
              readRecords, if_pos hlength, hfields]
            exact (if_neg hinvalid).trans (if_pos hwhole)
          -- a record takes at least its sixteen bytes, so that a round less is enough for the rest
          · have hrest : (parser.buffer.drop (16 + captured)).length ≤ rounds := by
              rw [List.length_drop]
              omega
            rw [readRecords_record hendian hlength hfields hinvalid (by omega),
              drain_item (look_record hlength hfields hinvalid (by omega))]
            exact (ih _ _ rfl hrest).trans (map_told_after parser rows _ _ _ _).symm
      · rw [readRecords, if_neg hlength]
        exact (told_of_waits hendian (look_short (by omega))).symm

end readRecords

section feed

variable {parser : PcapHeaders}

/-- A chunk is decoded from the bytes that were held before it. -/
theorem feed_eq {chunk : List UInt8}
    (hroom : parser.buffer.length + chunk.length ≤ 1024 * 1024) :
    parser.feed chunk
      = (parser.stream.drain parser.endian (parser.buffer ++ chunk)).map parser.told := by
  have hlength : (parser.buffer ++ chunk).length ≤ 1024 * 1024 := by
    rw [List.length_append]
    exact hroom
  rw [feed]
  dsimp only
  rw [if_neg (by omega)]
  cases parser.endian with
  | some endian =>
      exact readRecords_eq
        { parser with buffer := parser.buffer ++ chunk, endian := some endian } [] rfl le_rfl
  | none =>
      by_cases hshort : (parser.buffer ++ chunk).length < 24
      · rw [drain_more (if_pos hshort)]
        exact if_pos hshort
      · refine (if_neg hshort).trans ?_
        have hlook : parser.stream.look none (parser.buffer ++ chunk)
            = match fileOrder (parser.buffer ++ chunk) with
              | .error error => .bad error
              | .ok endian => .item 24 [] (some endian) := if_neg hshort
        cases horder : fileOrder (parser.buffer ++ chunk) with
        | error error =>
            rw [horder] at hlook
            rw [drain_bad hlook]
            rfl
        | ok endian =>
            rw [horder] at hlook
            rw [drain_item hlook, after_nil]
            exact readRecords_eq
              { parser with
                buffer := (parser.buffer ++ chunk).drop 24
                endian := some endian } [] rfl le_rfl

/-- A reader that waits for more, fed chunk after chunk, tells what its decoder finds in
the chunks: the bytes that it holds never come near its bound. -/
theorem feedAll_map {chunks : List (List UInt8)}
    (hwaits : parser.stream.look parser.endian parser.buffer = .more)
    (hsize : ∀ chunk ∈ chunks, chunk.length ≤ chunkLimit) :
    parser.feedAll chunks
      = (parser.stream.feedAll parser.endian parser.buffer chunks).map parser.told := by
  induction chunks generalizing parser with
  | nil => rfl
  | cons chunk chunks ih =>
      have hroom : parser.buffer.length + chunk.length ≤ 1024 * 1024 := by
        have hheld : parser.buffer.length < 70 := length_of_waits hwaits
        have hchunk : chunk.length ≤ 65536 := hsize chunk List.mem_cons_self
        omega
      rw [PcapHeaders.feedAll, feed_eq hroom, Decoder.feedAll]
      cases hdrain : parser.stream.drain parser.endian (parser.buffer ++ chunk) with
      | error error => rfl
      | ok found =>
          obtain ⟨outputs, state, left⟩ := found
          have hrest : (parser.told (outputs, state, left)).2.feedAll chunks
              = (parser.stream.feedAll state left chunks).map
                  (parser.told (outputs, state, left)).2.told :=
            ih (look_left hdrain) fun later hlater => hsize later (List.mem_cons_of_mem _ hlater)
          refine Eq.trans ?_ (map_told_after parser [] outputs state left _).symm
          dsimp only [Except.map]
          rw [hrest]
          cases parser.stream.feedAll state left chunks with
          | error error => rfl
          | ok found => rfl

/-- What a reader tells of chunks is what its decoder finds in their concatenation. -/
theorem feedAll_eq (parser : PcapHeaders) {chunks : List (List UInt8)}
    (hwaits : parser.stream.look parser.endian parser.buffer = .more)
    (hsize : ∀ chunk ∈ chunks, chunk.length ≤ chunkLimit) :
    parser.feedAll chunks
      = (parser.stream.drain parser.endian (parser.buffer ++ chunks.flatten)).map parser.told := by
  rw [feedAll_map hwaits hsize, Decoder.feedAll_eq hwaits]

end feed

end PcapHeaders

end Raydio.Capture
