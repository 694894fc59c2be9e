import PacketReinjection.ControlError
import PacketReinjection.LittleEndian
import PacketReinjection.Router.Timeout
import PacketReinjection.Statistics

/-!
# `Command.Status` — the report that get-status answers with

Seven words: the two wait fields, the four counters and the class mask.

## Contents
- **`StatusReport`** — the words by name; `ofReadings` fills one in.
- **Words and bytes.** `words`, `toBytes` and `decode`.
- **Parts.** `statistics`, `primaryTimeout`, `emergencyTimeout`.
-/

namespace PacketReinjection

/-- The words of a report. -/
def statusWords : Nat := 7

/-- The report that get-status answers with. -/
structure StatusReport where
  primaryWait : UInt32
  emergencyWait : UInt32
  dropped : UInt32
  missedDropped : UInt32
  queueOverflows : UInt32
  reinjected : UInt32
  classMask : UInt32
  deriving DecidableEq, Inhabited

namespace StatusReport

/-- A report of wait fields, counters and class mask. -/
def ofReadings (primary emergency : UInt8) (s : Statistics) (classMask : UInt32) : StatusReport where
  primaryWait := primary.toUInt32
  emergencyWait := emergency.toUInt32
  dropped := s.dropped
  missedDropped := s.missedDropped
  queueOverflows := s.queueOverflows
  reinjected := s.reinjected
  classMask := classMask

/-- The words of the report in their order. -/
def words (r : StatusReport) : List UInt32 :=
  [r.primaryWait, r.emergencyWait, r.dropped, r.missedDropped, r.queueOverflows, r.reinjected,
    r.classMask]

/-- The report at the front of a byte string; what follows it is ignored. -/
def decode (bytes : List UInt8) : Except ControlError StatusReport :=
  if bytes.length < statusWords * 4 then
    .error (.tooShort (statusWords * 4) bytes.length)
  else
    .ok { primaryWait := LittleEndian.word32At bytes 0
          emergencyWait := LittleEndian.word32At bytes 4
          dropped := LittleEndian.word32At bytes 8
          missedDropped := LittleEndian.word32At bytes 12
          queueOverflows := LittleEndian.word32At bytes 16
          reinjected := LittleEndian.word32At bytes 20
          classMask := LittleEndian.word32At bytes 24 }

/-- The counters of the report. -/
def statistics (r : StatusReport) : Statistics :=
  ⟨r.dropped, r.missedDropped, r.queueOverflows, r.reinjected⟩

/-- The primary wait field in two parts; of its word the low byte counts. -/
def primaryTimeout (r : StatusReport) : RouterTimeout := .ofField r.primaryWait.toUInt8

/-- The emergency wait field in two parts; of its word the low byte counts. -/
def emergencyTimeout (r : StatusReport) : RouterTimeout := .ofField r.emergencyWait.toUInt8

end StatusReport

end PacketReinjection
