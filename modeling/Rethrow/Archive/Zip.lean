import Rethrow.Archive.Inflate
import Rethrow.Disk.Basic

/-!
# Zip archives

A zip archive ends with a record that says where its directory is. The directory has one
header for each entry, with its name, how it is packed, its check sum, and where its bytes
are. An entry that cannot be unpacked, or whose check sum is wrong, is damaged; the others
can still be read.

Only the entries that are asked for are unpacked.
-/

namespace Rethrow.Zip

/-- The number in `count` bytes, lowest first. -/
def number? (data : ByteArray) (offset : Nat) : Nat → Option Nat
  | 0 => some 0
  | count + 1 => do
    let low ← data[offset]?
    let high ← number? data (offset + 1) count
    some (low.toNat + 256 * high)

/-- The length of the record at the end, without its comment. -/
def endLength : Nat := 22

/-- The signature of the record at the end. -/
def endSignature : Nat := 0x06054B50

/-- The signature of a header in the directory. -/
def headerSignature : Nat := 0x02014B50

/-- The signature in front of an entry's bytes. -/
def entrySignature : Nat := 0x04034B50

/-- Where the record at the end starts, searched from `offset` down. -/
def findEnd? (data : ByteArray) : Nat → Option Nat
  | 0 => if number? data 0 4 = some endSignature then some 0 else none
  | offset + 1 =>
    if number? data (offset + 1) 4 = some endSignature then some (offset + 1)
    else findEnd? data offset

/-- One bit of a check sum. -/
def checkBit (sum : UInt32) : UInt32 :=
  if sum &&& 1 = 1 then (sum >>> 1) ^^^ 0xEDB88320 else sum >>> 1

/-- The check sum of each byte. -/
def checkTable : Array UInt32 :=
  ((List.range 256).map fun n =>
    (List.range 8).foldl (fun sum _ => checkBit sum) n.toUInt32).toArray

/-- The check sum of some bytes. -/
def checkSum (data : ByteArray) : UInt32 :=
  data.foldl
    (fun sum byte =>
      checkTable.getD ((sum ^^^ byte.toUInt32) &&& 0xFF).toNat 0 ^^^ (sum >>> 8))
    0xFFFFFFFF ^^^ 0xFFFFFFFF

/-- A header of the directory. -/
structure Header where
  name : Text
  method : Nat
  sum : Nat
  packedSize : Nat
  offset : Nat
  /-- Where the next header starts. -/
  next : Nat

/-- Reads a header. -/
def header? (data : ByteArray) (start : Nat) : Option Header := do
  let signature ← number? data start 4
  if signature ≠ headerSignature then none
  let method ← number? data (start + 10) 2
  let sum ← number? data (start + 16) 4
  let packedSize ← number? data (start + 20) 4
  let nameLength ← number? data (start + 28) 2
  let extraLength ← number? data (start + 30) 2
  let noteLength ← number? data (start + 32) 2
  let offset ← number? data (start + 42) 4
  let nameStart := start + 46
  let name ← Text.ofBytes? (data.extract nameStart (nameStart + nameLength)).toList
  some { name, method, sum, packedSize, offset,
         next := nameStart + nameLength + extraLength + noteLength }

/-- Unpacks an entry. -/
def unpack? (data : ByteArray) (header : Header) : Option ByteArray := do
  let signature ← number? data header.offset 4
  if signature ≠ entrySignature then none
  let nameLength ← number? data (header.offset + 26) 2
  let extraLength ← number? data (header.offset + 28) 2
  let start := header.offset + 30 + nameLength + extraLength
  let packed := data.extract start (start + header.packedSize)
  let unpacked ←
    match header.method with
    | 0 => some packed
    | 8 => inflate? packed
    | _ => none
  if (checkSum unpacked).toNat = header.sum then some unpacked else none

/-- What is stored under a header. -/
def stored (data : ByteArray) (header : Header) : Stored :=
  match unpack? data header with
  | some bytes => Stored.ofBytes bytes.toList
  | none => .damaged

/-- Reads `count` headers of the directory. -/
def headers (data : ByteArray) : Nat → Nat → Option (List Header)
  | 0, _ => some []
  | count + 1, start => do
    let header ← header? data start
    let more ← headers data count header.next
    some (header :: more)

/-- The archive that some bytes are, with the entries whose names are wanted. -/
def read? (data : ByteArray) (isWanted : Text → Bool) : Option Archive := do
  if data.size < endLength then none
  let record ← findEnd? data (data.size - endLength)
  let count ← number? data (record + 10) 2
  let start ← number? data (record + 16) 4
  let found ← headers data count start
  some { stored := (found.filter fun h => isWanted h.name).map fun h => (h.name, stored data h) }

/-- The content of a file with some bytes: an archive if they are one, and of it the wanted
entries. -/
def content (data : ByteArray) (isWanted : Text → Bool) : Content :=
  match read? data isWanted with
  | some archive => .archive archive (Text.ofBytes? data.toList)
  | none => Content.ofBytes data.toList

end Rethrow.Zip
