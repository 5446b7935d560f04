import ImportStubs.LoadError

/-!
# Fixed-size records in section data

Section data arrives in pieces, each with its offset in the section. Records of one size are cut
from the data without regard to where the pieces end: the rest of one piece is put in front of the
next. Reading stops once as many bytes were seen as the section declares; what is left over then,
shorter than a record, is dropped. A piece that does not start where the one before ended is a
fault, and so is an early end, but the records before it are delivered.
-/

namespace ImportStubs

structure Chunk where
  offset : Int
  data : List UInt8
deriving DecidableEq, Repr, Inhabited

structure Record where
  offset : Nat
  bytes : List UInt8
deriving DecidableEq, Repr, Inhabited

namespace Record

/-- The records delivered, and why no more came if the data was not exhausted. -/
structure Scan where
  records : List Record
  fault : Option LoadFault := none
deriving DecidableEq, Repr

/-- Cuts whole records from the front of some bytes; the rest is shorter than a record. -/
def cut (size base : Nat) (bytes : List UInt8) : List Record × List UInt8 :=
  if _h : 0 < size ∧ size ≤ bytes.length then
    let (records, rest) := cut size (base + size) (bytes.drop size)
    (⟨base, bytes.take size⟩ :: records, rest)
  else ([], bytes)
termination_by bytes.length
decreasing_by simp only [List.length_drop]; omega

/-- Continues after `consumed` bytes, of which `tail` belongs to a record that is not complete. -/
def scanFrom (size : Nat) (total : Int) (consumed : Nat) (tail : List UInt8) : List Chunk → Scan
  | [] =>
    { records := [], fault := if consumed < total then some (.shortData consumed total) else none }
  | chunk :: rest =>
    if total ≤ consumed then { records := [] }
    else if chunk.offset ≠ consumed then
      { records := [], fault := some (.misplacedChunk chunk.offset consumed) }
    else
      let data := chunk.data.take (total - consumed).toNat
      let (records, tail') := cut size (consumed - tail.length) (tail ++ data)
      let next := scanFrom size total (consumed + data.length) tail' rest
      { next with records := records ++ next.records }

def scan (size : Nat) (total : Int) (chunks : List Chunk) : Scan := scanFrom size total 0 [] chunks

/-- As `scan`, for any record size; one that is not positive is refused, with a message if the size
can be shown. -/
def scan? (size total : Int) (chunks : List Chunk) : Except (Option Text) Scan :=
  if size ≤ 0 then
    .error (if Numeral.isShowable size then
      some ("entry_size must be positive, got " ++ Text.ofInt size)
    else none)
  else .ok (scan size.toNat total chunks)

end Record
end ImportStubs
