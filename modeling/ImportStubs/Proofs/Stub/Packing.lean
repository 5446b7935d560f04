import Mathlib.Data.List.Nodup
import ImportStubs.Proofs.Elf.Reading
import ImportStubs.Proofs.Elf.Writing

/-!
# Stubs from packed entries

Entries are packed without gaps, and what follows the last of them is too short for one more.
However the bytes are cut into chunks, each entry gives one stub. Addresses wrap around at the end
of the address space; a section is smaller than that, so they stay distinct, and they ascend exactly
if none of them wraps.
-/

namespace ImportStubs.Stub

/-- The words of an entry of a stub section. -/
structure Entry where
  library : UInt32
  module : UInt32
  target : UInt32
  reserved : UInt32
deriving DecidableEq, Repr

def Entry.bytes (e : Entry) : List UInt8 :=
  ElfWriter.words [e.library.toNat, e.module.toNat, e.target.toNat, e.reserved.toNat]

def pack (entries : List Entry) : List UInt8 := (entries.map Entry.bytes).flatten

/-- The stub of the entry at a position; nothing is attached to it. -/
def Entry.stubAt (kind : StubKind) (base : Int) (i : ℕ) (e : Entry) : Stub where
  kind := kind
  address := (base + 16 * i) % 0x100000000
  libraryNid := e.library.toNat
  moduleNid := e.module.toNat
  targetNid := e.target.toNat

variable {entries : List Entry} {rest : List UInt8} {s : SectionHeader} {chunks : List Chunk}

theorem Entry.length_bytes (e : Entry) : e.bytes.length = 16 := by
  simp [Entry.bytes, ElfWriter.length_words]

theorem length_pack (entries : List Entry) : (pack entries).length = 16 * entries.length := by
  induction entries with
  | nil => rfl
  | cons e entries ih =>
    simp only [pack, List.map_cons, List.flatten_cons, List.length_append, e.length_bytes] at ih ⊢
    simp only [List.length_cons]
    omega

/-- The bytes of an entry stand at its position. -/
theorem slice_pack (rest : List UInt8) {i : ℕ} {e : Entry} (he : entries[i]? = some e) :
    ((pack entries ++ rest).drop (i * 16)).take 16 = e.bytes := by
  have hall : ElfWriter.Stands (pack entries ++ rest) 0 (entries.map Entry.bytes).flatten :=
    ⟨[], rest, rfl, rfl⟩
  have hwidth : ∀ part ∈ entries.map Entry.bytes, part.length = 16 := by
    intro part hpart
    obtain ⟨e, -, rfl⟩ := List.mem_map.mp hpart
    exact e.length_bytes
  have hpart : (entries.map Entry.bytes)[i]? = some e.bytes := by simp [he]
  have hentry := (hall.flatten hwidth hpart).slice_eq
  rwa [e.length_bytes, Nat.zero_add] at hentry

theorem ofRecord_bytes (kind : StubKind) (base : Int) (i : ℕ) (e : Entry) :
    ofRecord kind base ⟨i * 16, e.bytes⟩ = e.stubAt kind base i := by
  have hword : ∀ k, Word.at32 (4 * k) e.bytes = _ := ElfWriter.at32_words _
  have hlibrary : Word.at32 0 e.bytes = e.library.toNat := by
    simpa [Nat.mod_eq_of_lt e.library.toNat_lt] using hword 0
  have hmodule : Word.at32 4 e.bytes = e.module.toNat := by
    simpa [Nat.mod_eq_of_lt e.module.toNat_lt] using hword 1
  have htarget : Word.at32 8 e.bytes = e.target.toNat := by
    simpa [Nat.mod_eq_of_lt e.target.toNat_lt] using hword 2
  simp [ofRecord, Entry.stubAt, hlibrary, hmodule, htarget, Int.mul_comm]

theorem map_ofRecord_pack (kind : StubKind) (base : Int) (hrest : rest.length < 16) :
    (Record.cut entrySize 0 (pack entries ++ rest)).1.map (ofRecord kind base) =
      entries.mapIdx (Entry.stubAt kind base) := by
  have hcount : (pack entries ++ rest).length / entrySize = entries.length := by
    rw [List.length_append, length_pack, entrySize]
    omega
  rw [Record.cut_fst_eq_map (by decide), hcount]
  apply List.ext_getElem
  · simp
  · intro i hleft hright
    have hi : i < entries.length := by simpa using hleft
    have hslice : ((pack entries ++ rest).drop (i * entrySize)).take entrySize = entries[i].bytes :=
      slice_pack rest (List.getElem?_eq_getElem hi)
    simp only [List.getElem_map, List.getElem_range, List.getElem_mapIdx, Nat.zero_add, hslice]
    exact ofRecord_bytes kind base i entries[i]

theorem readTable_eq (kind : StubKind) (hrest : rest.length < 16)
    (hchunks : Chunk.Delivers 0 chunks (pack entries ++ rest))
    (hsize : s.size = (pack entries ++ rest).length) :
    readTable kind s chunks = .ok (entries.mapIdx (Entry.stubAt kind s.address)) := by
  have hscan : Record.scan entrySize s.size chunks =
      { records := (Record.cut entrySize 0 (pack entries ++ rest)).1 } := by
    rw [hsize]
    exact Record.scan_of_delivers (by decide) hchunks
  rw [readTable, hscan]
  exact congrArg Except.ok (map_ofRecord_pack kind s.address hrest)

/-- The addresses of some stubs from a base on. -/
def addresses (base : Int) (count : ℕ) : List Int :=
  (List.range count).map fun i : ℕ => (base + 16 * (i : Int)) % 0x100000000

theorem map_address_mapIdx (kind : StubKind) (base : Int) (entries : List Entry) :
    (entries.mapIdx (Entry.stubAt kind base)).map Stub.address =
      addresses base entries.length := by
  apply List.ext_getElem
  · simp [addresses]
  · intro i hleft hright
    simp [addresses, Entry.stubAt]

section Addresses

variable {base : Int} {count : ℕ} (hcount : 16 * count < 0x100000000)
include hcount

theorem nodup_addresses (base : Int) : (addresses base count).Nodup := by
  apply List.Nodup.map_on
  · intro i hi j hj heq
    rw [List.mem_range] at hi hj
    omega
  · exact List.nodup_range

/-- The first address is not wrapped, so if the last one is, it does not come after the first. -/
theorem ascending_addresses_iff (hbase : 0 ≤ base) (hlt : base < 0x100000000) (hpos : 0 < count) :
    (addresses base count).Pairwise (· < ·) ↔ base + 16 * (count - 1) < 0x100000000 := by
  simp only [addresses, List.pairwise_iff_getElem, List.length_map, List.length_range,
    List.getElem_map, List.getElem_range]
  constructor
  · intro hascending
    by_contra hwraps
    have hends := hascending 0 (count - 1) hpos (by omega) (by omega)
    omega
  · intro hfits i j hi hj hij
    omega

end Addresses

/-- Reading a stub section gives back the entries that were packed, in any chunks and in front of
any rest that is too short for an entry. -/
theorem readTable_pack (kind : StubKind) (hrest : rest.length < 16)
    (hchunks : Chunk.Delivers 0 chunks (pack entries ++ rest))
    (hsize : s.size = (pack entries ++ rest).length) (hlt : s.size < 0x100000000)
    (haddress : 0 ≤ s.address ∧ s.address < 0x100000000) :
    ∃ stubs, readTable kind s chunks = .ok stubs ∧
      stubs = entries.mapIdx (Entry.stubAt kind s.address) ∧
      (stubs.length : Int) = entries.length ∧ count s = entries.length ∧
      (∀ stub ∈ stubs, stub.symbol = none ∧ stub.library = none ∧ stub.module = none ∧
        stub.target = none ∧ stub.isResolved = false) ∧
      (stubs.map Stub.address).Nodup ∧
      (entries ≠ [] → ((stubs.map Stub.address).Pairwise (· < ·) ↔
        s.address + 16 * (entries.length - 1) < 0x100000000)) := by
  have hlength : (s.size : Int) = 16 * entries.length + rest.length := by
    rw [hsize, List.length_append, length_pack]
    push_cast
    rfl
  have hcount : 16 * entries.length < 0x100000000 := by omega
  refine ⟨_, readTable_eq kind hrest hchunks hsize, rfl, by simp, ?_, ?_, ?_, ?_⟩
  · simp only [Stub.count, entrySize, hlength]
    omega
  · intro stub hstub
    obtain ⟨i, hi, rfl⟩ := List.mem_mapIdx.mp hstub
    exact ⟨rfl, rfl, rfl, rfl, rfl⟩
  · rw [map_address_mapIdx]
    exact nodup_addresses hcount s.address
  · intro hne
    rw [map_address_mapIdx]
    exact ascending_addresses_iff hcount haddress.1 haddress.2 (List.length_pos_iff.mpr hne)

/-- Two entries, of which the second is at a wrapped address. -/
def wrappedPair : List Entry := [⟨1, 2, 3, 4⟩, ⟨5, 6, 0xFFFFFFFF, 0⟩]

theorem readTable_pack_wrappedPair :
    let bytes := pack wrappedPair ++ [7, 7, 7]
    let s : SectionHeader := { address := 0xFFFFFFF8, size := 35 }
    ∃ stubs, readTable .functionStub s (Chunk.split 5 0 bytes) = .ok stubs ∧
      stubs.map Stub.address = [0xFFFFFFF8, 8] ∧ ¬(stubs.map Stub.address).Pairwise (· < ·) := by
  intro bytes s
  have hchunks : Chunk.Delivers 0 (Chunk.split 5 0 bytes) bytes :=
    Chunk.delivers_split (by decide) 0 bytes
  have hsize : s.size = bytes.length := by decide +kernel
  obtain ⟨stubs, hstubs, heq, -, -, -, -, hascending⟩ :=
    readTable_pack .functionStub (by decide : [7, 7, 7].length < 16) hchunks hsize (by decide)
      (by decide)
  refine ⟨stubs, hstubs, ?_, ?_⟩
  · rw [heq, map_address_mapIdx]
    rfl
  · rw [hascending (by decide)]
    decide

end ImportStubs.Stub
