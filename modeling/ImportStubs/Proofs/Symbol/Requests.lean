import ImportStubs.Proofs.Elf.Reading
import ImportStubs.Proofs.Record.Acceptance

/-!
# What the reader of a symbol table asks for

The data is asked for once the entry size is known to be large enough, and then one name for each
entry that is not local, in order, until a look-up fails. What is wrong with later data counts only
if no look-up fails. Of an entry only the name, the value, the info byte and the section index are
used, and of a local one nothing.
-/

namespace ImportStubs.Symbol

open Chunk (join Accepts)
open Record (whole Ending)

inductive Request where
  | data
  | name (offset : ℕ)
deriving DecidableEq, Repr

/-- Reading that writes down what it asks for. -/
abbrev Asking := ExceptT ReadError (StateM (List Request))

def ask {α : Type} (request : Request) (answer : Except ReadError α) : Asking α :=
  ExceptT.mk fun requests => (answer, requests ++ [request])

def askName (names : ℕ → Except ReadError Text) (offset : ℕ) : Asking Text :=
  ask (.name offset) (names offset)

/-- The symbols of a table, or why there are none, and what was asked for in order. -/
def traced (s : SectionHeader) (chunks : List Chunk) (names : ℕ → Except ReadError Text) :
    Except ReadError (List Symbol) × List Request :=
  (readTable s (ask .data (.ok chunks)) (askName names) : Asking _).run.run []

/-- The offsets that are looked up, and the error if one of them cannot be: it is the last one. -/
inductive LookedUp (names : ℕ → Except ReadError Text) (offsets : List ℕ) :
    List ℕ → Option ReadError → Prop
  | all (known : ∀ offset ∈ offsets, ∃ name, names offset = .ok name) :
      LookedUp names offsets offsets none
  | stopped {before after : List ℕ} {offset : ℕ} {e : ReadError}
      (split : offsets = before ++ offset :: after)
      (known : ∀ offset ∈ before, ∃ name, names offset = .ok name)
      (fails : names offset = .error e) :
      LookedUp names offsets (before ++ [offset]) (some e)

def isDecoded (s : SectionHeader) (i : ℕ) : Bool := decide (firstDecoded s ≤ i)

def offsetAt (s : SectionHeader) (bytes : List UInt8) (i : ℕ) : ℕ :=
  Word.at32 (i * s.entrySize.toNat) bytes

/-- The name offsets in the whole entries of some bytes, without those of local entries. -/
def nameOffsets (s : SectionHeader) (bytes : List UInt8) : List ℕ :=
  ((List.range (bytes.length / s.entrySize.toNat)).filter (isDecoded s)).map (offsetAt s bytes)

/-- The symbol that stands in the entry at a position. -/
structure Entry (s : SectionHeader) (bytes : List UInt8) (names : ℕ → Except ReadError Text) (i : ℕ)
    (symbol : Symbol) : Prop where
  index_eq : symbol.index = i
  name_eq : names (offsetAt s bytes i) = .ok symbol.name
  value_eq : symbol.value = Word.at32 (i * s.entrySize.toNat + 4) bytes
  sectionIndex_eq : symbol.sectionIndex = Word.at16 (i * s.entrySize.toNat + 14) bytes
  info_eq : ∃ info, bytes[i * s.entrySize.toNat + 12]? = some info ∧
    16 * symbol.rawBinding + symbol.rawType = info.toNat
  rawType_mem : 0 ≤ symbol.rawType ∧ symbol.rawType < 16
  kind_eq : symbol.kind = .ofType symbol.rawType
  binding_eq : symbol.binding = .ofNumber symbol.rawBinding

/-- What is kept for the entry at a position. -/
inductive Kept (s : SectionHeader) (bytes : List UInt8) (names : ℕ → Except ReadError Text)
    (i : ℕ) : Symbol → Prop
  | skipped (lt : i < firstDecoded s) : Kept s bytes names i (.placeholder i)
  | decoded {symbol : Symbol} (le : firstDecoded s ≤ i) (entry : Entry s bytes names i symbol) :
      Kept s bytes names i symbol

/-- A symbol for each of the declared entries. -/
structure Tabulates (s : SectionHeader) (bytes : List UInt8) (names : ℕ → Except ReadError Text)
    (symbols : List Symbol) : Prop where
  length_eq : (symbols.length : Int) = s.size / s.entrySize
  kept : ∀ i symbol, symbols[i]? = some symbol → Kept s bytes names i symbol

/-- The places of an entry that are read. -/
def IsUsed (place : ℕ) : Prop := place < 8 ∨ place = 12 ∨ place = 14 ∨ place = 15

/-- The bytes agree at the places that are read, in the whole entries that are not local. -/
def SameUse (s : SectionHeader) (bytes other : List UInt8) : Prop :=
  ∀ i place : ℕ, firstDecoded s ≤ i → i < bytes.length / s.entrySize.toNat → IsUsed place →
    other[i * s.entrySize.toNat + place]? = bytes[i * s.entrySize.toNat + place]?

/-- The result of a reading, given the accepted bytes, the chunks behind them and the first error of
a look-up. -/
structure Outcome (s : SectionHeader) (bytes : List UInt8) (rest : List Chunk)
    (names : ℕ → Except ReadError Text) (first : Option ReadError)
    (result : Except ReadError (List Symbol)) : Prop where
  failed : ∀ e, first = some e → result = .error e
  complete : first = none → (bytes.length : Int) = s.size →
    ∃ symbols, result = .ok symbols ∧ Tabulates s bytes names symbols
  missing : first = none → (bytes.length : Int) < s.size →
    ∃ cause, Ending s.size.toNat bytes rest (some cause) ∧ result = .error (.load ⟨cause, none⟩)

variable {s : SectionHeader} {chunks other front rest : List Chunk} {bytes bytes' : List UInt8}
  {names : ℕ → Except ReadError Text} {positions : List ℕ} {i : ℕ} {symbol : Symbol}

theorem run_askName (names : ℕ → Except ReadError Text) (offset : ℕ) (requests : List Request) :
    (askName names offset).run.run requests = (names offset, requests ++ [.name offset]) := rfl

theorem LookedUp.cons {offset : ℕ} {name : Text} {offsets asked : List ℕ} {first : Option ReadError}
    (hname : names offset = .ok name) (h : LookedUp names offsets asked first) :
    LookedUp names (offset :: offsets) (offset :: asked) first := by
  cases h with
  | all known => exact .all (List.forall_mem_cons.mpr ⟨⟨name, hname⟩, known⟩)
  | stopped split known fails =>
    subst split
    exact .stopped (List.cons_append ..).symm (List.forall_mem_cons.mpr ⟨⟨name, hname⟩, known⟩)
      fails

theorem LookedUp.of_error {offset : ℕ} {e : ReadError} (h : names offset = .error e)
    (offsets : List ℕ) : LookedUp names (offset :: offsets) [offset] (some e) :=
  .stopped (List.nil_append _).symm (by simp) h

def recordAt (s : SectionHeader) (bytes : List UInt8) (i : ℕ) : Record :=
  ⟨i * s.entrySize.toNat, (bytes.drop (i * s.entrySize.toNat)).take s.entrySize.toNat⟩

section Entries

variable (hwidth : (16 : Int) ≤ s.entrySize)
include hwidth

theorem recordAt_index (bytes : List UInt8) (i : ℕ) :
    (recordAt s bytes i).offset / s.entrySize.toNat = i :=
  Nat.mul_div_cancel i (by omega)

theorem nameOffset_recordAt (bytes : List UInt8) (i : ℕ) :
    nameOffset (recordAt s bytes i).bytes = offsetAt s bytes i :=
  Word.at32_slice (by omega) _ _

theorem entry_end_le (hi : i < bytes.length / s.entrySize.toNat) :
    i * s.entrySize.toNat + 16 ≤ bytes.length := by
  have hle := (Nat.le_div_iff_mul_le (by omega)).mp hi
  rw [Nat.succ_mul] at hle
  omega

theorem entry_decode {name : Text} (hname : names (offsetAt s bytes i) = .ok name)
    (hi : i * s.entrySize.toNat + 16 ≤ bytes.length) :
    Entry s bytes names i (decode i name (recordAt s bytes i).bytes) := by
  have hinfo : (recordAt s bytes i).bytes.getD 12 0 = bytes[i * s.entrySize.toNat + 12] := by
    rw [List.getD_eq_getElem?_getD, recordAt, List.getElem?_take_of_lt (by omega),
      List.getElem?_drop, List.getElem?_eq_getElem (by omega), Option.getD_some]
  constructor
  · rfl
  · exact hname
  · exact congrArg Nat.cast (Word.at32_slice (by omega) _ _)
  · exact congrArg Nat.cast (Word.at16_slice (by omega) _ _)
  · refine ⟨_, List.getElem?_eq_getElem (by omega), ?_⟩
    rw [← hinfo]
    exact Int.mul_ediv_add_emod _ 16
  · exact ⟨Int.emod_nonneg _ (by decide), Int.emod_lt_of_pos _ (by decide)⟩
  · rfl
  · rfl

theorem run_ofRecord_of_lt (hi : i < firstDecoded s) (requests : List Request) :
    (ofRecord s (askName names) (recordAt s bytes i)).run.run requests =
      (.ok (.placeholder i), requests) := by
  rw [ofRecord, recordAt_index hwidth, if_pos hi]
  rfl

theorem run_ofRecord_of_error (hi : firstDecoded s ≤ i) {e : ReadError}
    (hname : names (offsetAt s bytes i) = .error e) (requests : List Request) :
    (ofRecord s (askName names) (recordAt s bytes i)).run.run requests =
      (.error e, requests ++ [.name (offsetAt s bytes i)]) := by
  have hask := run_askName names (offsetAt s bytes i) requests
  rw [hname] at hask
  rw [ofRecord, recordAt_index hwidth, if_neg (Int.not_lt.mpr hi), nameOffset_recordAt hwidth,
    run_bind_of_error hask]

theorem run_ofRecord_of_ok (hi : firstDecoded s ≤ i) {name : Text}
    (hname : names (offsetAt s bytes i) = .ok name) (requests : List Request) :
    (ofRecord s (askName names) (recordAt s bytes i)).run.run requests =
      (.ok (decode i name (recordAt s bytes i).bytes),
        requests ++ [.name (offsetAt s bytes i)]) := by
  have hask := run_askName names (offsetAt s bytes i) requests
  rw [hname] at hask
  rw [ofRecord, recordAt_index hwidth, if_neg (Int.not_lt.mpr hi), nameOffset_recordAt hwidth,
    run_bind_of_ok hask]
  rfl

end Entries

/-- The symbols kept for some entries, unless a look-up failed. -/
inductive Collected (s : SectionHeader) (bytes : List UInt8) (names : ℕ → Except ReadError Text)
    (positions : List ℕ) : Option ReadError → Except ReadError (List Symbol) → Prop
  | failed (e : ReadError) : Collected s bytes names positions (some e) (.error e)
  | collected {symbols : List Symbol} (kept : List.Forall₂ (Kept s bytes names) positions symbols) :
      Collected s bytes names positions none (.ok symbols)

theorem Collected.cons {first : Option ReadError} {result : Except ReadError (List Symbol)}
    {requests requests' asked : List Request} (hkept : Kept s bytes names i symbol)
    (hfirst : (ofRecord s (askName names) (recordAt s bytes i)).run.run requests =
      (.ok symbol, requests'))
    (hrest : (positions.mapM fun i => ofRecord s (askName names) (recordAt s bytes i)).run.run
      requests' = (result, asked))
    (h : Collected s bytes names positions first result) :
    ∃ result', ((i :: positions).mapM fun i =>
        ofRecord s (askName names) (recordAt s bytes i)).run.run requests = (result', asked) ∧
      Collected s bytes names (i :: positions) first result' := by
  rw [List.mapM_cons, run_bind_of_ok hfirst]
  cases h with
  | failed e => exact ⟨_, run_bind_of_error hrest _, .failed e⟩
  | collected kept => exact ⟨_, run_bind_of_ok hrest _, .collected (.cons hkept kept)⟩

/-- What is asked for over some entries, and what is collected. -/
theorem run_entries (hwidth : (16 : Int) ≤ s.entrySize) (names : ℕ → Except ReadError Text)
    (requests : List Request)
    (hpositions : ∀ i ∈ positions, i * s.entrySize.toNat + 16 ≤ bytes.length) :
    ∃ asked first result,
      (positions.mapM fun i => ofRecord s (askName names) (recordAt s bytes i)).run.run requests =
        (result, requests ++ asked.map .name) ∧
      LookedUp names ((positions.filter (isDecoded s)).map (offsetAt s bytes)) asked first ∧
      Collected s bytes names positions first result := by
  -- a local entry asks for nothing, and one whose name cannot be looked up is the last that asks
  induction positions generalizing requests with
  | nil =>
    refine ⟨[], none, .ok [], ?_, .all (by simp), .collected .nil⟩
    rw [List.map_nil, List.append_nil]
    rfl
  | cons i positions ih =>
    obtain ⟨hi, hpositions⟩ := List.forall_mem_cons.mp hpositions
    by_cases hlocal : i < firstDecoded s
    · obtain ⟨asked, first, result, hrun, hasked, hcollected⟩ := ih requests hpositions
      have hfilter : (i :: positions).filter (isDecoded s) = positions.filter (isDecoded s) :=
        List.filter_cons_of_neg (by simpa [isDecoded] using hlocal)
      obtain ⟨result', hrun', hcollected'⟩ :=
        hcollected.cons (.skipped hlocal) (run_ofRecord_of_lt hwidth hlocal requests) hrun
      exact ⟨asked, first, result', hrun', by rwa [hfilter], hcollected'⟩
    have hdecoded : firstDecoded s ≤ i := Int.not_lt.mp hlocal
    have hfilter : ((i :: positions).filter (isDecoded s)).map (offsetAt s bytes) =
        offsetAt s bytes i :: (positions.filter (isDecoded s)).map (offsetAt s bytes) := by
      rw [List.filter_cons_of_pos (by simpa [isDecoded] using hdecoded), List.map_cons]
    rw [hfilter]
    cases hname : names (offsetAt s bytes i) with
    | error e =>
      refine ⟨_, _, _, ?_, .of_error hname _, .failed e⟩
      rw [List.mapM_cons, run_bind_of_error (run_ofRecord_of_error hwidth hdecoded hname requests)]
      rfl
    | ok name =>
      obtain ⟨asked, first, result, hrun, hasked, hcollected⟩ :=
        ih (requests ++ [.name (offsetAt s bytes i)]) hpositions
      obtain ⟨result', hrun', hcollected'⟩ :=
        hcollected.cons (.decoded hdecoded (entry_decode hwidth hname hi))
          (run_ofRecord_of_ok hwidth hdecoded hname requests) hrun
      refine ⟨_, first, result', ?_, hasked.cons hname, hcollected'⟩
      rw [hrun', List.append_assoc]
      rfl

/-- The end of a reading: a fault of the scan counts after all names. -/
def closing (fault : Option LoadFault) (symbols : List Symbol) : Except ReadError (List Symbol) :=
  fault.elim (.ok symbols) fun cause => .error (.load ⟨cause, none⟩)

theorem traced_of_lt (h : s.entrySize < 16) (chunks : List Chunk)
    (names : ℕ → Except ReadError Text) :
    traced s chunks names = (.error (.ofFault none (.smallSymbolEntry s.entrySize)), []) := by
  have hcount : count s = .error (.ofFault none (.smallSymbolEntry s.entrySize)) := if_pos h
  rw [traced, readTable, hcount]
  rfl

theorem traced_of_le (hwidth : (16 : Int) ≤ s.entrySize) (chunks : List Chunk)
    (names : ℕ → Except ReadError Text) :
    traced s chunks names =
      ((((Record.scan s.entrySize.toNat s.size chunks).records.mapM
          (ofRecord s (askName names))).run.run [.data]).1 >>=
        closing (Record.scan s.entrySize.toNat s.size chunks).fault,
      (((Record.scan s.entrySize.toNat s.size chunks).records.mapM
          (ofRecord s (askName names))).run.run [.data]).2) := by
  have hcount : count s = .ok (s.size / s.entrySize) := if_neg (Int.not_lt.mpr hwidth)
  have hdata : (ask .data (.ok chunks) : Asking _).run.run [] = (.ok chunks, [.data]) := rfl
  rw [traced, readTable, hcount]
  dsimp only
  rw [run_bind_of_ok hdata]
  rcases hrun : ((Record.scan s.entrySize.toNat s.size chunks).records.mapM
    (ofRecord s (askName names))).run.run [.data] with ⟨result, requests⟩
  cases result with
  | error e =>
    rw [run_bind_of_error hrun]
    rfl
  | ok symbols =>
    rw [run_bind_of_ok hrun]
    cases (Record.scan s.entrySize.toNat s.size chunks).fault <;> rfl

theorem scan_records (hsize : 0 ≤ s.size) (hwidth : (16 : Int) ≤ s.entrySize)
    (h : Accepts s.size.toNat chunks front rest) :
    (Record.scan s.entrySize.toNat s.size chunks).records =
      whole s.entrySize.toNat ((join front).take s.size.toNat) := by
  have hscan := Record.records_scan (show 0 < s.entrySize.toNat by omega) h
  rwa [Int.toNat_of_nonneg hsize] at hscan

theorem mapM_whole {m : Type → Type} [Monad m] [LawfulMonad m]
    (f : Record → ExceptT ReadError m Symbol) (s : SectionHeader) (bytes : List UInt8) :
    (whole s.entrySize.toNat bytes).mapM f =
      (List.range (bytes.length / s.entrySize.toNat)).mapM fun i => f (recordAt s bytes i) := by
  rw [whole, List.mapM_map]
  rfl

theorem tabulates_of_kept {symbols : List Symbol} (hwidth : (16 : Int) ≤ s.entrySize)
    (hlength : (bytes.length : Int) = s.size)
    (h : List.Forall₂ (Kept s bytes names) (List.range (bytes.length / s.entrySize.toNat))
      symbols) :
    Tabulates s bytes names symbols := by
  constructor
  · have hcount := h.length_eq
    rw [List.length_range] at hcount
    rw [← hcount, ← hlength, Int.natCast_ediv, Int.toNat_of_nonneg (by omega)]
  · intro i symbol hget
    obtain ⟨hi, rfl⟩ := List.getElem?_eq_some_iff.mp hget
    obtain ⟨hcount, hkept⟩ := List.forall₂_iff_get.mp h
    have hkept := hkept i (hcount ▸ hi) hi
    rwa [List.get_eq_getElem, List.getElem_range] at hkept

/-- The result follows from what was collected and from how the scan ended. -/
theorem Collected.outcome {first : Option ReadError} {result : Except ReadError (List Symbol)}
    {fault : Option LoadFault} (hwidth : (16 : Int) ≤ s.entrySize)
    (h : Collected s bytes names (List.range (bytes.length / s.entrySize.toNat)) first result)
    (hending : Ending s.size.toNat bytes rest fault) :
    Outcome s bytes rest names first (result >>= closing fault) := by
  cases h with
  | failed e =>
    constructor
    · intro e' he
      rw [Option.some.inj he]
      rfl
    · intro hnone
      cases hnone
    · intro hnone
      cases hnone
  | collected kept =>
    constructor
    · intro e he
      cases he
    · intro _ hlength
      have hfault : fault = none := by
        cases hending with
        | complete => rfl
        | misplaced hlt => omega
        | short hlt => omega
      subst hfault
      exact ⟨_, rfl, tabulates_of_kept hwidth hlength kept⟩
    · intro _ hlt
      obtain ⟨cause, rfl⟩ : ∃ cause, fault = some cause := by
        cases hending with
        | complete hlength => omega
        | misplaced => exact ⟨_, rfl⟩
        | short => exact ⟨_, rfl⟩
      exact ⟨cause, hending, rfl⟩

section Unused

variable {m : Type → Type} [Monad m] (lookUp : ℕ → ExceptT ReadError m Text)

theorem slice_congr {xs ys : List UInt8} {start width : ℕ}
    (h : ∀ k < width, ys[start + k]? = xs[start + k]?) :
    (ys.drop start).take width = (xs.drop start).take width := by
  apply List.ext_getElem?
  intro k
  rw [List.getElem?_take, List.getElem?_take]
  split_ifs with hk
  · rw [List.getElem?_drop, List.getElem?_drop, h k hk]
  · rfl

/-- A word is the same if its places are used. -/
theorem SameUse.slice_eq (huse : SameUse s bytes bytes') (hi : firstDecoded s ≤ i)
    (hlt : i < bytes.length / s.entrySize.toNat) {place width : ℕ}
    (hplaces : ∀ k < width, IsUsed (place + k)) :
    (bytes'.drop (i * s.entrySize.toNat + place)).take width =
      (bytes.drop (i * s.entrySize.toNat + place)).take width := by
  apply slice_congr
  intro k hk
  rw [Nat.add_assoc]
  exact huse i (place + k) hi hlt (hplaces k hk)

theorem SameUse.decode_eq (huse : SameUse s bytes bytes') (hwidth : (16 : Int) ≤ s.entrySize)
    (hi : firstDecoded s ≤ i) (hlt : i < bytes.length / s.entrySize.toNat) (name : Text) :
    decode i name (recordAt s bytes' i).bytes = decode i name (recordAt s bytes i).bytes := by
  have hvalue : Word.at32 4 (recordAt s bytes' i).bytes =
      Word.at32 4 (recordAt s bytes i).bytes := by
    rw [recordAt, recordAt, Word.at32_slice (by omega), Word.at32_slice (by omega), Word.at32,
      Word.at32, huse.slice_eq hi hlt]
    intro k hk
    exact .inl (by omega)
  have hsection : Word.at16 14 (recordAt s bytes' i).bytes =
      Word.at16 14 (recordAt s bytes i).bytes := by
    rw [recordAt, recordAt, Word.at16_slice (by omega), Word.at16_slice (by omega), Word.at16,
      Word.at16, huse.slice_eq hi hlt]
    intro k hk
    exact .inr (.inr (by omega))
  have hinfo : (recordAt s bytes' i).bytes.getD 12 0 = (recordAt s bytes i).bytes.getD 12 0 := by
    rw [List.getD_eq_getElem?_getD, List.getD_eq_getElem?_getD, recordAt, recordAt,
      List.getElem?_take_of_lt (by omega), List.getElem?_take_of_lt (by omega), List.getElem?_drop,
      List.getElem?_drop, huse i 12 hi hlt (.inr (.inl rfl))]
  rw [decode, decode, hvalue, hsection, hinfo]

theorem SameUse.ofRecord_eq (huse : SameUse s bytes bytes') (hwidth : (16 : Int) ≤ s.entrySize)
    (hlt : i < bytes.length / s.entrySize.toNat) :
    ofRecord s lookUp (recordAt s bytes' i) = ofRecord s lookUp (recordAt s bytes i) := by
  rw [ofRecord, ofRecord, recordAt_index hwidth, recordAt_index hwidth]
  by_cases hlocal : i < firstDecoded s
  · rw [if_pos hlocal, if_pos hlocal]
  have hdecoded : firstDecoded s ≤ i := Int.not_lt.mp hlocal
  have hoffset : offsetAt s bytes' i = offsetAt s bytes i := by
    have hused : ∀ k < 4, IsUsed (0 + k) := by
      intro k hk
      exact .inl (by omega)
    exact congrArg Word.ofBytes (huse.slice_eq hdecoded hlt hused)
  rw [if_neg hlocal, if_neg hlocal, nameOffset_recordAt hwidth, nameOffset_recordAt hwidth, hoffset]
  simp only [huse.decode_eq hwidth hdecoded hlt]

/-- Each whole entry is read by the same action. -/
theorem SameUse.map_whole (huse : SameUse s bytes bytes') (hwidth : (16 : Int) ≤ s.entrySize)
    (hlength : bytes'.length = bytes.length) :
    (whole s.entrySize.toNat bytes').map (ofRecord s lookUp) =
      (whole s.entrySize.toNat bytes).map (ofRecord s lookUp) := by
  rw [whole, whole, hlength, List.map_map, List.map_map]
  apply List.map_congr_left
  intro i hi
  exact huse.ofRecord_eq lookUp hwidth (List.mem_range.mp hi)

end Unused

/-- Chunks of the same shape that agree where bytes are used are read alike. -/
theorem traced_congr (hsize : 0 ≤ s.size) (hwidth : (16 : Int) ≤ s.entrySize)
    {front' rest' : List Chunk} (hshape : Chunk.SameShape chunks other)
    (h : Accepts s.size.toNat chunks front rest) (h' : Accepts s.size.toNat other front' rest')
    (huse : SameUse s ((join front).take s.size.toNat) ((join front').take s.size.toNat)) :
    traced s other names = traced s chunks names := by
  have hfault : (Record.scan s.entrySize.toNat s.size other).fault =
      (Record.scan s.entrySize.toNat s.size chunks).fault :=
    Record.fault_scanFrom_congr hshape ..
  have hlength : ((join front').take s.size.toNat).length =
      ((join front).take s.size.toNat).length := by
    rw [← Record.accepted_eq_take h, ← Record.accepted_eq_take h']
    exact Record.length_accepted_congr hshape ..
  -- the records differ, but each is read by the same action
  have hactions : ∀ records : List Record, records.mapM (ofRecord s (askName names)) =
      (records.map (ofRecord s (askName names))).mapM id := by
    intro records
    rw [List.mapM_map]
    rfl
  have hrun : (Record.scan s.entrySize.toNat s.size other).records.mapM
        (ofRecord s (askName names)) =
      (Record.scan s.entrySize.toNat s.size chunks).records.mapM (ofRecord s (askName names)) := by
    rw [hactions, hactions, scan_records hsize hwidth h, scan_records hsize hwidth h',
      huse.map_whole _ hwidth hlength]
  rw [traced_of_le hwidth, traced_of_le hwidth, hrun, hfault]

/-- What is asked for, and what comes of it. A small entry size makes a malformed object, unless it
is too long to be told. -/
theorem readTable_outcome (hsize : 0 ≤ s.size) (chunks : List Chunk)
    (names : ℕ → Except ReadError Text) :
    (s.entrySize < 16 → ∃ cause : LoadFault, cause.category = .malformedObject ∧
      traced s chunks names =
        (.error (if Numeral.isShowable s.entrySize then .load ⟨cause, none⟩ else .longNumber),
          [])) ∧
    (16 ≤ s.entrySize → ∃ front rest asked first, Accepts s.size.toNat chunks front rest ∧
      LookedUp names (nameOffsets s ((join front).take s.size.toNat)) asked first ∧
      (traced s chunks names).2 = .data :: asked.map .name ∧
      Outcome s ((join front).take s.size.toNat) rest names first (traced s chunks names).1 ∧
      ∀ other front' rest', Chunk.SameShape chunks other → Accepts s.size.toNat other front' rest' →
        SameUse s ((join front).take s.size.toNat) ((join front').take s.size.toNat) →
          traced s other names = traced s chunks names) := by
  constructor
  · intro hsmall
    exact ⟨_, rfl, traced_of_lt hsmall chunks names⟩
  · intro hwidth
    obtain ⟨front, rest, h⟩ := Chunk.exists_accepts s.size.toNat chunks
    obtain ⟨asked, first, result, hrun, hasked, hcollected⟩ :=
      run_entries hwidth names [.data] fun i hi => entry_end_le hwidth (List.mem_range.mp hi)
    rw [← mapM_whole, ← scan_records hsize hwidth h] at hrun
    have hending := Record.ending_scan s.entrySize.toNat h
    rw [Int.toNat_of_nonneg hsize] at hending
    have htraced := traced_of_le hwidth chunks names
    rw [hrun] at htraced
    refine ⟨front, rest, asked, first, h, hasked, ?_, ?_, ?_⟩
    · rw [htraced]
      rfl
    · rw [htraced]
      exact hcollected.outcome hwidth hending
    · intro other front' rest' hshape h' huse
      exact traced_congr hsize hwidth hshape h h' huse

def gapTable : SectionHeader := { size := 64, entrySize := 16, info := 1 }

/-- Two entries and a half, of which the second has its name at 7, and then a gap. -/
def gapData : List Chunk := [⟨0, List.replicate 16 0 ++ 7 :: List.replicate 23 0⟩, ⟨44, [0]⟩]

theorem accepts_gapData : Accepts gapTable.size.toNat gapData
    [⟨0, List.replicate 16 0 ++ 7 :: List.replicate 23 0⟩] [⟨44, [0]⟩] := by
  refine ⟨rfl, ?_, ?_⟩
  · exact Chunk.consecutive_singleton.mpr ⟨by decide, rfl⟩
  · intro chunk after hrest hchunk
    obtain ⟨rfl, -⟩ := List.cons.inj hrest
    exact absurd hchunk.offset_eq (by decide)

/-- The name that cannot be looked up counts, and not the gap behind it. -/
theorem readTable_outcome_gap : 0 ≤ gapTable.size ∧
    traced gapTable gapData (fun _ => .error .closed) = (.error .closed, [.data, .name 7]) := by
  have hsize : 0 ≤ gapTable.size := by decide
  obtain ⟨-, hwide⟩ := readTable_outcome hsize gapData fun _ => .error .closed
  obtain ⟨front, rest, asked, first, h, hasked, hrequests, houtcome, -⟩ := hwide (by decide)
  obtain ⟨rfl, rfl⟩ := accepts_gapData.unique h
  have hoffsets : nameOffsets gapTable ((join [⟨0, List.replicate 16 0 ++ 7 ::
      List.replicate 23 0⟩]).take gapTable.size.toNat) = [7] := by decide
  rw [hoffsets] at hasked
  refine ⟨hsize, ?_⟩
  cases hasked with
  | all known =>
    obtain ⟨name, hname⟩ := known 7 List.mem_cons_self
    cases hname
  | @stopped before after offset e split known fails =>
    cases before with
    | cons other before =>
      obtain ⟨name, hname⟩ := known other List.mem_cons_self
      cases hname
    | nil =>
      obtain ⟨rfl, -⟩ := List.cons.inj split
      obtain rfl := Except.error.inj fails
      exact Prod.ext (houtcome.failed _ rfl) hrequests

end ImportStubs.Symbol
