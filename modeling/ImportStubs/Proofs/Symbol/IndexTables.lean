import ImportStubs.Proofs.Record.Acceptance
import ImportStubs.Proofs.Symbol.ExtendedIndexes

/-!
# What an index table changes

A marked symbol takes the word of the record at its position, and every other symbol stays as it is.
Records that come before a fault have been used by then. A record beyond the symbols ends the
reading, so what is wrong with the table behind it is never noticed.
-/

namespace ImportStubs

namespace Record

theorem category_eq_of_scanFrom {size consumed : ℕ} {total : Int} {tail : List UInt8}
    {chunks : List Chunk} {cause : LoadFault}
    (h : (scanFrom size total consumed tail chunks).fault = some cause) :
    cause.category = .malformedObject := by
  induction chunks generalizing consumed tail with
  | nil =>
    rw [scanFrom] at h
    dsimp only at h
    split_ifs at h
    obtain rfl := Option.some.inj h
    rfl
  | cons chunk rest ih =>
    rw [scanFrom] at h
    by_cases hdone : total ≤ consumed
    · simp [hdone] at h
    by_cases hgap : chunk.offset ≠ consumed
    · rw [if_neg hdone, if_pos hgap] at h
      obtain rfl := Option.some.inj h
      rfl
    · rw [if_neg hdone, if_neg hgap] at h
      exact ih h

/-- The records of a scan are as long as was asked for, and they stand one behind the other. -/
theorem of_getElem?_records {size : ℕ} (hsize : 0 < size) {total : Int} {chunks : List Chunk}
    {i : ℕ} {record : Record} (h : (scan size total chunks).records[i]? = some record) :
    record.offset = size * i ∧ record.bytes.length = size := by
  rw [scan, scanFrom_records total chunks hsize (Nat.le_refl 0), cut_fst_eq_map hsize,
    List.getElem?_map] at h
  simp only [List.length_nil, List.nil_append, Nat.sub_self, Nat.zero_add, Option.map_eq_some_iff,
    List.getElem?_eq_some_iff, List.length_range, List.getElem_range] at h
  obtain ⟨_, ⟨hi, rfl⟩, rfl⟩ := h
  have hend := (Nat.le_div_iff_mul_le hsize).mp hi
  rw [Nat.succ_mul] at hend
  constructor
  · exact Nat.mul_comm _ _
  · simp only [List.length_take, List.length_drop]
    omega

end Record

namespace Symbol

/-- The symbol at a position carries the mark. -/
def isMarkedAt (symbols : List Symbol) (i : ℕ) : Bool :=
  symbols[i]?.any fun symbol => symbol.sectionIndex = extendedMark

/-- The number of marked symbols that have a record. -/
def replacements (symbols : List Symbol) (records : List Record) : ℕ :=
  (List.range (min symbols.length records.length)).countP (isMarkedAt symbols)

theorem replacements_cons (symbol : Symbol) (symbols : List Symbol) (record : Record)
    (records : List Record) :
    replacements (symbol :: symbols) (record :: records) =
      replacements symbols records + if symbol.sectionIndex = extendedMark then 1 else 0 := by
  have hlater : isMarkedAt (symbol :: symbols) ∘ Nat.succ = isMarkedAt symbols := by
    funext i
    simp [isMarkedAt]
  have hfirst : isMarkedAt (symbol :: symbols) 0 = decide (symbol.sectionIndex = extendedMark) := by
    simp [isMarkedAt]
  have hlength : min (symbol :: symbols).length (record :: records).length =
      min symbols.length records.length + 1 := by
    simp only [List.length_cons]
    omega
  rw [replacements, hlength, List.range_succ_eq_map, List.countP_cons, List.countP_map, hlater,
    hfirst]
  simp [replacements]

/-- The fault of a reading, unless a record beyond the symbols ends it before. -/
def noticed (symbols : List Symbol) (records : List Record) (fault : Option LoadFault) :
    Option LoadFault :=
  if symbols.length < records.length then none else fault

theorem noticed_eq_none_iff {symbols : List Symbol} {records : List Record}
    {fault : Option LoadFault} :
    noticed symbols records fault = none ↔ fault = none ∨ symbols.length < records.length := by
  by_cases hbeyond : symbols.length < records.length <;> simp [noticed, hbeyond]

theorem noticed_cons (symbol : Symbol) (symbols : List Symbol) (record : Record)
    (records : List Record) (fault : Option LoadFault) :
    noticed (symbol :: symbols) (record :: records) fault = noticed symbols records fault := by
  simp [noticed]

theorem extendFrom_snd (fault : Option LoadFault) (symbols : List Symbol)
    (records : List Record) :
    (extendFrom fault symbols records).2 =
      (noticed symbols records fault).elim (.ok (replacements symbols records)) .error := by
  induction symbols generalizing records with
  | nil => cases records <;> cases fault <;> simp [extendFrom, replacements, noticed]
  | cons symbol symbols ih =>
    cases records with
    | nil => cases fault <;> simp [extendFrom, replacements, noticed]
    | cons record records =>
      rw [extendFrom, replacements_cons, noticed_cons]
      dsimp only
      by_cases hmark : symbol.sectionIndex = extendedMark
      · simp only [if_pos hmark, ih]
        cases noticed symbols records fault <;> rfl
      · simp only [if_neg hmark, ih, Nat.add_zero]

theorem taking_of_ne {symbol : Symbol} (h : symbol.sectionIndex ≠ extendedMark)
    (entry : Option ℕ) : symbol.taking entry = symbol := by
  cases entry <;> simp [taking, h]

theorem taking_taking (symbol : Symbol) (entry : Option ℕ) :
    (symbol.taking entry).taking entry = symbol.taking entry := by
  cases entry with
  | none => rfl
  | some index => by_cases hmark : symbol.sectionIndex = extendedMark <;> simp [taking, hmark]

theorem taking_of_record {symbol : Symbol} {records : List Record} {i : ℕ} {record : Record}
    (hmark : symbol.sectionIndex = extendedMark) (hrecord : records[i]? = some record)
    (hlength : record.bytes.length = 4) :
    symbol.taking (entryAt records i) =
      { symbol with sectionIndex := Word.ofBytes record.bytes } := by
  have hword : Word.at32 0 record.bytes = Word.ofBytes record.bytes := by
    rw [Word.at32, List.drop_zero, List.take_of_length_le (Nat.le_of_eq hlength)]
  simp [taking, entryAt, hrecord, hmark, hword]

/-- What becomes of some symbols with the records that an index table delivers, and of the reading:
it ends with a fault of the table or with the number of replacements. -/
structure Extension (symbols : List Symbol) (records : List Record) (fault : Option LoadFault)
    (after : List Symbol) (result : Except LoadFault ℕ) : Prop where
  length_eq : after.length = symbols.length
  replaced : ∀ (i : ℕ) (symbol : Symbol) (record : Record), symbols[i]? = some symbol →
    records[i]? = some record → symbol.sectionIndex = extendedMark →
      after[i]? = some { symbol with sectionIndex := Word.ofBytes record.bytes }
  kept : ∀ (i : ℕ) (symbol : Symbol), symbols[i]? = some symbol →
    symbol.sectionIndex ≠ extendedMark ∨ records.length ≤ i → after[i]? = some symbol
  returns_iff : (∃ count, result = .ok count) ↔ fault = none ∨ symbols.length < records.length
  count_eq : ∀ count, result = .ok count → count = replacements symbols records
  fails : ∀ cause, result = .error cause →
    fault = some cause ∧ cause.category = .malformedObject

variable (symbols : List Symbol) (s : SectionHeader) (chunks : List Chunk)

theorem extendIndexes_getElem? (i : ℕ) :
    (extendIndexes symbols s chunks).1[i]? =
      symbols[i]?.map (·.taking (entryAt (Record.scan 4 s.size chunks).records i)) :=
  extendFrom_getElem? ..

theorem extension_extendIndexes :
    Extension symbols (Record.scan 4 s.size chunks).records (Record.scan 4 s.size chunks).fault
      (extendIndexes symbols s chunks).1 (extendIndexes symbols s chunks).2 := by
  have hresult : (extendIndexes symbols s chunks).2 = _ := extendFrom_snd ..
  constructor
  · exact length_extendFrom ..
  · intro i symbol record hsymbol hrecord hmark
    have hlength := (Record.of_getElem?_records (by decide) hrecord).2
    rw [extendIndexes_getElem?, hsymbol, Option.map_some, taking_of_record hmark hrecord hlength]
  · intro i symbol hsymbol hkept
    rw [extendIndexes_getElem?, hsymbol, Option.map_some]
    rcases hkept with hmark | hrecords
    · rw [taking_of_ne hmark]
    · simp [entryAt, hrecords, taking]
  · rw [hresult, ← noticed_eq_none_iff]
    cases noticed symbols _ _ <;> simp
  · intro count hcount
    rw [hresult] at hcount
    cases hnoticed : noticed symbols _ _ with
    | none =>
      rw [hnoticed] at hcount
      exact (Except.ok.inj hcount).symm
    | some cause =>
      rw [hnoticed] at hcount
      cases hcount
  · intro cause hcause
    rw [hresult] at hcause
    cases hnoticed : noticed symbols _ _ with
    | none =>
      rw [hnoticed] at hcause
      cases hcause
    | some other =>
      rw [hnoticed] at hcause
      obtain rfl := Except.error.inj hcause
      unfold noticed at hnoticed
      split_ifs at hnoticed
      exact ⟨hnoticed, Record.category_eq_of_scanFrom hnoticed⟩

/-- A symbol that does not carry the mark is out of reach of every index table. -/
theorem extendIndexes_of_ne {symbols : List Symbol} {i : ℕ} {symbol : Symbol}
    (hsymbol : symbols[i]? = some symbol) (hmark : symbol.sectionIndex ≠ extendedMark) :
    (extendIndexes symbols s chunks).1[i]? = some symbol := by
  rw [extendIndexes_getElem?, hsymbol, Option.map_some, taking_of_ne hmark]

theorem extendIndexes_twice :
    (extendIndexes (extendIndexes symbols s chunks).1 s chunks).1 =
      (extendIndexes symbols s chunks).1 := by
  apply List.ext_getElem?
  intro i
  rw [extendIndexes_getElem?, extendIndexes_getElem?, Option.map_map]
  congr 1
  funext symbol
  exact taking_taking symbol _

/-- An index table replaces the mark of every symbol that it has a record for, and nothing else,
also if it turns out to be damaged; used again it changes nothing, and a later table only what still
carries the mark. -/
theorem extendIndexes_outcome :
    ∃ records fault, Record.scan? 4 s.size chunks = .ok { records, fault } ∧
      (∀ (i : ℕ) (record : Record), records[i]? = some record →
        record.offset = 4 * i ∧ record.bytes.length = 4) ∧
      Extension symbols records fault (extendIndexes symbols s chunks).1
        (extendIndexes symbols s chunks).2 ∧
      (extendIndexes (extendIndexes symbols s chunks).1 s chunks).1 =
        (extendIndexes symbols s chunks).1 ∧
      ∀ later laterChunks (i : ℕ) (symbol : Symbol),
        (extendIndexes symbols s chunks).1[i]? = some symbol →
        symbol.sectionIndex ≠ extendedMark →
          (extendIndexes (extendIndexes symbols s chunks).1 later laterChunks).1[i]? =
            some symbol := by
  refine ⟨_, _, rfl, ?_, extension_extendIndexes symbols s chunks,
    extendIndexes_twice symbols s chunks, ?_⟩
  · intro i record hrecord
    exact Record.of_getElem?_records (by decide) hrecord
  · intro later laterChunks i symbol hsymbol hmark
    exact extendIndexes_of_ne later laterChunks hsymbol hmark

-- The gap in front of the third word is behind a record that no symbol takes.
example : extendIndexes [{ sectionIndex := 0xFFFF }] { size := 12 }
    [⟨0, [9, 0, 0, 0, 1, 0, 0, 0]⟩, ⟨99, []⟩] = ⟨[{ sectionIndex := 9 }], .ok 1⟩ := by
  cbv

end Symbol
end ImportStubs
