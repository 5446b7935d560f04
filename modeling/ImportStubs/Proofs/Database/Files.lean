import ImportStubs.Proofs.Database.Endings
import ImportStubs.Proofs.Json.LongNumber
import ImportStubs.Proofs.Text.Decoding

/-!
# Databases from files

A file is promised to be read like the descriptor that it holds, and to be refused with an error of
the database if it holds none. Two kinds of files break the promise: those that are no text, and
those whose reading comes to an integer that is too long.
-/

namespace ImportStubs.NidDatabase

/-- The bytes are the text of a document of the value. -/
def Documents (bytes : List UInt8) (v : Value) : Prop :=
  ∃ cs, bytes = Utf8.encode cs ∧ Json.read cs = .ok v

/-- What is promised of the result for what a path leads to. -/
structure AsPromised (source : Source) (result : Except DatabaseError NidDatabase) : Prop where
  read : ∀ bytes v, source = .file bytes → Documents bytes v → result = ofDescriptor v
  refused : (¬∃ bytes v, source = .file bytes ∧ Documents bytes v) →
    ∃ e, result = .error e ∧ e.isDatabaseFault = true

/-- A file that is no text, or in whose text the reading comes to an integer that is too long. -/
inductive BreaksPromise : Source → Prop
  | noText {bytes : List UInt8} : (∀ cs, bytes ≠ Utf8.encode cs) → BreaksPromise (.file bytes)
  | long {cs : List Char} : Json.Comes .value (Json.skipBlanks cs) →
      BreaksPromise (.file (Utf8.encode cs))

theorem breaksPromise_encode_iff {cs : List Char} :
    BreaksPromise (.file (Utf8.encode cs)) ↔ Json.read cs = .error .longNumber := by
  rw [Json.read_eq_longNumber_iff]
  constructor
  · intro h
    generalize hbytes : Utf8.encode cs = bytes at h
    generalize hsource : Source.file bytes = source at h
    cases h with
    | noText hnone =>
      obtain rfl := Source.file.inj hsource
      exact absurd hbytes.symm (hnone cs)
    | long hcomes =>
      obtain rfl := Utf8.encode_injective (hbytes.trans (Source.file.inj hsource))
      exact hcomes
  · exact .long

theorem documents_encode_iff {cs : List Char} {v : Value} :
    Documents (Utf8.encode cs) v ↔ Json.read cs = .ok v := by
  constructor
  · rintro ⟨ds, hbytes, hread⟩
    rwa [Utf8.encode_injective hbytes]
  · exact fun h => ⟨cs, rfl, h⟩

section

variable {path : Text} (hpath : Source.checkPath path = .ok ())
include hpath

theorem ofSource_unreadable (failure : Source.Failure) :
    ofSource path (.unreadable failure) = .error (.unreadable path failure) := by
  rw [ofSource, hpath]
  rfl

theorem ofSource_file (bytes : List UInt8) :
    ofSource path (.file bytes) = match Utf8.decode? bytes with
      | none => .error .notUtf8
      | some cs => match Json.read cs with
        | .ok v => ofDescriptor v
        | .error .malformed => .error (.invalidJson path)
        | .error .longNumber => .error .longNumber := by
  rw [ofSource, hpath]
  rfl

theorem ofSource_encode (cs : List Char) :
    ofSource path (.file (Utf8.encode cs)) = match Json.read cs with
      | .ok v => ofDescriptor v
      | .error .malformed => .error (.invalidJson path)
      | .error .longNumber => .error .longNumber := by
  have hdecode : Utf8.decode? (Utf8.encode cs) = some cs := Utf8.decode?_eq_some_iff.mpr rfl
  rw [ofSource_file hpath, hdecode]

theorem asPromised_file_encode (cs : List Char) :
    AsPromised (.file (Utf8.encode cs)) (ofSource path (.file (Utf8.encode cs))) ↔
      Json.read cs ≠ .error .longNumber := by
  have hnone : (¬∃ v, Json.read cs = .ok v) →
      ¬∃ bytes v, Source.file (Utf8.encode cs) = .file bytes ∧ Documents bytes v := by
    rintro hread ⟨bytes, v, hbytes, hdocuments⟩
    obtain rfl := Source.file.inj hbytes
    exact hread ⟨v, documents_encode_iff.mp hdocuments⟩
  rw [ofSource_encode hpath]
  cases hread : Json.read cs with
  | ok v =>
    refine iff_of_true ⟨?_, fun hmissing => ?_⟩ nofun
    · intro bytes w hbytes hdocuments
      obtain rfl := Source.file.inj hbytes
      rw [documents_encode_iff, hread] at hdocuments
      obtain rfl := Except.ok.inj hdocuments
      rfl
    · exact absurd ⟨_, v, rfl, documents_encode_iff.mpr hread⟩ hmissing
  | error fault =>
    have hmissing := hnone (by simp [hread])
    cases fault with
    | malformed =>
      refine iff_of_true ⟨fun bytes v hbytes hdocuments => ?_,
        fun _ => ⟨.invalidJson path, rfl, rfl⟩⟩ nofun
      exact absurd ⟨bytes, v, hbytes, hdocuments⟩ hmissing
    | longNumber =>
      refine iff_of_false (fun h => ?_) (not_not_intro rfl)
      obtain ⟨e, he, hfault⟩ := h.refused hmissing
      cases he
      cases hfault

/-- Of whatever a path leads to, the promise is kept for all but these two kinds of files. -/
theorem asPromised_iff (source : Source) :
    AsPromised source (ofSource path source) ↔ ¬BreaksPromise source := by
  cases source with
  | unreadable failure =>
    refine iff_of_true ⟨nofun, fun _ => ⟨_, ofSource_unreadable hpath failure, rfl⟩⟩ nofun
  | file bytes =>
    by_cases htext : ∃ cs, bytes = Utf8.encode cs
    · obtain ⟨cs, rfl⟩ := htext
      rw [asPromised_file_encode hpath, breaksPromise_encode_iff]
    · have hnone : ∀ cs, bytes ≠ Utf8.encode cs := not_exists.mp htext
      have hdecode : Utf8.decode? bytes = none :=
        Option.eq_none_iff_forall_ne_some.mpr fun cs hcs =>
          hnone cs (Utf8.decode?_eq_some_iff.mp hcs)
      refine iff_of_false (fun h => ?_) (not_not_intro (.noText hnone))
      rw [ofSource_file hpath, hdecode] at h
      obtain ⟨e, he, hfault⟩ := h.refused fun ⟨other, v, hbytes, cs, hcs, _⟩ =>
        hnone cs ((Source.file.inj hbytes).trans hcs)
      cases he
      cases hfault

end

/-- The descriptor of one library. -/
theorem asPromised_single :
    Source.checkPath "db.json" = .ok () ∧
      AsPromised (.file (Utf8.encode (Descriptor.singleDocument (Numeral.hexPower 7))))
        (ofSource "db.json"
          (.file (Utf8.encode (Descriptor.singleDocument (Numeral.hexPower 7))))) := by
  have hpath : Source.checkPath "db.json" = .ok () := by decide +kernel
  have hread := Descriptor.read_singleDocument (Descriptor.isPlain_hexPower 7)
  refine ⟨hpath, (asPromised_iff hpath _).mpr (breaksPromise_encode_iff.not.mpr ?_)⟩
  rw [hread]
  nofun

/-- A file that holds nothing but digits breaks the promise if they are too many. -/
theorem breaksPromise_ones {n : ℕ} (hn : Numeral.decimalLimit < n) :
    BreaksPromise (.file (Utf8.encode (List.replicate n '1'))) := by
  have hstarts : Json.StartsLong ([] ++ (List.replicate n '1' ++ [])) := by
    refine .intro (.inl rfl) (fun c hc => ?_) ?_ (by simpa using hn) nofun rfl rfl
    · rw [List.eq_of_mem_replicate hc]
      rfl
    · cases n <;> simp [List.replicate_succ]
  have hblanks : Json.skipBlanks (List.replicate n '1') = List.replicate n '1' := by
    cases n with
    | zero => rfl
    | succ n => rfl
  rw [List.nil_append, List.append_nil] at hstarts
  exact .long (hblanks.symm ▸ .number hstarts)

/-- A byte that is part of no character. -/
theorem not_asPromised_strayByte :
    ¬AsPromised (.file [0xFF]) (ofSource "db.json" (.file [0xFF])) := by
  intro h
  have hdecode : Utf8.decode? [0xFF] = none := by decide +kernel
  obtain ⟨e, he, hfault⟩ := h.refused fun ⟨bytes, v, hbytes, cs, hcs, _⟩ => by
    obtain rfl := Source.file.inj hbytes
    rw [Utf8.decode?_eq_some_iff.mpr hcs] at hdecode
    cases hdecode
  have hresult : ofSource "db.json" (.file [0xFF]) = .error .notUtf8 := by
    have hpath : Source.checkPath "db.json" = .ok () := by decide +kernel
    rw [ofSource_file hpath, hdecode]
  rw [hresult] at he
  cases he
  cases hfault

end ImportStubs.NidDatabase
