import ImportStubs.Proofs.Session.Precedence

/-!
# How a load can end

A load ends with a session whose image is open, or with a load error that names the path, and then
an image that had been made for the file is closed. For this the path has to be one that can be
encoded, and a limit that the file exceeds one that can be told. Nothing else can go wrong, since
whatever is read is guarded: the image is still open, payloads are cut by a positive step, and every
record has its full width and a position within its table.
-/

namespace ImportStubs

namespace Image

variable {image : Image}

/-- The records of a section that is read in pieces have their full width, and their positions lie
within the section. -/
theorem record_of_pieces (hpiece : 0 ≤ image.pieceSize) {s : SectionHeader} {width : ℕ}
    (hwidth : 0 < width) {chunks : List Chunk} (h : image.pieces s = .ok chunks) {record : Record}
    (hrecord : record ∈ (Record.scan width s.size chunks).records) :
    record.bytes.length = width ∧ ((record.offset / width : ℕ) : Int) < s.size / width := by
  have hscan := scan_pieces hwidth hpiece s
  rw [h] at hscan
  obtain ⟨bytes, hpayload, hwhole⟩ := map_eq_ok_iff.mp hscan.symm
  rw [← hwhole, wholeScan, Record.cut_fst_eq_map hwidth] at hrecord
  obtain ⟨i, hi, rfl⟩ := List.mem_map.mp hrecord
  have hlt := List.mem_range.mp hi
  have hinside := (Nat.le_div_iff_mul_le hwidth).mp (Nat.succ_le_of_lt hlt)
  rw [Nat.succ_mul] at hinside
  have hbytes : (bytes.length : Int) = s.size := by
    refine (length_of_payload hpayload).resolve_left ?_
    rintro rfl
    rw [List.length_nil, Nat.zero_div] at hlt
    exact Nat.not_lt_zero i hlt
  constructor
  · rw [List.length_take, List.length_drop]
    omega
  · rw [Nat.zero_add, Nat.mul_div_cancel i hwidth]
    have hle : ((bytes.length / width : ℕ) : Int) ≤ s.size / width := by
      rw [Int.natCast_ediv]
      exact Int.ediv_le_ediv (by omega) (Int.le_of_eq hbytes)
    omega

end Image

namespace Session

open ElfFile

/-- No file is refused for a limit that cannot be told. -/
def IsTold (limit : Int) (source : Source) : Prop :=
  ∀ bytes, source = .file bytes → limit < 0 → Numeral.isShowable limit = true

theorem isShowable_tooLarge {limit : Int} {bytes : List UInt8} (h : IsTold limit (.file bytes)) :
    LoadFault.isShowable (.tooLarge bytes.length limit) = true := by
  rw [LoadFault.isShowable, Bool.or_eq_true, decide_eq_true_eq]
  by_cases hneg : limit < 0
  · exact .inr (h bytes rfl hneg)
  · exact .inl (Int.not_lt.mp hneg)

/-- A path that can be encoded is opened, or there is a load error with no other path. -/
theorem exists_ends_openAt {path : Text} (hpath : Source.checkPath path = .ok ())
    (pieceSize : Int) {limit : Int} {source : Source} (htold : IsTold limit source) :
    ∃ fault?, Ends path fault? (Image.openAt path pieceSize limit source) := by
  cases source with
  | unreadable failure =>
    rw [Image.openAt_eq, hpath]
    exact ⟨_, .failed ⟨.cannotOpen failure.reason, some path⟩ (by simp)⟩
  | file bytes =>
    by_cases hlarge : limit ≠ 0 ∧ limit < bytes.length
    · rw [Image.openAt_eq, hpath]
      dsimp only [Source.read]
      rw [if_pos hlarge, ReadError.ofFault_of_isShowable (isShowable_tooLarge htold)]
      exact ⟨_, .failed ⟨.tooLarge bytes.length limit, some path⟩ (by simp)⟩
    · have hunlimited : Image.openAt path pieceSize limit (.file bytes) =
          Image.openAt path pieceSize (0 : ℕ) (.file bytes) := by
        rw [Image.openAt_eq, Image.openAt_eq, hpath]
        dsimp only [Source.read]
        rw [if_neg hlarge, if_neg (by simp)]
      rw [hunlimited]
      exact ⟨_, Image.ends_openAt hpath pieceSize 0 bytes⟩

/-- How a load ends that went as it should: with an open session of the file, or with a load error
for the path and no image left open. -/
inductive Settled (path : Text) (source : Source) : Except Failure Session → Prop
  | loaded {s : Session} (released_eq : s.released = false) (open_eq : s.image.closed = false)
      (path_eq : s.path = path) (source_eq : source = .file s.image.bytes) :
      Settled path source (.ok s)
  | failed {failure : Failure} {cause : LoadFault}
      (error_eq : failure.error = .load ⟨cause, some path⟩)
      (closed : Image.LeftClosed path source failure.image) :
      Settled path source (.error failure)

theorem located_eq {path : Text} {e : LoadError} (h : ∀ p ∈ e.path, p = path) :
    e.located path = ⟨e.fault, some path⟩ := by
  unfold LoadError.located
  cases hplace : e.path with
  | none => rfl
  | some p => rw [Option.getD_some, h p hplace]

theorem retained_assemble {path : Text} {pieceSize : ℕ} {limit : Int} {source : Source}
    {image : Image} (h : Image.openAt path pieceSize limit source = .ok image) (logger : Logger) :
    Retained image (perform assemble { image } logger).1.2 :=
  retains_assemble _ logger (.start (Image.readable_of_openAt h (Int.natCast_nonneg pieceSize)))

theorem exists_ends_assemble {path : Text} {pieceSize : ℕ} {limit : Int} {source : Source}
    {image : Image} (h : Image.openAt path pieceSize limit source = .ok image) (logger : Logger) :
    image.path = path ∧ image.closed = false ∧
      ∃ fault?, Ends path fault? (perform assemble { image } logger).1.1 := by
  obtain ⟨file, _, _, rfl, _⟩ := Image.openAt_eq_ok h
  have hopened := Image.opened_of_openAt h
  have hreadable := Image.readable_of_openAt h (Int.natCast_nonneg pieceSize)
  have hsettles := settles_assemble hopened.shows hreadable hopened.sections_eq logger
  rw [hopened.path_eq] at hsettles
  exact ⟨hopened.path_eq, hopened.shows.closed_eq, _, hsettles⟩

theorem reportFailure_of_load {path : Text} {failure : Failure} {e : LoadError}
    (h : failure.error = .load e) (logger : Logger) :
    ((reportFailure path failure).run logger).1 =
      { failure with error := .load (e.located path) } := by
  unfold reportFailure
  rw [h]
  rfl

theorem reportFailure_of_ne {path : Text} {failure : Failure} (h : ∀ e, failure.error ≠ .load e)
    (logger : Logger) : ((reportFailure path failure).run logger).1 = failure := by
  unfold reportFailure
  cases herror : failure.error with
  | load e => exact absurd herror (h e)
  | closed | notPath _ | longNumber => rfl

theorem settled_of_opening_eq_error {path : Text} (hpath : Source.checkPath path = .ok ())
    {pieceSize limit : Int} {source : Source} (htold : IsTold limit source) {failure : Failure}
    (hopening : Image.opening path pieceSize limit source = .error failure) (logger : Logger) :
    Settled path source ((load path pieceSize limit source).run logger).1 := by
  have hclosed := Image.leftClosed_of_opening hpath hopening
  obtain ⟨fault?, hends⟩ := exists_ends_openAt hpath pieceSize htold
  rw [Image.openAt_eq_error_iff.mpr ⟨failure, hopening, rfl⟩] at hends
  rw [load_run, hopening]
  rcases failure with ⟨error, image⟩
  cases hends with
  | failed error hplace =>
    dsimp only
    rw [reportFailure_of_load rfl]
    exact .failed (congrArg ReadError.load (located_eq hplace)) hclosed

theorem settled_of_opening_eq_ok {path : Text} {pieceSize : ℕ} {limit : Int} {source : Source}
    {image : Image} (hopening : Image.opening path pieceSize limit source = .ok image)
    (logger : Logger) :
    Settled path source ((load path pieceSize limit source).run logger).1 := by
  have hopen := Image.opening_eq_ok_iff.mp hopening
  obtain ⟨file, _, _, rfl, _⟩ := Image.openAt_eq_ok hopen
  have hretained := retained_assemble hopen (entered logger)
  obtain ⟨hpath, hclosed, fault?, hends⟩ := exists_ends_assemble hopen (entered logger)
  have hbytes := (Image.opened_of_openAt hopen).shows.bytes_eq
  rw [load_run, hopening]
  dsimp only
  generalize perform assemble { image } (entered logger) = found at hretained hends ⊢
  rcases found with ⟨⟨result, a⟩, inner⟩
  cases hends with
  | ok value =>
    exact .loaded rfl (hretained.closed_eq.trans hclosed) (hretained.path_eq.trans hpath)
      (congrArg Source.file (hretained.bytes_eq.trans hbytes).symm)
  | failed error hplace =>
    refine .failed (congrArg ReadError.load (located_eq hplace)) ?_
    exact Image.leftClosed_close (hretained.path_eq.trans hpath)
      (hretained.bytes_eq.trans hbytes)

/-- A load settles if its path can be encoded and its limit can be told. -/
theorem settled_of_isTold {path : Text} (hpath : Source.checkPath path = .ok ())
    (pieceSize : ℕ) {limit : Int} {source : Source} (htold : IsTold limit source)
    (logger : Logger) :
    Settled path source ((load path pieceSize limit source).run logger).1 := by
  cases hopening : Image.opening path pieceSize limit source with
  | error failure => exact settled_of_opening_eq_error hpath htold hopening logger
  | ok image => exact settled_of_opening_eq_ok hopening logger

/-- Nothing settles an error that is no load error. -/
theorem not_settled_of_opening {path : Text} {pieceSize : ℕ} {limit : Int} {source : Source}
    {e : ReadError} (hopen : Image.openAt path pieceSize limit source = .error e)
    (hother : ∀ error, e ≠ .load error) (logger : Logger) :
    ¬Settled path source ((load path pieceSize limit source).run logger).1 := by
  obtain ⟨failure, hopening, rfl⟩ := Image.openAt_eq_error_iff.mp hopen
  rw [load_run, hopening]
  dsimp only
  rw [reportFailure_of_ne hother]
  intro hsettled
  cases hsettled with
  | failed herror _ => exact hother _ herror

/-- Only a path that can be encoded and a limit that can be told let a load settle. -/
theorem settled_iff (path : Text) (pieceSize : ℕ) (limit : Int) (source : Source)
    (logger : Logger) :
    Settled path source ((load path pieceSize limit source).run logger).1 ↔
      Source.checkPath path = .ok () ∧ IsTold limit source := by
  constructor
  · intro hsettled
    cases hpath : Source.checkPath path with
    | error cause =>
      have hopen : Image.openAt path pieceSize limit source = .error (.notPath cause) := by
        rw [Image.openAt_eq, hpath]
      exact absurd hsettled (not_settled_of_opening hopen (by simp) logger)
    | ok _ =>
      refine ⟨rfl, ?_⟩
      rintro bytes rfl hneg
      by_contra hlong
      have hlarge : limit ≠ 0 ∧ limit < bytes.length := by omega
      have hfault : LoadFault.isShowable (.tooLarge bytes.length limit) = false := by
        rw [LoadFault.isShowable, Bool.or_eq_false_iff, decide_eq_false_iff_not]
        exact ⟨Int.not_le.mpr hneg, Bool.eq_false_iff.mpr hlong⟩
      have hopen : Image.openAt path pieceSize limit (.file bytes) = .error .longNumber := by
        rw [Image.openAt_eq, hpath]
        dsimp only [Source.read]
        rw [if_pos hlarge, ReadError.ofFault_of_not_isShowable hfault]
      exact absurd hsettled (not_settled_of_opening hopen (by simp) logger)
  · rintro ⟨hpath, htold⟩
    exact settled_of_isTold hpath pieceSize htold logger

/-- The moments of an assembly at which the records of a section are taken, with their width. -/
inductive Takes (image : Image) : Assembly → SectionHeader → Int → Prop
  | stubs {before after : List SectionHeader} {s : SectionHeader} {kind : StubKind}
      {logger logger' : Logger} {a : Assembly} (split : image.namedSections = before ++ s :: after)
      (run : perform (before.forM loadSection) { image } logger = ((.ok PUnit.unit, a), logger'))
      (kind_eq : stubKind? s = some kind) (first : a.stubSections.get kind = 0) :
      Takes image a s Stub.entrySize
  | symbols {before after : List SectionHeader} {s : SectionHeader} {logger logger' : Logger}
      {a : Assembly} {count : Int} (split : image.namedSections = before ++ s :: after)
      (run : perform (before.forM loadSection) { image } logger = ((.ok PUnit.unit, a), logger'))
      (type_eq : s.kind? = some .symbolTable) (first : a.symbols = none)
      (count_eq : Symbol.count s = .ok count) :
      Takes image a s s.entrySize
  | indexes {before after : List SectionHeader} {s : SectionHeader}
      {logger logger' logger'' : Logger} {a b : Assembly} {symbols extended : List Symbol}
      (sections : perform (image.namedSections.forM loadSection) { image } logger =
        ((.ok PUnit.unit, b), logger'))
      (present : ¬(b.stubSections.functions = 0 ∧ b.stubSections.vars = 0))
      (symbols_eq : b.symbols = some symbols)
      (split : (image.namedSections.filter fun s => s.kind? = some .extendedIndexes) =
        before ++ s :: after)
      (run : perform (before.foldlM extendSymbols symbols) b logger' =
        ((.ok extended, a), logger''))
      (linked : s.link = a.symbolSection) :
      Takes image a s 4

/-- Nothing that is not foreseen can happen to the records of a section. -/
structure Guarded (a : Assembly) (s : SectionHeader) (width : Int) : Prop where
  open_eq : a.image.closed = false
  cutStep_pos : ∀ bytes, s.size ≠ 0 → a.image.read s.offset s.size = .ok bytes →
    0 < a.image.cutStep bytes
  scan?_eq : ∀ chunks,
    Record.scan? width s.size chunks = .ok (Record.scan width.toNat s.size chunks)
  record_fits : ∀ chunks, a.image.pieces s = .ok chunks →
    ∀ record ∈ (Record.scan width.toNat s.size chunks).records,
      (record.bytes.length : Int) = width ∧ (record.offset : Int) / width < s.size / width
  symbol_fits : s.kind? = some .symbolTable → 16 ≤ width
  symbols_isSome : s.kind? = some .extendedIndexes → a.symbols.isSome

theorem Retained.guarded {image : Image} {a : Assembly} (h : Retained image a)
    (hclosed : image.closed = false) {s : SectionHeader} {width : Int} (hwidth : 0 < width)
    (hsymbol : s.kind? = some .symbolTable → 16 ≤ width)
    (hsymbols : s.kind? = some .extendedIndexes → a.symbols.isSome) : Guarded a s width where
  open_eq := h.closed_eq.trans hclosed
  cutStep_pos := by
    intro bytes hsize hread
    refine Image.cutStep_pos h.readable.pieceSize_nonneg ?_
    rintro rfl
    exact hsize (Image.length_of_read hread).symm
  scan?_eq := fun _ => if_neg (Int.not_le.mpr hwidth)
  record_fits := by
    intro chunks hchunks record hrecord
    have hnat : ((width.toNat : ℕ) : Int) = width := Int.toNat_of_nonneg (Int.le_of_lt hwidth)
    have hfits := Image.record_of_pieces h.readable.pieceSize_nonneg
      (Int.lt_toNat.mpr hwidth) hchunks hrecord
    rw [Int.natCast_ediv, hnat] at hfits
    exact ⟨by rw [hfits.1, hnat], hfits.2⟩
  symbol_fits := hsymbol
  symbols_isSome := hsymbols

/-- Index tables leave symbols in place. -/
theorem isSome_extendSymbols (tables : List SectionHeader) {image : Image} {a : Assembly}
    (hretained : Retained image a) (h : a.symbols.isSome) (symbols : List Symbol) :
    Yields a (tables.foldlM extendSymbols symbols) fun _ b => b.symbols.isSome := by
  induction tables generalizing a symbols with
  | nil => exact yields_pure h
  | cons s tables ih =>
    have hstep : Yields a (extendSymbols symbols s) fun _ b => b.symbols.isSome := by
      refine (yields_extendSymbols symbols s hretained.readable.pieceSize_nonneg).weaken ?_
      rintro extended b (⟨-, -, rfl⟩ | ⟨-, rfl, -⟩)
      · exact h
      · rfl
    rw [List.foldlM_cons]
    refine (hstep.retained (retains_extendSymbols symbols s) hretained).bind ?_
    exact fun extended b hb => ih hb.2 hb.1 extended

theorem guarded_of_takes {image : Image} (hreadable : image.Readable)
    (hclosed : image.closed = false) {a : Assembly} {s : SectionHeader} {width : Int}
    (h : Takes image a s width) : Guarded a s width := by
  have hstart : Retained image { image } := .start hreadable
  have hsections : ∀ {sections : List SectionHeader} {logger logger' : Logger} {b : Assembly},
      perform (sections.forM loadSection) { image } logger = ((.ok PUnit.unit, b), logger') →
        Retained image b := by
    intro sections logger logger' b hrun
    have hretained := inherited_retains.forM retains_loadSection sections _ logger hstart
    rwa [hrun] at hretained
  cases h with
  | stubs split run kind_eq first =>
    have htype : s.kind? = some .programBits := by
      unfold stubKind? at kind_eq
      split_ifs at kind_eq with htype
      exact htype
    refine (hsections run).guarded hclosed (by decide) ?_ ?_ <;>
    · rw [htype]
      intro hother
      cases hother
  | symbols split run type_eq first count_eq =>
    have hwide := Symbol.le_entrySize_of_count count_eq
    refine (hsections run).guarded hclosed (Int.lt_of_lt_of_le (by decide) hwide)
      (fun _ => hwide) ?_
    rw [type_eq]
    intro hother
    cases hother
  | @indexes before _ _ _ logger' _ _ b symbols _ sections present symbols_eq split run linked =>
    have hretained := hsections sections
    have htables :=
      inherited_retains.foldlM retains_extendSymbols before symbols b logger' hretained
    rw [run] at htables
    have hsome : b.symbols.isSome := by rw [symbols_eq]; rfl
    have htype : s.kind? = some .extendedIndexes := by
      have hmem : s ∈ image.namedSections.filter fun s => s.kind? = some .extendedIndexes := by
        rw [split]
        simp
      exact of_decide_eq_true (List.mem_filter.mp hmem).2
    refine htables.guarded hclosed (by decide) ?_ fun _ => ?_
    · rw [htype]
      intro hother
      cases hother
    · exact isSome_extendSymbols before hretained hsome symbols run

/-- A load settles exactly if its path can be encoded and its limit can be told, and whatever it
reads is guarded. -/
theorem load_settled (path : Text) (pieceSize : ℕ) (limit : Int) (source : Source)
    (logger : Logger) :
    (Settled path source ((load path pieceSize limit source).run logger).1 ↔
        Source.checkPath path = .ok () ∧ IsTold limit source) ∧
      ∀ image, Image.openAt path pieceSize limit source = .ok image →
        ∀ a s width, Takes image a s width → Guarded a s width := by
  refine ⟨settled_iff path pieceSize limit source logger, fun image himage a s width htakes => ?_⟩
  have hreadable := Image.readable_of_openAt himage (Int.natCast_nonneg pieceSize)
  exact guarded_of_takes hreadable (exists_ends_assemble himage logger).2.1 htakes

/-- The symbols of the small binary are taken before any stubs, and it is loaded. -/
theorem load_settled_smallBinary : Source.checkPath "small" = .ok () ∧
    Settled "small" (.file smallBinary)
      ((load "small" (5 : ℕ) 0 (.file smallBinary)).run quietLogger).1 ∧
    ∃ image, Image.openAt "small" (5 : ℕ) 0 (.file smallBinary) = .ok image ∧
      Takes image { image } (ElfFile.header smallBinary 2) 16 ∧
      Guarded { image } (ElfFile.header smallBinary 2) 16 := by
  have hpath : Source.checkPath "small" = .ok () := by decide
  have hrefusal : refusal? smallBinary 0 = none := by decide +kernel
  obtain ⟨image, hopen⟩ := Image.exists_openAt hpath (5 : ℕ) hrefusal
  have hcount : sectionCount smallBinary = 6 := by decide +kernel
  have hnamed : image.namedSections = (positions smallBinary).map (ElfFile.header smallBinary) := by
    rw [Image.namedSections, (Image.opened_of_openAt hopen).sections_eq, hcount, positions, hcount]
    rfl
  have hstrings : loadSection (ElfFile.header smallBinary 1) = pure PUnit.unit := by
    have hkind : stubKind? (ElfFile.header smallBinary 1) = none := by decide +kernel
    have htype : ¬(ElfFile.header smallBinary 1).kind? = some .symbolTable := by decide +kernel
    rw [loadSection, hkind]
    exact if_neg htype
  have hsplit : image.namedSections = [ElfFile.header smallBinary 1] ++
      ElfFile.header smallBinary 2 :: (List.range' 3 3).map (ElfFile.header smallBinary) := by
    rw [hnamed, positions, hcount]
    rfl
  have hrun : perform ([ElfFile.header smallBinary 1].forM loadSection) { image } quietLogger =
      ((.ok PUnit.unit, { image }), quietLogger) := by
    rw [List.forM_eq_forM, List.forM_cons, hstrings]
    rfl
  have htype : (ElfFile.header smallBinary 2).kind? = some .symbolTable := by decide +kernel
  have hthree : Symbol.count (ElfFile.header smallBinary 2) = .ok 3 := by decide +kernel
  have hwidth : (ElfFile.header smallBinary 2).entrySize = 16 := by decide +kernel
  have htakes := Takes.symbols hsplit hrun htype rfl hthree
  rw [hwidth] at htakes
  have hsettled := load_settled "small" 5 0 (.file smallBinary) quietLogger
  have htold : IsTold 0 (.file smallBinary) := fun _ _ hneg => absurd hneg (by decide)
  exact ⟨hpath, hsettled.1.mpr ⟨hpath, htold⟩, image, hopen, htakes,
    hsettled.2 image hopen _ _ _ htakes⟩

/-- A path with half of a surrogate pair in it. -/
def surrogatePath : Text := .surrogate 0 :: ".elf"

/-- It has no null character, and its load still ends with something else than a load error. -/
theorem load_surrogatePath : CodePoint.char '\x00' ∉ surrogatePath ∧
    ((load surrogatePath (0 : ℕ) 0 (.unreadable .missing)).run quietLogger).1 =
      .error { error := .notPath .unencodable } ∧
    ¬Settled surrogatePath (.unreadable .missing)
      ((load surrogatePath (0 : ℕ) 0 (.unreadable .missing)).run quietLogger).1 := by
  refine ⟨by decide, rfl, fun hsettled => ?_⟩
  have hpath := ((settled_iff surrogatePath 0 0 (.unreadable .missing) quietLogger).mp hsettled).1
  cases hpath

end Session
end ImportStubs
