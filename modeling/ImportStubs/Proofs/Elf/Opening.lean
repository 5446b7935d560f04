import ImportStubs.Proofs.Elf.Reading
import ImportStubs.Proofs.LoadError

/-!
# Opening a file

Opening first checks the path, the file and its header, then reads the section table and looks up
the names of its sections. An opened image is readable: the tables it remembers from the look-ups
are those of its named sections.
-/

namespace ImportStubs

/-- The section without its name. -/
def SectionHeader.unnamed (s : SectionHeader) : SectionHeader := { s with name := [] }

namespace Image

/-- The image of a file with some sections, before any look-up. -/
def bare (path : Text) (pieceSize : Int) (bytes : List UInt8) (header : ElfHeader)
    (sections : List SectionHeader) :
    Image :=
  { path, pieceSize, bytes, header, sections }

/-- What an action makes of an image, if it succeeds. -/
def result (action : Action PUnit) (image : Image) : Except ReadError Image :=
  match action.run.run image with
  | (.ok _, image) => .ok image
  | (.error e, _) => .error e

/-- The image with the names of its sections. -/
def named (image : Image) : Except ReadError Image := result nameAll image

theorem named_eq (image : Image) :
    image.named =
      match image.sections with
      | null :: s :: rest =>
        match (nameSections image.nameTable (s :: rest)).run.run image with
        | (.ok named, image) => .ok { image with sections := null :: named }
        | (.error e, _) => .error e
      | _ => .ok image := by
  have hget : (get : Action Image).run.run image = (.ok image, image) := rfl
  unfold named result nameAll
  rw [run_bind, hget]
  dsimp only
  rcases hsections : image.sections with _ | ⟨null, _ | ⟨s, rest⟩⟩
  · rfl
  · rfl
  · dsimp only
    rw [run_bind]
    cases (nameSections image.nameTable (s :: rest)).run.run image with
    | mk answer after => cases answer <;> rfl

theorem run_learn (question : Image → Except ReadError Image) (image : Image) :
    (learn question).run.run image =
      match question image with
      | .ok image => (.ok PUnit.unit, image)
      | .error e => (.error e, image) := by
  change learn question image = _
  cases hanswer : question image <;> simp only [learn, hanswer]

theorem result_learn_bind (question : Image → Except ReadError Image)
    (next : PUnit → Action PUnit) (image : Image) :
    result (learn question >>= next) image = question image >>= result (next PUnit.unit) := by
  rw [result, run_bind, run_learn]
  cases question image <;> rfl

theorem tablesSound_bare (path : Text) (pieceSize : Int) (bytes : List UInt8) (header : ElfHeader)
    (sections : List SectionHeader) : (bare path pieceSize bytes header sections).TablesSound := by
  intro index table hlookup
  cases hlookup

/-- What is wrong with a header can always be told. -/
theorem isShowable_of_checkHeader {bytes : List UInt8} {cause : LoadFault}
    (h : checkHeader bytes = .error cause) : cause.isShowable = true := by
  unfold checkHeader at h
  dsimp only at h
  split_ifs at h <;>
  · obtain rfl := Except.error.inj h
    rfl

theorem result_examine (path : Text) (pieceSize limit : Int) (bytes : List UInt8) :
    result (examine limit) (bare path pieceSize bytes default []) =
      if limit ≠ 0 ∧ limit < bytes.length then
        .error (.ofFault (some path) (.tooLarge bytes.length limit))
      else match checkHeader bytes with
        | .error cause => .error (.load ⟨cause, some path⟩)
        | .ok header =>
          (bare path pieceSize bytes header []).sectionTable >>= fun sections =>
            named (bare path pieceSize bytes header sections) := by
  have hsize : (bare path pieceSize bytes default []).fileSize = bytes.length := rfl
  rw [examine, result_learn_bind, hsize]
  split_ifs
  · rfl
  · change result (learn _ >>= _) (bare path pieceSize bytes default []) = _
    rw [result_learn_bind]
    change ((checkHeader bytes).mapError _).map _ >>= _ = _
    cases hheader : checkHeader bytes with
    | error cause =>
      change Except.error (ReadError.ofFault (some path) cause) = _
      rw [ReadError.ofFault_of_isShowable (isShowable_of_checkHeader hheader)]
    | ok header =>
      change result (learn _ >>= _) (bare path pieceSize bytes header []) = _
      rw [result_learn_bind]
      dsimp only
      cases (bare path pieceSize bytes header []).sectionTable <;> rfl

theorem openAt_eq (path : Text) (pieceSize limit : Int) (source : Source) :
    openAt path pieceSize limit source =
      match Source.checkPath path with
      | .error cause => .error (.notPath cause)
      | .ok _ =>
        match source.read with
        | .error failure => .error (.load ⟨.cannotOpen failure.reason, some path⟩)
        | .ok bytes =>
          if limit ≠ 0 ∧ limit < bytes.length then
            .error (.ofFault (some path) (.tooLarge bytes.length limit))
          else match checkHeader bytes with
            | .error cause => .error (.load ⟨cause, some path⟩)
            | .ok header =>
              (bare path pieceSize bytes header []).sectionTable >>= fun sections =>
                named (bare path pieceSize bytes header sections) := by
  unfold openAt opening
  cases Source.checkPath path with
  | error cause => rfl
  | ok _ =>
    cases source.read with
    | error failure => rfl
    | ok bytes =>
      dsimp only
      rw [← result_examine, result, bare]
      cases (examine limit).run.run
        { path, pieceSize, bytes, header := default, sections := [] } with
      | mk answer image => cases answer <;> rfl

/-- A section with its name looked up afresh. -/
def nameOf (image : Image) (table : Int) (s : SectionHeader) : Except ReadError SectionHeader := do
  let name ← image.freshString table s.nameOffset
  .ok { s with name }

theorem answers_nameSections (image : Image) (table : Int) (sections : List SectionHeader) :
    image.Answers (nameSections table sections) (sections.mapM (image.nameOf table)) := by
  induction sections with
  | nil => exact image.answers_pure []
  | cons s rest ih =>
    have hcons : (s :: rest).mapM (image.nameOf table) =
        image.freshString table s.nameOffset >>= fun name =>
          rest.mapM (image.nameOf table) >>= fun named => .ok ({ s with name } :: named) := by
      rw [List.mapM_cons, nameOf, bind_assoc]
      rfl
    rw [hcons]
    exact (image.answers_stringAt table s.nameOffset).bind fun name => ih.bind fun named =>
      image.answers_pure _

/-- Names do not matter to where string tables are. -/
theorem stringTable_named {image : Image} {sections : List SectionHeader}
    (hsame : sections.map SectionHeader.unnamed = image.sections.map SectionHeader.unnamed)
    (index : Int) :
    { image with sections }.stringTable index = image.stringTable index := by
  have hget : sections[index.toNat]?.map SectionHeader.unnamed =
      image.sections[index.toNat]?.map SectionHeader.unnamed := by
    rw [← List.getElem?_map, ← List.getElem?_map, hsame]
  unfold stringTable sectionAt
  by_cases hpos : 0 < index
  · simp only [hpos, if_true]
    cases hleft : sections[index.toNat]? with
    | none =>
      rw [hleft, Option.map_none, eq_comm, Option.map_eq_none_iff] at hget
      rw [hget]
      rfl
    | some s =>
      rw [hleft, Option.map_some, eq_comm, Option.map_eq_some_iff] at hget
      obtain ⟨t, hright, hunnamed⟩ := hget
      have hkind : t.kind? = s.kind? := show t.unnamed.kind? = s.unnamed.kind? by rw [hunnamed]
      have hoffset : t.offset = s.offset :=
        show t.unnamed.offset = s.unnamed.offset by rw [hunnamed]
      have hsize : t.size = s.size := show t.unnamed.size = s.unnamed.size by rw [hunnamed]
      simp only [hright, bind, Except.bind, hkind, hoffset, hsize]
      rfl
  · simp only [hpos, if_false]
    rfl

theorem unnamed_of_nameOf {image : Image} {table : Int} {s named : SectionHeader}
    (h : image.nameOf table s = .ok named) : named.unnamed = s.unnamed := by
  obtain ⟨name, _, hname⟩ := bind_eq_ok_iff.mp h
  obtain rfl := Except.ok.inj hname
  rfl

theorem map_unnamed_of_forall₂ {image : Image} {table : Int} {sections named : List SectionHeader}
    (h : List.Forall₂ (fun s t => image.nameOf table s = .ok t) sections named) :
    named.map SectionHeader.unnamed = sections.map SectionHeader.unnamed := by
  induction h with
  | nil => rfl
  | cons hname _ ih => rw [List.map_cons, List.map_cons, unnamed_of_nameOf hname, ih]

/-- Naming is looking up the names of all sections but the null section, from sound tables to sound
tables. -/
theorem exists_named_eq {image : Image} (hsound : image.TablesSound) :
    ∃ tables, { image with tables }.TablesSound ∧
      named image = (image.sections.tail.mapM (image.nameOf image.nameTable)).map fun named =>
        { image with tables, sections := image.sections.take 1 ++ named } := by
  rw [named_eq]
  split
  next null s rest hsections =>
    obtain ⟨tables, htables, hrun⟩ :=
      image.answers_nameSections image.nameTable (s :: rest) image.tables hsound
    have hstart : ({ image with tables := image.tables } : Image) = image := rfl
    rw [hstart] at hrun
    refine ⟨tables, htables, ?_⟩
    rw [hrun, hsections, List.tail_cons]
    cases (s :: rest).mapM (image.nameOf image.nameTable) <;> rfl
  next hshort =>
    have hle : image.sections.length ≤ 1 := by
      rcases hsections : image.sections with _ | ⟨null, _ | ⟨s, rest⟩⟩
      · exact Nat.zero_le 1
      · exact Nat.le_refl 1
      · exact absurd hsections (hshort null s rest)
    refine ⟨image.tables, hsound, ?_⟩
    rw [List.take_of_length_le hle, ← List.drop_one, List.drop_eq_nil_of_le hle]
    change _ = Except.ok { image with sections := image.sections ++ [] }
    rw [List.append_nil]

/-- Naming keeps the null section, names the others, and leaves sound tables sound. -/
theorem named_eq_ok {image result : Image} (hsound : image.TablesSound)
    (h : named image = .ok result) :
    ∃ sections tables, result = { image with sections, tables } ∧ result.TablesSound ∧
      sections.map SectionHeader.unnamed = image.sections.map SectionHeader.unnamed ∧
      sections.head? = image.sections.head? ∧
      List.Forall₂ (fun s t => image.nameOf image.nameTable s = .ok t) image.sections.tail
        sections.tail := by
  obtain ⟨tables, htables, hname⟩ := exists_named_eq hsound
  rw [hname] at h
  obtain ⟨named, hmap, rfl⟩ := map_eq_ok_iff.mp h
  have hnamed := mapM_eq_ok_iff.mp hmap
  have hunnamed : (image.sections.take 1 ++ named).map SectionHeader.unnamed =
      image.sections.map SectionHeader.unnamed := by
    rw [List.map_append, map_unnamed_of_forall₂ hnamed, ← List.map_append, ← List.drop_one,
      List.take_append_drop]
  refine ⟨_, tables, rfl, ?_, hunnamed, ?_⟩
  · intro index table hlookup
    rw [← htables index table hlookup]
    exact stringTable_named hunnamed index
  · cases hsections : image.sections with
    | nil =>
      rw [hsections] at hnamed
      cases hnamed
      exact ⟨rfl, .nil⟩
    | cons null rest =>
      rw [hsections] at hnamed
      exact ⟨rfl, hnamed⟩

theorem openAt_eq_ok {path : Text} {pieceSize limit : Int} {source : Source} {image : Image}
    (h : openAt path pieceSize limit source = .ok image) :
    ∃ bytes header sections, source = .file bytes ∧ checkHeader bytes = .ok header ∧
      (bare path pieceSize bytes header []).sectionTable = .ok sections ∧
      named (bare path pieceSize bytes header sections) = .ok image := by
  rw [openAt_eq] at h
  cases hpath : Source.checkPath path with
  | error cause => rw [hpath] at h; cases h
  | ok _ =>
    cases source with
    | unreadable failure => rw [hpath] at h; cases h
    | file bytes =>
      simp only [hpath, Source.read] at h
      split_ifs at h
      cases hheader : checkHeader bytes with
      | error cause => rw [hheader] at h; cases h
      | ok header =>
        rw [hheader] at h
        obtain ⟨sections, hsections, hnames⟩ := bind_eq_ok_iff.mp h
        exact ⟨bytes, header, sections, rfl, hheader, hsections, hnames⟩

theorem tablesSound_of_openAt {path : Text} {pieceSize limit : Int} {source : Source}
    {image : Image} (h : openAt path pieceSize limit source = .ok image) : image.TablesSound := by
  obtain ⟨bytes, header, sections, _, _, _, hnames⟩ := openAt_eq_ok h
  obtain ⟨_, _, rfl, hsound, _⟩ :=
    named_eq_ok (tablesSound_bare path pieceSize bytes header sections) hnames
  exact hsound

/-- An opened image answers as its file does. -/
theorem readable_of_openAt {path : Text} {pieceSize limit : Int} {source : Source} {image : Image}
    (h : openAt path pieceSize limit source = .ok image) (hpiece : 0 ≤ pieceSize) :
    image.Readable := by
  obtain ⟨bytes, header, sections, _, _, _, hnames⟩ := openAt_eq_ok h
  obtain ⟨_, _, rfl, _⟩ :=
    named_eq_ok (tablesSound_bare path pieceSize bytes header sections) hnames
  exact ⟨tablesSound_of_openAt h, hpiece⟩

end Image
end ImportStubs
