import ImportStubs.Proofs.Elf.Opening

/-!
# What a failed opening leaves

An examination can fail at any look into the file. The file is closed again wherever that happens,
and what is left of the image is still for that file.
-/

namespace ImportStubs.Image

/-- The images are for one file. -/
structure SameFile (image after : Image) : Prop where
  path_eq : after.path = image.path
  bytes_eq : after.bytes = image.bytes

theorem SameFile.refl (image : Image) : SameFile image image := ⟨rfl, rfl⟩

theorem SameFile.trans {image middle after : Image} (h : SameFile image middle)
    (h' : SameFile middle after) : SameFile image after :=
  ⟨h'.path_eq.trans h.path_eq, h'.bytes_eq.trans h.bytes_eq⟩

/-- However the action ends, the image is still for its file. -/
def Stays {α : Type} (action : Action α) : Prop :=
  ∀ image, SameFile image (action.run.run image).2

theorem stays_pure {α : Type} (a : α) : Stays (pure a) := .refl

theorem Stays.bind {α β : Type} {action : Action α} {next : α → Action β} (h : Stays action)
    (hnext : ∀ a, Stays (next a)) : Stays (action >>= next) := by
  intro image
  have hfirst := h image
  rw [run_bind]
  generalize action.run.run image = found at hfirst ⊢
  rcases found with ⟨answer, after⟩
  cases answer with
  | error e => exact hfirst
  | ok a => exact hfirst.trans (hnext a after)

theorem stays_stringAt (index offset : Int) : Stays (stringAt index offset) := by
  intro image
  change SameFile image (stringAt index offset image).2
  rw [stringAt]
  cases image.tables.lookup index with
  | some table => exact .refl image
  | none =>
    cases image.stringTable index with
    | error e => exact .refl image
    | ok table => exact ⟨rfl, rfl⟩

theorem stays_nameSections (table : Int) (sections : List SectionHeader) :
    Stays (nameSections table sections) := by
  induction sections with
  | nil => exact stays_pure []
  | cons s rest ih =>
    exact (stays_stringAt table s.nameOffset).bind fun name => ih.bind fun named => stays_pure _

theorem stays_nameAll : Stays nameAll := by
  have hget : Stays (get : Action Image) := .refl
  refine hget.bind fun image => ?_
  split
  · refine (stays_nameSections _ _).bind fun named after => ?_
    exact ⟨rfl, rfl⟩
  · exact stays_pure _

theorem stays_learn {question : Image → Except ReadError Image}
    (h : ∀ image after, question image = .ok after → SameFile image after) :
    Stays (learn question) := by
  intro image
  rw [run_learn]
  cases hanswer : question image with
  | error e => exact .refl image
  | ok after => exact h image after hanswer

theorem stays_examine (limit : Int) : Stays (examine limit) := by
  refine (stays_learn ?_).bind fun _ => (stays_learn ?_).bind fun _ => (stays_learn ?_).bind
    fun _ => stays_nameAll
  · intro image after h
    split_ifs at h
    obtain rfl := Except.ok.inj h
    exact .refl image
  · intro image after h
    obtain ⟨header, -, rfl⟩ := map_eq_ok_iff.mp h
    exact ⟨rfl, rfl⟩
  · intro image after h
    obtain ⟨sections, -, rfl⟩ := map_eq_ok_iff.mp h
    exact ⟨rfl, rfl⟩

/-- What is left after a failure: nothing of a file that cannot be read, and else a closed image of
the file. -/
inductive LeftClosed (path : Text) : Source → Option Image → Prop
  | unread (failure : Source.Failure) : LeftClosed path (.unreadable failure) none
  | closed {bytes : List UInt8} {image : Image} (closed_eq : image.closed = true)
      (tables_eq : image.tables = []) (path_eq : image.path = path)
      (bytes_eq : image.bytes = bytes) : LeftClosed path (.file bytes) (some image)

theorem leftClosed_close {path : Text} {bytes : List UInt8} {image : Image}
    (hpath : image.path = path) (hbytes : image.bytes = bytes) :
    LeftClosed path (.file bytes) (some image.close) := .closed rfl rfl hpath hbytes

/-- However a file cannot be opened, it is not left open. -/
theorem leftClosed_of_opening {path : Text} {pieceSize limit : Int} {source : Source}
    {failure : Failure} (hpath : Source.checkPath path = .ok ())
    (h : opening path pieceSize limit source = .error failure) :
    LeftClosed path source failure.image := by
  unfold opening at h
  rw [hpath] at h
  cases source with
  | unreadable reason =>
    cases h
    exact .unread reason
  | file bytes =>
    have hstays := stays_examine limit (bare path pieceSize bytes default [])
    simp only [Source.read] at h
    unfold bare at hstays
    generalize (examine limit).run.run _ = found at h hstays
    rcases found with ⟨answer, image⟩
    cases answer with
    | ok _ => cases h
    | error e =>
      cases h
      exact leftClosed_close hstays.path_eq hstays.bytes_eq

theorem opening_eq_ok_iff {path : Text} {pieceSize limit : Int} {source : Source} {image : Image} :
    opening path pieceSize limit source = .ok image ↔
      openAt path pieceSize limit source = .ok image :=
  mapError_eq_ok_iff.symm

theorem openAt_eq_error_iff {path : Text} {pieceSize limit : Int} {source : Source}
    {e : ReadError} :
    openAt path pieceSize limit source = .error e ↔
      ∃ failure, opening path pieceSize limit source = .error failure ∧ failure.error = e :=
  mapError_eq_error_iff

end ImportStubs.Image
