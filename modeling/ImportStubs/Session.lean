import ImportStubs.Correlation
import ImportStubs.Resolution
import ImportStubs.Stub.Table
import ImportStubs.Symbol.Table

/-!
# Sessions

A session is a loaded binary: its image, the stubs of both kinds and the symbols. It is assembled
from the sections in table order; then section indexes that are held elsewhere are filled in and
symbols are attached to stubs. If any step fails, the image is closed again and no session remains.
Releasing a session closes its image and drops the decoded data; what is fixed by the file, its path
and the positions of the stub sections, still answers.
-/

namespace ImportStubs

/-- One value for each kind of stub. -/
structure PerKind (α : Type) where
  functions : α
  vars : α
deriving DecidableEq, Repr, Inhabited

namespace PerKind

def get {α : Type} (p : PerKind α) : StubKind → α
  | .functionStub => p.functions
  | .variableStub => p.vars

def set {α : Type} (p : PerKind α) (kind : StubKind) (value : α) : PerKind α :=
  match kind with
  | .functionStub => { p with functions := value }
  | .variableStub => { p with vars := value }

theorem get_set {α : Type} (p : PerKind α) (kind other : StubKind) (value : α) :
    (p.set kind value).get other = if other = kind then value else p.get other := by
  cases kind <;> cases other <;> rfl

end PerKind

structure Session where
  image : Image
  released : Bool := false
  stubs : PerKind (List Stub)
  /-- The positions of the stub sections, zero for an absent one. -/
  stubSections : PerKind Int
  symbols : List Symbol
deriving Inhabited

namespace Session

def path (s : Session) : Text := s.image.path

structure Released where
  path : Text
deriving DecidableEq, Repr

def Released.message (r : Released) : Text := "session for " ++ r.path ++ " was released"

def Released.tag : String := "session-released"

def access {α : Type} (part : Session → α) (s : Session) : Except Released α :=
  if s.released then .error ⟨s.path⟩ else .ok (part s)

def stubsOf (s : Session) (kind : StubKind) : Except Released (List Stub) :=
  s.access fun s => s.stubs.get kind

def symbolTable (s : Session) : Except Released (List Symbol) := s.access (·.symbols)

def openImage (s : Session) : Except Released Image := s.access (·.image)

def allStubs (s : Session) : Except Released (List Stub) :=
  s.access fun s => s.stubs.functions ++ s.stubs.vars

/-- Closes the image and drops the decoded data. -/
def release (s : Session) : Session :=
  if s.released then s
  else { s with image := s.image.close, released := true, stubs := ⟨[], []⟩, symbols := [] }

def literal (s : Session) : Text :=
  let quoted := "Session(" ++ Text.Quoted.quote s.path
  if s.released then quoted ++ ", released)"
  else
    quoted ++ ", fstubs=" ++ Text.ofNat s.stubs.functions.length ++ ", vstubs=" ++
      Text.ofNat s.stubs.vars.length ++ ", symbols=" ++ Text.ofNat s.symbols.length ++ ")"

/-- What has been found of a binary so far. -/
structure Assembly where
  image : Image
  stubs : PerKind (List Stub) := ⟨[], []⟩
  stubSections : PerKind Int := ⟨0, 0⟩
  symbols : Option (List Symbol) := none
  symbolSection : Int := 0
deriving Inhabited

/-- A step that may fail and keeps what was found before the failure. -/
abbrev Step := ExceptT ReadError (StateT Assembly (StateM Logger))

def fail {α : Type} (cause : LoadFault) : Step α := throw (.load ⟨cause, none⟩)

/-- Asks the image without changing it. -/
def ask {α : Type} (question : Image → Except ReadError α) : Step α := do
  match question (← get).image with
  | .ok answer => return answer
  | .error e => throw e

def onImage {α : Type} (action : Image.Action α) : Step α := do
  let assembly ← get
  let (result, image) := action.run.run assembly.image
  set { assembly with image }
  match result with
  | .ok answer => return answer
  | .error e => throw e

def note (message : Text) : Step Unit := liftM (Logger.debug message)

/-- A section as log messages name it. -/
def sectionText (s : SectionHeader) : Text :=
  "section " ++ Text.ofInt s.index ++ " (" ++ s.name ++ ")"

def stubKind? (s : SectionHeader) : Option StubKind :=
  if s.kind? = some .programBits then StubKind.all.find? fun kind => s.name = kind.sectionName
  else none

def loadStubs (kind : StubKind) (s : SectionHeader) : Step Unit := do
  if (← get).stubSections.get kind ≠ 0 then fail (.duplicateStubSection kind)
  modify fun a => { a with stubSections := a.stubSections.set kind s.index }
  let chunks ← ask (·.pieces s)
  match Stub.readTable kind s chunks with
  | .error cause => fail cause
  | .ok stubs =>
    modify fun a => { a with stubs := a.stubs.set kind stubs }
    note ("Loaded " ++ Text.ofNat stubs.length ++ " " ++ kind.name ++ " stubs from " ++
      sectionText s ++ " at " ++ Text.hexWord s.address)

def loadSymbols (s : SectionHeader) : Step Unit := do
  if (← get).symbols.isSome then fail .multipleSymbolTables
  modify fun a => { a with symbolSection := s.index }
  let symbols ← Symbol.readTable s (ask (·.pieces s)) fun offset =>
    onImage (Image.stringAt s.link offset)
  modify fun a => { a with symbols := some symbols }
  note ("Loaded " ++ Text.ofNat symbols.length ++ " symbols from " ++ sectionText s)

def loadSection (s : SectionHeader) : Step Unit := do
  match stubKind? s with
  | some kind => loadStubs kind s
  | none => if s.kind? = some .symbolTable then loadSymbols s

/-- Fills in section indexes from an index table for the symbol table that was loaded. -/
def extendSymbols (symbols : List Symbol) (s : SectionHeader) : Step (List Symbol) := do
  if s.link ≠ (← get).symbolSection then return symbols
  let chunks ← ask (·.pieces s)
  let (symbols, result) := Symbol.extendIndexes symbols s chunks
  modify fun a => { a with symbols := some symbols }
  match result with
  | .error cause => fail cause
  | .ok count =>
    note ("Resolved " ++ Text.ofNat count ++ " extended section indexes from " ++ sectionText s)
    return symbols

def correlateKind (symbols : List Symbol) (kind : StubKind) : Step Unit := do
  let assembly ← get
  let index := assembly.stubSections.get kind
  if index = 0 then return
  let (stubs, result) :=
    Correlation.correlate index kind.symbolKind symbols (assembly.stubs.get kind)
  set { assembly with stubs := assembly.stubs.set kind stubs }
  match result with
  | .error e => throw e
  | .ok attached =>
    note ("Correlated " ++ Text.ofNat attached ++ " of " ++ Text.ofNat stubs.length ++ " " ++
      kind.name ++ " stubs with symbols")

def assemble : Step Unit := do
  let sections := (← get).image.namedSections
  sections.forM loadSection
  let assembly ← get
  if assembly.stubSections.functions = 0 ∧ assembly.stubSections.vars = 0 then fail .noStubSections
  match assembly.symbols with
  | none => fail .missingSymbolTable
  | some symbols =>
    let symbols ← (sections.filter fun s => s.kind? = some .extendedIndexes).foldlM
      extendSymbols symbols
    StubKind.all.forM (correlateKind symbols)

def ofAssembly (a : Assembly) : Session :=
  { image := a.image, stubs := a.stubs, stubSections := a.stubSections
    symbols := a.symbols.getD [] }

/-- A load fails as the opening of an image does. -/
abbrev Failure := Image.Failure

/-- Names the path in a failure and logs it. -/
def reportFailure (path : Text) (failure : Failure) : StateM Logger Failure :=
  match failure.error with
  | .load e => do
    Logger.debug ("Load of " ++ path ++ " failed [" ++ Text.ofString e.tag ++ "]: " ++ e.message)
    return { failure with error := .load (e.located path) }
  | _ => pure failure

/-- Loads a binary. An image that has been opened is closed again if a step fails. -/
def load (path : Text) (pieceSize limit : Int) (source : Source) :
    StateM Logger (Except Failure Session) := do
  match Image.opening path pieceSize limit source with
  | .error failure => return .error (← reportFailure path failure)
  | .ok image =>
    let (result, assembly) ← Logger.withOperation "load" <| Logger.timed ("load " ++ path) <|
      assemble.run.run { image }
    match result with
    | .error error =>
      return .error (← reportFailure path { error, image := some assembly.image.close })
    | .ok () =>
      let session := ofAssembly assembly
      Logger.debug ("Loaded " ++ session.literal)
      return .ok session

/-- One pass over the stubs of a kind, which continues a report. -/
def resolveKind (db : ImportDatabase) (kind : StubKind) (report : Report) (s : Session) :
    StateM Logger (Except Released (Session × Report)) := do
  match s.stubsOf kind with
  | .error e => return .error e
  | .ok stubs =>
    let pass ← Resolution.pass db stubs report
    return .ok ({ s with stubs := s.stubs.set kind pass.stubs }, pass.report)

def resolve (db : ImportDatabase) (s : Session) :
    StateM Logger (Except Released (Session × Report)) :=
  Logger.withOperation "resolve_imports" do
    match ← resolveKind db .functionStub {} s with
    | .error e => return .error e
    | .ok (s, report) =>
      match ← resolveKind db .variableStub report s with
      | .error e => return .error e
      | .ok (s, report) =>
        Logger.debug ("Resolved " ++ Text.ofNat report.resolved ++ " of " ++
          Text.ofNat report.total ++ " stubs")
        return .ok (s, report)

end Session
end ImportStubs
