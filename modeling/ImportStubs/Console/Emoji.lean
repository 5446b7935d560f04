import ImportStubs.Console.Emoji.Codes
import ImportStubs.Text.Blank
import ImportStubs.Text.LowerCase

/-!
# Emoji in text

A name between two colons asks for an emoji; the name may end in a suffix that asks for the text or
the picture form. A name holds no blank, its letter case is ignored, and a name that is not known
stays as it is written.
-/

namespace ImportStubs.Console.Emoji

def table : List (String × String) := pairs (codes.flatMap (·.splitOn " "))
where
  pairs : List String → List (String × String)
    | name :: emoji :: rest => (name, emoji) :: pairs rest
    | _ => []

/-- The suffixes, and the selector that follows an emoji asked for with one. -/
def forms : List (String × Char) := [("-emoji", '\ufe0f'), ("-text", '\ufe0e')]

def splitForm (name : Text) : Text × Text :=
  match forms.find? fun f => (Text.ofString f.1).isSuffixOf name with
  | some (suffix, selector) => (name.take (name.length - suffix.length), [.char selector])
  | none => (name, [])

def ofCode? (code : Text) : Option Text :=
  let (name, selector) := splitForm code
  let known := table.find? fun e => (Text.lower name).is e.1
  (known.map fun e => Text.ofString e.2).map (· ++ selector)

/-- The code at the front of a text after a colon, and what follows the closing colon. -/
def readCode? : Text → Option (Text × Text)
  | [] => none
  | c :: rest =>
    if c = .char ':' then some ([], rest)
    else if Text.isSpacing c then none
    else (readCode? rest).map fun (code, after) => (c :: code, after)

theorem length_of_readCode? {t code after : Text} (h : readCode? t = some (code, after)) :
    after.length < t.length := by
  induction t generalizing code with
  | nil => simp [readCode?] at h
  | cons c rest ih =>
    unfold readCode? at h
    split at h
    · obtain ⟨-, rfl⟩ : [] = code ∧ rest = after := by simpa using h
      simp
    · split at h
      · contradiction
      · obtain ⟨⟨code', after'⟩, hr, he⟩ := Option.map_eq_some_iff.1 h
        obtain ⟨-, rfl⟩ : c :: code' = code ∧ after' = after := by simpa using he
        have := ih hr
        simp only [List.length_cons]
        omega

def replace (t : Text) : Text :=
  match t with
  | [] => []
  | c :: rest =>
    if c = .char ':' then
      match _h : readCode? rest with
      | none => c :: replace rest
      | some (code, after) => (ofCode? code).getD (c :: code ++ [c]) ++ replace after
    else c :: replace rest
termination_by t.length
decreasing_by
  all_goals simp only [List.length_cons]
  all_goals first | omega | have := length_of_readCode? _h; omega

theorem replace_of_not_mem {t : Text} (h : CodePoint.char ':' ∉ t) : replace t = t := by
  induction t with
  | nil => simp [replace]
  | cons c rest ih =>
    obtain ⟨hc, hr⟩ : ¬ c = .char ':' ∧ CodePoint.char ':' ∉ rest := by
      simpa [eq_comm] using h
    rw [replace]
    simp [hc, ih hr]

end ImportStubs.Console.Emoji
