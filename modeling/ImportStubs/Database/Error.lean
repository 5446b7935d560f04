import ImportStubs.Number.Radix
import ImportStubs.Source
import ImportStubs.Validation

/-!
# Why a database cannot be used
-/

namespace ImportStubs

inductive DatabaseError where
  | invalidNid (what : Text) (value : Value)
  /-- An invalid NID that is too long to be shown. -/
  | unshowableNid
  | notTable (what : Text)
  | sharedByLibraries (first second : Text) (nid : Int)
  | sharedByModules (library first second : Text) (nid : Int)
  | sharedByExports (what first second : Text) (nid : Int)
  | invalidFields (entity : String) (issues : List Issue)
  | unreadable (path : Text) (failure : Source.Failure)
  | invalidJson (path : Text)
  | notPath (cause : PathFault)
  | notUtf8
  | longNumber

namespace DatabaseError

def tag : String := "import-database-error"

/-- The message, for the causes that have one of their own. -/
def message? : DatabaseError → Option Text
  | invalidNid what value => some ("invalid NID for " ++ what ++ ": " ++ value.literal)
  | notTable what => some (what ++ " must be a JSON object")
  | sharedByLibraries first second nid =>
    some ("libraries " ++ first ++ " and " ++ second ++ " share NID " ++ Text.hexWordUpper nid)
  | sharedByModules library first second nid =>
    some ("library " ++ library ++ ": modules " ++ first ++ " and " ++ second ++ " share NID " ++
      Text.hexWordUpper nid)
  | sharedByExports what first second nid =>
    some (what ++ ": " ++ first ++ " and " ++ second ++ " share NID " ++ Text.hexWordUpper nid)
  | unreadable path failure =>
    some ("cannot read " ++ path ++ ": [Errno " ++ Text.ofNat failure.number ++ "] " ++
      Text.ofString failure.reason ++ ": " ++ Text.Quoted.quote path)
  | invalidJson path => some (path ++ ": invalid JSON")
  | notPath cause => cause.message?
  | unshowableNid | invalidFields .. | notUtf8 | longNumber => none

/-- The error speaks of the database; the others are those of reading and showing numbers and text.
-/
def isDatabaseFault : DatabaseError → Bool
  | unshowableNid | notPath _ | notUtf8 | longNumber => false
  | _ => true

end DatabaseError
end ImportStubs
