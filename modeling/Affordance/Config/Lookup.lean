import Affordance.Config.Reader
import Affordance.Disk
import Affordance.Json.Reader

/-!
# Finding settings

  * Settings are looked for in a directory and then in the directories above it.  A
    directory has settings in a file of their own or in a package description.
  * `findConfig`: the nearest file with settings.
  * `loadConfigFile`, `loadConfig`: the settings of a file, or of the nearest one.
-/

namespace Affordance

open Affordance.Text

/-- What stops the reading of settings. -/
inductive ConfigFault where
  | problem (p : Problem)
  /-- A file is no text. -/
  | noText (fault : OctetFault)
  /-- A file has a whole number with too many digits. -/
  | longNumber (n : Number.LongNumber)
  deriving Repr, DecidableEq

namespace ConfigFile

/-- The names of files that hold settings alone. -/
def ownNames : List String := [".afcrc.json", "afc.config.json"]

/-- The name of a package description. -/
def packageName : String := "package.json"

/-- The key of the settings in a package description. -/
def packageKey : String := "afc"

/-- The key occurs in a JSON value: as a key of an object, an item of a list or a part of
    a text. -/
def mentions (key : String) : Json → Bool
  | .obj fields => Keyed.has key fields
  | .arr items => items.any fun
    | .str s => s = key
    | _ => false
  | .str s => contains s key
  | _ => false

/-- The package description at a path has settings; one that is no JSON has none. -/
def packageHasSettings (d : Disk) (path : String) : Except ConfigFault Bool :=
  match d.read path with
  | .error (.noText f) => .error (.noText f)
  | .error _ => .ok false
  | .ok s =>
    match Json.read s.toArray with
    | .ok v => .ok (mentions packageKey v)
    | .error f =>
      match f.longNumber? with
      | some n => .error (.longNumber n)
      | none => .ok false

/-- The file with settings in a directory. -/
def inDirectory (d : Disk) (dir : String) : Except ConfigFault (Option String) := do
  match (ownNames.map (Path.join dir)).find? d.isFile with
  | some p => return some p
  | none =>
    let p := Path.join dir packageName
    return if ← packageHasSettings d p then some p else none

/-- The nearest file with settings among directories. -/
def nearest (d : Disk) : List String → Except ConfigFault (Option String)
  | [] => .ok none
  | dir :: rest => do
    match ← inDirectory d dir with
    | some p => return some p
    | none => nearest d rest

/-- The directory of parts below a top, latest part first, and all directories above it. -/
def upwards (top : List Char) : List (List Char) → List String
  | [] => [String.ofList top]
  | part :: above =>
    String.ofList (top ++ joinChars ['/'] (part :: above).reverse) :: upwards top above

/-- An absolute directory and all directories above it, the nearest first.  Two slashes at
    its beginning stay two. -/
def ancestors (dir : String) : List String :=
  upwards (if startsWith dir.toList ['/', '/'] then ['/', '/'] else ['/'])
    ((splitOn '/' dir.toList).filter fun p => !p.isEmpty).reverse

/-- The directories that are searched from a path upwards: those from the directory of a file, or
    from the directory itself. -/
def searched (d : Disk) (start : String) : List String :=
  let p := Path.absolute d.home start
  ancestors (if d.isFile p then Path.parent p else p)

/-- The nearest file with settings, from a path upwards. -/
def find (d : Disk) (start : String) : Except ConfigFault (Option String) :=
  nearest d (searched d start)

/-- Why the text of a file gives no settings. -/
def jsonFault (path : String) (src : Source) (f : Json.ReadFault) : ConfigFault :=
  match f.longNumber? with
  | some n => .longNumber n
  | none => .problem (.configInvalid path
      ("invalid JSON (" ++ f.kind.message ++ " at line " ++ toString (f.line src) ++ ")"))

/-- The JSON value in a file. -/
def jsonIn (d : Disk) (path : String) : Except ConfigFault Json :=
  match d.read path with
  | .error (.noText f) => .error (.noText f)
  | .error _ => .error (.problem (.configInvalid path "file does not exist"))
  | .ok s => (Json.read s.toArray).mapError (jsonFault path s.toArray)

/-- The settings in a package description. -/
def packageSettings (v : Json) : Json := (v.field? packageKey).getD .null

/-- The settings of a file. -/
def load (d : Disk) (path : String) : Except ConfigFault Config := do
  let v ← jsonIn d path
  let v := if Path.baseName path = packageName then packageSettings v else v
  (Config.ofJson path v).mapError .problem

/-- The settings of the nearest file, from a path upwards. -/
def loadNearest (d : Disk) (start : String) : Except ConfigFault Config := do
  match ← find d start with
  | some p => load d p
  | none => return {}

end ConfigFile

end Affordance
