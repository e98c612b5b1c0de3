import Affordance.Disk
import Affordance.Json.Printer
import Affordance.Json.Reader
import Affordance.Text.Fresh
import Affordance.Told

/-!
# The cache of written handlers

  * `BodyCache`: the bodies of handlers by the keys of their tools' surfaces, kept in
    memory and, if the cache has a file, on disk as well.
  * The file is read when the cache is first asked for something.  One that holds no JSON
    object counts as empty; of an object only the entries with a body count.
  * `set` and `clear` change the memory first and write the whole file then: a draft beside
    it, which is moved in its place.
  * A draft is taken away again if the system refuses to move it. A fault that does not come
    from the system leaves the draft.
-/

namespace Affordance

open Affordance.Text

/-! ## 1. Entries -/

/-- The key of the body in an entry. -/
def bodyKey : String := "handlerBody"

/-- An entry: its fields, one of which is the body. -/
structure CacheEntry where
  fields : List (String × Json)
  body : String

namespace CacheEntry

/-- An entry from a JSON value; none without a body. -/
def ofJson? : Json → Option CacheEntry
  | .obj fields =>
    match fields.lookup bodyKey with
    | some (.str body) => some ⟨fields, body⟩
    | _ => none
  | _ => none

/-- The entry of a body that was written at a time. -/
def new (body : String) (time : Int) : CacheEntry :=
  ⟨[(bodyKey, .str body), ("timestamp", .int time)], body⟩

end CacheEntry

/-- The entries of a cache by their keys. -/
abbrev CacheEntries := List (String × CacheEntry)

/-- The entries that fields hold. -/
def entriesOf (fields : List (String × Json)) : CacheEntries :=
  fields.filterMap fun (k, v) => (CacheEntry.ofJson? v).map (k, ·)

/-- Entries as a JSON value. -/
def entriesJson (es : CacheEntries) : Json := .obj (es.map fun (k, e) => (k, .obj e.fields))

/-- Entries as the text of a file. -/
def entriesText (es : CacheEntries) : String := Json.render .indented (entriesJson es)

/-! ## 2. Files -/

/-- Why a file cannot be read. -/
inductive CacheFault where
  | directory
  | noText
  | noJson
  /-- A whole number has too many digits. -/
  | longNumber
  deriving Repr, DecidableEq

/-- The fault as it is told. -/
def CacheFault.name : CacheFault → String
  | directory => "IsADirectoryError"
  | noText => "UnicodeDecodeError"
  | noJson => "JSONDecodeError"
  | longNumber => "ValueError"

/-- The JSON value in a file. -/
def storedValue (d : Disk) (path : String) : Except CacheFault Json :=
  match d.read path with
  | .error (.noText _) => .error .noText
  | .error _ => .error .directory
  | .ok s =>
    (Json.read s.toArray).mapError fun f =>
      if f.longNumber?.isSome then .longNumber else .noJson

/-- The entries in a file, with what is told about it; a missing one has none. -/
def storedEntries (d : Disk) (path : String) : Told CacheEntries :=
  if d.isPresent path then
    match storedValue d path with
    | .error f =>
      ⟨"[skill.cache] unreadable cache " ++ path ++ " (" ++ f.name ++ "); starting empty\n", []⟩
    | .ok (.obj fields) =>
      let es := entriesOf fields
      ⟨"[skill.cache] loaded " ++ toString es.length ++ " entries from " ++ path ++ "\n", es⟩
    | .ok _ => ⟨"[skill.cache] malformed cache " ++ path ++ "; starting empty\n", []⟩
  else .silent []

/-! ## 3. Drafts -/

/-- The directory of the file at a path. -/
def cacheDir (d : Disk) (path : String) : String := Path.parent (Path.absolute d.home path)

/-- The place of a draft with a number in a directory. -/
def draftAt (dir : String) (n : Nat) : String :=
  Disk.below dir (".cache-" ++ toString n ++ ".json")

/-- The place of the draft of the file at a path: in its directory, where nothing is, and not
    that of the file itself. -/
def draftPlace (d : Disk) (path : String) : String :=
  let dir := cacheDir d path
  let taken := d.files.map (·.1) ++ d.directories ++ (d.locate path).toList
  freshFrom (draftAt ((d.locate dir).getD dir)) taken taken.length 0

/-- What was written of a text before the piece at fault. -/
def writtenBefore (text : String) (f : HalfFault) : String :=
  let first := ((halfFault? text).map (·.position)).getD 0
  String.ofList (text.toList.take (first - f.position))

/-- The file at a path replaced by entries, which are written into a draft first. -/
def replaceFile (d : Disk) (draft path : String) (es : CacheEntries) :
    Except Disk.FailedWrite Disk :=
  let text := entriesText es
  match Json.pieceFault? 0 0 (entriesJson es) with
  | some f => .error ⟨.noOctets f, d.putFile draft (encodeUtf8 (writtenBefore text f))⟩
  | none =>
    let d := d.putFile draft (encodeUtf8 text)
    (d.move draft path).mapError fun f => ⟨f, if f.isRefusal then d.remove draft else d⟩

/-! ## 4. Caches -/

/-- A cache of written handlers. -/
structure BodyCache where
  /-- The path of the file; none, or an empty one, for a cache in memory alone. -/
  path : Option String := none
  /-- The entries in memory; none before the cache is first asked. -/
  entries : Option CacheEntries := none
  /-- The cache tells what it reads. -/
  tells : Bool := false

namespace BodyCache

/-- The entries of a cache, read from its file if it was not asked before. -/
def load (c : BodyCache) (d : Disk) : Told CacheEntries :=
  match c.entries, nonEmpty c.path with
  | some es, _ => .silent es
  | none, some path =>
    let stored := storedEntries d path
    if c.tells then stored else .silent stored.value
  | none, none => .silent []

/-- The cache after it was asked. -/
def holding (c : BodyCache) (es : CacheEntries) : BodyCache := { c with entries := some es }

/-- A new cache on the same file. -/
def reopened (c : BodyCache) : BodyCache := { c with entries := none }

/-- The disk after the file was written. -/
def save (c : BodyCache) (d : Disk) (es : CacheEntries) : Except Disk.FailedWrite Disk :=
  match nonEmpty c.path with
  | none => .ok d
  | some path => do
    let d ← d.makeDirectories (cacheDir d path)
    replaceFile d (draftPlace d path) path es

/-- The body under a key. -/
def get (c : BodyCache) (d : Disk) (key : String) : Told (BodyCache × Option String) :=
  (c.load d).map fun es => (c.holding es, (es.lookup key).map (·.body))

/-- The number of entries. -/
def size (c : BodyCache) (d : Disk) : Told (BodyCache × Nat) :=
  (c.load d).map fun es => (c.holding es, es.length)

/-- A body put under a key. -/
def set (c : BodyCache) (d : Disk) (key body : String) (time : Int) :
    Told (BodyCache × Except Disk.FailedWrite Disk) :=
  (c.load d).map fun es =>
    let es := Keyed.put key (CacheEntry.new body time) es
    (c.holding es, c.save d es)

/-- All entries dropped. -/
def clear (c : BodyCache) (d : Disk) : BodyCache × Except Disk.FailedWrite Disk :=
  (c.holding [], c.save d [])

end BodyCache

end Affordance
