import Affordance.Keyed
import Affordance.Path
import Affordance.Text.Utf8

/-!
# Files

  * `Disk`: the files and directories that a run can see, with the directory it works
    in.  A file holds octets.
  * A path leads somewhere only through directories.
  * Texts are read as UTF-8, every line break as a line feed.
  * `Disk.write` and `Disk.makeDirectories` fail where a directory is missing or a file
    is in the way.  Directories that were made before the fault stay.
  * `Disk.attempt` writes a text that may have no octets; such a text leaves an empty file.
  * `Disk.move` puts a file in the place of another one.
  * `WriteFault.isRefusal` tells what the system refuses from what never comes to it.
  * A path with a null character is no path at all: nothing is there, and to open it fails.
    A name may have `mostNameOctets` octets, a path `mostPathOctets`.
-/

namespace Affordance

open Affordance.Text

/-! ## 1. Places -/

/-- The files and directories that a run can see. -/
structure Disk where
  /-- Files by their absolute paths. -/
  files : List (String × List UInt8) := []
  /-- The absolute paths of the directories below the top. -/
  directories : List String := []
  /-- The absolute path of the directory that relative paths start from. -/
  home : String := "/"
  deriving DecidableEq

namespace Disk

/-- The absolute path is a directory. -/
def hasDirectory (d : Disk) (path : String) : Bool := path = "/" || d.directories.contains path

/-- A name below a directory. -/
def below (dir name : String) : String := if dir = "/" then "/" ++ name else dir ++ "/" ++ name

/-- The absolute path that parts lead to from a directory. -/
def follow (d : Disk) : String → List (List Char) → Option String
  | here, [] => some here
  | here, part :: rest =>
    if !d.hasDirectory here then none
    else if part.isEmpty || part == ['.'] then follow d here rest
    else if part == ['.', '.'] then follow d (Path.parent here) rest
    else follow d (below here (String.ofList part)) rest

/-- The parts of a path from the top on. -/
def partsOf (d : Disk) (path : String) : List (List Char) :=
  (splitOn '/' (Path.join d.home path).toList).drop 1

/-- The absolute path that a path leads to; none if it passes through anything but
    directories. -/
def locate (d : Disk) (path : String) : Option String :=
  if path = "" then none
  else d.follow "/" (d.partsOf path)

/-- The contents of the file at a path. -/
def octets? (d : Disk) (path : String) : Option (List UInt8) :=
  (d.locate path).bind fun p => d.files.lookup p

/-- There is a file at the path. -/
def isFile (d : Disk) (path : String) : Bool := (d.octets? path).isSome

/-- There is a directory at the path. -/
def isDirectory (d : Disk) (path : String) : Bool := (d.locate path).any d.hasDirectory

/-- There is something at the path. -/
def isPresent (d : Disk) (path : String) : Bool := d.isFile path || d.isDirectory path

/-! ## 2. Reading -/

/-- The path can name no file. -/
def isNoPath (path : String) : Bool := path.toList.contains '\x00'

/-- The wording of an attempt to open a file by no path. -/
def noPathMessage : String := "embedded null byte"

/-- Why a text cannot be read. -/
inductive ReadFault where
  /-- The path has a null character. -/
  | noPath
  /-- There is no file at the path. -/
  | noFile
  /-- The file's octets are no text. -/
  | noText (fault : OctetFault)
  deriving Repr, DecidableEq

/-- The text of the file at a path, line breaks read as line feeds. -/
def read (d : Disk) (path : String) : Except ReadFault (List Char) :=
  if isNoPath path then .error .noPath
  else
    match d.octets? path with
    | none => .error .noFile
    | some bs => ((decodeUtf8 bs).map universalLines).mapError .noText

/-! ## 3. Writing -/

/-- Why the system refuses a path. -/
inductive Refusal where
  /-- A directory above the path is missing. -/
  | missing
  /-- A file stands where a directory is needed. -/
  | notDirectory
  /-- There is a directory at the path. -/
  | isDirectory
  /-- There is a file at the path of a directory. -/
  | fileExists
  /-- The path or a name on it is too long. -/
  | longName
  deriving Repr, DecidableEq

/-- The wording of a refusal. -/
def Refusal.wording : Refusal → String
  | missing => "[Errno 2] No such file or directory"
  | notDirectory => "[Errno 20] Not a directory"
  | isDirectory => "[Errno 21] Is a directory"
  | fileExists => "[Errno 17] File exists"
  | longName => "[Errno 36] File name too long"

/-- Why nothing can be written at a path. -/
inductive WriteFault where
  /-- The system refuses the path; `moved` is the file that was to be moved there. -/
  | refused (why : Refusal) (path : String) (moved : Option String := none)
  /-- The path has a null character; the wording names the step that failed. -/
  | noPath (message : String)
  /-- The path or the text has no octets: it holds a half, as `half?` tells them. -/
  | noOctets (fault : HalfFault)
  deriving Repr, DecidableEq

namespace WriteFault

/-- The wording of a fault. -/
def message : WriteFault → String
  | refused why p none => why.wording ++ ": " ++ quoted p
  | refused why p (some from_) => why.wording ++ ": " ++ quoted from_ ++ " -> " ++ quoted p
  | noPath message => message
  | noOctets f => f.message

/-- The fault is a refusal of the system. -/
def isRefusal : WriteFault → Bool
  | refused .. => true
  | _ => false

end WriteFault

/-- A file put at an absolute path. -/
def putFile (d : Disk) (path : String) (bs : List UInt8) : Disk :=
  { d with files := Keyed.put path bs d.files }

/-- A file taken away. -/
def remove (d : Disk) (path : String) : Disk :=
  { d with files := d.files.filter (·.1 ≠ path) }

/-- The most octets of a name. -/
def mostNameOctets : Nat := 255

/-- The most octets of a path. -/
def mostPathOctets : Nat := 4095

/-- A name has too many octets. -/
def isLongName (name : List Char) : Bool :=
  mostNameOctets < (encodeUtf8 (String.ofList name)).length

/-- A path without the slashes at its end. -/
def withoutEndSlashes (path : String) : String :=
  String.ofList (stripEndBy (· == '/') path.toList)

/-- Why nothing can be written at a path, the parts of which lead nowhere from a directory:
    the first part that cannot be passed decides. -/
def lostFault (d : Disk) (path : String) : String → List (List Char) → WriteFault
  | _, [] => .refused .missing path
  | here, part :: rest =>
    if (d.files.lookup here).isSome then .refused .notDirectory path
    else if !d.hasDirectory here then .refused .missing path
    else if part.isEmpty || part == ['.'] then lostFault d path here rest
    else if part == ['.', '.'] then lostFault d path (Path.parent here) rest
    else if isLongName part then .refused .longName path
    else lostFault d path (below here (String.ofList part)) rest

/-- The absolute path of the file that can be written at a path.  A path that ends with a
    slash names a directory, whatever is there. -/
def place (d : Disk) (path : String) : Except WriteFault String :=
  if let some f := pathFault? path then .error (.noOctets f)
  else if isNoPath path then .error (.noPath noPathMessage)
  else if mostPathOctets < (encodeUtf8 path).length then .error (.refused .longName path)
  else
    match d.locate (withoutEndSlashes path) with
    | none => .error (d.lostFault path "/" (d.partsOf path))
    | some p =>
      if endsWith path.toList ['/'] || d.hasDirectory p then .error (.refused .isDirectory path)
      else if isLongName (Path.baseName p).toList then .error (.refused .longName path)
      else if d.hasDirectory (Path.parent p) then .ok p
      else .error (.refused .missing path)

/-- The file at a path replaced by a text, or a new file. -/
def write (d : Disk) (path : String) (s : String) : Except WriteFault Disk :=
  (d.place path).map fun p => d.putFile p (encodeUtf8 s)

/-- The disk that an attempt to write a text leaves. -/
def attempt (d : Disk) (path : String) (s : String) : Disk × Except WriteFault Unit :=
  match d.write path (if (halfFault? s).isSome then "" else s), halfFault? s with
  | .error f, _ => (d, .error f)
  | .ok d, some f => (d, .error (.noOctets f))
  | .ok d, none => (d, .ok ())

/-- What stops the moving of a file to a path, where a fault stops the writing at it. -/
def movedFault (from_ path : String) : WriteFault → WriteFault
  | .refused why p _ =>
    let why := if why = .isDirectory && endsWith path.toList ['/'] then .notDirectory else why
    .refused why p (some from_)
  | .noPath _ => .noPath "replace: embedded null character in dst"
  | .noOctets f => .noOctets f

/-- The file at an absolute path moved to a path, in the place of the file there. -/
def move (d : Disk) (from_ path : String) : Except WriteFault Disk :=
  match d.place path with
  | .error f => .error (movedFault from_ path f)
  | .ok p => .ok ((d.remove from_).putFile p ((d.files.lookup from_).getD []))

/-- A write that failed, with the disk that it leaves. -/
structure FailedWrite where
  fault : WriteFault
  disk : Disk
  deriving DecidableEq

/-- The disk that is left, whether the write failed or not. -/
def left : Except FailedWrite Disk → Disk
  | .ok d => d
  | .error f => f.disk

/-- The directories from one downwards, made where they are missing. -/
def makeBelow (d : Disk) : String → List (List Char) → Except FailedWrite Disk
  | _, [] => .ok d
  | here, part :: rest =>
    let next := below here (String.ofList part)
    if part.contains '\x00' then .error ⟨.noPath "mkdir: embedded null character in path", d⟩
    else if isLongName part then .error ⟨.refused .longName next, d⟩
    else if d.hasDirectory next then d.makeBelow next rest
    else if (d.files.lookup next).isSome then
      match rest with
      | [] => .error ⟨.refused .fileExists next, d⟩
      | p :: _ => .error ⟨.refused .notDirectory (below next (String.ofList p)), d⟩
    else makeBelow { d with directories := d.directories ++ [next] } next rest

/-- A directory and all directories above it, made where they are missing. -/
def makeDirectories (d : Disk) (path : String) : Except FailedWrite Disk :=
  if let some f := pathFault? (Path.absolute d.home path) then .error ⟨.noOctets f, d⟩
  else d.makeBelow "/" ((splitOn '/' (Path.absolute d.home path).toList).filter fun p => !p.isEmpty)

end Disk

end Affordance
