import Affordance.Text.Basic

/-!
# File paths

  * Paths are texts with slashes.  `baseName` and `parent` split at the last slash,
    `splitExtension` at the last point of the last part; points at the beginning of a
    name belong to the name.
  * `absolute` resolves a path against a directory, with empty parts, single points and
    double points worked off.
-/

namespace Affordance.Path

open Affordance.Text

/-- The last part of a path. -/
def baseName (p : String) : String :=
  String.ofList ((p.toList.reverse.takeWhile (· ≠ '/')).reverse)

/-- The path without its last part. -/
def parent (p : String) : String :=
  let head := (p.toList.reverse.dropWhile (· ≠ '/')).reverse
  let bare := stripEndBy (· == '/') head
  String.ofList (if bare.isEmpty then head else bare)

/-- The path without its extension, and the extension with its point. -/
def splitExtension (p : String) : String × String :=
  let base := (baseName p).toList
  let tail := base.reverse.takeWhile (· ≠ '.')
  let stem := base.take (base.length - tail.length - 1)
  if tail.length < base.length && stem.any (· ≠ '.') then
    let ext := '.' :: tail.reverse
    (String.ofList (p.toList.take (p.toList.length - ext.length)), String.ofList ext)
  else (p, "")

/-- The last part of a path without its extension. -/
def stem (p : String) : String := (splitExtension (baseName p)).1

/-- A path below a directory; an absolute path stays as it is. -/
def join (dir p : String) : String :=
  if startsWith p.toList ['/'] then p
  else if dir = "" || endsWith dir.toList ['/'] then dir ++ p
  else dir ++ "/" ++ p

/-- Parts with single points dropped and double points worked off; `absolute_` where
    nothing stands above the first part. -/
def resolveParts (absolute_ : Bool) : List (List Char) → List (List Char) → List (List Char)
  | acc, [] => acc.reverse
  | acc, part :: rest =>
    if part.isEmpty || part == ['.'] then resolveParts absolute_ acc rest
    else if part == ['.', '.'] then
      match acc with
      | [] => resolveParts absolute_ (if absolute_ then [] else [part]) rest
      | top :: below =>
        resolveParts absolute_ (if top == ['.', '.'] then part :: acc else below) rest
    else resolveParts absolute_ (part :: acc) rest

/-- A path with empty parts, single points and double points worked off. -/
def normal (p : String) : String :=
  let cs := p.toList
  let slashes := (cs.takeWhile (· == '/')).length
  let lead := if slashes = 2 then ['/', '/'] else if slashes = 0 then [] else ['/']
  let body := joinChars ['/'] (resolveParts (slashes ≠ 0) [] (splitOn '/' cs))
  match lead ++ body with
  | [] => "."
  | full => String.ofList full

/-- A path resolved against a directory. -/
def absolute (cwd p : String) : String := normal (join cwd p)

end Affordance.Path
