import Affordance.Problem
import Affordance.Script.Components
import Affordance.SingleFile.Analysis
import Affordance.Text.Utf8

/-!
# Source files

  * `frameworkOf`: the dialect of a file, told by its extension.
  * `analyze`: the analysis of a source; its file name selects the dialect.
  * `Failure`: a problem that is reported, markup that is refused, or a path that is none or
    has no octets.
-/

namespace Affordance

open Affordance.Text
open Affordance.Script

/-- What stops the reading of a source. -/
inductive Failure where
  /-- A problem that a user is told about. -/
  | problem (p : Problem)
  /-- Markup that is refused as a whole. -/
  | rejected (r : Markup.Rejection)
  /-- The path of the source is no path. -/
  | noPath
  /-- The path of the source has no octets. -/
  | noOctets (fault : HalfFault)
  deriving Repr, DecidableEq

namespace SourceFile

/-- The extensions of source files and their dialects, in alphabetical order. -/
def dialects : List (String × Framework) := [
  (".htm", .html), (".html", .html), (".jsx", .react), (".tsx", .react), (".vue", .vue)]

/-- The extension of a file in lower case. -/
def extensionOf (fileName : String) : String := toLower (Path.splitExtension fileName).2

/-- The dialect of a file. -/
def frameworkOf (fileName : String) : Except Problem Framework :=
  match dialects.lookup (extensionOf fileName) with
  | some f => .ok f
  | none => .error (.unsupportedType fileName (extensionOf fileName) (dialects.map (·.1)))

/-- The wording of a look-up of a bracket where there is none. -/
def bracketDetail : BracketFault → String
  | .noBracket c => "KeyError: " ++ quoted (String.singleton c)
  | .outside => "IndexError: string index out of range"

/-- A fault of a source as a failure of its file. -/
def failureOf (fileName : String) : SourceFault → Failure
  | .bracket f => .problem (.parseFailed fileName (bracketDetail f))
  | .noBlocks => .problem (.parseFailed fileName "no <template> or <script> block found")
  | .longNumber n => .problem (.parseFailed fileName ("ValueError: " ++ n.message))
  | .rejected r => .rejected r

/-- The reader of a dialect. -/
def readerOf : Framework → String → String → Except SourceFault Analysis
  | .html => Markup.analyze
  | .react => Script.analyze
  | .vue => SingleFile.analyze

/-- The analysis of a source. -/
def analyze (source fileName : String) : Except Failure Analysis := do
  let framework ← (frameworkOf fileName).mapError .problem
  if source.toList.contains '\x00' then
    throw (.problem (.parseFailed fileName "file looks binary (NUL bytes)"))
  (readerOf framework source fileName).mapError (failureOf fileName)

end SourceFile

end Affordance
