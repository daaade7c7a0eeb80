import ShaderCombos.Directive.Bracket
import ShaderCombos.Failure

/-!
# Names of shaders

The name of a source file ends in its stage and a version, as in `water_ps2x.fxc`. The shader built
from it for another version has the same name with that version instead, in lower case.

* `Naming.stem`: the lower-case file name without extension.
* `Naming.splitSuffix?`: a stem cut at its stage suffix.
* `Naming.stage`, `Naming.outputName`: the stage of a source and the name of what is built from it.
-/

namespace ShaderCombos.Naming

open Text Directive

/-- The lower-case file name of a path without extension, empty where the path ends in no name. -/
def stem (p : Path) : List Char :=
  lowercase ((p.fileStem?.getD "").toList)

/-- The letters of a stage suffix that begins here and reaches to the end: an underscore, the letters,
digits and at most one more word character. -/
def suffixLetters? : List Char → Option (List Char)
  | '_' :: first :: second :: version =>
    -- The suffix has to reach to the end of the stem, so nothing may follow the version.
    if isStage .vertex first second || isStage .pixel first second then
      (version? List.isEmpty version).map fun _ => [first, second]
    else none
  | _ => none

/-- A stem cut at its first stage suffix: what comes before, and the letters of the stage. -/
def splitSuffix? : List Char → Option (List Char × List Char)
  | [] => none
  | c :: rest =>
    match suffixLetters? (c :: rest) with
    | some letters => some ([], letters)
    | none => (splitSuffix? rest).map fun (before, letters) => (c :: before, letters)

/-- The stage that a path's name tells. Letters other than those of the vertex stage mean the pixel
stage, which includes spellings with a long s. -/
def stage (p : Path) : Except Fault Stage :=
  match splitSuffix? (stem p) with
  | some (_, letters) => .ok (if letters = Stage.vertex.letters.toList then .vertex else .pixel)
  | none => .error (.unknownStage p)

/-- The name of what is built from a path's source for a version: the stem with its stage suffix made
to carry that version. A stem without a stage suffix stays as it is. -/
def outputName (p : Path) (version : String) : String :=
  match splitSuffix? (stem p) with
  | some (before, letters) => String.ofList (before ++ '_' :: letters) ++ version
  | none => String.ofList (stem p)

end ShaderCombos.Naming
