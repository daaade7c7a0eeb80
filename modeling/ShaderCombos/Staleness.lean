import ShaderCombos.BuildId

/-!
# Which shaders are up to date

A shader is up to date if what was compiled from it stores the build identifier that its source has
now. If either identifier cannot be had, whatever the reason, the shader counts as stale.

* `ArtifactPlace`: where compiled shaders lie.
* `ArtifactPlace.isCurrent`: whether a shader is up to date.
-/

namespace ShaderCombos

/-- Where the compiled shaders of a source lie, and where in them the identifier is stored. -/
structure ArtifactPlace where
  /-- Seen from the directory of the source. -/
  directory : Path := ⟨"shaders/fxc"⟩
  extension : String := "vcs"
  offset : Nat := 24
  deriving DecidableEq, Repr

namespace ArtifactPlace

/-- The path of what is compiled from a source under a name. -/
def artifact (place : ArtifactPlace) (source : Path) (name : String) : Path :=
  (source.directory.join place.directory).child (name ++ "." ++ place.extension)

/-- Whether what was compiled from a source under a name is up to date. -/
def isCurrent (place : ArtifactPlace) (ids : BuildIds) (fs : FileSystem) (source : Path)
    (name : String) : Bool :=
  match embeddedId fs (place.artifact source name) place.offset, ids fs source with
  | .ok stored, .ok current => stored == current
  | _, _ => false

end ArtifactPlace

end ShaderCombos
