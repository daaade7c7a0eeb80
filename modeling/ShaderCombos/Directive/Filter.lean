import ShaderCombos.Directive.Bracket

/-!
# Which directives apply

A source is read for one stage at one version. A directive applies unless a mark on its line confines
it to something else.

* `Filter.ofVersion`, `Filter.forModel`: the filter of a stage and a version.
* `Filter.accepts`: whether the directive on a line applies.
-/

namespace ShaderCombos.Directive

open Text

/-- A stage and the version it is read for, whose ASCII letters are in lower case. -/
structure Filter where
  stage : Stage
  version : String
  deriving DecidableEq, Repr

namespace Filter

/-- The filter of a stage and a version. Vertex shaders that are asked for 2.0b are read for 2.0. -/
def ofVersion (stage : Stage) (version : String) : Filter :=
  let version := asciiLowercase version.toList
  if stage = .vertex ∧ version = "20b".toList then ⟨stage, "20"⟩
  else ⟨stage, String.ofList version⟩

/-- The filter of a stage under a shader model. -/
def forModel (stage : Stage) (model : ShaderModel) : Filter :=
  ofVersion stage (model.versionFor stage)

/-- The versions of the filter's own stage that a line names. -/
def versions (f : Filter) (line : List Char) : List (List Char) :=
  marks (versionMark f.stage) line

/-- Whether the directive on a line applies: it is not meant for the console or for the other stage,
and if it names versions of this stage, the filter's version is among them. -/
def accepts (f : Filter) (line : List Char) : Bool :=
  !hasMark consoleMark line
    && !hasMark (versionMark f.stage.opposite) line
    && ((f.versions line).isEmpty
      || (f.versions line).any fun version => asciiLowercase version = f.version.toList)

end Filter

end ShaderCombos.Directive
