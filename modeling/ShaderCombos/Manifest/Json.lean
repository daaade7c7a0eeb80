import ShaderCombos.FileSystem.Action
import ShaderCombos.Json.Printer
import ShaderCombos.Json.Reader
import ShaderCombos.Manifest.Basic

/-!
# The written form of work manifests

A manifest is a JSON object with a member for every shader. Where an entry or a range is read, an array
of its values in order will do as well.

* `WorkManifest.toJson`, `WorkManifest.write`: the written form, as a text and as a file.
* `WorkManifest.ofJson?`: the manifest of a text.
-/

namespace ShaderCombos.WorkManifest

/-! ## Writing -/

/-- The written form of a range. -/
def rangeJson (r : ComboRange) : Json :=
  .record [("name", .text r.name), ("minVal", .integer r.min.toInt), ("maxVal", .integer r.max.toInt)]

/-- The written form of an entry. -/
def entryJson (e : WorkEntry) : Json :=
  .record [
    ("static", .array (e.static.map rangeJson)),
    ("dynamic", .array (e.dynamic.map rangeJson)),
    ("files", .array (e.files.map .text)),
    ("centroid", .integer e.centroid.toNat),
    ("version", .text e.target.name),
    ("skip", .text e.skip)]

/-- The written form of a manifest. -/
def json (m : WorkManifest) : Json :=
  .record (m.entries.map fun (name, entry) => (name, entryJson entry))

/-- The text of a manifest. -/
def toJson (m : WorkManifest) : String :=
  m.json.pretty

/-- Writes the text of a manifest to a file. -/
def write (m : WorkManifest) (p : Path) : Action Unit :=
  Action.change (.writeManifest p) (·.write p m.toJson.toUTF8)

/-! ## Reading -/

/-- The members of an object under given names, each of which has to stand there once, or the items of
an array of the same number. Members under other names are passed over. -/
def fields? (names : List String) : Json → Option (List Json)
  | .object members =>
    -- Every name has to be a text, also one that is passed over.
    if members.all (·.1.isSome) then names.mapM (Json.member? · members) else none
  | .array items => if items.length = names.length then some items else none
  | _ => none

/-- A bound of a range. -/
def bound? (j : Json) : Option Int32 := do
  let n ← j.integer?
  if fitsSigned32 n then some (Int32.ofInt n) else none

/-- The range of a written form. -/
def range? (j : Json) : Option ComboRange := do
  match ← fields? ["name", "minVal", "maxVal"] j with
  | [name, min, max] => some ⟨← name.text?, ← bound? min, ← bound? max⟩
  | _ => none

/-- The ranges of a written list. -/
def ranges? (j : Json) : Option (List ComboRange) := do
  (← j.items?).mapM range?

/-- The mask of a written form. -/
def mask? (j : Json) : Option UInt32 := do
  let n ← j.integer?
  if 0 ≤ n ∧ fits32 n.toNat then some (UInt32.ofNat n.toNat) else none

/-- The profile of a written form: its name, or an object with that name and no value. -/
def target? : Json → Option Target
  | .string (some name) => Target.ofName? name
  | .object [(some name, .null)] => Target.ofName? name
  | _ => none

/-- The entry of a written form. -/
def entry? (j : Json) : Option WorkEntry := do
  match ← fields? ["static", "dynamic", "files", "centroid", "version", "skip"] j with
  | [static, dynamic, files, centroid, version, skip] =>
    some {
      static := ← ranges? static
      dynamic := ← ranges? dynamic
      files := ← (← files.items?).mapM Json.text?
      centroid := ← mask? centroid
      target := ← target? version
      skip := ← skip.text? }
  | _ => none

/-- The entries of the members of an object; of several members with one name the last counts. -/
def addMembers (m : WorkManifest) : List (Option String × Json) → Option WorkManifest
  | [] => some m
  | (name, value) :: rest => do
    let name ← name
    let entry ← entry? value
    addMembers (m.put name entry) rest

/-- The manifest of a text. -/
def ofJson? (s : String) : Option WorkManifest := do
  match ← Json.ofText? s with
  | .object members => addMembers empty members
  | _ => none

end ShaderCombos.WorkManifest
