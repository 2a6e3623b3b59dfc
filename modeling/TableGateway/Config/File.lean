import TableGateway.Config.Reading
import TableGateway.Yaml.Value

/-! # Files with settings -/

namespace TableGateway.Config

open Yaml (Value)

/-- The members of a mapping under their names, which are scalars. Where nothing is written there
are none. -/
def yamlMembers? (root v : Value) : Option (List (String × Value)) :=
  match v with
  | .mapping members => members.mapM fun (name, v) => do
      return (← (← root.resolve? name).text?, v)
  | v => if v.isVoid then some [] else none

/-- Settings in YAML, as parts of the document `root`. -/
def Source.yaml (root : Value) : Source Value where
  text? v := (root.resolve? v).bind Value.text?
  truth? v := do Value.truth? (← (← root.resolve? v).typedText? Yaml.boolTag)
  natural? v := do Value.numeral? (← (← root.resolve? v).typedText? Yaml.integerTag)
  optional? v := (root.resolve? v).bind Value.optional?
  choice? v := (root.resolve? v).bind Value.choice?
  items? v := do
    match ← root.resolve? v with
    | .sequence items => return items
    | v => if v.isVoid then return [] else none
  members? v := do yamlMembers? root (← root.resolve? v)
  record? _ v := do yamlMembers? root (← root.resolve? v)

/-- The settings in the text of a file. -/
def ofText? (text : String) : Option Config := do
  let v ← Value.ofText? text
  read? (.yaml v) v

end TableGateway.Config
