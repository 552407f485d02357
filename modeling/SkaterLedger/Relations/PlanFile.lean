import SkaterLedger.Json.Printer
import SkaterLedger.Relations.Plan
import SkaterLedger.Text.Utf8

/-!
# Plan files

The items of a deletion plan as an indented JSON document: the contract between planning and
cleanup, which a person may read and edit in between.
-/

namespace SkaterLedger.PlanFile

/-- An item as a JSON object. -/
def itemToJson (item : PlanItem) : Json :=
  .obj [("id", .str item.id), ("subject", .str item.subject), ("target", .str item.target),
    ("reason", .str item.reason)]

/-- The document of some items. -/
def toText (items : List PlanItem) : String := (Json.arr (items.map itemToJson)).toIndented

/-- The names of an item's fields, in order. -/
def fieldNames : List String := ["id", "subject", "target", "reason"]

/-- The item of a parse tree; all fields are needed. -/
def itemOfTree? (tree : Json.Tree) : Option PlanItem := do
  let fields ← tree.record? fieldNames
  let text? (name : String) := (fields.lookup name).bind Json.Tree.string?
  some ⟨← text? "id", ← text? "subject", ← text? "target", ← text? "reason"⟩

/-- The items of a document. -/
def ofText? (text : String) : Option (List PlanItem) := do
  match ← Json.Tree.ofText? text.toList with
  | .array items => items.mapM itemOfTree?
  | _ => none

/-- The items of a file; `none` stands for a file that cannot be read. -/
def read (path : String) (contents : Option (List UInt8)) : Except Failure (List PlanItem) :=
  match contents.bind Text.stringOfBytes? with
  | none => .error (.readPlan path)
  | some text =>
    match ofText? text with
    | some items => .ok items
    | none => .error .parsePlan

end SkaterLedger.PlanFile
