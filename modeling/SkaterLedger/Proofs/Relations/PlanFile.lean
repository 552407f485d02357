import SkaterLedger.Proofs.Json.Values
import SkaterLedger.Proofs.Outcome
import SkaterLedger.Relations.PlanFile

/-!
# Plan files hand over the plan

The file of some items is read as these items (`PlanFile.read_toText`): the indented document is read
as its parse tree wherever blanks stand in it, the tree of an item has its four fields, and a string
is read back whatever characters it has.
-/

namespace SkaterLedger.PlanFile

open Json (Tree)

/-- The fields of an item's object. -/
def itemFields (item : PlanItem) : List (String × Tree) :=
  [("id", .ofValue (.str item.id)), ("subject", .ofValue (.str item.subject)),
    ("target", .ofValue (.str item.target)), ("reason", .ofValue (.str item.reason))]

/-- The object of an item has its fields, each once. -/
theorem record?_itemToJson (item : PlanItem) :
    Tree.record? fieldNames (.ofValue (itemToJson item)) = some (itemFields item) := by
  rw [itemToJson, Tree.ofValue, Tree.record?, Json.keyed?_ofMembers]
  simp [fieldNames, itemFields]

/-- An item is read back from its object. -/
theorem itemOfTree?_itemToJson (item : PlanItem) :
    itemOfTree? (.ofValue (itemToJson item)) = some item := by
  rw [itemOfTree?, record?_itemToJson]
  simp [itemFields, List.lookup_cons, Json.string?_ofValue]

/-- Items are read back from their document. -/
theorem ofText?_toText (items : List PlanItem) : ofText? (toText items) = some items := by
  have hitems : (Tree.ofValues (items.map itemToJson)).mapM itemOfTree? = some items := by
    rw [Json.ofValues_eq_map, List.map_map, mapM_eq_some_iff, List.forall₂_map_left_iff,
      List.forall₂_same]
    exact fun item _ => itemOfTree?_itemToJson item
  rw [ofText?, toText, Json.ofText?_toIndented, Option.bind_eq_bind, Option.bind_some, Tree.ofValue]
  exact hitems

/-- The file of a plan is read as the items that were written to it, whatever characters their texts
have: the same items, in the same order. -/
theorem read_toText (items : List PlanItem) (path : String) :
    read path (some (Text.bytesOfString (toText items))) = .ok items := by
  rw [read, Option.bind_some, Text.stringOfBytes?_bytesOfString]
  simp only [ofText?_toText]

end SkaterLedger.PlanFile
