/-!
# Sections

A requests document is divided into sections, and a reader asks for one of them or for all.
-/

namespace SkaterLedger

/-- Which sections of a document are read. -/
inductive SectionFilter where
  /-- Every section, and what stands before the first header. -/
  | all
  /-- The sections of one name. -/
  | named (name : String)
deriving DecidableEq, Repr

namespace SectionFilter

/-- The filter that a text names: the word `all` in any case is the wildcard. -/
def ofText (s : String) : SectionFilter :=
  if s.toList.map Char.toLower == ['a', 'l', 'l'] then all else named s

/-- The filter that is used when none is named. -/
def standard : SectionFilter := named "Requested"

/-- Whether the filter lets lines of a section through; `none` is the part before the first
header. -/
def accepts (filter : SectionFilter) (sectionName : Option String) : Bool :=
  match filter with
  | all => true
  | named name => sectionName == some name

/-- How the filter is shown. -/
def label : SectionFilter → String
  | all => "All"
  | named name => name

end SectionFilter

end SkaterLedger
