import SkaterLedger.Binary64.Decimal
import SkaterLedger.Text.Blank
import SkaterLedger.Text.Search

/-!
# Gallery statuses

What a status line says about a skater's gallery: whether it was sent or bought, and the gross and
net amounts paid. A line that fits none of the purchase patterns counts as sent.
-/

namespace SkaterLedger

/-- The state of a gallery. -/
inductive GalleryStatus where
  /-- No status line was seen. -/
  | pending
  /-- The gallery was sent. -/
  | sent
  /-- The gallery was bought. -/
  | purchased
deriving DecidableEq, Repr

/-- The word for a status in files and in the store. -/
def GalleryStatus.word : GalleryStatus → String
  | pending => "pending"
  | sent => "sent"
  | purchased => "purchased"

/-- The status that a word names. -/
def GalleryStatus.ofWord? (s : String) : Option GalleryStatus :=
  [pending, sent, purchased].find? fun status => status.word == s

/-- What a status line says. -/
structure StatusReading where
  /-- The status. -/
  status : GalleryStatus
  /-- The gross amount, if it was written and can be read. -/
  gross : Option Binary64
  /-- The net amount, if it was written and can be read. -/
  net : Option Binary64
deriving DecidableEq, Repr

/-- The reading of a line that tells no amounts. -/
def StatusReading.sent : StatusReading := ⟨.sent, none, none⟩

/-- The shapes of the text of a status line. -/
inductive StatusPattern where
  /-- As in `Purchased - $45.00 (Net: $38.25)`. -/
  | purchasedFull
  /-- As in `Purchased (Net: $20.00)`. -/
  | purchasedNet
  /-- As in `$20.00 net`. -/
  | netOnly
  /-- The text `Sent`. -/
  | sent
deriving DecidableEq, Repr

namespace StatusPattern

/-- The patterns in the order in which they are tried. -/
def order : List StatusPattern := [purchasedFull, purchasedNet, netOnly, sent]

/-- The texts around the amounts of a pattern: an amount stands between every two of them. -/
def frame : StatusPattern → List (List Char)
  | purchasedFull => ["Purchased - $".toList, " (Net: $".toList, ")".toList]
  | purchasedNet => ["Purchased (Net: $".toList, ")".toList]
  | netOnly => ["$".toList, " net".toList]
  | sent => ["Sent".toList]

/-- The longest amount at the start of a text and the rest: digits, a point and digits, of which
only the first digits are needed. -/
def amount? (cs : List Char) : Option (List Char × List Char) :=
  let whole := cs.takeWhile Text.isDigit
  if whole.isEmpty then none
  else
    match cs.dropWhile Text.isDigit with
    | '.' :: rest =>
      some (whole ++ '.' :: rest.takeWhile Text.isDigit, rest.dropWhile Text.isDigit)
    | rest => some (whole, rest)

/-- The amounts of a frame that stands at the start of a text. -/
def amountsAt? : List (List Char) → List Char → Option (List (List Char))
  | [], _ => some []
  | [last], cs => if last.isPrefixOf cs then some [] else none
  | part :: parts, cs =>
    if part.isPrefixOf cs then do
      let (amount, rest) ← amount? (cs.drop part.length)
      let amounts ← amountsAt? parts rest
      some (amount :: amounts)
    else none

/-- The amounts of the first place of a text where a frame stands. -/
def findAmounts? (parts : List (List Char)) : List Char → Option (List (List Char))
  | [] => amountsAt? parts []
  | c :: cs =>
    match amountsAt? parts (c :: cs) with
    | some amounts => some amounts
    | none => findAmounts? parts cs

/-- The number that an amount writes; `none` if it has digits beyond ASCII. -/
def amountValue? (cs : List Char) : Option Binary64 := Binary64.ofText? cs

/-- The reading of a text that contains a pattern; `Sent` has to be the whole text. -/
def read? (pattern : StatusPattern) (text : List Char) : Option StatusReading :=
  match pattern with
  | sent => if text = "Sent".toList then some .sent else none
  | _ =>
    (findAmounts? pattern.frame text).map fun amounts =>
      match amounts with
      | [net] => ⟨.purchased, none, amountValue? net⟩
      | gross :: net :: _ => ⟨.purchased, amountValue? gross, amountValue? net⟩
      | [] => ⟨.purchased, none, none⟩

end StatusPattern

/-- The keyword of status lines. -/
def statusKeyword : List Char := "Status:".toList

/-- The text of a status line: what is left without the keyword, trimmed. -/
def statusText (line : List Char) : List Char := Text.trim (Text.removeAll statusKeyword line)

/-- Reads a status line by the first pattern that its text contains. -/
def StatusReading.ofLine (line : List Char) : StatusReading :=
  let text := statusText line
  (StatusPattern.order.findSome? fun pattern => pattern.read? text).getD .sent

end SkaterLedger
