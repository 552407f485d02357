import SkaterLedger.Proofs.Binary64.Nearest
import SkaterLedger.Proofs.Binary64.Numerals
import SkaterLedger.Proofs.Requests.Patterns
import SkaterLedger.Proofs.Text.Blanks

/-!
# Statuses that are read back

A status line is read by searching its text for one pattern after another, so that a pattern may be
found anywhere in it. For the four texts in which a status is documented the right pattern is found
at once, and none of those before it occurs: the text lacks one of the characters that the pattern
begins with.
-/

namespace SkaterLedger

/-- An amount as it is written: digits, and possibly a point with more digits behind it. -/
structure WrittenAmount where
  /-- The digits before the point. -/
  whole : List Char
  /-- The digits behind the point, if there is one. -/
  fraction : Option (List Char)
  /-- There is a digit before the point. -/
  whole_ne_nil : whole ≠ []
  /-- Before the point there are only digits. -/
  whole_digits : ∀ c ∈ whole, Text.isAsciiDigit c = true
  /-- Behind the point there are only digits. -/
  fraction_digits : ∀ ds ∈ fraction, ∀ c ∈ ds, Text.isAsciiDigit c = true

namespace WrittenAmount

/-- The text of an amount. -/
def text (a : WrittenAmount) : List Char :=
  match a.fraction with
  | none => a.whole
  | some ds => a.whole ++ '.' :: ds

/-- The number that an amount writes, rounded to the nearest binary64 number. -/
def value (a : WrittenAmount) : Binary64 :=
  ⟨false, Decimal.toMagnitude
    ⟨Text.numberOfDigits (a.whole ++ a.fraction.getD []), -(a.fraction.getD []).length⟩⟩

variable {a : WrittenAmount} {c : Char}

/-- An amount consists of digits and a point. -/
theorem not_mem_text (hpoint : c ≠ '.') (hdigit : Text.isAsciiDigit c = false) : c ∉ a.text := by
  have hnot {ds : List Char} (hds : ∀ c ∈ ds, Text.isAsciiDigit c = true) : c ∉ ds := by
    intro hmem
    rw [hds c hmem] at hdigit
    cases hdigit
  unfold text
  cases hfraction : a.fraction with
  | none => exact hnot a.whole_digits
  | some ds =>
    rw [List.mem_append, List.mem_cons, not_or, not_or]
    exact ⟨hnot a.whole_digits, hpoint, hnot (a.fraction_digits ds hfraction)⟩

/-- What is written is an amount. -/
theorem isAmount_text (a : WrittenAmount) : StatusPattern.IsAmount a.text := by
  have hall {ds : List Char} (hds : ∀ c ∈ ds, Text.isAsciiDigit c = true) :
      ∀ c ∈ ds, Text.isDigit c = true := fun c hc => Text.isDigit_of_isAsciiDigit (hds c hc)
  unfold text
  cases hfraction : a.fraction with
  | none =>
    refine ⟨a.whole, [], [], ?_, a.whole_ne_nil, hall a.whole_digits, .inl rfl,
      List.forall_mem_nil _⟩
    rw [List.append_nil, List.append_nil]
  | some ds =>
    exact ⟨a.whole, ['.'], ds, rfl, a.whole_ne_nil, hall a.whole_digits, .inr rfl,
      hall (a.fraction_digits ds hfraction)⟩

/-- An amount is read as the decimal number that its digits write. -/
theorem decimal_ofText?_text (a : WrittenAmount) : Decimal.ofText? a.text =
    some ⟨Text.numberOfDigits (a.whole ++ a.fraction.getD []), -(a.fraction.getD []).length⟩ := by
  have hwhole : Text.Digits a.whole := ⟨a.whole_ne_nil, a.whole_digits⟩
  unfold text
  cases hfraction : a.fraction with
  | none =>
    have hread : Decimal.ofText? (a.whole ++ []) = _ := Decimal.ofText?_append hwhole (by simp) rfl
    simpa using hread
  | some ds =>
    have hds : ∀ c ∈ ds, Text.isAsciiDigit c = true := a.fraction_digits ds hfraction
    have hread : Decimal.ofText? (a.whole ++ '.' :: (ds ++ [])) = _ :=
      Decimal.ofText?_append_point hwhole hds (by simp) rfl
    simpa using hread

/-- An amount is read as its value. -/
theorem ofText?_text (a : WrittenAmount) : Binary64.ofText? a.text = some a.value := by
  obtain ⟨d, ds, htext, hd⟩ := a.isAmount_text.exists_cons
  have hdecimal := a.decimal_ofText?_text
  rw [htext] at hdecimal ⊢
  rw [Binary64.ofText?_cons hd, hdecimal]
  rfl

/-- The value of an amount is not negative, and it is the number that is nearest to what the digits
write, of two equally near ones the even one. -/
theorem value_isNearest (a : WrittenAmount) :
    a.value.negative = false ∧ a.value.magnitude.IsNearest
      (Text.numberOfDigits (a.whole ++ a.fraction.getD []) * Magnitude.unitsPerOne)
      (10 ^ (a.fraction.getD []).length) :=
  ⟨rfl, Decimal.toMagnitude_isNearest _ _⟩

end WrittenAmount

/-! ## Statuses -/

/-- A status as it is documented. -/
inductive WrittenStatus where
  /-- As in `Sent`. -/
  | sent
  /-- As in `Purchased - $45.00 (Net: $38.25)`. -/
  | purchasedFull (gross net : WrittenAmount)
  /-- As in `Purchased (Net: $20.00)`. -/
  | purchasedNet (net : WrittenAmount)
  /-- As in `$20.00 net`. -/
  | netOnly (net : WrittenAmount)

namespace WrittenStatus

/-- The text of a status. -/
def text : WrittenStatus → List Char
  | sent => "Sent".toList
  | purchasedFull gross net =>
    "Purchased - $".toList ++ (gross.text ++ (" (Net: $".toList ++ (net.text ++ ")".toList)))
  | purchasedNet net => "Purchased (Net: $".toList ++ (net.text ++ ")".toList)
  | netOnly net => "$".toList ++ (net.text ++ " net".toList)

/-- What a status says. -/
def reading : WrittenStatus → StatusReading
  | sent => ⟨.sent, none, none⟩
  | purchasedFull gross net => ⟨.purchased, some gross.value, some net.value⟩
  | purchasedNet net => ⟨.purchased, none, some net.value⟩
  | netOnly net => ⟨.purchased, none, some net.value⟩

/-- What stands in the text of a status around its amounts. -/
def wording : WrittenStatus → List Char
  | sent => "Sent".toList
  | purchasedFull _ _ => "Purchased - $ (Net: $)".toList
  | purchasedNet _ => "Purchased (Net: $)".toList
  | netOnly _ => "$ net".toList

/-- The text of a status lacks a character that is neither in its wording nor in an amount. -/
theorem not_mem_text {c : Char} {s : WrittenStatus} (hpoint : c ≠ '.')
    (hdigit : Text.isAsciiDigit c = false) (hwording : c ∉ s.wording) : c ∉ s.text := by
  have hamount (a : WrittenAmount) : c ∉ a.text := a.not_mem_text hpoint hdigit
  have hpart {part wording : List Char} (hwording : c ∉ wording) (h : part ⊆ wording) : c ∉ part :=
    fun hmem => hwording (h hmem)
  cases s with
  | sent => exact hwording
  | purchasedFull gross net =>
    change c ∉ "Purchased - $ (Net: $)".toList at hwording
    exact List.not_mem_append (hpart hwording (by decide)) (List.not_mem_append (hamount gross)
      (List.not_mem_append (hpart hwording (by decide)) (List.not_mem_append (hamount net)
        (hpart hwording (by decide)))))
  | purchasedNet net =>
    change c ∉ "Purchased (Net: $)".toList at hwording
    exact List.not_mem_append (hpart hwording (by decide)) (List.not_mem_append (hamount net)
      (hpart hwording (by decide)))
  | netOnly net =>
    change c ∉ "$ net".toList at hwording
    exact List.not_mem_append (hpart hwording (by decide)) (List.not_mem_append (hamount net)
      (hpart hwording (by decide)))

/-- The text of a status lacks a character that no status has. -/
theorem not_mem_text_of_alphabet {c : Char} (hpoint : c ≠ '.')
    (hdigit : Text.isAsciiDigit c = false)
    (halphabet : c ∉ "Sent Purchased - $ (Net: $) net".toList) (s : WrittenStatus) :
    c ∉ s.text := by
  have hpart {part : List Char} (h : part ⊆ "Sent Purchased - $ (Net: $) net".toList) : c ∉ part :=
    fun hmem => halphabet (h hmem)
  refine not_mem_text hpoint hdigit ?_
  cases s with
  | sent => exact hpart (by decide)
  | purchasedFull gross net =>
    have hsubset : "Purchased - $ (Net: $)".toList ⊆ "Sent Purchased - $ (Net: $) net".toList := by
      decide
    exact hpart hsubset
  | purchasedNet net =>
    have hsubset : "Purchased (Net: $)".toList ⊆ "Sent Purchased - $ (Net: $) net".toList := by
      decide
    exact hpart hsubset
  | netOnly net =>
    have hsubset : "$ net".toList ⊆ "Sent Purchased - $ (Net: $) net".toList := by decide
    exact hpart hsubset

/-- A status has a text. -/
theorem text_ne_nil (s : WrittenStatus) : s.text ≠ [] := by
  cases s <;> exact List.cons_ne_nil _ _

/-- The text of a status is trimmed. -/
theorem trim_text (s : WrittenStatus) : Text.trim s.text = s.text := by
  cases s with
  | sent => rfl
  | purchasedFull gross net =>
    have hends : (purchasedFull gross net).text = 'P' :: (("urchased - $".toList ++ (gross.text ++
        (" (Net: $".toList ++ net.text))) ++ [')']) := by
      rw [List.append_assoc, List.append_assoc, List.append_assoc]
      rfl
    rw [hends]
    exact Text.trim_cons_concat (by decide) (by decide)
  | purchasedNet net =>
    have hends : (purchasedNet net).text =
        'P' :: (("urchased (Net: $".toList ++ net.text) ++ [')']) := by
      rw [List.append_assoc]
      rfl
    rw [hends]
    exact Text.trim_cons_concat (by decide) (by decide)
  | netOnly net =>
    have hends : (netOnly net).text = '$' :: ((net.text ++ " ne".toList) ++ ['t']) := by
      rw [List.append_assoc]
      rfl
    rw [hends]
    exact Text.trim_cons_concat (by decide) (by decide)

end WrittenStatus

/-! ## Finding the pattern -/

namespace StatusPattern

variable {part next cs : List Char} {parts : List (List Char)}

/-- A frame is found nowhere in a text in which its first part does not occur. -/
theorem findAmounts?_eq_none (h : Text.occursIn part cs = false) :
    findAmounts? (part :: parts) cs = none := by
  rw [Bool.eq_false_iff, ne_eq, Text.occursIn_iff] at h
  have hat {cs : List Char} (hcs : ¬ part <+: cs) : amountsAt? (part :: parts) cs = none := by
    have hhead : part.isPrefixOf cs = false := by
      rwa [Bool.eq_false_iff, ne_eq, List.isPrefixOf_iff_prefix]
    cases parts <;> simp [amountsAt?, hhead]
  induction cs with
  | nil => exact hat fun hpart => h hpart.isInfix
  | cons c cs ih =>
    rw [List.infix_cons_iff, not_or] at h
    rw [findAmounts?, hat h.1]
    exact ih h.2

/-- A pattern is not read from a text in which its frame is not found. -/
theorem read?_eq_none_of_findAmounts? {pattern : StatusPattern} {text : List Char}
    (hsent : pattern ≠ sent) (h : findAmounts? pattern.frame text = none) :
    pattern.read? text = none := by
  cases pattern with
  | sent => exact absurd rfl hsent
  | _ =>
    unfold read?
    dsimp only
    rw [h, Option.map_none]

/-- A pattern is not read from a text in which the first part of its frame does not occur. -/
theorem read?_eq_none {pattern : StatusPattern} {text : List Char} (hsent : pattern ≠ sent)
    (hframe : pattern.frame = part :: parts) (h : Text.occursIn part text = false) :
    pattern.read? text = none :=
  read?_eq_none_of_findAmounts? hsent (by rw [hframe, findAmounts?_eq_none h])

/-- A pattern with one amount is read from a text that consists of it. -/
theorem read?_net {pattern : StatusPattern} {net : WrittenAmount} (hsent : pattern ≠ sent)
    (hframe : pattern.frame = [part, next]) :
    pattern.read? (part ++ (net.text ++ next)) = some ⟨.purchased, none, some net.value⟩ := by
  have hstarts : Starts pattern.frame [net.text] (part ++ (net.text ++ next)) := by
    rw [hframe]
    exact .amount net.isAmount_text (starts_singleton next)
  have hfind := findAmounts?_of_starts hstarts
  cases pattern with
  | sent => exact absurd rfl hsent
  | _ => simp [read?, hfind, amountValue?, WrittenAmount.ofText?_text]

end StatusPattern

/-! ## Reading a status -/

namespace WrittenStatus

/-- The first pattern that the text of a status contains reads what the status says. -/
theorem findSome?_read?_text (s : WrittenStatus) :
    (StatusPattern.order.findSome? fun pattern => pattern.read? s.text) = some s.reading := by
  unfold StatusPattern.order
  -- A pattern that is tried before the right one needs a character that the text lacks.
  cases s with
  | sent => rfl
  | purchasedFull gross net =>
    have hfind : StatusPattern.findAmounts? StatusPattern.purchasedFull.frame
        (purchasedFull gross net).text = some [gross.text, net.text] :=
      StatusPattern.findAmounts?_of_starts
        (.amount gross.isAmount_text (.amount net.isAmount_text (StatusPattern.starts_singleton _)))
    have hread : StatusPattern.purchasedFull.read? (purchasedFull gross net).text =
        some (purchasedFull gross net).reading := by
      simp [StatusPattern.read?, hfind, StatusPattern.amountValue?, WrittenAmount.ofText?_text,
        reading]
    rw [List.findSome?_cons, hread]
  | purchasedNet net =>
    have hwording : '-' ∉ "Purchased (Net: $)".toList := by decide
    have hno : '-' ∉ (purchasedNet net).text := not_mem_text (by decide) (by decide) hwording
    have hfull : StatusPattern.purchasedFull.read? (purchasedNet net).text = none :=
      StatusPattern.read?_eq_none (by decide) rfl (Text.occursIn_of_not_mem (by decide) hno)
    have hread : StatusPattern.purchasedNet.read? (purchasedNet net).text =
        some (purchasedNet net).reading :=
      StatusPattern.read?_net (by decide) rfl
    rw [List.findSome?_cons, hfull, List.findSome?_cons, hread]
  | netOnly net =>
    have hwording : 'P' ∉ "$ net".toList := by decide
    have hno : 'P' ∉ (netOnly net).text := not_mem_text (by decide) (by decide) hwording
    have hfull : StatusPattern.purchasedFull.read? (netOnly net).text = none :=
      StatusPattern.read?_eq_none (by decide) rfl (Text.occursIn_of_not_mem (by decide) hno)
    have hnet : StatusPattern.purchasedNet.read? (netOnly net).text = none :=
      StatusPattern.read?_eq_none (by decide) rfl (Text.occursIn_of_not_mem (by decide) hno)
    have hread : StatusPattern.netOnly.read? (netOnly net).text = some (netOnly net).reading :=
      StatusPattern.read?_net (by decide) rfl
    rw [List.findSome?_cons, hfull, List.findSome?_cons, hnet, List.findSome?_cons, hread]

/-- The keyword of status lines does not occur in the text of a status. -/
theorem occursIn_statusKeyword_text (s : WrittenStatus) :
    Text.occursIn statusKeyword s.text = false := by
  -- Only `Sent` has the first letter of the keyword.
  have hwithout {s : WrittenStatus} (hwording : 'S' ∉ s.wording) :
      Text.occursIn statusKeyword s.text = false :=
    Text.occursIn_of_not_mem (by decide) (not_mem_text (by decide) (by decide) hwording)
  cases s with
  | sent => rfl
  | purchasedFull gross net =>
    have hwording : 'S' ∉ "Purchased - $ (Net: $)".toList := by decide
    exact hwithout hwording
  | purchasedNet net =>
    have hwording : 'S' ∉ "Purchased (Net: $)".toList := by decide
    exact hwithout hwording
  | netOnly net =>
    have hwording : 'S' ∉ "$ net".toList := by decide
    exact hwithout hwording

/-- A status line is read as the status that is written on it. -/
theorem ofLine_append {bs : List Char} (hbs : ∀ c ∈ bs, Text.isBlank c = true) (s : WrittenStatus) :
    StatusReading.ofLine (bs ++ (statusKeyword ++ ' ' :: s.text)) = s.reading := by
  have hstart : 'S' ∉ bs := Text.not_mem_of_isBlank hbs rfl
  have hspace : 'S' ∉ [' '] := by decide
  have hblanks : ∀ c ∈ bs ++ [' '], Text.isBlank c = true := by
    simpa [or_imp, forall_and] using ⟨hbs, rfl⟩
  have hnone : Text.occursIn statusKeyword (' ' :: s.text) = false :=
    (Text.occursIn_append hspace).trans s.occursIn_statusKeyword_text
  have hremove : Text.removeAll statusKeyword (bs ++ (statusKeyword ++ ' ' :: s.text)) =
      bs ++ [' '] ++ s.text := by
    rw [List.append_assoc]
    exact (Text.removeAll_append hstart).trans
      (congrArg (bs ++ ·) (Text.removeAll_of_not_occursIn hnone))
  unfold StatusReading.ofLine statusText
  dsimp only
  rw [hremove, Text.trim_append_of_trim hblanks s.trim_text, s.findSome?_read?_text,
    Option.getD_some]

end WrittenStatus

end SkaterLedger
