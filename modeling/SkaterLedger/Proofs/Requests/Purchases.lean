import Mathlib.Order.WellFounded
import SkaterLedger.Proofs.Requests.Patterns
import SkaterLedger.Proofs.Requests.Statuses

/-!
# Purchases in a text

A pattern is read from a text if a purchase of its shape stands anywhere in it, and then the one
that begins first is read (`read?_eq_of_isFirst`). No two purchases of a pattern begin at the same
place. A status line is read by the first pattern that occurs in its text, and as sent if none does
(`ofLine_purchases`).
-/

namespace SkaterLedger

open StatusPattern (IsAmount)

/-- The patterns of purchases, in the order in which they are tried. -/
def StatusPattern.purchases : List StatusPattern := [purchasedFull, purchasedNet, netOnly]

/-- A pattern of purchases is not the one of a gallery that was sent. -/
theorem StatusPattern.ne_sent_of_mem {pattern : StatusPattern} (h : pattern ∈ purchases) :
    pattern ≠ sent := by
  rintro rfl
  exact absurd h (by decide)

/-- An amount that stands in a text. -/
@[ext]
structure FoundAmount where
  /-- Its characters. -/
  text : List Char
  /-- They are an amount. -/
  isAmount : IsAmount text

/-- A purchase that stands in a text. -/
inductive Purchase where
  /-- With the gross and the net amount. -/
  | full (gross net : FoundAmount)
  /-- With the net amount. -/
  | bought (net : FoundAmount)
  /-- With nothing but the net amount. -/
  | short (net : FoundAmount)

namespace FoundAmount

/-- Whether an amount has a digit that is not one of ASCII. -/
def Wide (a : FoundAmount) : Prop :=
  ∃ c ∈ a.text, Text.isDigit c = true ∧ Text.isAsciiDigit c = false

/-- Such a digit stands among the first digits or behind the point, and is not passed over. -/
theorem decimal_ofText?_eq_none {a : FoundAmount} (h : a.Wide) :
    Decimal.ofText? a.text = none := by
  obtain ⟨whole, -, hwhole, htext⟩ := a.isAmount.exists_whole
  obtain ⟨c, hc, hdigit, hwide⟩ := h
  by_cases hfront : ∃ c ∈ whole, Text.isAsciiDigit c = false
  · have hread := Decimal.ofText?_wide hwhole hfront
    rcases htext with htext | ⟨fraction, -, htext⟩
    · rw [htext, ← List.append_nil whole]
      exact hread []
    · rw [htext]
      exact hread ('.' :: fraction)
  · have hall : ∀ c ∈ whole, Text.isAsciiDigit c = true := by simpa using hfront
    rcases htext with htext | ⟨fraction, hfraction, htext⟩
    · exact absurd ⟨c, htext ▸ hc, hwide⟩ hfront
    · have hpoint : c ≠ '.' := by
        rintro rfl
        exact absurd hdigit (by decide)
      have hmem : c ∈ whole ∨ c ∈ fraction := by
        rw [htext, List.mem_append, List.mem_cons] at hc
        exact hc.imp_right fun h => h.resolve_left hpoint
      rw [htext]
      exact Decimal.ofText?_point_wide hall hfraction
        ⟨c, hmem.resolve_left fun h => hfront ⟨c, h, hwide⟩, hwide⟩

/-- An amount with such a digit is not read. -/
theorem ofText?_eq_none {a : FoundAmount} (h : a.Wide) : Binary64.ofText? a.text = none := by
  have hdecimal := decimal_ofText?_eq_none h
  obtain ⟨d, ds, hcons, hd⟩ := a.isAmount.exists_cons
  rw [hcons] at hdecimal ⊢
  rw [Binary64.ofText?_cons hd, hdecimal, Option.map_none]

/-- Any other amount is one that can be written. -/
theorem exists_written {a : FoundAmount} (h : ¬ a.Wide) : ∃ w : WrittenAmount, a.text = w.text := by
  have hascii {ds : List Char} (hsubset : ds ⊆ a.text) (hds : ∀ c ∈ ds, Text.isDigit c = true) :
      ∀ c ∈ ds, Text.isAsciiDigit c = true := by
    intro c hc
    by_contra hwide
    exact h ⟨c, hsubset hc, hds c hc, Bool.eq_false_iff.mpr hwide⟩
  obtain ⟨whole, hne, hwhole, htext | ⟨fraction, hfraction, htext⟩⟩ := a.isAmount.exists_whole
  · have hall := hascii (htext ▸ List.Subset.refl _) hwhole
    exact ⟨⟨whole, none, hne, hall, nofun⟩, htext⟩
  · have hall := hascii (htext ▸ List.subset_append_left _ _) hwhole
    have hall' : ∀ c ∈ fraction, Text.isAsciiDigit c = true :=
      hascii (htext ▸ List.subset_append_of_subset_right _ (List.subset_cons_self _ _)) hfraction
    exact ⟨⟨whole, some fraction, hne, hall, by rintro ds ⟨⟩; exact hall'⟩, htext⟩

end FoundAmount

namespace Purchase

/-- The pattern of a purchase. -/
def pattern : Purchase → StatusPattern
  | full _ _ => .purchasedFull
  | bought _ => .purchasedNet
  | short _ => .netOnly

/-- The amounts of a purchase as they are written. -/
def amounts : Purchase → List (List Char)
  | full gross net => [gross.text, net.text]
  | bought net => [net.text]
  | short net => [net.text]

/-- The text of a purchase. -/
def text : Purchase → List Char
  | full gross net =>
    "Purchased - $".toList ++ (gross.text ++ (" (Net: $".toList ++ (net.text ++ ")".toList)))
  | bought net => "Purchased (Net: $".toList ++ (net.text ++ ")".toList)
  | short net => "$".toList ++ (net.text ++ " net".toList)

/-- What a purchase says, with the amounts that can be read. -/
def reading : Purchase → StatusReading
  | full gross net => ⟨.purchased, Binary64.ofText? gross.text, Binary64.ofText? net.text⟩
  | bought net => ⟨.purchased, none, Binary64.ofText? net.text⟩
  | short net => ⟨.purchased, none, Binary64.ofText? net.text⟩

/-- A purchase is read as one. -/
theorem status_reading (q : Purchase) : q.reading.status = .purchased := by
  cases q <;> rfl

/-- A purchase is given by its pattern and its amounts. -/
theorem eq_of_amounts {q q' : Purchase} (hpattern : q.pattern = q'.pattern)
    (hamounts : q.amounts = q'.amounts) : q = q' := by
  cases q <;> cases q' <;> cases hpattern <;>
    simp only [amounts, List.cons.injEq, and_true] at hamounts
  · exact congrArg₂ full (FoundAmount.ext hamounts.1) (FoundAmount.ext hamounts.2)
  · exact congrArg bought (FoundAmount.ext hamounts)
  · exact congrArg short (FoundAmount.ext hamounts)

/-- The text of a purchase and what stands behind it. -/
theorem text_append (q : Purchase) (rest : List Char) : q.text ++ rest =
    match q with
    | full gross net => "Purchased - $".toList ++
      (gross.text ++ (" (Net: $".toList ++ (net.text ++ (")".toList ++ rest))))
    | bought net => "Purchased (Net: $".toList ++ (net.text ++ (")".toList ++ rest))
    | short net => "$".toList ++ (net.text ++ (" net".toList ++ rest)) := by
  cases q <;> unfold text <;> dsimp only <;> repeat rw [List.append_assoc]

/-- The text of a purchase starts with the frame of its pattern. -/
theorem starts_text (q : Purchase) (rest : List Char) :
    StatusPattern.Starts q.pattern.frame q.amounts (q.text ++ rest) := by
  rw [text_append]
  cases q with
  | full gross net => exact .amount gross.isAmount (.amount net.isAmount (.last _ rest))
  | bought net => exact .amount net.isAmount (.last _ rest)
  | short net => exact .amount net.isAmount (.last _ rest)

/-- Where the frame of a pattern stands there is a purchase. -/
theorem exists_of_starts {pattern : StatusPattern} {amounts : List (List Char)} {cs : List Char}
    (hsent : pattern ≠ .sent) (h : StatusPattern.Starts pattern.frame amounts cs) :
    ∃ (q : Purchase) (rest : List Char),
      q.pattern = pattern ∧ q.amounts = amounts ∧ cs = q.text ++ rest := by
  cases pattern with
  | sent => exact absurd rfl hsent
  | purchasedFull =>
    obtain _ | ⟨hgross, _ | ⟨hnet, _ | ⟨-, ⟨⟩⟩⟩⟩ := h
    rename_i gross net rest
    exact ⟨full ⟨gross, hgross⟩ ⟨net, hnet⟩, rest, rfl, rfl, by rw [text_append]⟩
  | purchasedNet =>
    obtain _ | ⟨hnet, _ | ⟨-, ⟨⟩⟩⟩ := h
    rename_i net rest
    exact ⟨bought ⟨net, hnet⟩, rest, rfl, rfl, by rw [text_append]⟩
  | netOnly =>
    obtain _ | ⟨hnet, _ | ⟨-, ⟨⟩⟩⟩ := h
    rename_i net rest
    exact ⟨short ⟨net, hnet⟩, rest, rfl, rfl, by rw [text_append]⟩

/-- Amounts that are found at the start of a text are those of a purchase that stands there. -/
theorem exists_of_amountsAt? {pattern : StatusPattern} {amounts : List (List Char)} {cs : List Char}
    (hsent : pattern ≠ .sent) (h : StatusPattern.amountsAt? pattern.frame cs = some amounts) :
    ∃ (q : Purchase) (rest : List Char),
      q.pattern = pattern ∧ q.amounts = amounts ∧ cs = q.text ++ rest :=
  exists_of_starts hsent ((StatusPattern.amountsAt?_eq_some_iff (StatusPattern.frame_ne_nil pattern)
    (StatusPattern.separates_frame pattern)).mp h)

/-- A purchase is read from a text in which its amounts are found. -/
theorem read?_of_findAmounts? {q : Purchase} {t : List Char}
    (h : StatusPattern.findAmounts? q.pattern.frame t = some q.amounts) :
    q.pattern.read? t = some q.reading := by
  cases q <;> simp only [StatusPattern.read?, pattern] at h ⊢ <;> rw [h] <;> rfl

end Purchase

/-! ## Occurrences -/

/-- A place in a text where a purchase of a pattern stands. -/
@[ext]
structure Occurrence (pattern : StatusPattern) (t : List Char) where
  /-- What stands before. -/
  before : List Char
  /-- The purchase. -/
  purchase : Purchase
  /-- What stands behind. -/
  after : List Char
  /-- The purchase is one of the pattern. -/
  pattern_eq : purchase.pattern = pattern
  /-- The text consists of these. -/
  eq : t = before ++ (purchase.text ++ after)

namespace Occurrence

variable {pattern : StatusPattern} {t : List Char}

/-- No purchase of the pattern begins earlier. -/
def IsFirst (o : Occurrence pattern t) : Prop :=
  ∀ o' : Occurrence pattern t, o.before.length ≤ o'.before.length

/-- A pattern that occurs is one of purchases. -/
theorem mem_purchases (o : Occurrence pattern t) : pattern ∈ StatusPattern.purchases := by
  rw [← o.pattern_eq]
  cases o.purchase <;> simp [Purchase.pattern, StatusPattern.purchases]

/-- The amounts of the purchase that begins first are found. -/
theorem findAmounts?_of_isFirst {o : Occurrence pattern t} (h : o.IsFirst) :
    StatusPattern.findAmounts? pattern.frame t = some o.purchase.amounts := by
  have hsent : pattern ≠ .sent := StatusPattern.ne_sent_of_mem o.mem_purchases
  have hstarts : StatusPattern.Starts pattern.frame o.purchase.amounts
      (o.purchase.text ++ o.after) := by
    have htext := o.purchase.starts_text o.after
    rwa [o.pattern_eq] at htext
  have hbefore (ys : List Char) (hne : ys ≠ []) (hys : ys <:+ o.before) :
      StatusPattern.amountsAt? pattern.frame (ys ++ (o.purchase.text ++ o.after)) = none := by
    by_contra hsome
    obtain ⟨amounts, hamounts⟩ := Option.ne_none_iff_exists'.mp hsome
    obtain ⟨q, rest, hq, -, hrest⟩ := Purchase.exists_of_amountsAt? hsent hamounts
    obtain ⟨zs, hzs⟩ := hys
    have heq : t = zs ++ (q.text ++ rest) := by
      rw [← hrest, ← List.append_assoc, hzs]
      exact o.eq
    have hlength : o.before.length ≤ zs.length := h ⟨zs, q, rest, hq, heq⟩
    have hpos := List.length_pos_of_ne_nil hne
    rw [← hzs, List.length_append] at hlength
    omega
  calc StatusPattern.findAmounts? pattern.frame t
      = StatusPattern.findAmounts? pattern.frame (o.before ++ (o.purchase.text ++ o.after)) :=
        congrArg _ o.eq
    _ = StatusPattern.findAmounts? pattern.frame (o.purchase.text ++ o.after) :=
        StatusPattern.findAmounts?_append hbefore
    _ = some o.purchase.amounts := StatusPattern.findAmounts?_of_starts hstarts

/-- The purchase that begins first is read. -/
theorem read?_eq_of_isFirst {o : Occurrence pattern t} (h : o.IsFirst) :
    pattern.read? t = some o.purchase.reading := by
  have hfind := findAmounts?_of_isFirst h
  have hread := o.purchase.read?_of_findAmounts? (t := t)
  rw [o.pattern_eq] at hread
  exact hread hfind

/-- Only one purchase of a pattern begins first. -/
theorem eq_of_isFirst {o o' : Occurrence pattern t} (h : o.IsFirst) (h' : o'.IsFirst) : o = o' := by
  have hlength : o.before.length = o'.before.length := le_antisymm (h o') (h' o)
  obtain ⟨hbefore, htail⟩ := List.append_inj (o.eq.symm.trans o'.eq) hlength
  have hamounts : o.purchase.amounts = o'.purchase.amounts :=
    Option.some.inj ((findAmounts?_of_isFirst h).symm.trans (findAmounts?_of_isFirst h'))
  have hpurchase : o.purchase = o'.purchase :=
    Purchase.eq_of_amounts (o.pattern_eq.trans o'.pattern_eq.symm) hamounts
  rw [hpurchase] at htail
  exact Occurrence.ext hbefore hpurchase (List.append_cancel_left htail)

/-- If there is a purchase then one begins first. -/
theorem exists_isFirst (o : Occurrence pattern t) : ∃ o' : Occurrence pattern t, o'.IsFirst := by
  obtain ⟨o', -, hfirst⟩ := (measure fun o : Occurrence pattern t => o.before.length).wf.has_min
    Set.univ ⟨o, trivial⟩
  exact ⟨o', fun o => Nat.le_of_not_lt (hfirst o trivial)⟩

/-- A pattern is read from the texts in which a purchase of it stands. -/
theorem isSome_read?_iff (hsent : pattern ≠ .sent) :
    (pattern.read? t).isSome = true ↔ Nonempty (Occurrence pattern t) := by
  constructor
  · intro h
    by_contra hnone
    have hfind : StatusPattern.findAmounts? pattern.frame t = none := by
      refine StatusPattern.findAmounts?_eq_none_iff.mpr fun rest hrest => ?_
      by_contra hsome
      obtain ⟨amounts, hamounts⟩ := Option.ne_none_iff_exists'.mp hsome
      obtain ⟨q, more, hq, -, rfl⟩ := Purchase.exists_of_amountsAt? hsent hamounts
      obtain ⟨before, hbefore⟩ := hrest
      exact hnone ⟨before, q, more, hq, hbefore.symm⟩
    rw [StatusPattern.read?_eq_none_of_findAmounts? hsent hfind] at h
    cases h
  · rintro ⟨o⟩
    obtain ⟨o', hfirst⟩ := o.exists_isFirst
    rw [read?_eq_of_isFirst hfirst]
    rfl

/-- A pattern is not read from other texts. -/
theorem read?_eq_none (hsent : pattern ≠ .sent) (h : IsEmpty (Occurrence pattern t)) :
    pattern.read? t = none := by
  rw [← Option.not_isSome_iff_eq_none, isSome_read?_iff hsent]
  exact not_nonempty_iff.mpr h

end Occurrence

/-! ## Status lines -/

namespace StatusReading

variable {line : List Char} {pattern : StatusPattern} {reading : StatusReading}

/-- A line in whose text no purchase stands is read as sent, whether it says so or not. -/
theorem ofLine_eq (line : List Char) : ofLine line =
    (StatusPattern.purchases.findSome? fun p => p.read? (statusText line)).getD sent := by
  have horder : StatusPattern.order = StatusPattern.purchases ++ [.sent] := rfl
  have hsent : (StatusPattern.sent.read? (statusText line)).getD sent = sent := by
    unfold StatusPattern.read?
    dsimp only
    split <;> rfl
  unfold ofLine
  dsimp only
  rw [horder, List.findSome?_append, List.findSome?_singleton]
  cases StatusPattern.purchases.findSome? fun p => p.read? (statusText line) with
  | none => exact hsent
  | some reading => rfl

/-- A line is read by the first pattern that is read from its text. -/
theorem ofLine_eq_of_read? (hmem : pattern ∈ StatusPattern.purchases)
    (hearlier : ∀ p ∈ StatusPattern.purchases.takeWhile (· ≠ pattern),
      p.read? (statusText line) = none)
    (hread : pattern.read? (statusText line) = some reading) : ofLine line = reading := by
  have hcut : ∃ later, StatusPattern.purchases =
      StatusPattern.purchases.takeWhile (· ≠ pattern) ++ pattern :: later := by
    cases pattern with
    | sent => exact absurd rfl (StatusPattern.ne_sent_of_mem hmem)
    | _ => exact ⟨_, rfl⟩
  obtain ⟨later, hlater⟩ := hcut
  rw [ofLine_eq, hlater, List.findSome?_append, List.findSome?_eq_none_iff.mpr hearlier,
    Option.none_or, List.findSome?_cons, hread]
  rfl

/-- A line is read as sent or as a purchase. -/
theorem ofLine_eq_sent_or (line : List Char) :
    ofLine line = sent ∨ ∃ q : Purchase, ofLine line = q.reading := by
  rw [ofLine_eq]
  cases hread : StatusPattern.purchases.findSome? fun p => p.read? (statusText line) with
  | none => exact .inl rfl
  | some reading =>
    obtain ⟨pattern, hmem, hpattern⟩ := List.exists_of_findSome?_eq_some hread
    obtain ⟨o⟩ := (Occurrence.isSome_read?_iff (StatusPattern.ne_sent_of_mem hmem)).mp
      (by rw [hpattern]; rfl)
    obtain ⟨o', hfirst⟩ := o.exists_isFirst
    exact .inr ⟨o'.purchase,
      Option.some.inj (hpattern.symm.trans (Occurrence.read?_eq_of_isFirst hfirst))⟩

/-- A line is never read as pending. -/
theorem status_ofLine (line : List Char) : (ofLine line).status ≠ .pending := by
  rcases ofLine_eq_sent_or line with h | ⟨q, h⟩
  · rw [h]
    decide
  · rw [h, q.status_reading]
    decide

end StatusReading

/-- A pattern is read from exactly the texts in which a purchase of its shape stands, and it is the
only one that begins first whose amounts are taken. A status line tells the purchase that is read by
the first pattern that occurs in it, and otherwise it is one of a gallery that was sent. -/
theorem ofLine_purchases :
    (∀ pattern ≠ StatusPattern.sent, ∀ t,
      ((pattern.read? t).isSome = true ↔ Nonempty (Occurrence pattern t)) ∧
      (Nonempty (Occurrence pattern t) → ∃! o : Occurrence pattern t, o.IsFirst) ∧
      ∀ o : Occurrence pattern t, o.IsFirst →
        StatusPattern.findAmounts? pattern.frame t = some o.purchase.amounts ∧
        pattern.read? t = some o.purchase.reading) ∧
    (∀ line,
      (∀ pattern, ∀ o : Occurrence pattern (statusText line), o.IsFirst →
        (∀ earlier ∈ StatusPattern.purchases.takeWhile (· ≠ pattern),
          IsEmpty (Occurrence earlier (statusText line))) →
        StatusReading.ofLine line = o.purchase.reading) ∧
      ((∀ pattern, IsEmpty (Occurrence pattern (statusText line))) →
        StatusReading.ofLine line = ⟨.sent, none, none⟩) ∧
      (StatusReading.ofLine line).status ≠ .pending) ∧
    ∀ a : FoundAmount,
      (a.Wide ∧ Binary64.ofText? a.text = none) ∨
        ∃ w : WrittenAmount, a.text = w.text ∧ Binary64.ofText? a.text = some w.value ∧
          w.value.negative = false ∧ w.value.magnitude.IsNearest
            (Text.numberOfDigits (w.whole ++ w.fraction.getD []) * Magnitude.unitsPerOne)
            (10 ^ (w.fraction.getD []).length) := by
  refine ⟨fun pattern hsent t => ⟨Occurrence.isSome_read?_iff hsent, ?_, ?_⟩, fun line =>
    ⟨?_, ?_, StatusReading.status_ofLine line⟩, fun a => ?_⟩
  · rintro ⟨o⟩
    obtain ⟨o', hfirst⟩ := o.exists_isFirst
    exact ⟨o', hfirst, fun o hfirst' => Occurrence.eq_of_isFirst hfirst' hfirst⟩
  · intro o hfirst
    exact ⟨Occurrence.findAmounts?_of_isFirst hfirst, Occurrence.read?_eq_of_isFirst hfirst⟩
  · intro pattern o hfirst hearlier
    have hmem (p : StatusPattern)
        (hp : p ∈ StatusPattern.purchases.takeWhile (· ≠ pattern)) : p ≠ .sent :=
      StatusPattern.ne_sent_of_mem ((List.takeWhile_sublist _).mem hp)
    exact StatusReading.ofLine_eq_of_read? o.mem_purchases
      (fun p hp => Occurrence.read?_eq_none (hmem p hp) (hearlier p hp))
      (Occurrence.read?_eq_of_isFirst hfirst)
  · intro h
    have hread : (StatusPattern.purchases.findSome? fun p => p.read? (statusText line)) = none :=
      List.findSome?_eq_none_iff.mpr fun p hp =>
        Occurrence.read?_eq_none (StatusPattern.ne_sent_of_mem hp) (h p)
    rw [StatusReading.ofLine_eq, hread]
    rfl
  · by_cases hwide : a.Wide
    · exact .inl ⟨hwide, FoundAmount.ofText?_eq_none hwide⟩
    · obtain ⟨w, htext⟩ := FoundAmount.exists_written hwide
      exact .inr ⟨w, htext, by rw [htext, w.ofText?_text], w.value_isNearest⟩

/-- A status line that has the beginnings of two purchases before the one that is complete, and yet
another one behind it. -/
def severalPurchases : List Char :=
  "  Status: $7 Purchased (Net: $5. Status:Purchased (Net: $12.1) $3 net".toList

/-- The complete purchase is read, since its pattern is tried before that of the last one. -/
theorem ofLine_severalPurchases :
    (∃ o : Occurrence .purchasedNet (statusText severalPurchases), o.IsFirst ∧
      StatusPattern.findAmounts? StatusPattern.purchasedNet.frame (statusText severalPurchases) =
        some o.purchase.amounts ∧
      StatusReading.ofLine severalPurchases = o.purchase.reading) ∧
    StatusReading.ofLine severalPurchases =
      ⟨.purchased, none, some ⟨false, .ofRank 4623001312491156275⟩⟩ := by
  obtain ⟨hpattern, hline, -⟩ := ofLine_purchases
  have htext : statusText severalPurchases =
      "$7 Purchased (Net: $5. ".toList ++
        ("Purchased (Net: $".toList ++ ("12.1".toList ++ ")".toList) ++ " $3 net".toList) := by
    decide +kernel
  have hamount : IsAmount "12.1".toList :=
    ⟨"12".toList, ['.'], "1".toList, rfl, by decide, List.all_eq_true.mp (by decide), .inr rfl,
      List.all_eq_true.mp (by decide)⟩
  have hoccurs : Nonempty (Occurrence .purchasedNet (statusText severalPurchases)) :=
    ⟨_, .bought ⟨_, hamount⟩, _, rfl, htext⟩
  obtain ⟨-, hunique, hfound⟩ := hpattern .purchasedNet (by decide) (statusText severalPurchases)
  obtain ⟨o, hfirst, -⟩ := hunique hoccurs
  have hearlier : IsEmpty (Occurrence .purchasedFull (statusText severalPurchases)) := by
    rw [← not_nonempty_iff, ← (hpattern .purchasedFull (by decide) _).1]
    decide +kernel
  have hread : StatusReading.ofLine severalPurchases = o.purchase.reading := by
    refine (hline severalPurchases).1 .purchasedNet o hfirst fun earlier hmem => ?_
    obtain rfl : earlier = .purchasedFull := List.mem_singleton.mp hmem
    exact hearlier
  refine ⟨⟨o, hfirst, (hfound o hfirst).1, hread⟩, hread.trans ?_⟩
  rw [← Option.some.injEq, ← (hfound o hfirst).2]
  decide +kernel

end SkaterLedger
