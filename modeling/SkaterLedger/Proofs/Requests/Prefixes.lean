import SkaterLedger.Proofs.Requests.Blocks
import SkaterLedger.Proofs.Requests.Extracted
import SkaterLedger.Proofs.Requests.Purchases

/-!
# What stands before the keyword of a status line

Only the keyword is taken out of a status line, so a purchase is also read from what stands before
it (`ofLine_behindPurchase`). It changes the reading exactly if it is the one that decides the line,
the first one of the first pattern that stands anywhere in it, and says something else than the text
behind the keyword (`ofLine_ne_iff`). Apart from that the text before the keyword is ignored: if no
purchase begins in it, the line is read as if it were not there, and so is the document
(`extractFrom_ignored`).

A pattern is read from a part of a text as from the whole of it, if no purchase begins before the
part and none ends behind it (`read?_append`). This is so for a text that is trimmed, since a
purchase neither begins nor ends with a blank. A purchase that decides a text and stands in the end
of it decides the end (`Decides.exists_behind`).
-/

namespace SkaterLedger

/-! ## A part of a text -/

namespace Purchase

/-- A purchase begins with a letter or a dollar sign. -/
theorem exists_text_eq_cons (q : Purchase) :
    ∃ c cs, q.text = c :: cs ∧ (c = 'P' ∨ c = '$') := by
  cases q with
  | full gross net => exact ⟨'P', _, rfl, .inl rfl⟩
  | bought net => exact ⟨'P', _, rfl, .inl rfl⟩
  | short net => exact ⟨'$', _, rfl, .inr rfl⟩

/-- A purchase does not end with a blank. -/
theorem exists_text_eq_concat (q : Purchase) :
    ∃ cs c, q.text = cs ++ [c] ∧ Text.isBlank c = false := by
  cases q with
  | full gross net =>
    refine ⟨"Purchased - $".toList ++ (gross.text ++ (" (Net: $".toList ++ net.text)), ')', ?_, rfl⟩
    rw [List.append_assoc, List.append_assoc, List.append_assoc]
    rfl
  | bought net =>
    refine ⟨"Purchased (Net: $".toList ++ net.text, ')', ?_, rfl⟩
    rw [List.append_assoc]
    rfl
  | short net =>
    refine ⟨"$".toList ++ (net.text ++ " ne".toList), 't', ?_, rfl⟩
    rw [List.append_assoc, List.append_assoc]
    rfl

end Purchase

namespace Occurrence

variable {pattern : StatusPattern} {t front back : List Char}

/-- A purchase in a part of a text stands in the text. -/
def extend (o : Occurrence pattern t) (front back : List Char) :
    Occurrence pattern (front ++ (t ++ back)) where
  before := front ++ o.before
  purchase := o.purchase
  after := o.after ++ back
  pattern_eq := o.pattern_eq
  eq := by
    rw [List.append_assoc, ← List.append_assoc o.purchase.text, ← List.append_assoc o.before,
      ← o.eq]

/-- A purchase that neither begins before a part of a text nor ends behind it stands in the part. -/
theorem exists_extend_eq (o : Occurrence pattern (front ++ (t ++ back)))
    (hbefore : front.length ≤ o.before.length) (hafter : back.length ≤ o.after.length) :
    ∃ o' : Occurrence pattern t, o'.extend front back = o := by
  obtain ⟨before, q, after, hq, heq⟩ := o
  dsimp only at hbefore hafter
  have hfront : front <+: front ++ (t ++ back) := List.prefix_append front _
  obtain ⟨before, rfl⟩ : front <+: before :=
    List.prefix_of_prefix_length_le hfront (heq ▸ List.prefix_append before _) hbefore
  rw [List.append_assoc, List.append_cancel_left_eq] at heq
  obtain ⟨after, rfl⟩ : back <:+ after :=
    List.suffix_of_suffix_length_le (List.suffix_append t back)
      (heq ▸ (List.suffix_append q.text after).trans (List.suffix_append before _)) hafter
  have ht : t = before ++ (q.text ++ after) :=
    List.append_cancel_right (heq.trans (by rw [List.append_assoc, List.append_assoc]))
  exact ⟨⟨before, q, after, hq, ht⟩, rfl⟩

/-- A pattern is read from a part of a text as from the text, if its purchases stand there. -/
theorem read?_append (hsent : pattern ≠ .sent)
    (h : ∀ o : Occurrence pattern (front ++ (t ++ back)),
      front.length ≤ o.before.length ∧ back.length ≤ o.after.length) :
    pattern.read? (front ++ (t ++ back)) = pattern.read? t := by
  by_cases hoccurs : Nonempty (Occurrence pattern (front ++ (t ++ back)))
  · obtain ⟨o⟩ := hoccurs
    obtain ⟨o, hfirst⟩ := o.exists_isFirst
    obtain ⟨o', rfl⟩ := o.exists_extend_eq (h o).1 (h o).2
    have hfirst' : o'.IsFirst := by
      intro o''
      have hlength := hfirst (o''.extend front back)
      simpa [extend] using hlength
    rw [read?_eq_of_isFirst hfirst, read?_eq_of_isFirst hfirst']
    rfl
  · have hpart : IsEmpty (Occurrence pattern t) := ⟨fun o => hoccurs ⟨o.extend front back⟩⟩
    rw [read?_eq_none hsent (not_nonempty_iff.mp hoccurs), read?_eq_none hsent hpart]

/-- No purchase begins where there is neither its first letter nor a dollar sign. -/
theorem length_le_before (o : Occurrence pattern t) (hfront : front <+: t) (hletter : 'P' ∉ front)
    (hdollar : '$' ∉ front) : front.length ≤ o.before.length := by
  obtain ⟨c, cs, hcons, hc⟩ := o.purchase.exists_text_eq_cons
  by_contra hlt
  have hprefix : o.before ++ [c] <+: t := by
    refine ⟨cs ++ o.after, ?_⟩
    rw [List.append_assoc, List.singleton_append, ← List.cons_append, ← hcons]
    exact o.eq.symm
  have hlength : (o.before ++ [c]).length ≤ front.length := by
    rw [List.length_append, List.length_singleton]
    omega
  have hmem : c ∈ front :=
    (List.prefix_of_prefix_length_le hprefix hfront hlength).subset (by simp)
  rcases hc with rfl | rfl
  · exact hletter hmem
  · exact hdollar hmem

/-- No purchase ends among blanks. -/
theorem length_le_after (o : Occurrence pattern t) (hback : back <:+ t)
    (h : ∀ c ∈ back, Text.isBlank c = true) : back.length ≤ o.after.length := by
  obtain ⟨cs, c, hconcat, hc⟩ := o.purchase.exists_text_eq_concat
  by_contra hlt
  have hsuffix : c :: o.after <:+ t := by
    refine ⟨o.before ++ cs, ?_⟩
    rw [List.append_assoc, ← List.singleton_append, ← List.append_assoc cs, ← hconcat]
    exact o.eq.symm
  have hlength : (c :: o.after).length ≤ back.length := by
    rw [List.length_cons]
    omega
  have hmem : c ∈ back :=
    (List.suffix_of_suffix_length_le hsuffix hback hlength).subset List.mem_cons_self
  rw [h c hmem] at hc
  cases hc

/-- A pattern is read from a text as from what is trimmed from it. -/
theorem read?_trim (hsent : pattern ≠ .sent) (t : List Char) :
    pattern.read? (Text.trim t) = pattern.read? t := by
  obtain ⟨bs, bs', heq, hbs, hbs'⟩ := Text.exists_append_trim_append t
  generalize Text.trim t = cs at heq ⊢
  rw [heq]
  refine (read?_append hsent fun o => ⟨?_, ?_⟩).symm
  · have hfront : bs <+: bs ++ (cs ++ bs') := List.prefix_append bs _
    exact o.length_le_before hfront (Text.not_mem_of_isBlank hbs rfl)
      (Text.not_mem_of_isBlank hbs rfl)
  · refine o.length_le_after ?_ hbs'
    exact (List.suffix_append cs bs').trans (List.suffix_append bs _)

/-- The purchase by which a text is read: none of its pattern begins earlier, and none of a pattern
that is tried earlier stands in the text. -/
structure Decides (o : Occurrence pattern t) : Prop where
  /-- It begins first. -/
  first : o.IsFirst
  /-- There is none of an earlier pattern. -/
  earlier : ∀ p ∈ StatusPattern.purchases.takeWhile (· ≠ pattern), IsEmpty (Occurrence p t)

/-- If there is a purchase then one of them decides. -/
theorem exists_decides (h : Nonempty (Occurrence pattern t)) :
    ∃ (p : StatusPattern) (o : Occurrence p t), o.Decides := by
  by_cases hfull : Nonempty (Occurrence .purchasedFull t)
  · obtain ⟨o, hfirst⟩ := hfull.some.exists_isFirst
    exact ⟨_, o, hfirst, nofun⟩
  by_cases hnet : Nonempty (Occurrence .purchasedNet t)
  · obtain ⟨o, hfirst⟩ := hnet.some.exists_isFirst
    refine ⟨_, o, hfirst, fun p hp => ?_⟩
    obtain rfl : p = .purchasedFull := List.mem_singleton.mp hp
    exact not_nonempty_iff.mp hfull
  · have hlast : pattern = .netOnly := by
      have hmem := h.some.mem_purchases
      simp only [StatusPattern.purchases, List.mem_cons, List.not_mem_nil, or_false] at hmem
      rcases hmem with rfl | rfl | rfl
      · exact absurd h hfull
      · exact absurd h hnet
      · rfl
    obtain ⟨o, hfirst⟩ := h.some.exists_isFirst
    refine ⟨_, o, hfirst, fun p hp => ?_⟩
    rw [hlast] at hp
    have hcases : p ∈ [StatusPattern.purchasedFull, .purchasedNet] := hp
    rw [List.mem_cons, List.mem_singleton] at hcases
    rcases hcases with rfl | rfl
    · exact not_nonempty_iff.mp hfull
    · exact not_nonempty_iff.mp hnet

/-- A purchase in the end of a text stands in the text. -/
def behind (o : Occurrence pattern t) (front : List Char) : Occurrence pattern (front ++ t) where
  before := front ++ o.before
  purchase := o.purchase
  after := o.after
  pattern_eq := o.pattern_eq
  eq := by rw [List.append_assoc, ← o.eq]

/-- A purchase that decides a text and stands in the end of it decides the end. -/
theorem Decides.exists_behind {o : Occurrence pattern (front ++ t)} (h : o.Decides)
    (hlength : front.length ≤ o.before.length) :
    ∃ o' : Occurrence pattern t, o'.Decides ∧ o'.purchase = o.purchase := by
  have hearlier (p : StatusPattern) (hp : p ∈ StatusPattern.purchases.takeWhile (· ≠ pattern)) :
      IsEmpty (Occurrence p t) := ⟨fun o' => (h.earlier p hp).false (o'.behind front)⟩
  obtain ⟨before, q, after, hq, heq⟩ := o
  obtain ⟨before, rfl⟩ : front <+: before :=
    List.prefix_of_prefix_length_le ⟨t, rfl⟩ (heq ▸ List.prefix_append before _) hlength
  rw [List.append_assoc, List.append_cancel_left_eq] at heq
  refine ⟨⟨before, q, after, hq, heq⟩, ⟨fun o' => ?_, hearlier⟩, rfl⟩
  have hfirst := h.first (o'.behind front)
  simpa [behind] using hfirst

end Occurrence

/-! ## Status lines -/

/-- A text in front of the keyword of a status line is ignored: the keyword does not occur in it,
and no purchase begins there, not even one that ends behind the keyword. -/
structure Ignored (p r : List Char) : Prop where
  /-- There is no keyword. -/
  keyword : Text.occursIn statusKeyword p = false
  /-- There is no purchase. -/
  purchase : ∀ pattern, ∀ o : Occurrence pattern (p ++ Text.removeAll statusKeyword r),
    p.length ≤ o.before.length

/-- A text without the characters that purchases begin with is ignored. -/
theorem Ignored.of_not_mem {p r : List Char} (hkeyword : Text.occursIn statusKeyword p = false)
    (hletter : 'P' ∉ p) (hdollar : '$' ∉ p) : Ignored p r := by
  have hfront : p <+: p ++ Text.removeAll statusKeyword r := List.prefix_append p _
  exact ⟨hkeyword, fun _ o => o.length_le_before hfront hletter hdollar⟩

namespace StatusReading

/-- Blanks at the end of a status line are ignored. -/
theorem ofLine_trimEnd (line : List Char) : ofLine (Text.trimEnd line) = ofLine line := by
  obtain ⟨bs, heq, hbs⟩ := Text.exists_trimEnd_append line
  have hkeyword : ∀ c ∈ statusKeyword, Text.isBlank c = false :=
    Text.forall_isBlank_eq_false (by decide)
  have hnot : ∀ c ∈ statusKeyword, c ∉ bs := fun c hc =>
    Text.not_mem_of_isBlank hbs (hkeyword c hc)
  have htext : statusText line = statusText (Text.trimEnd line) := by
    generalize Text.trimEnd line = cs at heq ⊢
    unfold statusText
    rw [heq, Text.removeAll_append_right (by decide) hnot, Text.trim_append_blanks hbs]
  unfold ofLine
  rw [htext]

/-- A status line is read as the purchase that decides what it holds besides the keyword. -/
theorem ofLine_of_decides {line t : List Char} (ht : Text.removeAll statusKeyword line = t)
    {pattern : StatusPattern} {o : Occurrence pattern t} (h : o.Decides) :
    ofLine line = o.purchase.reading := by
  have htrim {p : StatusPattern} (hsent : p ≠ .sent) : p.read? (statusText line) = p.read? t := by
    unfold statusText
    rw [ht, Occurrence.read?_trim hsent]
  have hsent : pattern ≠ .sent := StatusPattern.ne_sent_of_mem o.mem_purchases
  apply ofLine_eq_of_read? o.mem_purchases
  · intro p hp
    have hsent : p ≠ .sent := StatusPattern.ne_sent_of_mem ((List.takeWhile_sublist _).mem hp)
    rw [htrim hsent]
    exact Occurrence.read?_eq_none hsent (h.earlier p hp)
  · rw [htrim hsent]
    exact Occurrence.read?_eq_of_isFirst h.first

/-- A status line that holds no purchase is read as sent. -/
theorem ofLine_of_isEmpty {line t : List Char} (ht : Text.removeAll statusKeyword line = t)
    (h : ∀ pattern, IsEmpty (Occurrence pattern t)) : ofLine line = sent := by
  have hread : (StatusPattern.purchases.findSome? fun p => p.read? (statusText line)) = none := by
    rw [List.findSome?_eq_none_iff]
    intro p hp
    have hsent : p ≠ .sent := StatusPattern.ne_sent_of_mem hp
    unfold statusText
    rw [ht, Occurrence.read?_trim hsent]
    exact Occurrence.read?_eq_none hsent (h p)
  rw [ofLine_eq, hread]
  rfl

/-- A text in front of the keyword changes the reading of a status line exactly if a purchase begins
in it that decides the line and says something else than what stands behind the keyword. -/
theorem ofLine_ne_iff {p r : List Char} (hkeyword : Text.occursIn statusKeyword p = false) :
    ofLine (p ++ (statusKeyword ++ r)) ≠ ofLine (statusKeyword ++ r) ↔
      ∃ (pattern : StatusPattern) (o : Occurrence pattern (p ++ Text.removeAll statusKeyword r)),
        o.Decides ∧ o.before.length < p.length ∧
          o.purchase.reading ≠ ofLine (statusKeyword ++ r) := by
  have hfirst : 'S' ∉ "tatus:".toList := by decide
  have hline : Text.removeAll statusKeyword (p ++ (statusKeyword ++ r)) =
      p ++ Text.removeAll statusKeyword r :=
    Text.removeAll_append_of_not_occursIn hfirst hkeyword
  have hrest : Text.removeAll statusKeyword (statusKeyword ++ r) =
      Text.removeAll statusKeyword r :=
    Text.removeAll_append List.not_mem_nil
  constructor
  · intro hne
    -- There is a purchase, since without one both lines are read as sent.
    obtain ⟨pattern₀, hoccurs⟩ : ∃ pattern,
        Nonempty (Occurrence pattern (p ++ Text.removeAll statusKeyword r)) := by
      by_contra hnone
      have hempty (pattern : StatusPattern) :
          IsEmpty (Occurrence pattern (p ++ Text.removeAll statusKeyword r)) :=
        not_nonempty_iff.mp fun hoccurs => hnone ⟨pattern, hoccurs⟩
      have hempty' (pattern : StatusPattern) :
          IsEmpty (Occurrence pattern (Text.removeAll statusKeyword r)) :=
        ⟨fun o => (hempty pattern).false (o.behind p)⟩
      rw [ofLine_of_isEmpty hline hempty, ofLine_of_isEmpty hrest hempty'] at hne
      exact hne rfl
    obtain ⟨pattern, o, hdecides⟩ := Occurrence.exists_decides hoccurs
    rw [ofLine_of_decides hline hdecides] at hne
    refine ⟨pattern, o, hdecides, ?_, hne⟩
    by_contra hlength
    obtain ⟨o', hdecides', hsame⟩ := hdecides.exists_behind (Nat.not_lt.mp hlength)
    rw [ofLine_of_decides hrest hdecides', hsame] at hne
    exact hne rfl
  · rintro ⟨pattern, o, hdecides, -, hne⟩
    rw [ofLine_of_decides hline hdecides]
    exact hne

/-- An ignored text does not change the reading of a status line. -/
theorem ofLine_of_ignored {p r : List Char} (h : Ignored p r) :
    ofLine (p ++ (statusKeyword ++ r)) = ofLine (statusKeyword ++ r) := by
  by_contra hne
  obtain ⟨pattern, o, -, hlength, -⟩ := (ofLine_ne_iff h.keyword).mp hne
  exact absurd (h.purchase pattern o) (Nat.not_le.mpr hlength)

end StatusReading

/-! ## Documents -/

namespace Requests

variable {filter : SectionFilter} {l l' : List Char}

/-- Of a line that is not a skater's nothing but its kind matters. -/
theorem extractFrom_congr (hkind : LineKind.ofLine l = LineKind.ofLine l')
    (hsubject : LineKind.ofLine l ≠ .subject) (state : State) (before after : List (List Char)) :
    extractFrom filter state (before ++ l :: after) =
      extractFrom filter state (before ++ l' :: after) := by
  refine extractFrom_append_congr (fun state => ?_) before state
  exact extractFrom_cons_congr hkind (fun h => absurd h hsubject) (fun _ => rfl) state

/-- Whether a line is a status line. -/
def IsStatus (line : List Char) : Prop := ∃ reading, LineKind.ofLine line = .status reading

/-- The kind of a status line is its reading. -/
theorem IsStatus.kind_eq {line : List Char} (h : IsStatus line) :
    LineKind.ofLine line = .status (.ofLine line) := by
  obtain ⟨reading, hreading⟩ := h
  rw [hreading, eq_ofLine_of_status hreading, StatusReading.ofLine_trimEnd]

/-- A text before the keyword that is ignored neither changes what a status line says nor, as long
as the line remains one, the entries of a document. -/
theorem extractFrom_ignored {p r : List Char} (h : Ignored p r) :
    StatusReading.ofLine (p ++ (statusKeyword ++ r)) = StatusReading.ofLine (statusKeyword ++ r) ∧
    ∀ p', Ignored p' r → IsStatus (p ++ (statusKeyword ++ r)) →
      IsStatus (p' ++ (statusKeyword ++ r)) → ∀ filter state before after,
        extractFrom filter state (before ++ (p ++ (statusKeyword ++ r)) :: after) =
          extractFrom filter state (before ++ (p' ++ (statusKeyword ++ r)) :: after) := by
  refine ⟨StatusReading.ofLine_of_ignored h, fun p' h' hstatus hstatus' filter => ?_⟩
  refine extractFrom_congr ?_ ?_
  · rw [hstatus.kind_eq, hstatus'.kind_eq, StatusReading.ofLine_of_ignored h,
      StatusReading.ofLine_of_ignored h']
  · rw [hstatus.kind_eq]
    exact nofun

/-- A word before the keyword is ignored, in a line and in a document. -/
theorem extractFrom_ignored_word :
    Ignored "   Gallery ".toList " Purchased (Net: $20.10)".toList ∧
    Ignored "  ".toList " Purchased (Net: $20.10)".toList ∧
    StatusReading.ofLine "   Gallery Status: Purchased (Net: $20.10)".toList =
      StatusReading.ofLine "Status: Purchased (Net: $20.10)".toList ∧
    extractFrom .all .start ["Smith John".toList, "   Event 3".toList,
        "   Gallery Status: Purchased (Net: $20.10)".toList, "   Note: new".toList] =
      extractFrom .all .start ["Smith John".toList, "   Event 3".toList,
        "  Status: Purchased (Net: $20.10)".toList, "   Note: new".toList] := by
  have hword : Ignored "   Gallery ".toList " Purchased (Net: $20.10)".toList :=
    .of_not_mem (by decide) (by decide) (by decide)
  have hblanks : Ignored "  ".toList " Purchased (Net: $20.10)".toList :=
    .of_not_mem (by decide) (by decide) (by decide)
  obtain ⟨hline, hdocument⟩ := extractFrom_ignored hword
  refine ⟨hword, hblanks, hline, ?_⟩
  exact hdocument _ hblanks
    ⟨⟨.purchased, none, some ⟨false, .ofRank 4626350864714013082⟩⟩, by decide +kernel⟩
    ⟨⟨.purchased, none, some ⟨false, .ofRank 4626350864714013082⟩⟩, by decide +kernel⟩
    .all .start ["Smith John".toList, "   Event 3".toList] ["   Note: new".toList]

/-- A purchase before the keyword is read although the text behind it says something else. -/
theorem ofLine_behindPurchase :
    Text.occursIn statusKeyword "   was $20.00 net, ".toList = false ∧
    StatusReading.ofLine ("   was $20.00 net, ".toList ++ (statusKeyword ++ " Sent".toList)) =
      ⟨.purchased, none, some ⟨false, .ofRank 4626322717216342016⟩⟩ ∧
    StatusReading.ofLine (statusKeyword ++ " Sent".toList) = ⟨.sent, none, none⟩ ∧
    (extract .all "Smith John\n   Event 3\n   was $20.00 net, Status: Sent\n").map
        (fun e => (e.status, e.netAmount)) =
      [(.purchased, some ⟨false, .ofRank 4626322717216342016⟩)] ∧
    (extract .all "Smith John\n   Event 3\n   Status: Sent\n").map
        (fun e => (e.status, e.netAmount)) = [(.sent, none)] := by
  decide +kernel

end Requests

end SkaterLedger
