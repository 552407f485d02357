import SkaterLedger.Proofs.Requests.EventNumbers
import SkaterLedger.Proofs.Requests.Statuses

/-!
# The kinds of detail lines

The line of a detail starts with blanks, so it is neither a header nor a skater's. Behind them
stands a keyword and what the detail says. The keywords are tried one after another, and each is
searched for in the whole line: what stands in front of the detail's own keyword lacks the first
letter of the others, and so does that keyword, so that only what the detail says could be taken for
one of them.
-/

namespace SkaterLedger.LineKind

variable {c : Char} {bs cs rest : List Char}

/-! ## Texts around a keyword -/

/-- Behind a blank, a pattern does not occur in a text that is free of it. -/
theorem occursIn_trimEnd_cons {k : Char} {ks : List Char} (hk : k ≠ c) (h : ¬ k :: ks <:+: cs) :
    Text.occursIn (k :: ks) (Text.trimEnd (c :: cs)) = false := by
  rw [Bool.eq_false_iff, ne_eq, Text.occursIn_iff]
  intro hoccurs
  have htrimmed : Text.trimEnd (c :: cs) <+: c :: cs := List.rdropWhile_prefix Text.isBlank _
  have hinfix : k :: ks <:+: c :: cs := hoccurs.trans htrimmed.isInfix
  rw [List.infix_cons_iff, List.cons_prefix_cons] at hinfix
  rcases hinfix with ⟨heq, -⟩ | hinfix
  · exact hk heq
  · exact h hinfix

/-- Without the blanks in front, a detail begins with its keyword. -/
theorem trim_keyword {k : Char} {ks : List Char} (hbs : ∀ c ∈ bs, Text.isBlank c = true)
    (hk : Text.isBlank k = false) (hend : Text.trimEnd (k :: ks) = k :: ks) :
    Text.trim (bs ++ (k :: ks ++ rest)) = k :: ks ++ Text.trimEnd rest :=
  (Text.trim_append hbs hk).trans (Text.trimEnd_append_of_trimEnd hend)

/-- Another keyword than that of events tells that a detail is no event. -/
theorem isPrefixOf_trim_keyword {k : Char} {ks : List Char} (hbs : ∀ c ∈ bs, Text.isBlank c = true)
    (hk : Text.isBlank k = false) (hend : Text.trimEnd (k :: ks) = k :: ks)
    (hother : ∀ cs, eventKeyword.isPrefixOf (k :: ks ++ cs) = false) :
    eventKeyword.isPrefixOf (Text.trim (bs ++ (k :: ks ++ rest))) = false := by
  rw [trim_keyword hbs hk hend]
  exact hother _

/-- What a detail says is found behind its keyword. -/
theorem textAfter_append {k : Char} {ks : List Char} {s : String} (hbs : k ∉ bs)
    (hrest : Text.trim rest = s.toList) : textAfter (k :: ks) (bs ++ (k :: ks ++ rest)) = s := by
  unfold textAfter
  rw [Text.after_append hbs, hrest, String.ofList_toList]

/-! ## The chain of keywords -/

/-- A line that starts with a blank is neither a header nor a skater's. -/
theorem ofTrimmed_append (hne : bs ≠ []) (hbs : ∀ c ∈ bs, Text.isBlank c = true) :
    ofTrimmed (bs ++ cs) =
      if eventKeyword.isPrefixOf (Text.trim (bs ++ cs)) then
        .event ((Text.words (Text.trim (bs ++ cs)))[1]?.bind eventNumber?)
      else if Text.occursIn contactKeyword (bs ++ cs) then
        .contact (if (textAfter contactKeyword (bs ++ cs)).isEmpty then none
          else some (textAfter contactKeyword (bs ++ cs)))
      else if Text.occursIn statusKeyword (bs ++ cs) then .status (.ofLine (bs ++ cs))
      else if Text.occursIn noteKeyword (bs ++ cs) then
        .note (textAfter noteKeyword (bs ++ cs))
      else .other := by
  obtain ⟨b, bs, rfl⟩ := List.exists_cons_of_ne_nil hne
  have hb : Text.isBlank b = true := hbs b List.mem_cons_self
  have hmarker : sectionMarker.isPrefixOf (b :: bs ++ cs) = false := by
    refine Text.isPrefixOf_cons_of_ne ?_
    rintro rfl
    cases hb
  have hsubject : isSubject (b :: bs ++ cs) = false := Text.isUppercase_of_isBlank hb
  unfold ofTrimmed
  rw [hmarker, if_neg Bool.false_ne_true, hsubject, if_neg Bool.false_ne_true]

/-- Digits behind a blank keep it when the end is trimmed. -/
theorem trimEnd_cons_decimal (n : ℕ) :
    Text.trimEnd (' ' :: Text.decimal n) = ' ' :: Text.decimal n := by
  have htrim : Text.trim (Text.decimal n) = Text.decimal n := Text.trim_of_forall fun c hc =>
    Text.isBlank_of_isAsciiDigit (Text.isAsciiDigit_of_mem_decimal hc)
  exact Text.trimEnd_cons_of_trim htrim (Text.decimal_ne_nil n)

/-! ## Details of each kind -/

section Details

variable (hne : bs ≠ []) (hbs : ∀ c ∈ bs, Text.isBlank c = true)

include hne hbs

/-- The line of an event. -/
theorem ofTrimmed_event {n : ℕ} (hn : n < 2 ^ 32) :
    ofTrimmed (bs ++ ("Event".toList ++ ' ' :: Text.decimal n)) = .event (some n) := by
  have htrim : Text.trim (bs ++ ("Event".toList ++ ' ' :: Text.decimal n)) =
      eventKeyword ++ Text.decimal n := by
    rw [show "Event".toList = 'E' :: "vent".toList from rfl, trim_keyword hbs rfl rfl,
      trimEnd_cons_decimal]
    rfl
  have hspace : Text.isBlank ' ' = true := rfl
  have hkeyword : ∀ c ∈ "Event".toList, Text.isBlank c = false := Text.forall_isBlank_eq_false rfl
  have hblank : ∀ c ∈ Text.decimal n, Text.isBlank c = false := fun c hc =>
    Text.isBlank_of_isAsciiDigit (Text.isAsciiDigit_of_mem_decimal hc)
  have hwords : Text.words (eventKeyword ++ Text.decimal n) = ["Event".toList, Text.decimal n] :=
    Text.words_append_cons hkeyword hspace hblank (List.cons_ne_nil _ _) (Text.decimal_ne_nil n)
  rw [ofTrimmed_append hne hbs, htrim, Text.isPrefixOf_append, if_pos rfl, hwords]
  exact congrArg event (eventNumber?_decimal hn)

/-- The line of an address. -/
theorem ofTrimmed_contact {address : String} (hrest : Text.trim rest = address.toList)
    (haddress : address ≠ "") :
    ofTrimmed (bs ++ (contactKeyword ++ rest)) = .contact (some address) := by
  have hevent : eventKeyword.isPrefixOf (Text.trim (bs ++ (contactKeyword ++ rest))) = false :=
    isPrefixOf_trim_keyword hbs rfl rfl fun _ => rfl
  have hafter : textAfter contactKeyword (bs ++ (contactKeyword ++ rest)) = address :=
    textAfter_append (Text.not_mem_of_isBlank hbs rfl) hrest
  rw [ofTrimmed_append hne hbs, hevent, if_neg Bool.false_ne_true, Text.occursIn_append_append,
    if_pos rfl, hafter, if_neg (by simpa using haddress)]

/-- The line of a status. -/
theorem ofTrimmed_status (s : WrittenStatus) :
    ofTrimmed (bs ++ (statusKeyword ++ ' ' :: s.text)) = .status s.reading := by
  have hevent : eventKeyword.isPrefixOf
      (Text.trim (bs ++ (statusKeyword ++ ' ' :: s.text))) = false :=
    isPrefixOf_trim_keyword hbs rfl rfl fun _ => rfl
  have hcontact : Text.occursIn contactKeyword
      (bs ++ (statusKeyword ++ ' ' :: s.text)) = false := by
    have hstatus : 'E' ∉ ' ' :: s.text :=
      List.not_mem_cons_of_ne_of_not_mem (by decide)
        (WrittenStatus.not_mem_text_of_alphabet (by decide) (by decide) (by decide) s)
    exact Text.occursIn_of_not_mem (by decide) (List.not_mem_append
      (Text.not_mem_of_isBlank hbs rfl) (List.not_mem_append (by decide) hstatus))
  rw [ofTrimmed_append hne hbs, hevent, if_neg Bool.false_ne_true, hcontact,
    if_neg Bool.false_ne_true, Text.occursIn_append_append, if_pos rfl,
    WrittenStatus.ofLine_append hbs]

/-- The line of a note. -/
theorem ofTrimmed_note {text : String} (hrest : Text.trim rest = text.toList)
    (hcontact : Text.occursIn contactKeyword rest = false)
    (hstatus : Text.occursIn statusKeyword rest = false) :
    ofTrimmed (bs ++ (noteKeyword ++ rest)) = .note text := by
  have hevent : eventKeyword.isPrefixOf (Text.trim (bs ++ (noteKeyword ++ rest))) = false :=
    isPrefixOf_trim_keyword hbs rfl rfl fun _ => rfl
  -- The other keywords begin with letters that are neither blanks nor in the keyword of notes.
  have hfree {k : Char} {ks : List Char} (hk : Text.isBlank k = false) (hkeyword : k ∉ noteKeyword)
      (h : Text.occursIn (k :: ks) rest = false) :
      Text.occursIn (k :: ks) (bs ++ (noteKeyword ++ rest)) = false := by
    rw [Text.occursIn_append (Text.not_mem_of_isBlank hbs hk), Text.occursIn_append hkeyword, h]
  have hcontact' : Text.occursIn contactKeyword (bs ++ (noteKeyword ++ rest)) = false :=
    hfree rfl (by decide) hcontact
  have hstatus' : Text.occursIn statusKeyword (bs ++ (noteKeyword ++ rest)) = false :=
    hfree rfl (by decide) hstatus
  have hafter : textAfter noteKeyword (bs ++ (noteKeyword ++ rest)) = text :=
    textAfter_append (Text.not_mem_of_isBlank hbs rfl) hrest
  rw [ofTrimmed_append hne hbs, hevent, if_neg Bool.false_ne_true, hcontact',
    if_neg Bool.false_ne_true, hstatus', if_neg Bool.false_ne_true, Text.occursIn_append_append,
    if_pos rfl, hafter]

end Details

end SkaterLedger.LineKind
