import SkaterLedger.Proofs.Requests.Blocks
import SkaterLedger.Proofs.Requests.EventNumbers
import SkaterLedger.Proofs.Text.Blanks

/-!
# Event lines

A line that begins with the keyword of events behind its indentation is an event line, whatever else
stands on it. It adds the number that its second word writes to the events of the entry; if that
word writes none, the line is as good as missing (`eventLine_contributes`).

The keyword of events is tried before those of contacts, statuses and notes, and an event line
without a number is still an event line (`LineKind.IsEventLine.ofLine_eq`). So such a line is not
taken for one of these, even if it contains their keywords.
-/

namespace SkaterLedger

namespace LineKind

variable {line : List Char}

/-- A line is neither a header nor a skater's, and without the blanks around it it begins with the
keyword of events. -/
structure IsEventLine (line : List Char) : Prop where
  /-- It does not begin like a header. -/
  header : ¬ sectionMarker <+: line
  /-- It does not begin with an upper-case letter. -/
  subject : isSubject line = false
  /-- It begins with the keyword of events behind its indentation. -/
  keyword : eventKeyword <+: Text.trim line

/-- A line that begins with no upper-case letter does not begin with one when its end is trimmed. -/
theorem isSubject_trimEnd (h : isSubject line = false) : isSubject (Text.trimEnd line) = false := by
  cases htrim : Text.trimEnd line with
  | nil => rfl
  | cons c cs =>
    have hstart : c :: cs <+: line := htrim ▸ List.rdropWhile_prefix Text.isBlank line
    obtain ⟨rest, rfl⟩ := hstart
    exact h

/-- What an event line says is the number on its second word, if there is one. -/
theorem IsEventLine.ofLine_eq (h : IsEventLine line) :
    ofLine line = .event ((Text.words line)[1]?.bind eventNumber?) := by
  have hheader : sectionMarker.isPrefixOf (Text.trimEnd line) = false := by
    rw [Bool.eq_false_iff, ne_eq, List.isPrefixOf_iff_prefix]
    have htrimmed : Text.trimEnd line <+: line := List.rdropWhile_prefix Text.isBlank line
    exact fun hmarker => h.header (hmarker.trans htrimmed)
  have hkeyword : eventKeyword.isPrefixOf (Text.trim line) = true :=
    List.isPrefixOf_iff_prefix.mpr h.keyword
  unfold ofLine ofTrimmed
  rw [hheader, if_neg Bool.false_ne_true, isSubject_trimEnd h.subject, if_neg Bool.false_ne_true,
    Text.trim_trimEnd, hkeyword, if_pos rfl, Text.words_trim]

end LineKind

namespace Requests

variable {filter : SectionFilter} {line : List Char} {number : Option ℕ}

/-- A state with one more event in the entry that is being collected. -/
def State.withEvent (state : State) (n : ℕ) : State :=
  { state with current := state.current.map fun e => { e with events := e.events ++ [n] } }

/-- A line contributes an event number: in a section that is read, the entry that is being collected
gets the number behind those that it has, and nothing else changes; in another section nothing
changes at all. -/
def Contributes (line : List Char) (n : ℕ) : Prop :=
  ∀ filter state lines, extractFrom filter state (line :: lines) =
    extractFrom filter (if filter.accepts state.sectionName then state.withEvent n else state) lines

/-- A line is skipped: whatever stands before and behind it, the entries are those without it. -/
def Skipped (line : List Char) : Prop :=
  ∀ filter state before after,
    extractFrom filter state (before ++ line :: after) = extractFrom filter state (before ++ after)

/-! ## One event line -/

/-- An event line goes to the entry that is being collected, in a section that is read. -/
theorem extractFrom_event (h : LineKind.ofLine line = .event number) (state : State)
    (lines : List (List Char)) :
    extractFrom filter state (line :: lines) =
      extractFrom filter
        (if filter.accepts state.sectionName then
          { state with current := state.current.map fun e => collect e (.event number) }
        else state) lines := by
  have hheader : (LineKind.ofLine line).header? = none := by
    rw [h]
    rfl
  cases haccept : filter.accepts state.sectionName with
  | false => exact extractFrom_rejected hheader haccept
  | true =>
    rw [extractFrom_detail hheader (by rw [h]; exact nofun) haccept, h]
    rfl

/-- What an event line does shows if it is the only one behind a skater's line: with a number on it the
entry is completed, and without one it is dropped. -/
theorem map_events_extractFrom (h : LineKind.ofLine line = .event number) :
    (extractFrom .all ⟨none, some (.named "" "" none)⟩ [line]).map Entry.events =
      number.toList.map fun n => [n] := by
  rw [extractFrom_event h]
  cases number <;> rfl

/-- An event line contributes the number that is on it, and no other one. -/
theorem contributes_iff (h : LineKind.ofLine line = .event number) (n : ℕ) :
    Contributes line n ↔ number = some n := by
  constructor
  · intro hcontributes
    have hevents := map_events_extractFrom h
    rw [hcontributes] at hevents
    have hnumber : [[n]] = number.toList.map fun n => [n] := hevents
    cases number with
    | none => cases hnumber
    | some m =>
      obtain rfl : n = m := by simpa using hnumber
      rfl
  · rintro rfl filter state lines
    exact extractFrom_event h state lines

/-- An event line is skipped exactly if there is no number on it. -/
theorem skipped_iff (h : LineKind.ofLine line = .event number) :
    Skipped line ↔ number = none := by
  constructor
  · intro hskipped
    have hevents := map_events_extractFrom h
    have hnone : extractFrom .all ⟨none, some (.named "" "" none)⟩ [line] = [] :=
      hskipped .all _ [] []
    rw [hnone] at hevents
    cases number with
    | none => rfl
    | some n => cases hevents
  · rintro rfl filter state before after
    refine extractFrom_append_congr (fun state => ?_) before state
    have hcollect : (state.current.map fun e => collect e (.event none)) = state.current :=
      congrFun Option.map_id _
    rw [extractFrom_event h, hcollect]
    exact congrArg (extractFrom filter · after) (ite_self state)

/-! ## The number on an event line -/

/-- Event lines are read to the largest number and no further. A line contributes a number exactly if
its second word writes the number, and it is skipped exactly if that word writes none, whatever
else stands on the line. -/
theorem eventLine_contributes (h : LineKind.IsEventLine line) :
    (∀ n, Contributes line n ↔
      ∃ word, (Text.words line)[1]? = some word ∧ LineKind.WritesEvent word n) ∧
    (Skipped line ↔
      ∀ word, (Text.words line)[1]? = some word → ∀ n, ¬ LineKind.WritesEvent word n) := by
  have hwrites (n : ℕ) : (Text.words line)[1]?.bind LineKind.eventNumber? = some n ↔
      ∃ word, (Text.words line)[1]? = some word ∧ LineKind.WritesEvent word n := by
    simp only [Option.bind_eq_some_iff, LineKind.eventNumber?_eq_some_iff]
  refine ⟨fun n => (contributes_iff h.ofLine_eq n).trans (hwrites n), ?_⟩
  rw [skipped_iff h.ofLine_eq, Option.eq_none_iff_forall_ne_some]
  constructor
  · intro hnone word hword n hn
    exact hnone n ((hwrites n).mpr ⟨word, hword, hn⟩)
  · intro hnone n hn
    obtain ⟨word, hword, hn⟩ := (hwrites n).mp hn
    exact hnone word hword n hn

/-- The largest number, with a sign and zeros in front, and the next one, each on a line with the
keywords of other lines. -/
theorem eventLine_contributes_largest :
    let largest := "\tEvent +004294967295 Email: js@example.com".toList
    let beyond := "   Event 4294967296 Email: js@example.com Status: Sent Note: spiral".toList
    LineKind.IsEventLine largest ∧ Contributes largest 4294967295 ∧
      LineKind.IsEventLine beyond ∧ Skipped beyond := by
  intro largest beyond
  have hlargest : LineKind.IsEventLine largest :=
    ⟨by decide, rfl, List.isPrefixOf_iff_prefix.mp rfl⟩
  have hbeyond : LineKind.IsEventLine beyond :=
    ⟨by decide, rfl, List.isPrefixOf_iff_prefix.mp rfl⟩
  have hwrites : LineKind.WritesEvent "+004294967295".toList 4294967295 :=
    LineKind.eventNumber?_eq_some_iff.mp rfl
  refine ⟨hlargest, ((eventLine_contributes hlargest).1 _).mpr ⟨_, rfl, hwrites⟩, hbeyond,
    (eventLine_contributes hbeyond).2.mpr fun word hword n hn => ?_⟩
  have hnone : LineKind.eventNumber? "4294967296".toList = none := rfl
  obtain rfl : "4294967296".toList = word := Option.some.inj hword
  rw [← LineKind.eventNumber?_eq_some_iff, hnone] at hn
  cases hn

end Requests

end SkaterLedger
