import Mathlib.Data.List.Basic
import Mathlib.Tactic.SplitIfs
import SkaterLedger.Proofs.Requests.Purchases
import SkaterLedger.Requests.Document

/-!
# What holds of extracted entries

What holds of an entry of which only the skater's line is known, and goes on to hold as the entry
collects lines, holds of every entry that is extracted (`forall_mem_extractFrom`). Amounts are written
in digits, so whatever a document says, no amount of an entry has a sign (`Entry.Unsigned`).
-/

namespace SkaterLedger

/-- The amounts of an entry have no minus sign. -/
def Entry.Unsigned (e : Entry) : Prop :=
  ∀ x, e.grossAmount = some x ∨ e.netAmount = some x → x.negative = false

namespace Requests

variable {P : Entry → Prop} {filter : SectionFilter} {e : Entry}

/-- The entries that the rest of a document completes have a property that entries begin with and
keep, if the one that is being collected has it. -/
theorem forall_mem_extractFrom (hbegin : ∀ line name, P (beginEntry line name))
    (hcollect : ∀ e line, P e → P (collect e (.ofLine line))) {state : State}
    {lines : List (List Char)} (hcurrent : ∀ e ∈ state.current, P e) :
    ∀ e ∈ extractFrom filter state lines, P e := by
  have hfinished {current : Option Entry} (hcurrent : ∀ e ∈ current, P e) :
      ∀ e ∈ finished current, P e := by
    cases current with
    | none => simp [finished]
    | some e =>
      have he := hcurrent e rfl
      unfold finished
      dsimp only
      split_ifs
      · simp
      · simpa using he
  induction lines generalizing state with
  | nil => exact hfinished hcurrent
  | cons line lines ih =>
    unfold extractFrom
    split
    · exact ih hcurrent
    · dsimp only
      split_ifs
      · exact ih hcurrent
      · refine List.forall_mem_append.mpr ⟨hfinished hcurrent, ih fun e he => ?_⟩
        exact Option.some.inj he ▸ hbegin line _
      · refine ih fun e he => ?_
        obtain ⟨e', he', rfl⟩ := Option.map_eq_some_iff.mp he
        exact hcollect e' line (hcurrent e' he')

end Requests

/-! ## Last names are words -/

/-- An entry that a reader finds in some document. -/
def Entry.Extracted (e : Entry) : Prop :=
  ∃ filter lines, e ∈ Requests.extractFrom filter .start lines

/-- The last name of an entry that is found in a document is a single word: there is no blank in it.
-/
theorem Entry.Extracted.isBlank_lastName {e : Entry} (he : e.Extracted) :
    ∀ c ∈ e.lastName.toList, Text.isBlank c = false := by
  have hnames (line : List Char) :
      ∀ c ∈ (Entry.namesOfLine line).2.toList, Text.isBlank c = false := by
    unfold Entry.namesOfLine Text.cutAtBlank
    dsimp only
    generalize Text.trim line = text
    cases hrest : text.dropWhile fun c => !Text.isBlank c with
    | nil =>
      intro c hc
      rw [List.dropWhile_eq_nil_iff] at hrest
      exact Bool.not_eq_true' _ ▸ hrest c (by simpa using hc)
    | cons d rest =>
      intro c hc
      rw [String.toList_ofList] at hc
      simpa using List.mem_takeWhile_imp hc
  obtain ⟨filter, lines, he⟩ := he
  refine Requests.forall_mem_extractFrom
    (P := fun e => ∀ c ∈ e.lastName.toList, Text.isBlank c = false)
    (fun line _ => hnames (Text.trimEnd line)) (fun e line he => ?_)
    (by simp [Requests.State.start]) e he
  cases LineKind.ofLine line with
  | event number => cases number <;> exact he
  | _ => exact he

/-! ## Amounts have no sign -/

/-- An amount that stands in a text has no sign. -/
theorem FoundAmount.negative_of_ofText? {a : FoundAmount} {x : Binary64}
    (h : Binary64.ofText? a.text = some x) : x.negative = false := by
  obtain ⟨d, ds, hcons, hd⟩ := a.isAmount.exists_cons
  rw [hcons, Binary64.ofText?_cons hd] at h
  obtain ⟨decimal, -, rfl⟩ := Option.map_eq_some_iff.mp h
  rfl

/-- The amounts of a status line have no sign. -/
theorem StatusReading.negative_of_ofLine {line : List Char} {x : Binary64}
    (hx : (ofLine line).gross = some x ∨ (ofLine line).net = some x) : x.negative = false := by
  rcases ofLine_eq_sent_or line with hsent | ⟨q, hq⟩
  · rw [hsent] at hx
    simp [sent] at hx
  · rw [hq] at hx
    cases q with
    | full gross net =>
      exact hx.elim FoundAmount.negative_of_ofText? FoundAmount.negative_of_ofText?
    | bought net => exact hx.elim nofun FoundAmount.negative_of_ofText?
    | short net => exact hx.elim nofun FoundAmount.negative_of_ofText?

namespace Requests

variable {filter : SectionFilter} {e : Entry}

/-- The status on a line is the reading of the line without the blanks at its end. -/
theorem eq_ofLine_of_status {line : List Char} {reading : StatusReading}
    (h : LineKind.ofLine line = .status reading) : reading = .ofLine (Text.trimEnd line) := by
  unfold LineKind.ofLine LineKind.ofTrimmed at h
  dsimp only at h
  split_ifs at h
  exact (LineKind.status.inj h).symm

/-- The amounts of extracted entries have no sign. -/
theorem unsigned_of_mem_extractFrom {lines : List (List Char)}
    (h : e ∈ extractFrom filter .start lines) : e.Unsigned := by
  refine forall_mem_extractFrom (fun line name => ?_) (fun e line he => ?_) (by simp [State.start])
    e h
  · intro x hx
    simp [beginEntry, Entry.named] at hx
  · cases hkind : LineKind.ofLine line with
    | status reading =>
      obtain rfl := eq_ofLine_of_status hkind
      exact fun x => StatusReading.negative_of_ofLine
    | event number => cases number <;> exact he
    | _ => exact he

end Requests

end SkaterLedger
