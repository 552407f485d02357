import SkaterLedger.Proofs.Json.Values
import SkaterLedger.Proofs.Requests.EventNumbers
import SkaterLedger.Proofs.Requests.Extracted
import SkaterLedger.Proofs.Store.Columns

/-!
# The integers of a store

Event numbers come from requests documents, where they have 32 bits, and rows of the audit trail are
numbered up to the largest integer of 64 bits. So whatever a store has been through, every integer in
it has 64 bits (`Usage.reachable_fits`), which is what JSON text can hold.
-/

namespace SkaterLedger

/-- An integer in a cell has 64 bits. -/
def Cell.Fits (c : Cell) : Prop := ∀ n, c = .integer n → Json.IsInteger64 n

/-- A table exists, and the integers in its rows have 64 bits. -/
def Shape.Fits {ρ : Type} (shape : Shape ρ) (table : Option (List ρ)) : Prop :=
  ∃ rows, table = some rows ∧ ∀ r ∈ rows, ∀ c ∈ shape.cells r, c.Fits

/-- The event numbers of an entry have 32 bits. -/
def Entry.Numbered (e : Entry) : Prop := ∀ n ∈ e.events, n ≤ LineKind.maxEvent

/-- The tables of a store exist, and the integers in their rows have 64 bits. -/
structure Store.Fits (s : Store) : Prop where
  /-- In competitions. -/
  competitions : Shape.competitions.Fits s.competitions
  /-- In events. -/
  events : Shape.events.Fits s.events
  /-- In skaters. -/
  skaters : Shape.skaters.Fits s.skaters
  /-- In families. -/
  families : Shape.families.Fits s.families
  /-- In relations. -/
  competedIn : Shape.competedIn.Fits s.competedIn
  /-- In links. -/
  belongsTo : Shape.belongsTo.Fits s.belongsTo
  /-- In the audit trail. -/
  auditLog : Shape.auditLog.Fits (s.auditLog.map (·.rows))
  /-- The audit trail counts up from 0. -/
  lastId : ∀ log, s.auditLog = some log → 0 ≤ log.lastId

/-! ## Event numbers of documents -/

namespace Requests

variable {filter : SectionFilter} {e : Entry}

/-- The event number on a line has 32 bits. -/
theorem le_maxEvent_of_ofLine {line : List Char} {n : ℕ}
    (h : LineKind.ofLine line = .event (some n)) : n ≤ LineKind.maxEvent := by
  unfold LineKind.ofLine LineKind.ofTrimmed at h
  dsimp only at h
  split_ifs at h
  obtain ⟨word, -, hnumber⟩ := Option.bind_eq_some_iff.mp (LineKind.event.inj h)
  exact LineKind.eventNumber?_le hnumber

/-- The event numbers of extracted entries have 32 bits. -/
theorem numbered_of_mem_extractFrom {lines : List (List Char)}
    (h : e ∈ extractFrom filter .start lines) : e.Numbered := by
  refine forall_mem_extractFrom (fun _ _ _ hn => absurd hn List.not_mem_nil) (fun e line he => ?_)
    (by simp [State.start]) e h
  cases hkind : LineKind.ofLine line with
  | event number =>
    cases number with
    | none => exact he
    | some n =>
      intro n' hn'
      rcases List.mem_append.mp hn' with hn' | hn'
      · exact he n' hn'
      · exact List.mem_singleton.mp hn' ▸ le_maxEvent_of_ofLine hkind
  | _ => exact he

end Requests

/-! ## Cells and rows -/

namespace Cell

/-- A text fits. -/
@[simp]
theorem fits_text (s : String) : (text s).Fits := by simp [Fits]

/-- A number with a point or an exponent fits. -/
theorem fits_real (x : Binary64) : (real x).Fits := by simp [Fits]

/-- No value fits. -/
@[simp]
theorem fits_null : null.Fits := by simp [Fits]

/-- An integer fits if it has 64 bits. -/
@[simp]
theorem fits_integer_iff {n : ℤ} : (integer n).Fits ↔ Json.IsInteger64 n := by
  simp [Fits]

end Cell

/-- What is written fits, if the event numbers of entries have 32 bits. -/
theorem writable_fits : Writable (fun _ c => c.Fits) Entry.Numbered where
  null _ := Cell.fits_null
  text _ s _ := Cell.fits_text s
  rowNumber n hn := by
    unfold AuditLog.maxId at hn
    rw [Cell.fits_integer_iff, Json.IsInteger64, Json.leastIntegerSize, Json.maxSignificand]
    omega
  eventNumber e he n hn := by
    have hle := he n hn
    unfold LineKind.maxEvent at hle
    rw [Cell.fits_integer_iff, Json.IsInteger64, Json.leastIntegerSize, Json.maxSignificand]
    omega
  amount _ _ _ _ _ _ := Cell.fits_real _

/-- A table fits if each of its cells does. -/
theorem Shape.Each.fits {ρ : Type} {shape : Shape ρ} {table : Option (List ρ)}
    (h : shape.Each (fun _ c => c.Fits) table) : shape.Fits table := by
  obtain ⟨rows, rfl, hrows⟩ := h
  refine ⟨rows, rfl, fun r hr c hc => ?_⟩
  obtain ⟨i, hi, rfl⟩ := List.getElem_of_mem hc
  exact (hrows r hr).get ((hrows r hr).length_eq ▸ hi) hi

/-- A store fits if each of its cells does. -/
theorem Store.Each.fits {s : Store} (hs : s.Each fun _ c => c.Fits) : s.Fits where
  competitions := hs.competitions.fits
  events := hs.events.fits
  skaters := hs.skaters.fits
  families := hs.families.fits
  competedIn := hs.competedIn.fits
  belongsTo := hs.belongsTo.fits
  auditLog := hs.auditLog.fits
  lastId log hlog := hs.lastId log hlog ▸ Int.natCast_nonneg _

/-! ## Runs -/

/-- Entries that are imported were extracted from a document or from lines. -/
def Action.FromDocument (_ : Usage) : Action → Prop
  | .importEntries _ _ entries => ∃ filter, (∃ text, entries = Requests.extract filter text) ∨
      ∃ lines, entries = Requests.extractLines filter lines
  | _ => True

/-- What holds of all extracted entries holds of all that are imported. -/
theorem Action.FromDocument.forall_mem {P : Entry → Prop}
    (hP : ∀ {filter lines}, ∀ e ∈ Requests.extractFrom filter .start lines, P e) {u : Usage}
    {m : Moment} {competition : String} {entries : List Entry}
    (h : Action.FromDocument u (.importEntries m competition entries)) : ∀ e ∈ entries, P e := by
  obtain ⟨filter, ⟨text, rfl⟩ | ⟨lines, rfl⟩⟩ := h
  · exact hP
  · exact hP

/-- Whatever a store has been through, as long as the imported entries come from documents, its
integers have 64 bits. -/
theorem Usage.reachable_fits {u : Usage} (hu : Reachable Action.FromDocument u) : u.store.Fits := by
  refine (hu.each writable_fits fun _ _ _ _ hallowed => ?_).fits
  exact hallowed.forall_mem fun _ => Requests.numbered_of_mem_extractFrom

end SkaterLedger
