import SkaterLedger.Proofs.Outcome
import SkaterLedger.Store.Transaction

/-!
# Whole or not at all

A series of statements that fails has carried out those in front of the one that failed, and where it
stops the tables hold what these have written. As one transaction it leaves either what all its
statements have written, or the tables as they were, whatever they held where it stopped
(`Connection.transaction_of_ok`, `Connection.transaction_of_error`).
-/

namespace SkaterLedger

variable {α β : Type} {s s' : Store} {stop : Stop} {statement : Store → Except Failure α}
  {statements : Store → Except Stop (α × Store)} {a : α}

namespace Store

/-! ## Statements in a series -/

/-- A statement has the result in a series that it has alone. -/
theorem execute_eq_ok_iff : s.execute statement = .ok a ↔ statement s = .ok a :=
  mapError_eq_ok_iff

/-- A series stops at a statement that fails, with the tables as this one has found them. -/
theorem execute_eq_error_iff :
    s.execute statement = .error stop ↔ statement s = .error stop.failure ∧ stop.store = s := by
  obtain ⟨failure, t⟩ := stop
  unfold execute
  cases statement s with
  | error failure' => simp [Except.mapError, eq_comm]
  | ok a => simp [Except.mapError]

/-- Whether a statement succeeds in a series is decided by what it does alone. -/
theorem succeeds_execute_iff : Succeeds (s.execute statement) ↔ Succeeds (statement s) :=
  succeeds_mapError_iff

/-- A series succeeds exactly when its first statement does and the rest does on what this one
gives. -/
theorem execute_bind_eq_ok_iff {rest : α → Except Stop β} {b : β} :
    (s.execute statement >>= rest) = .ok b ↔ ∃ a, statement s = .ok a ∧ rest a = .ok b := by
  rw [bind_eq_ok_iff]
  exact exists_congr fun a => and_congr_left fun _ => execute_eq_ok_iff

/-- A series succeeds under the conditions of its first statement and of its rest, if those of the
rest do not depend on what the first statement gives. -/
theorem succeeds_execute_bind_iff_and {rest : α → Except Stop β} {P Q : Prop}
    (hfirst : Succeeds (statement s) ↔ P)
    (hrest : ∀ a, statement s = .ok a → (Succeeds (rest a) ↔ Q)) :
    Succeeds (s.execute statement >>= rest) ↔ P ∧ Q :=
  succeeds_bind_iff_and (succeeds_execute_iff.trans hfirst) fun a ha =>
    hrest a (execute_eq_ok_iff.mp ha)

end Store

/-! ## Transactions -/

namespace Connection

variable {c : Connection}

/-- What was written since the beginning of a transaction is taken back by a rollback. -/
theorem rollback_begin (c : Connection) (s : Store) :
    { c.begin with store := s }.rollback = ⟨c.store, none⟩ := rfl

/-- A transaction whose statements succeed leaves what they have written. -/
theorem transaction_of_ok (h : statements c.store = .ok (a, s)) :
    transaction statements c = (.ok a, ⟨s, none⟩) := by
  have hbegin : statements c.begin.store = .ok (a, s) := h
  unfold transaction
  simp only [hbegin]
  rfl

/-- A transaction whose statements stop leaves the tables as it has found them. -/
theorem transaction_of_error (h : statements c.store = .error stop) :
    transaction statements c = (.error stop.failure, ⟨c.store, none⟩) := by
  have hbegin : statements c.begin.store = .error stop := h
  unfold transaction
  simp only [hbegin]
  -- Whatever the tables hold by now, what was saved at the beginning is what they held then.
  rw [rollback_begin c stop.store]

/-- No transaction is open when one is over, so that the next one can begin. -/
theorem transaction_saved (statements : Store → Except Stop (α × Store)) (c : Connection) :
    (transaction statements c).2.saved = none := by
  cases h : statements c.store with
  | error stop => rw [transaction_of_error h]
  | ok r => rw [transaction_of_ok h]

end Connection

namespace Store

/-- A transaction whose statements succeed leaves what they have written. -/
theorem transaction_of_ok (h : statements s = .ok (a, s')) :
    s.transaction statements = (.ok a, s') := by
  unfold transaction
  rw [Connection.transaction_of_ok h]

/-- A transaction whose statements stop leaves the store as it was. -/
theorem transaction_of_error (h : statements s = .error stop) :
    s.transaction statements = (.error stop.failure, s) := by
  unfold transaction
  rw [Connection.transaction_of_error h]

/-- A transaction succeeds exactly when its statements do, and with what they give. -/
theorem transaction_eq_ok_iff :
    s.transaction statements = (.ok a, s') ↔ statements s = .ok (a, s') := by
  cases h : statements s with
  | error stop => simp [transaction_of_error h]
  | ok r => simp [transaction_of_ok h, Prod.ext_iff]

/-- A transaction fails exactly when its statements stop, for their reason, and changes nothing,
whatever they have written. -/
theorem transaction_eq_error_iff {failure : Failure} :
    s.transaction statements = (.error failure, s') ↔
      s' = s ∧ ∃ t, statements s = .error ⟨failure, t⟩ := by
  cases h : statements s with
  | error stop =>
    obtain ⟨failure', t⟩ := stop
    rw [transaction_of_error h, Prod.mk.injEq, Except.error.injEq]
    constructor
    · rintro ⟨rfl, rfl⟩
      exact ⟨rfl, t, rfl⟩
    · rintro ⟨rfl, t', heq⟩
      exact ⟨congrArg Stop.failure (Except.error.inj heq), rfl⟩
  | ok r => simp [transaction_of_ok h]

/-- What is settled is a result and the store that is left. -/
theorem settled_eq_ok_iff {run : Except Failure α × Store} :
    settled run = .ok (a, s) ↔ run = (.ok a, s) := by
  obtain ⟨result, s'⟩ := run
  cases result <;> simp [settled, Except.map]

/-- The store that was settled is the one that is left. -/
theorem snd_eq_of_settled {run : Except Failure α × Store}
    (h : (settled run).map Prod.snd = .ok s) : run.2 = s := by
  obtain ⟨⟨a, s'⟩, hrun, rfl⟩ := map_eq_ok_iff.mp h
  rw [settled_eq_ok_iff.mp hrun]

/-- A transaction is settled with what its statements give. -/
theorem settled_transaction_eq_ok_iff :
    settled (s.transaction statements) = .ok (a, s') ↔ statements s = .ok (a, s') :=
  settled_eq_ok_iff.trans transaction_eq_ok_iff

/-- A transaction succeeds exactly when its statements do. -/
theorem succeeds_settled_transaction_iff :
    Succeeds (settled (s.transaction statements)) ↔ Succeeds (statements s) :=
  exists_congr fun _ => settled_transaction_eq_ok_iff

/-- A transaction that fails leaves the store as it was. -/
theorem transaction_snd_of_settled_error {failure : Failure}
    (h : settled (s.transaction statements) = .error failure) :
    (s.transaction statements).2 = s := by
  cases hrun : statements s with
  | error stop => rw [transaction_of_error hrun]
  | ok r =>
    rw [settled_transaction_eq_ok_iff.mpr hrun] at h
    cases h

end Store

end SkaterLedger
