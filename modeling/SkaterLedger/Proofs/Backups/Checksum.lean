import SkaterLedger.Backup
import SkaterLedger.Proofs.Json.Unambiguous
import SkaterLedger.Proofs.Text.Utf8

/-!
# The checksum is taken over an unambiguous text

Tables are held sorted by name, their rows sorted by column, and so are the objects inside of cells
(`Backup.held`). The bytes that the digest is taken of are the same for two tables exactly if they
hold the same under each name, row by row and column by column (`Backup.checksum_unambiguous`). So a
backup whose tables were changed is only taken for the one that was made if SHA-256 has a collision.
-/

namespace SkaterLedger.Backup

variable {tables tables' : BackupTables}

/-- Tables as a backup holds them, from names, columns and keys in the order in which they came. -/
def held (tables : BackupTables) : BackupTables :=
  Json.sortMembers (tables.map fun table =>
    (table.1, table.2.map fun row => Json.sortMembers (Json.heldMembers row)))

/-- The bytes that the digest is taken of. -/
def checksumBytes (tables : BackupTables) : List UInt8 := Text.encode (checksumText tables)

/-- The digest of tables is that of their bytes. -/
theorem checksumOf_eq (tables : BackupTables) :
    checksumOf tables = Digest.sha256 (checksumBytes tables) := rfl

/-- The document of tables, name by name. -/
theorem tablesToJson_eq (tables : BackupTables) : tablesToJson tables =
    .obj (tables.map fun table => (table.1, Json.arr (table.2.map .obj))) := rfl

/-- Tables are told by their document. -/
theorem tablesToJson_inj : tablesToJson tables = tablesToJson tables' ↔ tables = tables' := by
  have hrows : (fun rows : List BackupRow => Json.arr (rows.map .obj)).Injective := by
    intro rows rows' h
    exact List.map_injective_iff.mpr (fun _ _ => Json.obj.inj) (Json.arr.inj h)
  have htable : (fun table : String × List BackupRow =>
      (table.1, Json.arr (table.2.map .obj))).Injective :=
    Function.Injective.prodMap Function.injective_id hrows
  rw [tablesToJson_eq, tablesToJson_eq, Json.obj.injEq, (List.map_injective_iff.mpr htable).eq_iff]

/-- The document of tables, as they are held. -/
theorem tablesToJson_held (tables : BackupTables) :
    tablesToJson (held tables) = (tablesToJson tables).held := by
  have hrows (rows : List BackupRow) :
      Json.arr ((rows.map fun row => Json.sortMembers (Json.heldMembers row)).map .obj) =
        (Json.arr (rows.map .obj)).held := by
    rw [Json.held, Json.heldItems_eq_map, List.map_map, List.map_map]
    rfl
  rw [tablesToJson_eq, tablesToJson_eq, held, Json.held, Json.heldMembers_eq_map,
    ← Json.sortMembers_map fun rows : List BackupRow => Json.arr (rows.map .obj), List.map_map,
    List.map_map]
  congr 2
  exact List.map_congr_left fun table _ => Prod.ext rfl (hrows table.2)

/-- Tables are held as the same exactly if they are the same whatever order they came in. -/
theorem held_eq_held_iff :
    held tables = held tables' ↔ (tablesToJson tables).Same (tablesToJson tables') := by
  rw [← tablesToJson_inj, tablesToJson_held, tablesToJson_held, Json.held_eq_held_iff]

/-- A text is told by its bytes. -/
theorem encode_inj {cs cs' : List Char} : Text.encode cs = Text.encode cs' ↔ cs = cs' := by
  refine ⟨fun h => ?_, fun h => by rw [h]⟩
  have hdecoded : cs.map some = cs'.map some := by
    rw [← Text.decode_encode, ← Text.decode_encode, h]
  exact List.map_injective_iff.mpr (Option.some_injective _) hdecoded

/-- The bytes that the digest is taken of tell the tables as they are held. -/
theorem checksumBytes_held_eq_iff (h : (tablesToJson tables).Finite)
    (h' : (tablesToJson tables').Finite) :
    checksumBytes (held tables) = checksumBytes (held tables') ↔ held tables = held tables' := by
  unfold checksumBytes checksumText
  rw [encode_inj, tablesToJson_held, tablesToJson_held, Json.compact_held_eq_iff h h',
    held_eq_held_iff]

/-- The checksum is taken over an unambiguous text: the bytes of two tables are equal exactly if the
tables are held as the same, and they are held as the same exactly if they are, whatever order their
names, columns and keys came in. So a backup that carries the checksum of some tables is accepted
with the same tables, and with others only if the bytes of both are different and have one digest. -/
theorem checksum_unambiguous (h : (tablesToJson tables).Finite)
    (h' : (tablesToJson tables').Finite) (timestamp : Instant) (database : String) :
    (checksumBytes (held tables) = checksumBytes (held tables') ↔ held tables = held tables') ∧
      (held tables = held tables' ↔ (tablesToJson tables).Same (tablesToJson tables')) ∧
      (held tables = held tables' →
        verify ⟨timestamp, database, held tables', checksumOf (held tables)⟩ = true) ∧
      (held tables ≠ held tables' →
        verify ⟨timestamp, database, held tables', checksumOf (held tables)⟩ = true →
          checksumBytes (held tables) ≠ checksumBytes (held tables') ∧
            Digest.sha256 (checksumBytes (held tables)) =
              Digest.sha256 (checksumBytes (held tables'))) := by
  have hbytes := checksumBytes_held_eq_iff h h'
  have hverify : verify ⟨timestamp, database, held tables', checksumOf (held tables)⟩ = true ↔
      Digest.sha256 (checksumBytes (held tables')) =
        Digest.sha256 (checksumBytes (held tables)) := by
    rw [verify, beq_iff_eq, checksumOf_eq, checksumOf_eq]
  refine ⟨hbytes, held_eq_held_iff, fun hsame => ?_, fun hchanged hverified => ⟨?_, ?_⟩⟩
  · rw [hverify, hsame]
  · exact fun heq => hchanged (hbytes.mp heq)
  · exact (hverify.mp hverified).symm

/-- A table of one row of one column, with an object in it. -/
def oneCell (members : List (String × Json)) : BackupTables :=
  [("skaters", [[("data", .obj members)]])]

/-- The numbers of a table of one cell are those of the cell. -/
theorem finite_oneCell {members : List (String × Json)} (h : ∀ m ∈ members, m.2.Finite) :
    (tablesToJson (oneCell members)).Finite := by
  have hrow : (Json.obj [("data", .obj members)]).Finite :=
    .obj (List.forall_mem_singleton.mpr (.obj h))
  exact .obj (List.forall_mem_singleton.mpr (.arr (List.forall_mem_singleton.mpr hrow)))

/-- The order of the keys does not matter, and neither does a value that was replaced; a number is not
taken for the integer of its size, nor zero for the zero of the other sign. -/
theorem checksum_unambiguous_respelled :
    let one : Json := .real (.ofNat 1)
    let zero (negative : Bool) : Json := .real ⟨negative, .zero⟩
    checksumBytes (held (oneCell [("b", one), ("a", zero true)])) =
        checksumBytes (held (oneCell [("a", .int 7), ("b", one), ("a", zero true)])) ∧
      checksumBytes (held (oneCell [("a", one)])) ≠
        checksumBytes (held (oneCell [("a", .int 1)])) ∧
      checksumBytes (held (oneCell [("a", zero true)])) ≠
        checksumBytes (held (oneCell [("a", zero false)])) := by
  have hone : (Json.real (.ofNat 1)).Finite := .real (by decide +kernel)
  have hzero (negative : Bool) : (Json.real ⟨negative, .zero⟩).Finite := .real rfl
  refine ⟨?_, ?_, ?_⟩
  · refine (checksum_unambiguous (finite_oneCell ?_) (finite_oneCell ?_) ⟨0, 0⟩ "").1.mpr rfl
    · simp [hone, hzero]
    · simp [hone, hzero, Json.Finite.int]
  · refine mt (checksum_unambiguous (finite_oneCell ?_) (finite_oneCell ?_) ⟨0, 0⟩ "").1.mp ?_
    · simp [hone]
    · simp [Json.Finite.int]
    · exact fun h => nomatch h
  · refine mt (checksum_unambiguous (finite_oneCell ?_) (finite_oneCell ?_) ⟨0, 0⟩ "").1.mp ?_
    · simp [hzero]
    · simp [hzero]
    · exact fun h => nomatch h

end SkaterLedger.Backup
