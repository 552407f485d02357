import SkaterLedger.Store.Cell

/-!
# Rows

The rows of the seven tables, and the shape of each table: its columns, what they need, and which of
them tell rows apart.
-/

namespace SkaterLedger

/-- A competition. -/
structure CompetitionRow where
  /-- The competition's id. -/
  id : Cell
  /-- The name. -/
  name : Cell
  /-- The place. -/
  venue : Cell
  /-- The first day. -/
  startDate : Cell
  /-- The last day. -/
  endDate : Cell
  /-- When the row was made. -/
  createdAt : Cell
deriving DecidableEq, Repr

/-- An event of a competition. -/
structure EventRow where
  /-- The event's id. -/
  id : Cell
  /-- The competition's id. -/
  competition : Cell
  /-- The number of the event in its competition. -/
  eventNumber : Cell
  /-- Which part of the ice it is held on. -/
  splitIce : Cell
  /-- When it is held. -/
  timeSlot : Cell
  /-- When the row was made. -/
  createdAt : Cell
deriving DecidableEq, Repr

/-- A skater. -/
structure SkaterRow where
  /-- The skater's id. -/
  id : Cell
  /-- The first name. -/
  firstName : Cell
  /-- The last name. -/
  lastName : Cell
  /-- The address. -/
  email : Cell
  /-- When the row was made. -/
  createdAt : Cell
deriving DecidableEq, Repr

/-- A family. -/
structure FamilyRow where
  /-- The family's id. -/
  id : Cell
  /-- What stands in place of a first name. -/
  firstName : Cell
  /-- The last name. -/
  lastName : Cell
  /-- The address. -/
  email : Cell
  /-- When the row was made. -/
  createdAt : Cell
deriving DecidableEq, Repr

/-- A skater's part in an event. -/
structure RelationRow where
  /-- The relation's id. -/
  id : Cell
  /-- The skater's id. -/
  inId : Cell
  /-- The event's id. -/
  outId : Cell
  /-- The place in the order of skating. -/
  skateOrder : Cell
  /-- Whether the skater was on the list of requests. -/
  requestStatus : Cell
  /-- The state of the gallery. -/
  galleryStatus : Cell
  /-- The gross amount as written in the requests. -/
  grossAmount : Cell
  /-- The net amount as written in the requests. -/
  netAmount : Cell
  /-- The amount paid. -/
  purchaseAmount : Cell
  /-- When it was paid. -/
  purchaseDate : Cell
  /-- Notes. -/
  notes : Cell
  /-- Where the gallery is. -/
  galleryUrl : Cell
  /-- When the row was made. -/
  createdAt : Cell
deriving DecidableEq, Repr

/-- A skater's place in a family. -/
structure LinkRow where
  /-- The link's id. -/
  id : Cell
  /-- The skater's id. -/
  inId : Cell
  /-- The family's id. -/
  outId : Cell
  /-- When the row was made. -/
  createdAt : Cell
deriving DecidableEq, Repr

/-- An entry of the audit trail. -/
structure AuditRow where
  /-- The number of the row. -/
  id : Int
  /-- The id of what happened. -/
  eventId : Cell
  /-- When it happened. -/
  timestamp : Cell
  /-- What happened. -/
  eventType : Cell
  /-- The kind of thing that it happened to. -/
  entityType : Cell
  /-- The id of the thing. -/
  entityId : Cell
  /-- Details, as JSON text. -/
  data : Cell
  /-- Who did it. -/
  actor : Cell
deriving DecidableEq, Repr

/-- A column of a table. -/
structure Column where
  /-- The name. -/
  name : String
  /-- What the column prefers to store. -/
  affinity : Affinity
  /-- Whether it needs a value. -/
  needed : Bool
  /-- What it holds if nothing is given. -/
  standard : Cell
deriving DecidableEq, Repr

namespace Column

/-- A text column that may lack a value. -/
def text (name : String) : Column := ⟨name, .text, false, .null⟩

/-- A text column that needs a value. -/
def neededText (name : String) : Column := ⟨name, .text, true, .null⟩

/-- An integer column that may lack a value. -/
def integer (name : String) : Column := ⟨name, .integer, false, .null⟩

/-- A number column that may lack a value. -/
def real (name : String) : Column := ⟨name, .real, false, .null⟩

end Column

/-- The shape of a table with rows of a type. -/
structure Shape (ρ : Type) where
  /-- The table. -/
  table : Table
  /-- The columns in order. -/
  columns : List Column
  /-- The cells of a row, in the order of the columns. -/
  cells : ρ → List Cell
  /-- The row of a cell for every column name. -/
  ofCells : (String → Cell) → ρ
  /-- The columns that tell rows apart, in the order in which they are checked. -/
  keys : List (List String)

namespace Shape

/-- The table of competitions. -/
def competitions : Shape CompetitionRow where
  table := .competitions
  columns := [.text "id", .neededText "name", ⟨"venue", .text, true, .text ""⟩,
    .text "start_date", .text "end_date", .neededText "created_at"]
  cells r := [r.id, r.name, r.venue, r.startDate, r.endDate, r.createdAt]
  ofCells c := ⟨c "id", c "name", c "venue", c "start_date", c "end_date", c "created_at"⟩
  keys := [["id"]]

/-- The table of events. -/
def events : Shape EventRow where
  table := .events
  columns := [.text "id", .neededText "competition", ⟨"event_number", .integer, true, .null⟩,
    .text "split_ice", .text "time_slot", .neededText "created_at"]
  cells r := [r.id, r.competition, r.eventNumber, r.splitIce, r.timeSlot, r.createdAt]
  ofCells c := ⟨c "id", c "competition", c "event_number", c "split_ice", c "time_slot",
    c "created_at"⟩
  keys := [["id"]]

/-- The table of skaters. -/
def skaters : Shape SkaterRow where
  table := .skaters
  columns := [.text "id", .neededText "first_name", .neededText "last_name", .text "email",
    .neededText "created_at"]
  cells r := [r.id, r.firstName, r.lastName, r.email, r.createdAt]
  ofCells c := ⟨c "id", c "first_name", c "last_name", c "email", c "created_at"⟩
  keys := [["id"]]

/-- The table of families. -/
def families : Shape FamilyRow where
  table := .families
  columns := [.text "id", ⟨"first_name", .text, true, .text "Family"⟩, .neededText "last_name",
    .text "email", .neededText "created_at"]
  cells r := [r.id, r.firstName, r.lastName, r.email, r.createdAt]
  ofCells c := ⟨c "id", c "first_name", c "last_name", c "email", c "created_at"⟩
  keys := [["id"]]

/-- The table of relations. The same skater and event may be related more than once. -/
def competedIn : Shape RelationRow where
  table := .competedIn
  columns := [.text "id", .neededText "in_id", .neededText "out_id", .integer "skate_order",
    .text "request_status", .text "gallery_status", .real "gross_amount", .real "net_amount",
    .real "purchase_amount", .text "purchase_date", .text "notes", .text "gallery_url",
    .neededText "created_at"]
  cells r := [r.id, r.inId, r.outId, r.skateOrder, r.requestStatus, r.galleryStatus,
    r.grossAmount, r.netAmount, r.purchaseAmount, r.purchaseDate, r.notes, r.galleryUrl,
    r.createdAt]
  ofCells c := ⟨c "id", c "in_id", c "out_id", c "skate_order", c "request_status",
    c "gallery_status", c "gross_amount", c "net_amount", c "purchase_amount", c "purchase_date",
    c "notes", c "gallery_url", c "created_at"⟩
  keys := [["id"]]

/-- The table of links. A skater is linked to a family at most once. -/
def belongsTo : Shape LinkRow where
  table := .belongsTo
  columns := [.text "id", .neededText "in_id", .neededText "out_id", .neededText "created_at"]
  cells r := [r.id, r.inId, r.outId, r.createdAt]
  ofCells c := ⟨c "id", c "in_id", c "out_id", c "created_at"⟩
  keys := [["in_id", "out_id"], ["id"]]

/-- The audit trail; its row number is filled in when nothing is given. -/
def auditLog : Shape AuditRow where
  table := .auditLog
  columns := [.integer "id", .neededText "event_id", .neededText "timestamp",
    .neededText "event_type", .neededText "entity_type", .neededText "entity_id",
    .neededText "data", .neededText "actor"]
  cells r := [.integer r.id, r.eventId, r.timestamp, r.eventType, r.entityType, r.entityId,
    r.data, r.actor]
  ofCells c :=
    { id := match c "id" with
        | .integer n => n
        | _ => 0
      eventId := c "event_id"
      timestamp := c "timestamp"
      eventType := c "event_type"
      entityType := c "entity_type"
      entityId := c "entity_id"
      data := c "data"
      actor := c "actor" }
  keys := [["id"], ["event_id"]]

variable {ρ : Type}

/-- The cells of a row with the names of their columns. -/
def named (shape : Shape ρ) (r : ρ) : List (String × Cell) :=
  (shape.columns.map (·.name)).zip (shape.cells r)

/-- The cell of a row under a column name. -/
def cell (shape : Shape ρ) (name : String) (r : ρ) : Cell :=
  ((shape.named r).lookup name).getD .null

/-- Whether two rows agree in all columns of a key, with values in each of them. -/
def agree (shape : Shape ρ) (key : List String) (a b : ρ) : Bool :=
  key.all fun name => (shape.cell name a).sameValue (shape.cell name b)

/-- The row of some values: the others are the standard ones. -/
def rowOf (shape : Shape ρ) (values : List (String × Cell)) : ρ :=
  shape.ofCells fun name =>
    match shape.columns.find? fun column => column.name == name with
    | none => .null
    | some column => ((values.lookup name).getD column.standard).store column.affinity

/-- Checks that a row may be added to some rows. -/
def check (shape : Shape ρ) (r : ρ) (rows : List ρ) : Except StoreFault Unit :=
  match shape.columns.find? fun column => column.needed && shape.cell column.name r == .null with
  | some column => .error (.missingValue shape.table column.name)
  | none =>
    match shape.keys.find? fun key => rows.any (shape.agree key r) with
    | some key => .error (.notUnique shape.table key)
    | none => .ok ()

/-- Checks that every value belongs to a column. -/
def checkColumns (shape : Shape ρ) (values : List (String × Cell)) : Except StoreFault Unit :=
  match values.find? fun value => !(shape.columns.map (·.name)).contains value.1 with
  | some value => .error (.noSuchColumn shape.table value.1)
  | none => .ok ()

/-- Adds the row of some values to some rows. -/
def insert (shape : Shape ρ) (values : List (String × Cell)) (rows : List ρ) :
    Except StoreFault (List ρ) := do
  shape.checkColumns values
  let r := shape.rowOf values
  shape.check r rows
  .ok (rows ++ [r])

end Shape

end SkaterLedger
