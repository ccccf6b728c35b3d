import Mathlib.Data.String.Basic
import ControlHarness.General.CivilTime
import ControlHarness.General.Fallible
import ControlHarness.General.Table
import ControlHarness.JsonText

/-!
The state manifest (`_normalise` and `state_manifest` of `continuity.py`) over the
tables of `SCHEMA`.

* `TableName`, `Row`, `Database`: the contents that the schema types; a row has its key
  and the cells of the other columns, and a table has each key once.
* `Platform`: what comes from the libraries and the server, with what is relied on: a
  loaded time is the instant that is stored, the texts are collated in a linear order.
* `normalise`, `canonical`, `stateManifest`: the functions of the source. A stored time
  that has no `datetime` raises, and then there is no manifest.
* `SameRows`: the same rows in each table, up to the order of JSON members.
* `canonical_faithful`: the canonical text is the same for the same rows, and for no
  others.
-/

namespace ControlHarness

/-! ### The contents of the database -/

/-- A stored `timestamptz`: microseconds since 1970-01-01 in UTC, or an infinity. -/
inductive Timestamptz where
  | negInfinity
  | finite (microseconds : ℤ)
  | infinity
  deriving DecidableEq, Repr

/-- The types of the columns that are no keys. -/
inductive ColumnType where
  | uuid | text | integer | timestamptz | jsonb
  deriving DecidableEq, Repr

/-- A column. -/
structure Column where
  name : String
  type : ColumnType
  nullable : Bool := false
  deriving DecidableEq, Repr

/-- The value in a column. -/
inductive Cell (F : Type) where
  | null
  | uuid (u : UUID)
  | text (s : String)
  | integer (n : ℤ)
  | timestamptz (t : Timestamptz)
  | jsonb (j : Json F)

/-- The column can have the value. -/
def Column.Admits {F : Type} (c : Column) : Cell F → Prop
  | .null => c.nullable = true
  | .uuid _ => c.type = .uuid
  | .text _ => c.type = .text
  | .integer n => c.type = .integer ∧ -2 ^ 31 ≤ n ∧ n < 2 ^ 31
  | .timestamptz _ => c.type = .timestamptz
  | .jsonb j => c.type = .jsonb ∧ j.Unique

/-- The tables, in the order of `TABLE_KEYS`. -/
inductive TableName where
  | agentTasks | agentEvents | approvals | routingReceipts | circuitBreakers | deadLetters
  | recoveryCards
  deriving DecidableEq, Repr

/-- The types of the primary keys. -/
inductive KeyType where
  | uuid | bigserial | text
  deriving DecidableEq, Repr

/-- The values of a primary key. -/
def KeyType.Value : KeyType → Type
  | uuid => UUID
  | bigserial => ℤ
  | text => String

namespace TableName

/-- All tables. -/
def all : List TableName :=
  [agentTasks, agentEvents, approvals, routingReceipts, circuitBreakers, deadLetters,
    recoveryCards]

/-- The name of the table. -/
def name : TableName → String
  | agentTasks => "agent_tasks"
  | agentEvents => "agent_events"
  | approvals => "approvals"
  | routingReceipts => "routing_receipts"
  | circuitBreakers => "circuit_breakers"
  | deadLetters => "dead_letters"
  | recoveryCards => "recovery_cards"

/-- `TABLE_KEYS`: the column of the primary key. -/
def key : TableName → String
  | agentTasks => "task_id"
  | agentEvents => "event_id"
  | approvals => "approval_id"
  | routingReceipts => "receipt_id"
  | circuitBreakers => "circuit_key"
  | deadLetters => "dead_letter_id"
  | recoveryCards => "recovery_id"

/-- The type of the primary key. -/
def keyType : TableName → KeyType
  | agentTasks | approvals | recoveryCards => .uuid
  | agentEvents | routingReceipts | deadLetters => .bigserial
  | circuitBreakers => .text

/-- `SCHEMA`: the other columns. -/
def columns : TableName → List Column
  | agentTasks =>
      [⟨"correlation_id", .uuid, false⟩, ⟨"title", .text, false⟩, ⟨"project", .text, false⟩,
        ⟨"owner_role", .text, false⟩, ⟨"status", .text, false⟩, ⟨"card", .jsonb, false⟩,
        ⟨"idempotency_key", .text, false⟩, ⟨"approval_required", .jsonb, false⟩,
        ⟨"owner_instance", .text, true⟩, ⟨"claimed_at", .timestamptz, true⟩,
        ⟨"heartbeat_at", .timestamptz, true⟩, ⟨"lease_expires_at", .timestamptz, true⟩,
        ⟨"attempt_count", .integer, false⟩, ⟨"created_at", .timestamptz, false⟩,
        ⟨"next_attempt_at", .timestamptz, true⟩, ⟨"last_failure_class", .text, true⟩,
        ⟨"circuit_key", .text, true⟩]
  | agentEvents =>
      [⟨"task_id", .uuid, false⟩, ⟨"correlation_id", .uuid, false⟩, ⟨"event_type", .text, false⟩,
        ⟨"payload", .jsonb, false⟩, ⟨"created_at", .timestamptz, false⟩]
  | approvals =>
      [⟨"task_id", .uuid, false⟩, ⟨"action", .text, false⟩, ⟨"requested_by", .text, false⟩,
        ⟨"status", .text, false⟩, ⟨"decided_by", .text, true⟩, ⟨"reason", .text, false⟩,
        ⟨"decided_at", .timestamptz, true⟩, ⟨"created_at", .timestamptz, false⟩]
  | routingReceipts =>
      [⟨"task_id", .uuid, false⟩, ⟨"worker_instance", .text, false⟩, ⟨"outcome", .text, false⟩,
        ⟨"receipt", .jsonb, false⟩, ⟨"created_at", .timestamptz, false⟩]
  | circuitBreakers =>
      [⟨"state", .text, false⟩, ⟨"failure_count", .integer, false⟩,
        ⟨"failure_threshold", .integer, false⟩, ⟨"opened_at", .timestamptz, true⟩,
        ⟨"open_until", .timestamptz, true⟩, ⟨"last_failure_class", .text, true⟩,
        ⟨"updated_at", .timestamptz, false⟩]
  | deadLetters =>
      [⟨"task_id", .uuid, false⟩, ⟨"correlation_id", .uuid, false⟩, ⟨"failure_class", .text, false⟩,
        ⟨"reason", .text, false⟩, ⟨"payload", .jsonb, false⟩, ⟨"created_at", .timestamptz, false⟩,
        ⟨"resolved_at", .timestamptz, true⟩]
  | recoveryCards =>
      [⟨"task_id", .uuid, false⟩, ⟨"correlation_id", .uuid, false⟩, ⟨"trigger", .text, false⟩,
        ⟨"reason", .text, false⟩, ⟨"allowed_actions", .jsonb, false⟩, ⟨"status", .text, false⟩,
        ⟨"created_at", .timestamptz, false⟩, ⟨"resolved_at", .timestamptz, true⟩]

lemma mem_all (t : TableName) : t ∈ all := by
  cases t <;> decide

lemma names_nodup : (all.map name).Nodup := by decide

lemma name_injective : Function.Injective name := by
  intro t t' h
  exact List.inj_on_of_nodup_map names_nodup t.mem_all t'.mem_all h

/-- No column is named twice in a table. -/
lemma columns_nodup (t : TableName) : (t.key :: t.columns.map Column.name).Nodup := by
  cases t <;> decide

/-- No JSON column can be `NULL`, which would read as the JSON `null`. -/
lemma jsonb_not_null (t : TableName) :
    ∀ c ∈ t.columns, c.type = .jsonb → c.nullable = false := by
  cases t <;> decide

end TableName

/-- A row of the table. -/
structure Row (F : Type) (t : TableName) where
  key : t.keyType.Value
  cells : List (Cell F)
  typed : List.Forall₂ Column.Admits t.columns cells

/-- The contents of a database. -/
abbrev Database (F : Type) := (t : TableName) → Table fun r : Row F t => r.key

/-! ### The functions of the source -/

/-- What comes from the libraries and the server: floating-point and decimal numbers
with their texts, the `datetime` that is loaded for a stored time in the time zone of the
session, and the collation of texts. -/
structure Platform where
  Float : Type
  Decimal : Type
  floatText : FloatText Float
  strDecimal : Decimal → String
  load : Timestamptz → Option CivilTime
  collate : String → String → Bool
  load_instant : ∀ t d, load t = some d → t = .finite d.instant
  collate_total : ∀ a b, collate a b = true ∨ collate b a = true
  collate_trans : ∀ a b c, collate a b = true → collate b c = true → collate a c = true
  collate_antisymm : ∀ a b, collate a b = true → collate b a = true → a = b

/-- The Python values that are no lists and no dictionaries. -/
inductive PyLeaf (P : Platform) where
  | none
  | bool (b : Bool)
  | int (n : ℤ)
  | float (x : P.Float)
  | str (s : String)
  | uuid (u : UUID)
  | datetime (d : CivilTime)
  | decimal (x : P.Decimal)
  | bytes (b : List UInt8)

/-- A Python value. -/
abbrev PyValue (P : Platform) := KeyedTree String (PyLeaf P)

variable (P : Platform)

/-- The leaf of a JSON value as `json.loads` gives it. -/
def loadScalar : Scalar P.Float → PyLeaf P
  | .null => .none
  | .bool b => .bool b
  | .int n => .int n
  | .float x => .float x
  | .str s => .str s

/-- The value that is fetched for a cell. -/
def Cell.load : Cell P.Float → Option (PyValue P)
  | .null => some (.leaf .none)
  | .uuid u => some (.leaf (.uuid u))
  | .text s => some (.leaf (.str s))
  | .integer n => some (.leaf (.int n))
  | .timestamptz t => (P.load t).map fun d => .leaf (.datetime d)
  | .jsonb j => some (j.map (loadScalar P))

/-- The value that is fetched for a key. -/
def KeyType.load : (k : KeyType) → k.Value → PyLeaf P
  | uuid, u => .uuid u
  | bigserial, n => .int n
  | text, s => .str s

/-- The order of the keys in `ORDER BY`. -/
def KeyType.le : (k : KeyType) → k.Value → k.Value → Bool
  | uuid => fun (u v : UUID) => u.bits ≤ v.bits
  | bigserial => fun (n m : ℤ) => n ≤ m
  | text => P.collate

/-- `dict(row)`. -/
def Row.dict {t : TableName} (r : Row P.Float t) : Option (PyValue P) := do
  let values ← r.cells.mapM (Cell.load P)
  return .dict ((t.key, .leaf (t.keyType.load P r.key)) :: (t.columns.map Column.name).zip values)

/-- `_normalise` on the values that are no lists and no dictionaries. -/
def normaliseLeaf : PyLeaf P → Scalar P.Float
  | .none => .null
  | .bool b => .bool b
  | .int n => .int n
  | .float x => .float x
  | .str s => .str s
  | .uuid u => .str u.str
  | .datetime d => .str d.str
  | .decimal x => .str (P.strDecimal x)
  | .bytes b => .str (String.ofList (b.flatMap fun c => UUID.hexDigits 2 c.toNat))

/-- `_normalise`. It sorts the members of a dictionary before their values are normalised,
which comes to the same, since the keys stay. -/
def normalise : PyValue P → Json P.Float := KeyedTree.mapSorted (normaliseLeaf P)

/-- `SELECT * FROM table ORDER BY key`. -/
def ordered {t : TableName} (rows : List (Row P.Float t)) : List (Row P.Float t) :=
  rows.insertionSort fun r r' => t.keyType.le P r.key r'.key = true

/-- The entry of a table in the payload. -/
def tablePayload (db : Database P.Float) (t : TableName) : Option (String × Json P.Float) := do
  let rows ← (ordered P (db t).rows).mapM fun r => (r.dict P).map (normalise P)
  return (t.name, .list rows)

/-- The canonical text. -/
def canonical (db : Database P.Float) : Option String := do
  let payload ← TableName.all.mapM (tablePayload P db)
  -- `sort_keys=True`
  return String.ofList (jsonText P.floatText (KeyedTree.mapSorted id (.dict payload)))

/-- The manifest. -/
structure StateManifest where
  schemaVersion : ℕ := 1
  database : String
  sha256 : String
  counts : List (String × ℕ)
  maxEventId : ℤ
  deriving DecidableEq, Repr

/-- `state_manifest`, on the database of the name. -/
def stateManifest (sha256 : String → String) (database : String) (db : Database P.Float) :
    Option StateManifest := do
  let text ← canonical P db
  return {
    database
    sha256 := sha256 text
    counts := TableName.all.map fun t => (t.name, (db t).rows.length)
    maxEventId := ((db .agentEvents).rows.map fun r => (r.key : ℤ)).max?.getD 0 }

lemma canonical_eq (db : Database P.Float) :
    canonical P db = ((TableName.all.mapM (tablePayload P db)).map fun payload =>
      jsonText P.floatText (KeyedTree.mapSorted id (.dict payload))).map String.ofList := by
  rw [canonical]
  cases TableName.all.mapM (tablePayload P db) <;> rfl

/-! ### The same contents -/

/-- The same cell, up to the order of JSON members. -/
inductive Cell.Same {F : Type} : Cell F → Cell F → Prop
  | refl (c : Cell F) : Same c c
  | jsonb {j j' : Json F} : j.Same j' → Same (.jsonb j) (.jsonb j')

/-- The same row, up to the order of JSON members. -/
structure Row.Same {F : Type} {t : TableName} (r r' : Row F t) : Prop where
  key : r.key = r'.key
  cells : List.Forall₂ Cell.Same r.cells r'.cells

/-- **The same rows** in every table. -/
def SameRows {F : Type} (db db' : Database F) : Prop :=
  ∀ t, (∀ r ∈ (db t).rows, ∃ r' ∈ (db' t).rows, r.Same r') ∧
    ∀ r' ∈ (db' t).rows, ∃ r ∈ (db t).rows, r.Same r'

/-! ### Cells -/

variable {P}

/-- The value that the payload has for a cell. -/
def Cell.normal (c : Cell P.Float) : Option (Json P.Float) := (c.load P).map (normalise P)

/-- A loaded JSON value is normalised by sorting it. -/
lemma normalise_map_loadScalar (j : Json P.Float) :
    normalise P (j.map (loadScalar P)) = KeyedTree.mapSorted id j := by
  have hleaf : normaliseLeaf P ∘ loadScalar P = id := by
    funext l
    cases l <;> rfl
  rw [normalise, KeyedTree.mapSorted_map, hleaf]

lemma normalise_leaf (l : PyLeaf P) : normalise P (.leaf l) = .leaf (normaliseLeaf P l) :=
  KeyedTree.mapSorted_leaf _ l

@[simp] lemma Cell.normal_null : (Cell.null : Cell P.Float).normal = some (.leaf .null) :=
  congrArg some (normalise_leaf _)

@[simp] lemma Cell.normal_uuid (u : UUID) :
    (Cell.uuid u : Cell P.Float).normal = some (.leaf (.str u.str)) :=
  congrArg some (normalise_leaf _)

@[simp] lemma Cell.normal_text (s : String) :
    (Cell.text s : Cell P.Float).normal = some (.leaf (.str s)) :=
  congrArg some (normalise_leaf _)

@[simp] lemma Cell.normal_integer (n : ℤ) :
    (Cell.integer n : Cell P.Float).normal = some (.leaf (.int n)) :=
  congrArg some (normalise_leaf _)

lemma Cell.normal_jsonb (j : Json P.Float) :
    (Cell.jsonb j).normal = some (KeyedTree.mapSorted id j) :=
  congrArg some (normalise_map_loadScalar j)

/-- The same cell has the same value. -/
lemma Cell.Same.normal_eq {col : Column} {c c' : Cell P.Float} (h : c.Same c')
    (hc : col.Admits c) : c.normal = c'.normal := by
  cases h with
  | refl => rfl
  | jsonb hj =>
      rw [Cell.normal_jsonb, Cell.normal_jsonb,
        (KeyedTree.mapSorted_eq_iff Function.injective_id hc.2).mpr hj]

/-- What a column can have, by its type. -/
lemma Column.Admits.cases {F : Type} {col : Column} {c : Cell F} (h : col.Admits c) :
    c = .null ∧ col.nullable = true ∨
      match col.type with
      | .uuid => ∃ u, c = .uuid u
      | .text => ∃ s, c = .text s
      | .integer => ∃ n, c = .integer n
      | .timestamptz => ∃ t, c = .timestamptz t
      | .jsonb => ∃ j, c = .jsonb j := by
  cases c with
  | null => exact Or.inl ⟨rfl, h⟩
  | uuid u => exact Or.inr (by rw [show col.type = .uuid from h]; exact ⟨u, rfl⟩)
  | text s => exact Or.inr (by rw [show col.type = .text from h]; exact ⟨s, rfl⟩)
  | integer n => exact Or.inr (by rw [h.1]; exact ⟨n, rfl⟩)
  | timestamptz t => exact Or.inr (by rw [show col.type = .timestamptz from h]; exact ⟨t, rfl⟩)
  | jsonb j => exact Or.inr (by rw [h.1]; exact ⟨j, rfl⟩)

lemma Cell.normal_timestamptz {t : Timestamptz} {x : Json P.Float}
    (h : (Cell.timestamptz t).normal = some x) :
    ∃ d, P.load t = some d ∧ x = .leaf (.str d.str) := by
  obtain ⟨v, hload, rfl⟩ := Option.map_eq_some_iff.mp h
  obtain ⟨d, hd, rfl⟩ := Option.map_eq_some_iff.mp hload
  exact ⟨d, hd, normalise_leaf _⟩

/-- A value that a nullable column has beside `NULL` does not read as `null`. -/
lemma Column.Admits.normal_ne_null {col : Column} {c : Cell P.Float} (hc : col.Admits c)
    (hne : c ≠ .null) (hjsonb : col.type = .jsonb → col.nullable = false)
    (hnullable : col.nullable = true) : c.normal ≠ some (.leaf .null) := by
  intro h
  cases c with
  | null => exact hne rfl
  | uuid u => simp at h
  | text s => simp at h
  | integer n => simp at h
  | timestamptz t =>
      obtain ⟨d, -, hd⟩ := Cell.normal_timestamptz h
      cases hd
  | jsonb j =>
      rw [hjsonb hc.1] at hnullable
      exact Bool.false_ne_true hnullable

/-- Two values of one type, other than `NULL`, are the same when they read the same. -/
lemma Cell.same_of_normal_eq_of_ne_null {col : Column} {c c' : Cell P.Float} {x : Json P.Float}
    (hc : col.Admits c) (hc' : col.Admits c') (hne : c ≠ .null) (hne' : c' ≠ .null)
    (hx : c.normal = some x) (hx' : c'.normal = some x) : c.Same c' := by
  have hvalue := hc.cases.resolve_left fun h => hne h.1
  have hvalue' := hc'.cases.resolve_left fun h => hne' h.1
  have hxx := hx.trans hx'.symm
  cases htype : col.type with
  | uuid =>
      rw [htype] at hvalue hvalue'
      obtain ⟨u, rfl⟩ := hvalue
      obtain ⟨u', rfl⟩ := hvalue'
      simp only [normal_uuid, Option.some.injEq, KeyedTree.leaf.injEq, Scalar.str.injEq] at hxx
      rw [UUID.str_injective hxx]
      exact Cell.Same.refl _
  | text =>
      rw [htype] at hvalue hvalue'
      obtain ⟨s, rfl⟩ := hvalue
      obtain ⟨s', rfl⟩ := hvalue'
      simp only [normal_text, Option.some.injEq, KeyedTree.leaf.injEq, Scalar.str.injEq] at hxx
      rw [hxx]
      exact Cell.Same.refl _
  | integer =>
      rw [htype] at hvalue hvalue'
      obtain ⟨n, rfl⟩ := hvalue
      obtain ⟨n', rfl⟩ := hvalue'
      simp only [normal_integer, Option.some.injEq, KeyedTree.leaf.injEq, Scalar.int.injEq] at hxx
      rw [hxx]
      exact Cell.Same.refl _
  | timestamptz =>
      rw [htype] at hvalue hvalue'
      obtain ⟨t, rfl⟩ := hvalue
      obtain ⟨t', rfl⟩ := hvalue'
      obtain ⟨d, hd, rfl⟩ := Cell.normal_timestamptz hx
      obtain ⟨d', hd', hstr⟩ := Cell.normal_timestamptz hx'
      obtain rfl := CivilTime.str_injective (Scalar.str.inj (KeyedTree.leaf.inj hstr))
      rw [P.load_instant t d hd, P.load_instant t' d hd']
      exact Cell.Same.refl _
  | jsonb =>
      rw [htype] at hvalue hvalue'
      obtain ⟨j, rfl⟩ := hvalue
      obtain ⟨j', rfl⟩ := hvalue'
      rw [Cell.normal_jsonb, Cell.normal_jsonb] at hxx
      exact Cell.Same.jsonb
        ((KeyedTree.mapSorted_eq_iff Function.injective_id hc.2).mp (Option.some.inj hxx))

/-- **Values of one column are the same** when they read the same. -/
lemma Cell.same_of_normal_eq {col : Column} {c c' : Cell P.Float} {x : Json P.Float}
    (hc : col.Admits c) (hc' : col.Admits c') (hjsonb : col.type = .jsonb → col.nullable = false)
    (hx : c.normal = some x) (hx' : c'.normal = some x) : c.Same c' := by
  by_cases hne : c = .null
  · subst hne
    by_cases hne' : c' = .null
    · subst hne'
      exact Cell.Same.refl _
    · rw [normal_null] at hx
      exact absurd (hx'.trans hx.symm) (hc'.normal_ne_null hne' hjsonb hc)
  · by_cases hne' : c' = .null
    · subst hne'
      rw [normal_null] at hx'
      exact absurd (hx.trans hx'.symm) (hc.normal_ne_null hne hjsonb hc')
    · exact Cell.same_of_normal_eq_of_ne_null hc hc' hne hne' hx hx'

/-- The same cells have the same values. -/
lemma mapM_normal_eq {cols : List Column} {cells cells' : List (Cell P.Float)}
    (htyped : List.Forall₂ Column.Admits cols cells) (h : List.Forall₂ Cell.Same cells cells') :
    cells.mapM Cell.normal = cells'.mapM Cell.normal := by
  induction h generalizing cols with
  | nil => rfl
  | cons hsame _ ih =>
      cases htyped with
      | cons hadmits hrest =>
          rw [List.mapM_cons, List.mapM_cons, hsame.normal_eq hadmits, ih hrest]

/-- Cells with the same values are the same. -/
lemma same_of_mapM_normal_eq {cols : List Column} {cells cells' : List (Cell P.Float)}
    {values : List (Json P.Float)} (htyped : List.Forall₂ Column.Admits cols cells)
    (htyped' : List.Forall₂ Column.Admits cols cells')
    (hjsonb : ∀ c ∈ cols, c.type = .jsonb → c.nullable = false)
    (hvalues : List.Forall₂ (fun c x => c.normal = some x) cells values)
    (hvalues' : List.Forall₂ (fun c x => c.normal = some x) cells' values) :
    List.Forall₂ Cell.Same cells cells' := by
  induction htyped generalizing cells' values with
  | nil =>
      cases htyped'
      exact List.Forall₂.nil
  | @cons col c cols cells hadmits _ ih =>
      cases htyped' with
      | cons hadmits' htyped' =>
          cases hvalues with
          | cons hx hvalues =>
              cases hvalues' with
              | cons hx' hvalues' =>
                  obtain ⟨hcol, hcols⟩ := List.forall_mem_cons.mp hjsonb
                  exact List.Forall₂.cons (Cell.same_of_normal_eq hadmits hadmits' hcol hx hx')
                    (ih htyped' hcols hvalues hvalues')

/-! ### Rows -/

variable {t : TableName}

/-- The value that the payload has for a row. -/
def Row.normal (r : Row P.Float t) : Option (Json P.Float) := (r.dict P).map (normalise P)

/-- The members of a row in the payload, before they are sorted. -/
def members (t : TableName) (key : PyLeaf P) (values : List (Json P.Float)) :
    List (String × Json P.Float) :=
  (t.key, .leaf (normaliseLeaf P key)) :: (t.columns.map Column.name).zip values

lemma normalise_dict (key : PyLeaf P) (values : List (PyValue P)) :
    normalise P (.dict ((t.key, .leaf key) :: (t.columns.map Column.name).zip values)) =
      .dict (KeyedTree.sortMembers (members t key (values.map (normalise P)))) := by
  have hzip : ((t.columns.map Column.name).zip values).map
      (fun m => (m.1, KeyedTree.mapSorted (normaliseLeaf P) m.2)) =
      (t.columns.map Column.name).zip (values.map (normalise P)) :=
    List.zip_map_right.symm
  rw [normalise, KeyedTree.mapSorted_dict, List.map_cons, KeyedTree.mapSorted_leaf, hzip]
  rfl

/-- A row is read by its key and its cells. -/
lemma Row.normal_eq (r : Row P.Float t) :
    r.normal = (r.cells.mapM Cell.normal).map fun values =>
      .dict (KeyedTree.sortMembers (members t (t.keyType.load P r.key) values)) := by
  have hcells : r.cells.mapM Cell.normal =
      (r.cells.mapM (Cell.load P)).map (List.map (normalise P)) := (List.map_mapM r.cells).symm
  rw [Row.normal, Row.dict, hcells]
  cases r.cells.mapM (Cell.load P) with
  | none => rfl
  | some values => exact congrArg some (normalise_dict _ values)

/-- The same row has the same value. -/
lemma Row.Same.normal_eq {r r' : Row P.Float t} (h : r.Same r') : r.normal = r'.normal := by
  rw [Row.normal_eq, Row.normal_eq, mapM_normal_eq r.typed h.cells, h.key]

/-- The key of a row is in its value. -/
lemma KeyType.load_inj {k : KeyType} {v v' : k.Value}
    (h : normaliseLeaf P (k.load P v) = normaliseLeaf P (k.load P v')) : v = v' := by
  cases k with
  | uuid => exact UUID.str_injective (Scalar.str.inj h)
  | bigserial => exact Scalar.int.inj h
  | text => exact Scalar.str.inj h

/-- The keys of the members are the key column and the columns. -/
lemma map_fst_members (key : PyLeaf P) {values : List (Json P.Float)}
    (hlength : values.length = t.columns.length) :
    (members t key values).map Prod.fst = t.key :: t.columns.map Column.name := by
  rw [members, List.map_cons, List.map_fst_zip (by rw [List.length_map, hlength])]

/-- **Rows with one value are the same.** -/
lemma Row.same_of_normal_eq {r r' : Row P.Float t} {x : Json P.Float} (hx : r.normal = some x)
    (hx' : r'.normal = some x) : r.Same r' := by
  rw [Row.normal_eq] at hx hx'
  obtain ⟨values, hvalues, rfl⟩ := Option.map_eq_some_iff.mp hx
  obtain ⟨values', hvalues', hdict⟩ := Option.map_eq_some_iff.mp hx'
  have hcells := List.mapM_eq_some.mp hvalues
  have hcells' := List.mapM_eq_some.mp hvalues'
  have hlength : values.length = t.columns.length := by
    rw [← hcells.length_eq, r.typed.length_eq]
  have hlength' : values'.length = t.columns.length := by
    rw [← hcells'.length_eq, r'.typed.length_eq]
  have hkeys := map_fst_members (t.keyType.load P r.key) hlength
  have hkeys' := map_fst_members (t.keyType.load P r'.key) hlength'
  have hperm : (members t (t.keyType.load P r.key) values).Perm
      (members t (t.keyType.load P r'.key) values') :=
    (KeyedTree.sortMembers_perm _).symm.trans
      (KeyedTree.dict.inj hdict ▸ KeyedTree.sortMembers_perm _)
  have hnodup := hkeys ▸ t.columns_nodup
  have hmembers := List.eq_of_perm_of_keys (hkeys.trans hkeys'.symm) hnodup hperm
  obtain ⟨hkey, hzip⟩ := List.cons.inj hmembers
  have hvalues_eq : values = values' := by
    have hsnd := congrArg (List.map Prod.snd) hzip
    rwa [List.map_snd_zip (by rw [List.length_map, hlength]),
      List.map_snd_zip (by rw [List.length_map, hlength'])] at hsnd
  subst hvalues_eq
  exact ⟨KeyType.load_inj (KeyedTree.leaf.inj (Prod.mk.inj hkey).2),
    same_of_mapM_normal_eq r.typed r'.typed t.jsonb_not_null hcells hcells'⟩

/-! ### Tables -/

instance (k : KeyType) : Std.Total fun v v' : k.Value => k.le P v v' = true := by
  refine ⟨fun v v' => ?_⟩
  cases k with
  | uuid =>
      simp only [KeyType.le, decide_eq_true_eq, BitVec.le_def]
      omega
  | bigserial =>
      simp only [KeyType.le, decide_eq_true_eq]
      exact Int.le_total v v'
  | text => exact P.collate_total v v'

instance (k : KeyType) : IsTrans k.Value fun v v' => k.le P v v' = true := by
  refine ⟨fun v v' v'' h h' => ?_⟩
  cases k with
  | uuid =>
      simp only [KeyType.le, decide_eq_true_eq, BitVec.le_def] at h h' ⊢
      omega
  | bigserial =>
      simp only [KeyType.le, decide_eq_true_eq] at h h' ⊢
      exact Int.le_trans h h'
  | text => exact P.collate_trans v v' v'' h h'

instance (k : KeyType) : Std.Antisymm fun v v' : k.Value => k.le P v v' = true := by
  refine ⟨fun v v' h h' => ?_⟩
  cases k with
  | uuid =>
      simp only [KeyType.le, decide_eq_true_eq, BitVec.le_def] at h h'
      have hbits : UUID.bits v = UUID.bits v' := BitVec.eq_of_toNat_eq (Nat.le_antisymm h h')
      exact congrArg UUID.mk hbits
  | bigserial =>
      simp only [KeyType.le, decide_eq_true_eq] at h h'
      exact Int.le_antisymm h h'
  | text => exact P.collate_antisymm v v' h h'

/-- **The ordered rows read the same** for the same rows in any physical order. -/
lemma map_ordered_eq {T T' : Table fun r : Row P.Float t => r.key}
    (h : ∀ r ∈ T.rows, ∃ r' ∈ T'.rows, r.Same r') (h' : ∀ r' ∈ T'.rows, ∃ r ∈ T.rows, r.Same r') :
    (ordered P T.rows).map Row.normal = (ordered P T'.rows).map Row.normal := by
  refine List.map_insertionSort_eq_of_keys (fun v v' => t.keyType.le P v v' = true) T.nodup T'.nodup
    fun x => ?_
  rw [List.mem_map, List.mem_map]
  constructor
  · rintro ⟨r, hr, rfl⟩
    obtain ⟨r', hr', hsame⟩ := h r hr
    exact ⟨r', hr', by rw [hsame.key, hsame.normal_eq]⟩
  · rintro ⟨r', hr', rfl⟩
    obtain ⟨r, hr, hsame⟩ := h' r' hr'
    exact ⟨r, hr, by rw [hsame.key, hsame.normal_eq]⟩

lemma mem_ordered {rows : List (Row P.Float t)} {r : Row P.Float t} :
    r ∈ ordered P rows ↔ r ∈ rows := List.mem_insertionSort _

lemma tablePayload_eq_some {db : Database P.Float} {m : String × Json P.Float} :
    tablePayload P db t = some m ↔
      ∃ rows, (ordered P (db t).rows).mapM Row.normal = some rows ∧ m = (t.name, .list rows) := by
  constructor
  · intro h
    obtain ⟨rows, hrows, hm⟩ := Option.bind_eq_some_iff.mp h
    exact ⟨rows, hrows, (Option.some.inj hm).symm⟩
  · rintro ⟨rows, hrows, rfl⟩
    exact Option.bind_eq_some_iff.mpr ⟨rows, hrows, rfl⟩

/-- A value of a row is sorted. -/
lemma Row.mapSorted_normal {r : Row P.Float t} {x : Json P.Float} (h : r.normal = some x) :
    KeyedTree.mapSorted id x = x := by
  obtain ⟨v, -, rfl⟩ := Option.map_eq_some_iff.mp h
  rw [normalise, KeyedTree.mapSorted_mapSorted, Function.id_comp]

/-- Lists of values of rows are equal when their sorted images are. -/
lemma rows_eq_of_mapSorted {rs rs' : List (Row P.Float t)} {rows rows' : List (Json P.Float)}
    (hrows : rs.mapM Row.normal = some rows) (hrows' : rs'.mapM Row.normal = some rows')
    (h : KeyedTree.mapSorted id (.list rows : Json P.Float) =
      KeyedTree.mapSorted id (.list rows')) :
    rows = rows' := by
  have hsorted : ∀ {rs : List (Row P.Float t)} {rows : List (Json P.Float)},
      rs.mapM Row.normal = some rows → rows.map (KeyedTree.mapSorted id) = rows := by
    intro rs rows hrows
    conv_rhs => rw [← List.map_id rows]
    refine List.map_congr_left fun x hx => ?_
    obtain ⟨r, -, hr⟩ := List.exists_of_mem_mapM hrows hx
    exact Row.mapSorted_normal hr
  rw [KeyedTree.mapSorted_list, KeyedTree.mapSorted_list, hsorted hrows, hsorted hrows'] at h
  exact KeyedTree.list.inj h

/-- The keys of a payload are the names of the tables. -/
lemma map_fst_payload {db : Database P.Float} {payload : List (String × Json P.Float)}
    (h : TableName.all.mapM (tablePayload P db) = some payload) :
    payload.map Prod.fst = TableName.all.map TableName.name := by
  have hnames : List.Forall₂ (fun (t : TableName) m => m.1 = t.name) TableName.all payload :=
    (List.mapM_eq_some.mp h).imp fun t m hm => by
      obtain ⟨rows, -, rfl⟩ := tablePayload_eq_some.mp hm
      rfl
  rw [← List.forall₂_eq_eq_eq, List.forall₂_map_left_iff, List.forall₂_map_right_iff]
  exact hnames.flip

/-- The values of each table are equal under one canonical text. -/
lemma rows_eq_of_canonical {db db' : Database P.Float} {text : String}
    (h : canonical P db = some text) (h' : canonical P db' = some text) (t : TableName) :
    ∃ rows, (ordered P (db t).rows).mapM Row.normal = some rows ∧
      (ordered P (db' t).rows).mapM Row.normal = some rows := by
  obtain ⟨payload, hpayload, htext⟩ := Option.bind_eq_some_iff.mp h
  obtain ⟨payload', hpayload', htext'⟩ := Option.bind_eq_some_iff.mp h'
  have hjson := jsonText_injective P.floatText
    (String.ofList_injective (Option.some.inj (htext.trans htext'.symm)))
  have hkeys := map_fst_payload hpayload
  have hkeys' := map_fst_payload hpayload'
  have hmap := KeyedTree.map_eq_of_mapSorted_dict_eq (hkeys.trans hkeys'.symm)
    (hkeys ▸ TableName.names_nodup) hjson
  obtain ⟨m, hm, htable⟩ := List.exists_of_mapM hpayload t.mem_all
  have hmem := hmap ▸ List.mem_map_of_mem hm
  obtain ⟨m', hm', himage⟩ := List.mem_map.mp hmem
  obtain ⟨t', -, htable'⟩ := List.exists_of_mem_mapM hpayload' hm'
  obtain ⟨rows, hrows, rfl⟩ := tablePayload_eq_some.mp htable
  obtain ⟨rows', hrows', rfl⟩ := tablePayload_eq_some.mp htable'
  obtain ⟨hname, hlist⟩ := Prod.mk.inj himage
  obtain rfl := TableName.name_injective hname
  exact ⟨rows, hrows, rows_eq_of_mapSorted hrows' hrows hlist ▸ hrows'⟩

/-! ### The law -/

/-- The same rows have one canonical text. -/
lemma SameRows.canonical_eq {db db' : Database P.Float} (h : SameRows db db') :
    canonical P db = canonical P db' := by
  have htable : tablePayload P db = tablePayload P db' := by
    funext t
    have hordered := congrArg (List.mapM id) (map_ordered_eq (h t).1 (h t).2)
    rw [List.mapM_map, List.mapM_map, Function.id_comp] at hordered
    change (List.mapM Row.normal _ >>= _) = (List.mapM Row.normal _ >>= _)
    rw [hordered]
  rw [canonical, canonical, htable]

/-- Of two tables that read the same, each has the rows of the other. -/
lemma exists_same_row {rs rs' : List (Row P.Float t)} {rows : List (Json P.Float)}
    (hrows : (ordered P rs).mapM Row.normal = some rows)
    (hrows' : (ordered P rs').mapM Row.normal = some rows) {r : Row P.Float t} (hr : r ∈ rs) :
    ∃ r' ∈ rs', r.Same r' ∧ r'.Same r := by
  obtain ⟨x, hx, hnormal⟩ := List.exists_of_mapM hrows (mem_ordered.mpr hr)
  obtain ⟨r', hr', hnormal'⟩ := List.exists_of_mem_mapM hrows' hx
  exact ⟨r', mem_ordered.mp hr', Row.same_of_normal_eq hnormal hnormal',
    Row.same_of_normal_eq hnormal' hnormal⟩

/-- One canonical text comes from the same rows. -/
lemma sameRows_of_canonical {db db' : Database P.Float} {text : String}
    (h : canonical P db = some text) (h' : canonical P db' = some text) : SameRows db db' := by
  intro t
  obtain ⟨rows, hrows, hrows'⟩ := rows_eq_of_canonical h h' t
  constructor
  · intro r hr
    obtain ⟨r', hr', hsame, -⟩ := exists_same_row hrows hrows' hr
    exact ⟨r', hr', hsame⟩
  · intro r' hr'
    obtain ⟨r, hr, -, hsame⟩ := exists_same_row hrows' hrows hr'
    exact ⟨r, hr, hsame⟩

/-- **The manifest is faithful.** The canonical text depends on the rows of each table
alone, not on their physical order or on the order of JSON members; one text comes from
the same rows in all tables; so do equal digests of two texts that SHA-256 tells apart. -/
theorem canonical_faithful (P : Platform) (db db' : Database P.Float) :
    (SameRows db db' → canonical P db = canonical P db') ∧
      (∀ text, canonical P db = some text → canonical P db' = some text → SameRows db db') ∧
      ∀ (sha256 : String → String) (name name' : String) (m m' : StateManifest),
        (∀ text text', canonical P db = some text → canonical P db' = some text' →
          sha256 text = sha256 text' → text = text') →
        stateManifest P sha256 name db = some m → stateManifest P sha256 name' db' = some m' →
        m.sha256 = m'.sha256 → SameRows db db' := by
  refine ⟨SameRows.canonical_eq, fun text => sameRows_of_canonical, ?_⟩
  intro sha256 name name' m m' hfree hm hm' hdigest
  obtain ⟨text, htext, hmanifest⟩ := Option.bind_eq_some_iff.mp hm
  obtain ⟨text', htext', hmanifest'⟩ := Option.bind_eq_some_iff.mp hm'
  obtain rfl := Option.some.inj hmanifest
  obtain rfl := Option.some.inj hmanifest'
  obtain rfl := hfree text text' htext htext' hdigest
  exact sameRows_of_canonical htext htext'

/-- The text of the number one half. -/
def halfText : List Char := "0.5".toList

lemma halfText_chars (_ : Unit) : ∀ c ∈ halfText, isNumberChar c = true :=
  List.all_eq_true.mp (by decide)

lemma halfText_ne_nil (_ : Unit) : halfText ≠ [] := List.cons_ne_nil _ _

lemma halfText_ne_int (_ : Unit) (n : ℤ) : halfText ≠ intText n := by
  intro h
  have hpoint : '.' ∈ intText n := h ▸ by decide
  have hno : '.' ∉ Nat.toDigits 10 n.natAbs := fun hc =>
    absurd (Nat.isDigit_of_mem_toDigits (by omega) (by omega) hc) (by decide)
  rw [intText] at hpoint
  split at hpoint
  · exact hno ((List.mem_cons.mp hpoint).resolve_left (by decide))
  · exact hno hpoint

lemma halfText_injective : Function.Injective fun _ : Unit => halfText := fun _ _ _ => rfl

/-- A session in UTC that is right about the times of 1970-01-01. -/
def loadUtc : Timestamptz → Option CivilTime
  | .finite (.ofNat n) =>
      if h : n < 86400000000 then some (CivilTime.ofEpochDay n h) else none
  | _ => none

lemma loadUtc_instant (t : Timestamptz) (d : CivilTime) (h : loadUtc t = some d) :
    t = .finite d.instant := by
  cases t with
  | finite n =>
      cases n with
      | ofNat n =>
          simp only [loadUtc, Option.dite_none_right_eq_some, Option.some.injEq] at h
          obtain ⟨hn, rfl⟩ := h
          rw [CivilTime.instant_ofEpochDay]
          rfl
      | negSucc n => cases h
  | negInfinity => cases h
  | infinity => cases h

/-- The texts in the order of their characters. -/
def collateC (a b : String) : Bool := decide (a ≤ b)

lemma collateC_total (a b : String) : collateC a b = true ∨ collateC b a = true := by
  rw [collateC, collateC, decide_eq_true_eq, decide_eq_true_eq]
  exact le_total a b

lemma collateC_trans (a b c : String) (hab : collateC a b = true) (hbc : collateC b c = true) :
    collateC a c = true := by
  rw [collateC, decide_eq_true_eq] at hab hbc ⊢
  exact hab.trans hbc

lemma collateC_antisymm (a b : String) (hab : collateC a b = true) (hba : collateC b a = true) :
    a = b := by
  rw [collateC, decide_eq_true_eq] at hab hba
  exact le_antisymm hab hba

/-- A platform that is right about the times of 1970-01-01 and about one half. -/
def utcPlatform : Platform where
  Float := Unit
  Decimal := Empty
  floatText := ⟨fun _ => halfText, halfText_injective, halfText_chars, halfText_ne_nil,
    halfText_ne_int⟩
  strDecimal := nofun
  load := loadUtc
  collate := collateC
  load_instant := loadUtc_instant
  collate_total := collateC_total
  collate_trans := collateC_trans
  collate_antisymm := collateC_antisymm

/-- An event of the sample task. -/
def sampleEvent (eventId : ℤ) (eventType : String) (payload : Json Unit) (hpayload : payload.Unique)
    (createdAt : ℤ) : Row Unit .agentEvents where
  key := eventId
  cells :=
    [.uuid ⟨1⟩, .uuid ⟨101⟩, .text eventType, .jsonb payload, .timestamptz (.finite createdAt)]
  typed := .cons rfl (.cons rfl (.cons rfl (.cons ⟨rfl, hpayload⟩ (.cons rfl .nil))))

/-- The budget and the owner, in the one order or in the other. -/
def samplePayload (swapped : Bool) : Json Unit :=
  let budget : String × Json Unit := ("budget", .list [.leaf (.int 90), .leaf (.float ())])
  let owner : String × Json Unit := ("owner", .leaf .null)
  .dict (if swapped then [owner, budget] else [budget, owner])

lemma samplePayload_unique (swapped : Bool) : (samplePayload swapped).Unique := by
  cases swapped <;>
    simp [samplePayload, KeyedTree.unique_dict, KeyedTree.unique_list, KeyedTree.Unique.leaf]

/-- Two events, and nothing in the other tables. -/
def sampleDatabase (swapped : Bool) : Database utcPlatform.Float
  | .agentEvents =>
      let created := sampleEvent 1 "task_created" (samplePayload swapped)
        (samplePayload_unique swapped) 5000000
      let claimed := sampleEvent 2 "task_claimed" (.dict []) (.dict .nil nofun) 5000060
      { rows := if swapped then [claimed, created] else [created, claimed]
        nodup := by
          cases swapped
          · show ([1, 2] : List ℤ).Nodup
            decide
          · show ([2, 1] : List ℤ).Nodup
            decide }
  | _ => Table.empty

/-- The characters of the canonical text of the two events. -/
def sampleText : List Char :=
  "\x7b\"agent_events\":[\x7b\"correlation_id\":\"00000000-0000-0000-".toList ++
    "0000-000000000065\",\"created_at\":\"1970-01-01 00:00:05+00:00\",".toList ++
    "\"event_id\":1,\"event_type\":\"task_created\",\"payload\":\x7b\"b".toList ++
    "udget\":[90,0.5],\"owner\":null\x7d,\"task_id\":\"00000000-0000-00".toList ++
    "00-0000-000000000001\"\x7d,\x7b\"correlation_id\":\"00000000-0000-".toList ++
    "0000-0000-000000000065\",\"created_at\":\"1970-01-01 00:00:05.0000".toList ++
    "60+00:00\",\"event_id\":2,\"event_type\":\"task_claimed\",\"payloa".toList ++
    "d\":\x7b\x7d,\"task_id\":\"00000000-0000-0000-0000-000000000001\"".toList ++
    "\x7d],\"agent_tasks\":[],\"approvals\":[],\"circuit_breakers\":[],".toList ++
    "\"dead_letters\":[],\"recovery_cards\":[],\"routing_receipts\":[]".toList ++
    "\x7d".toList

lemma sampleEvent_same {eventId : ℤ} {eventType : String} {payload payload' : Json Unit}
    {hpayload : payload.Unique} {hpayload' : payload'.Unique} {createdAt : ℤ}
    (h : payload.Same payload') :
    (sampleEvent eventId eventType payload hpayload createdAt).Same
      (sampleEvent eventId eventType payload' hpayload' createdAt) :=
  ⟨rfl, .cons (.refl _) (.cons (.refl _) (.cons (.refl _) (.cons (.jsonb h)
    (.cons (.refl _) .nil))))⟩

/-- The two databases differ in the physical order of the events and in the order of the
members of one payload. -/
lemma sampleDatabase_sameRows : SameRows (sampleDatabase false) (sampleDatabase true) := by
  have hpayload : (samplePayload false).Same (samplePayload true) :=
    KeyedTree.Same.reorder (List.Perm.swap _ _ _)
  intro t
  cases t with
  | agentEvents =>
      constructor
      · rintro r (_ | ⟨_, _ | ⟨_, ⟨⟩⟩⟩)
        · exact ⟨_, List.mem_cons_of_mem _ List.mem_cons_self, sampleEvent_same hpayload⟩
        · exact ⟨_, List.mem_cons_self, sampleEvent_same (.refl _)⟩
      · rintro r (_ | ⟨_, _ | ⟨_, ⟨⟩⟩⟩)
        · exact ⟨_, List.mem_cons_of_mem _ List.mem_cons_self, sampleEvent_same (.refl _)⟩
        · exact ⟨_, List.mem_cons_self, sampleEvent_same hpayload⟩
  | _ => exact ⟨nofun, nofun⟩

/-- The events in the other physical order and the members in the other order have the
same text, the same digest in their manifests, here the text itself, and the same rows. -/
theorem canonical_faithful_swapped :
    canonical utcPlatform (sampleDatabase false) = some (String.ofList sampleText) ∧
      canonical utcPlatform (sampleDatabase true) = some (String.ofList sampleText) ∧
      (stateManifest utcPlatform id "harness" (sampleDatabase false)).map (·.sha256)
        = some (String.ofList sampleText) ∧
      (stateManifest utcPlatform id "harness_restore" (sampleDatabase true)).map (·.sha256)
        = some (String.ofList sampleText) ∧
      SameRows (sampleDatabase false) (sampleDatabase true) := by
  have h : canonical utcPlatform (sampleDatabase false) = some (String.ofList sampleText) := by
    have htext : ((TableName.all.mapM (tablePayload utcPlatform (sampleDatabase false))).map
        fun payload => jsonText utcPlatform.floatText
          (KeyedTree.mapSorted id (.dict payload))) = some sampleText := by decide +kernel
    rw [canonical_eq, htext]
    rfl
  have hfaithful := canonical_faithful utcPlatform (sampleDatabase false) (sampleDatabase true)
  have h' := (hfaithful.1 sampleDatabase_sameRows).symm.trans h
  obtain ⟨m, hm, hdigest⟩ : ∃ m, stateManifest utcPlatform id "harness" (sampleDatabase false)
      = some m ∧ m.sha256 = String.ofList sampleText := by
    rw [stateManifest, h]
    exact ⟨_, rfl, rfl⟩
  obtain ⟨m', hm', hdigest'⟩ : ∃ m, stateManifest utcPlatform id "harness_restore"
      (sampleDatabase true) = some m ∧ m.sha256 = String.ofList sampleText := by
    rw [stateManifest, h']
    exact ⟨_, rfl, rfl⟩
  refine ⟨h, h', by rw [hm, Option.map_some, hdigest], by rw [hm', Option.map_some, hdigest'], ?_⟩
  exact hfaithful.2.2 id _ _ m m' (fun _ _ _ _ hsame => hsame) hm hm'
    (hdigest.trans hdigest'.symm)

end ControlHarness
