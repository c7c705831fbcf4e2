import Mathlib.Data.List.Forall2
import TypedSql.Proofs.Session.Closing
import TypedSql.Proofs.Session.Lending
import TypedSql.Table.Record

namespace TypedSql

/-! Rows read into memory and rows decoded while they come in.  A query runs its statement, takes
the answer of the store, and then gathers something from the rows of the answer alone. -/

open Session

variable {σ α β γ E : Type}

namespace Run

variable {x : Run σ α}

theorem Gives.of_attempt {a : α} (h : x.attempt.Gives (.ok a)) : x.Gives a := by
  obtain ⟨s, s', hrun⟩ := h
  rw [attempt_apply] at hrun
  obtain ⟨houtcome, hstate⟩ := Prod.mk.inj hrun
  exact ⟨s, s', Prod.ext (Except.ok.inj houtcome) hstate⟩

end Run

namespace Session

theorem bind_conclude_apply (x : Session σ α) (h : α → Except Error β) (w : World σ) :
    (x >>= fun a => conclude (h a)) w = ((x w).1 >>= h, (x w).2) := by
  rw [Run.bind_apply]
  cases x w with
  | mk result w' =>
      cases result with
      | ok a => exact Run.ofExcept_apply (h a) w'
      | error e => rfl

theorem foldlM_conclude (g : β → γ → Except Error β) (init : β) (as : List γ) :
    as.foldlM (fun b a => (conclude (g b a) : Session σ β)) init =
      conclude (as.foldlM g init) := by
  induction as generalizing init with
  | nil => rfl
  | cons a as ih =>
      rw [List.foldlM_cons, List.foldlM_cons]
      cases g init a with
      | ok b => exact ih b
      | error e => rfl

end Session

namespace Manager

/-- A conclusion may as well be drawn after the connection has been given back. -/
theorem useConnection_conclude (m : Manager σ) (f : Nat → Session σ α) (h : α → Except Error β) :
    m.useConnection (fun n => f n >>= fun a => conclude (h a)) =
      m.useConnection f >>= fun a => conclude (h a) := by
  rw [useConnection_eq, useConnection_eq, bind_assoc]
  refine bind_congr fun loan => ?_
  funext w
  rw [bind_conclude_apply]
  simp only [Loan.use, bind_conclude_apply]

theorem gives_of_useConnection {m : Manager σ} {f : Nat → Session σ α} {a : α}
    (h : (m.useConnection f).Gives a) : ∃ n, (f n).Gives a := by
  rw [useConnection_eq] at h
  obtain ⟨loan, -, w, w', hused⟩ := h.of_bind
  have hsame : (f loan.connection w).1 = .ok a := congrArg Prod.fst hused
  exact ⟨loan.connection, w, _, Prod.ext hsame rfl⟩

end Manager

namespace Database

/-- What all ways of gathering rows have in common: the statement runs, and the store answers. -/
def answer (db : Database σ) (statement : Statement) : Session σ (CompiledSql × RowStream) := do
  let c ← db.compile statement
  logStatement c
  let stream ← db.useConnection fun connection => do
    let p ← db.prepare connection c false
    db.mappingFailure c.sql do
      db.sendBindings p c
      call db.manager.driver (.executeQuery p)
  return (c, stream)

/-- What is gathered from the rows of an answer, which may break off behind its rows. -/
def gathered (db : Database σ) (g : β → Row → Except Error β) (init : β)
    (answer : CompiledSql × RowStream) : Except Error β := do
  let found ← answer.2.rows.foldlM g init
  match answer.2.failure with
  | some e => throw (db.settings.mapFailure answer.1.sql e)
  | none => return found

theorem foldRows_conclude (db : Database σ) (statement : Statement) (g : β → Row → Except Error β)
    (init : β) :
    db.foldRows statement init (fun b row => conclude (g b row)) = (do
      let answer ← db.answer statement
      let found ← conclude (db.gathered g init answer)
      log .debug .database s!"Rows returned: {answer.2.rows.length}"
      return found) := by
  rw [foldRows, answer, bind_assoc]
  refine bind_congr fun c => ?_
  rw [bind_assoc]
  refine bind_congr fun _ => ?_
  rw [bind_assoc]
  let run (connection : Nat) : Session σ RowStream := do
    let p ← db.prepare connection c false
    db.mappingFailure c.sql do
      db.sendBindings p c
      call db.manager.driver (.executeQuery p)
  let counted (stream : RowStream) : Except Error (β × Nat) :=
    (db.gathered g init (c, stream)).map fun found => (found, stream.rows.length)
  have hconcluded := db.manager.useConnection_conclude run counted
  refine (congrArg (· >>= _) (Eq.trans (congrArg db.manager.useConnection
    (funext fun connection => ?_)) hconcluded)).trans ?_
  · simp only [run, bind_assoc]
    refine bind_congr fun p => bind_congr fun stream => ?_
    rw [foldlM_conclude]
    simp only [counted, gathered]
    cases stream.rows.foldlM g init with
    | error e => rfl
    | ok found =>
        cases stream.failure with
        | some e => rfl
        | none => rfl
  simp only [bind_assoc, pure_bind]
  refine bind_congr fun stream => ?_
  simp only [counted]
  cases db.gathered g init (c, stream) with
  | ok found => rfl
  | error e => rfl

/-- Only what the store answers decides what is gathered. -/
theorem foldRows_fst (db : Database σ) (statement : Statement) (g : β → Row → Except Error β)
    (init : β) (w : World σ) :
    (db.foldRows statement init (fun b row => conclude (g b row)) w).1 =
      (db.answer statement w).1 >>= db.gathered g init := by
  rw [foldRows_conclude, Run.bind_apply]
  cases db.answer statement w with
  | mk result w' =>
      cases result with
      | error e => rfl
      | ok answer =>
          simp only [Run.bind_apply, conclude, Run.ofExcept_apply]
          change _ = db.gathered g init answer
          cases db.gathered g init answer with
          | ok found => rfl
          | error e => rfl

theorem gives_of_mappingFailure {db : Database σ} {sql : String} {x : Session σ α} {a : α}
    (h : (db.mappingFailure sql x).Gives a) : x.Gives a := by
  obtain ⟨outcome, hran, h⟩ := h.of_bind
  cases outcome with
  | ok b =>
      rw [← h.of_pure]
      exact hran.of_attempt
  | error e =>
      obtain ⟨w, w', hthrown⟩ := h
      cases hthrown

theorem gives_of_answer {db : Database σ} {statement : Statement} {c : CompiledSql}
    {stream : RowStream} (h : (db.answer statement).Gives (c, stream)) :
    ∃ p, (call db.manager.driver (.executeQuery p)).Gives stream := by
  obtain ⟨c', -, h⟩ := h.of_bind
  obtain ⟨_, -, h⟩ := h.of_bind
  obtain ⟨stream', hused, h⟩ := h.of_bind
  cases h.of_pure
  obtain ⟨connection, hran⟩ := Manager.gives_of_useConnection hused
  obtain ⟨p, -, hran⟩ := hran.of_bind
  obtain ⟨_, -, hexecuted⟩ := (gives_of_mappingFailure hran).of_bind
  exact ⟨p, hexecuted⟩

end Database

namespace Row

def IsDelivered (row : Row) : Prop :=
  ∀ i < row.size, ∃ v, row.value i = .ok v

/-- Two rows say the same of every field. -/
structure Agrees (a b : Row) : Prop where
  size : a.size = b.size
  value : ∀ i < b.size, a.value i = b.value i
  wasNull : ∀ i < b.size, a.wasNull i = b.wasNull i

theorem Agrees.extract {a b : Row} (h : a.Agrees b) (codec : Codec α) {i : Nat} (hi : i < b.size) :
    codec.extract a i = codec.extract b i := by
  rw [Codec.extract, Codec.extract, h.value i hi, h.wasNull i hi]

end Row

theorem mapM_of_forall {f : α → Except Error β} {as : List α} (h : ∀ a ∈ as, ∃ b, f a = .ok b) :
    ∃ bs, as.mapM f = .ok bs ∧ List.Forall₂ (fun a b => f a = .ok b) as bs := by
  induction as with
  | nil => exact ⟨[], rfl, .nil⟩
  | cons a as ih =>
      obtain ⟨b, hb⟩ := h a List.mem_cons_self
      obtain ⟨bs, hbs, heach⟩ := ih fun a' ha => h a' (List.mem_cons_of_mem a ha)
      refine ⟨b :: bs, ?_, .cons hb heach⟩
      rw [List.mapM_cons, hb, hbs]
      rfl

namespace LabelledRow

theorem read_of_isDelivered {row : Row} (hdelivered : row.IsDelivered) (labels : List String)
    (columns : List ResultColumn) :
    ∃ r, read row labels columns = .ok r ∧ r.toRow.Agrees row ∧ r.columns = columns := by
  have hpresent : ∀ i ∈ List.range row.size, ∃ v, row.value i = .ok v :=
    fun i hi => hdelivered i (List.mem_range.mp hi)
  obtain ⟨values, hread, heach⟩ := mapM_of_forall hpresent
  have hlength : values.length = row.size := by rw [← heach.length_eq, List.length_range]
  refine ⟨⟨labels, columns, values, row.nulls⟩, ?_, ⟨hlength, ?_, ?_⟩, rfl⟩
  · rw [LabelledRow.read, Row.values, hread]
    rfl
  · intro i hi
    have hinside : i < values.length := hlength.symm ▸ hi
    have hhere := heach.get (List.length_range.symm ▸ hi) hinside
    simp only [List.get_eq_getElem, List.getElem_range] at hhere
    simp only [toRow, List.getElem?_eq_getElem hinside, hhere]
  · intro i hi
    simp [toRow, Row.nulls, List.getD, hi]

end LabelledRow

namespace Table

/-- The tables that a program can declare: columns are added to a name with a codec and a way to
the field of an entity. -/
inductive IsDeclared : Table E → Prop
  | ofName (name : String) : IsDeclared (.ofName name)
  | withSchema {t : Table E} (schema : String) : IsDeclared t → IsDeclared (t.withSchema schema)
  | aliased {t : Table E} (aliasName : String) : IsDeclared t → IsDeclared (t.aliased aliasName)
  | declare {t : Table E} {α : Type} (name : String) (codec : Codec α) (primaryKey notNull : Bool)
      (binding : Binding E α) :
      IsDeclared t → IsDeclared (t.declare name codec primaryKey notNull binding).1

variable {t : Table E} {a b : Row}

/-- A setter takes the one field from a row that it is told to. -/
def ReadsField (set : E → Row → Nat → Except Error E) : Prop :=
  ∀ e a b i, a.Agrees b → i < b.size → set e a i = set e b i

theorem readsField_setter (codec : Codec α) {binding : Binding E α}
    {set : E → Row → Nat → Except Error E} (h : binding.setter codec = some set) :
    ReadsField set := by
  intro e a b i hagrees hi
  have hfield := hagrees.extract codec hi
  cases binding with
  | unbound => cases h
  | accessor _ _ =>
      cases h
      simp only [hfield]
  | nullable _ _ =>
      cases h
      simp only [hfield]

theorem IsDeclared.readsField (h : IsDeclared t) :
    ∀ bound ∈ t.bound, ∀ set, bound.setter = some set → ReadsField set := by
  have hrebound {t : Table E} (ref : TableRef)
      (h : ∀ bound ∈ t.bound, ∀ set, bound.setter = some set → ReadsField set) :
      ∀ bound ∈ (t.rebind ref).bound, ∀ set, bound.setter = some set → ReadsField set := by
    intro bound hbound
    obtain ⟨original, horiginal, rfl⟩ := List.mem_map.mp hbound
    exact h original horiginal
  induction h with
  | ofName name => exact fun bound hbound => absurd hbound List.not_mem_nil
  | withSchema schema _ ih => exact hrebound _ ih
  | aliased aliasName _ ih => exact hrebound _ ih
  | declare name codec primaryKey notNull binding _ ih =>
      intro bound hbound
      rcases List.mem_append.mp hbound with hbefore | hnew
      · exact ih bound hbefore
      · obtain rfl := List.mem_singleton.mp hnew
        exact fun set hset => readsField_setter codec hset

/-- An entity is decoded from a copy of a row as from the row, provided that the row has all the
fields that are looked for. -/
theorem decode_congr (hreads : ∀ bound ∈ t.bound, ∀ set, bound.setter = some set → ReadsField set)
    (hagrees : a.Agrees b) {fields : List ResultColumn} (hlong : fields.length ≤ b.size)
    (initial : E) : t.decode initial a fields = t.decode initial b fields := by
  unfold decode
  generalize t.bound = columns at hreads
  induction columns generalizing initial with
  | nil => rfl
  | cons bound columns ih =>
      have hfirst : decodeColumn a fields initial bound = decodeColumn b fields initial bound := by
        unfold decodeColumn
        cases hset : bound.setter with
        | none => rfl
        | some set =>
            cases hfield : fields.findIdx? (·.carries bound.column) with
            | none => rfl
            | some i =>
                have hi : i < fields.length := (List.findIdx?_eq_some_iff_getElem.mp hfield).1
                exact hreads bound List.mem_cons_self set hset initial a b i hagrees (by omega)
      have hrest := fun e => ih e fun c hc => hreads c (List.mem_cons_of_mem bound hc)
      rw [List.foldlM_cons, List.foldlM_cons, hfirst]
      exact bind_congr hrest

end Table

def LabelledRow.readNext (columns : List ResultColumn) (rows : List LabelledRow) (row : Row) :
    Except Error (List LabelledRow) :=
  (read row ((rows.head?.map labels).getD row.labels) columns).map fun r => rows ++ [r]

def Table.decodeNext (t : Table E) (initial : E) (columns : List ResultColumn) (entities : List E)
    (row : Row) : Except Error (List E) :=
  (t.decode initial row columns).map fun e => entities ++ [e]

namespace Database

theorem query_eq (db : Database σ) (statement : Statement) :
    db.query statement = db.foldRows statement [] fun rows row =>
      conclude (LabelledRow.readNext (statement.resultColumns?.getD []) rows row) := by
  rw [query]
  congr 1
  funext rows row
  unfold LabelledRow.readNext
  dsimp only
  cases LabelledRow.read row ((rows.head?.map LabelledRow.labels).getD row.labels)
    (statement.resultColumns?.getD []) with
  | ok r => rfl
  | error e => rfl

theorem queryAs_eq (db : Database σ) (t : Table E) (initial : E) (select : Select) :
    db.queryAs t initial select = db.foldRows (.select select) [] fun entities row =>
      conclude (t.decodeNext initial select.resultColumns entities row) := by
  rw [queryAs]
  congr 1
  funext entities row
  unfold Table.decodeNext
  cases t.decode initial row select.resultColumns with
  | ok e => rfl
  | error e => rfl

theorem query_fst (db : Database σ) (statement : Statement) (w : World σ) :
    (db.query statement w).1 = (db.answer statement w).1 >>=
      db.gathered (LabelledRow.readNext (statement.resultColumns?.getD [])) [] := by
  rw [query_eq, foldRows_fst]

end Database

theorem exists_of_mapM_error {f : α → Except Error β} {as : List α} {e : Error}
    (h : as.mapM f = .error e) : ∃ a ∈ as, f a = .error e := by
  induction as with
  | nil => cases h
  | cons a as ih =>
      rw [List.mapM_cons] at h
      cases hfirst : f a with
      | error e' =>
          rw [hfirst] at h
          cases h
          exact ⟨a, List.mem_cons_self, hfirst⟩
      | ok b =>
          rw [hfirst] at h
          cases hrest : as.mapM f with
          | error e' =>
              rw [hrest] at h
              cases h
              obtain ⟨a', ha, hfailed⟩ := ih hrest
              exact ⟨a', List.mem_cons_of_mem a ha, hfailed⟩
          | ok bs =>
              rw [hrest] at h
              cases h

namespace Database

variable {db : Database σ} {c : CompiledSql} {stream : RowStream}

theorem gathered_of_whole (hwhole : stream.failure = none) (g : β → Row → Except Error β)
    (init : β) : db.gathered g init (c, stream) = stream.rows.foldlM g init := by
  rw [gathered, hwhole]
  exact bind_pure _

theorem gathered_of_broken {e : Error} (hbroken : stream.failure = some e)
    (g : β → Row → Except Error β) (init : β) : db.gathered g init (c, stream) =
      stream.rows.foldlM g init >>= fun _ => .error (db.settings.mapFailure c.sql e) := by
  rw [gathered, hbroken]
  rfl

end Database

theorem Row.isDelivered_ofValues (labels : List String) (values : List Value) :
    (Row.ofValues labels values).IsDelivered := by
  intro i hi
  have hinside : i < values.length := hi
  exact ⟨values[i], by simp only [ofValues, ofLists, List.getElem?_eq_getElem hinside]⟩

theorem ScriptedStore.rows_of_executeQuery {wireTypes : List WireType} {p : Prepared}
    {stream : RowStream} (h : ((driver wireTypes).run (.executeQuery p)).Gives stream) :
    ∀ row ∈ stream.rows, ∃ labels values, row = .ofValues labels values := by
  obtain ⟨s, -, h⟩ := Run.Gives.of_bind h
  cases hstruck : Fault.take (Call.executeQuery p).kind s.faults with
  | some fault =>
      rw [hstruck] at h
      obtain ⟨_, -, h⟩ := Run.Gives.of_bind h
      obtain ⟨s', s'', hthrown⟩ := h
      cases hthrown
  | none =>
      rw [hstruck] at h
      obtain ⟨reply, -, h⟩ := Run.Gives.of_bind h
      cases reply
      case' some reply => obtain ⟨_, -, h⟩ := Run.Gives.of_bind h
      all_goals
        obtain ⟨s', -, htaken⟩ := Run.Gives.of_bind h
        cases hqueued : s'.queued with
        | nil =>
            rw [hqueued] at htaken
            rw [← htaken.of_pure]
            exact fun row hrow => absurd hrow List.not_mem_nil
        | cons response rest =>
            rw [hqueued] at htaken
            obtain ⟨_, -, htaken⟩ := htaken.of_bind
            rw [← htaken.of_pure]
            intro row hrow
            obtain ⟨values, -, rfl⟩ := List.mem_map.mp hrow
            exact ⟨response.labels, values, rfl⟩

def notes : Table Record :=
  ((Table.ofName "notes").declare "id" (Codec.ofType .int64) false false
    (Record.nullable "id" .int64)).1

def answering (rows : List (List Value)) : World (ScriptedStore × List Exchange) :=
  { store := ({ queued := [⟨["id"], rows⟩] }, []) }

def seven : Value := .some (.integer .int64 ⟨7, by decide, by decide⟩)

/-- Hands on a row that is no entity, and breaks off behind it. -/
def fickleDriver : Driver Unit where
  name := "fickle"
  wireTypes := []
  run
    | .connect => pure 1
    | .executeQuery _ => pure { rows := [.ofValues ["id"] [.some (.varchar "seven")]]
                                failure := some (.plain "gone") }
    | .metadata _ => pure {}
    | .executeUpdate _ => pure {}
    | .isolation _ => pure none
    | .autocommit _ => pure true
    | .prepare _ | .bind _ _ | .commit _ | .rollback _ | .setIsolation _ _ | .setAutocommit _ _
    | .close _ => pure ()

def fickleDatabase : Database Unit where
  settings := scriptedDatabase.settings
  driver := fickleDriver
  manager := .threaded 0 fickleDriver none

end TypedSql
