import TypedSql.Proofs.Database.Mapping
import TypedSql.Proofs.Session.Ending

namespace TypedSql

/-! Rows read into memory and rows decoded while they come in, from any driver.  What a driver goes
on with is its own affair, also behind a row that could not be decoded. -/

open Session

variable {σ α β γ E : Type}

namespace Delivery

/-- The rows that come in as long as the code takes them. -/
def rows : Delivery → List Row
  | ended _ => []
  | hand row next => row :: (next (.ok ())).rows

/-- What the driver reports behind these rows. -/
def report : Delivery → Except Error Unit
  | ended report => report
  | hand _ next => (next (.ok ())).report

/-- The rows that are handed to code which takes something from each, with its failures.  Behind a
panic there are none. -/
def handed (take : Row → Except Error γ) : Delivery → List (Row × Option Error)
  | ended _ => []
  | hand row next =>
      match take row with
      | .ok _ => (row, none) :: (next (.ok ())).handed take
      | .error e => (row, some e) :: if e.isPanic then [] else (next (.error standIn)).handed take

/-- Every row that may be handed over has a value for every field. -/
def DeliversFields : Delivery → Prop
  | ended _ => True
  | hand row next => row.IsDelivered ∧ ∀ told, (next told).DeliversFields

theorem DeliversFields.isDelivered {d : Delivery} (h : d.DeliversFields) :
    ∀ row ∈ d.rows, row.IsDelivered := by
  induction d with
  | ended report => exact fun row hrow => absurd hrow List.not_mem_nil
  | hand row next ih => exact List.forall_mem_cons.mpr ⟨h.1, ih (.ok ()) (h.2 _)⟩

/-- What comes of reading when the code only concludes. -/
def fold (g : β → Row → Except Error β) :
    Delivery → Reading β → Except Error (Reading β × Except Error Unit)
  | ended report, r => .ok (r, report)
  | hand row next, r =>
      match g r.gathered row with
      | .ok gathered => (next (.ok ())).fold g { r with gathered, count := r.count + 1 }
      | .error e =>
          if e.isPanic then .error e
          else (next (.error standIn)).fold g { r with count := r.count + 1, failed := some e }

theorem read_conclude (g : β → Row → Except Error β) (d : Delivery) (r : Reading β) :
    d.read (fun b row => (conclude (g b row) : Session σ β)) r = conclude (d.fold g r) := by
  induction d generalizing r with
  | ended report => rfl
  | hand row next ih =>
      funext w
      rw [read, fold, Run.bind_apply, Run.attempt_apply]
      cases hrow : g r.gathered row with
      | ok gathered => exact congrFun (ih (.ok ()) _) w
      | error e =>
          simp only [conclude, Run.ofExcept_error, Run.throw_apply]
          cases e.isPanic with
          | true => rfl
          | false => exact congrFun (ih (.error standIn) _) w

theorem fold_of_taken {g : β → Row → Except Error β} {d : Delivery} {r : Reading β} {b : β}
    (h : d.rows.foldlM g r.gathered = .ok b) :
    d.fold g r = .ok ({ r with gathered := b, count := r.count + d.rows.length }, d.report) := by
  induction d generalizing r with
  | ended report =>
      cases h
      rfl
  | hand row next ih =>
      rw [rows, List.foldlM_cons] at h
      rw [fold]
      cases hrow : g r.gathered row with
      | error e =>
          rw [hrow] at h
          cases h
      | ok gathered =>
          rw [hrow] at h
          simp only [rows, report, List.length_cons]
          rw [ih (.ok ()) (r := { r with gathered, count := r.count + 1 }) h, Nat.add_right_comm,
            Nat.add_assoc]

variable {take : Row → Except Error γ}

/-- The code fails with a panic of its own, or the last of its other failures is kept. -/
theorem fold_append (take : Row → Except Error γ) (d : Delivery) (r : Reading (List γ)) :
    let g (before : List γ) (row : Row) := (take row).map (before ++ [·])
    (∃ e, lastFailure? (d.handed take) = some e ∧ d.fold g r = .error e) ∨
      ∃ r' report, d.fold g r = .ok (r', report) ∧
        r'.failed = (lastFailure? (d.handed take)).or r.failed := by
  intro g
  induction d generalizing r with
  | ended report => exact .inr ⟨r, report, rfl, rfl⟩
  | hand row next ih =>
      rw [fold, handed]
      cases hrow : take row with
      | ok a =>
          have hg : g r.gathered row = .ok (r.gathered ++ [a]) := by simp only [g, hrow]; rfl
          simp only [hg, lastFailure?_taken]
          exact ih (.ok ()) _
      | error e =>
          have hg : g r.gathered row = .error e := by simp only [g, hrow]; rfl
          simp only [hg, lastFailure?_failed]
          cases e.isPanic with
          | true => exact .inl ⟨e, rfl, rfl⟩
          | false =>
              simp only [Bool.false_eq_true, if_false]
              obtain ⟨e', hlast, hfold⟩ | ⟨r', report, hfold, hfailed⟩ :=
                ih (.error standIn) { r with count := r.count + 1, failed := some e }
              · exact .inl ⟨e', by rw [hlast]; rfl, hfold⟩
              · refine .inr ⟨r', report, hfold, hfailed.trans ?_⟩
                cases lastFailure? ((next (.error standIn)).handed take) <;> rfl

theorem lastFailure?_handed_eq_none_iff {d : Delivery} :
    lastFailure? (d.handed take) = none ↔ ∀ row ∈ d.rows, ∃ a, take row = .ok a := by
  induction d with
  | ended report => exact ⟨fun _ row hrow => absurd hrow List.not_mem_nil, fun _ => rfl⟩
  | hand row next ih =>
      rw [rows, List.forall_mem_cons, handed]
      cases hrow : take row with
      | ok a => simp only [lastFailure?_taken, ih (.ok ()), true_and, Except.ok.injEq, exists_eq']
      | error e =>
          simp

/-- No row is handed over behind one from which the code could not take anything. -/
def EndsAtFailure (take : Row → Except Error γ) (d : Delivery) : Prop :=
  (d.handed take).Pairwise fun x _ => x.2 = none

theorem Stops.endsAtFailure {d : Delivery} (hstops : d.Stops) : d.EndsAtFailure take := by
  unfold EndsAtFailure
  induction d with
  | ended report => exact .nil
  | hand row next ih =>
      obtain ⟨⟨report, hstop⟩, hrest⟩ := hstops
      rw [handed]
      cases take row with
      | ok a => exact .cons (fun _ _ => rfl) (ih (.ok ()) hrest)
      | error e =>
          simp only [hstop, handed, ite_self]
          exact List.pairwise_singleton _ _

/-- Where no row comes behind one that failed, the last failure is the first. -/
theorem EndsAtFailure.mapM_eq_error {d : Delivery} (hends : d.EndsAtFailure take) {e : Error}
    (hlast : lastFailure? (d.handed take) = some e) : d.rows.mapM take = .error e := by
  unfold EndsAtFailure at hends
  induction d with
  | ended report => cases hlast
  | hand row next ih =>
      rw [handed] at hends hlast
      rw [rows, List.mapM_cons]
      cases hrow : take row with
      | ok a =>
          rw [hrow] at hends hlast
          rw [ih (.ok ()) hends.of_cons hlast]
          rfl
      | error e' =>
          rw [hrow] at hends hlast
          have hnone : (if e'.isPanic then [] else (next (.error standIn)).handed take) = [] :=
            List.eq_nil_iff_forall_not_mem.mpr fun x hx =>
              Option.some_ne_none e' (List.rel_of_pairwise_cons hends hx)
          simp only [hnone] at hlast
          cases hlast
          rfl

end Delivery

namespace Database

/-- What is gathered from the rows of an answer as a driver delivers them. -/
def gatheredVia (db : Database σ) (deliver : RowStream → Delivery)
    (g : β → Row → Except Error β) (init : β) (answer : CompiledSql × RowStream) :
    Except Error (β × Nat) := do
  let (r, report) ← (deliver answer.2).fold g { gathered := init }
  match r.failed with
  | some e => throw e
  | none =>
      match report with
      | .ok _ => return (r.gathered, r.count)
      | .error e => throw (db.settings.mapFailure answer.1.sql e)

theorem read_ask_conclude (db : Database σ) (deliver : RowStream → Delivery) (c : CompiledSql)
    (stream : RowStream) (g : β → Row → Except Error β) (init : β) :
    db.settings.ask.read c.sql (fun b row => (conclude (g b row) : Session σ β)) (deliver stream)
      init = conclude (db.gatheredVia deliver g init (c, stream)) := by
  funext w
  rw [FailureAsk.read, Delivery.read_conclude, gatheredVia]
  cases (deliver stream).fold g { gathered := init } with
  | error e => rfl
  | ok read =>
      obtain ⟨⟨gathered, count, failed⟩, report⟩ := read
      cases failed with
      | some e => rfl
      | none =>
          cases report with
          | ok _ => rfl
          | error e =>
              refine Eq.trans (FailureAsk.mapping_error (e := e) (v := w) rfl) ?_
              rw [DatabaseSettings.handed_ask]
              rfl

theorem foldRowsAsking_conclude (db : Database σ) (deliver : RowStream → Delivery)
    (statement : Statement) (g : β → Row → Except Error β) (init : β) :
    db.foldRowsAsking db.settings.ask deliver statement init (fun b row => conclude (g b row)) = (do
      let answer ← db.answer statement
      let r ← conclude (db.gatheredVia deliver g init answer)
      log .debug .database s!"Rows returned: {r.2}"
      return r.1) := by
  simp only [foldRowsAsking, operate, FailureAsk.query, FailureAsk.execute, answer, prepare,
    sendBindings, DatabaseSettings.mapping_ask, bind_assoc, pure_bind, read_ask_conclude]
  refine bind_congr fun c => bind_congr fun _ => ?_
  have hconcluded := db.manager.useConnection_conclude (fun n => do
    db.mappingFailure c.sql (call db.manager.driver (.prepare ⟨n, c.sql, false⟩))
    db.mappingFailure c.sql do
      c.bindings.forM fun b => call db.manager.driver (.bind ⟨n, c.sql, false⟩ b)
      call db.manager.driver (.executeQuery ⟨n, c.sql, false⟩))
    fun stream => db.gatheredVia deliver g init (c, stream)
  simp only [bind_assoc] at hconcluded
  exact (congrArg (· >>= _) hconcluded).trans (bind_assoc _ _ _)

theorem foldRowsAsking_fst (db : Database σ) (deliver : RowStream → Delivery)
    (statement : Statement) (g : β → Row → Except Error β) (init : β) (w : World σ) :
    (db.foldRowsAsking db.settings.ask deliver statement init
        (fun b row => conclude (g b row)) w).1 =
      (db.answer statement w).1 >>= fun answer =>
        (db.gatheredVia deliver g init answer).map Prod.fst := by
  rw [foldRowsAsking_conclude, Run.bind_apply]
  cases db.answer statement w with
  | mk result w' =>
      cases result with
      | error e => rfl
      | ok answer =>
          simp only [Run.bind_apply, conclude, Run.ofExcept_apply]
          change _ = (db.gatheredVia deliver g init answer).map Prod.fst
          cases db.gatheredVia deliver g init answer with
          | ok found => rfl
          | error e => rfl

variable {db : Database σ} {deliver : RowStream → Delivery} {g : β → Row → Except Error β}
  {init b : β} {c : CompiledSql} {stream : RowStream}

theorem gatheredVia_of_taken (htaken : (deliver stream).rows.foldlM g init = .ok b) :
    (db.gatheredVia deliver g init (c, stream)).map Prod.fst =
      match (deliver stream).report with
      | .ok _ => .ok b
      | .error e => .error (db.settings.mapFailure c.sql e) := by
  rw [gatheredVia, Delivery.fold_of_taken htaken]
  cases (deliver stream).report with
  | ok _ => rfl
  | error e => rfl

theorem gatheredVia_append (take : Row → Except Error γ) {e : Error}
    (hlast : Delivery.lastFailure? ((deliver stream).handed take) = some e) :
    db.gatheredVia deliver (fun before row => (take row).map (before ++ [·])) [] (c, stream) =
      .error e := by
  rw [gatheredVia]
  obtain ⟨e', hpanic, hfold⟩ | ⟨r, report, hfold, hfailed⟩ :=
    (deliver stream).fold_append take { gathered := [] }
  · cases hlast.symm.trans hpanic
    rw [hfold]
    rfl
  · rw [hlast] at hfailed
    rw [hfold]
    change (match r.failed with
      | some e => _
      | none => _) = _
    rw [hfailed]
    rfl

end Database

def Driver.DeliversFields (d : Driver σ) (deliver : RowStream → Delivery) : Prop :=
  ∀ p stream, (d.run (.executeQuery p)).Gives stream → (deliver stream).DeliversFields

theorem Database.isDelivered_of_answer {db : Database σ} {deliver : RowStream → Delivery}
    (hdelivers : db.manager.driver.DeliversFields deliver) {statement : Statement} {c : CompiledSql}
    {stream : RowStream} (h : (db.answer statement).Gives (c, stream)) :
    ∀ row ∈ (deliver stream).rows, row.IsDelivered := by
  obtain ⟨p, w, w', hran⟩ := Database.gives_of_answer h
  have hanswered : (db.manager.driver.run (.executeQuery p) w.store).1 = .ok stream :=
    congrArg Prod.fst hran
  exact (hdelivers p stream ⟨w.store, _, Prod.ext hanswered rfl⟩).isDelivered

theorem LabelledRow.foldlM_readNext {rows : List Row} (hdelivered : ∀ row ∈ rows, row.IsDelivered)
    (columns : List ResultColumn) (before : List LabelledRow) :
    ∃ read, rows.foldlM (readNext columns) before = .ok (before ++ read) ∧
      List.Forall₂ (fun r row => r.toRow.Agrees row ∧ r.columns = columns) read rows := by
  induction rows generalizing before with
  | nil => exact ⟨[], by rw [List.append_nil]; rfl, .nil⟩
  | cons row rows ih =>
      obtain ⟨r, hr, hagrees, hcolumns⟩ := read_of_isDelivered (hdelivered row List.mem_cons_self)
        ((before.head?.map labels).getD row.labels) columns
      obtain ⟨read, hread, heach⟩ :=
        ih (fun row' hrow => hdelivered row' (List.mem_cons_of_mem row hrow)) (before ++ [r])
      refine ⟨r :: read, ?_, .cons ⟨hagrees, hcolumns⟩ heach⟩
      rw [List.foldlM_cons, readNext, hr]
      rw [List.append_assoc] at hread
      exact hread

/-- Entities gathered behind one another are the rows decoded in order, up to the first that
fails. -/
theorem Table.foldlM_decodeNext (t : Table E) (initial : E) (columns : List ResultColumn)
    (rows : List Row) (before : List E) :
    rows.foldlM (t.decodeNext initial columns) before =
      (rows.mapM fun row => t.decode initial row columns).map (before ++ ·) := by
  induction rows generalizing before with
  | nil => exact congrArg Except.ok (List.append_nil before).symm
  | cons row rows ih =>
      rw [List.foldlM_cons, List.mapM_cons, decodeNext]
      cases t.decode initial row columns with
      | error e => rfl
      | ok e =>
          refine (ih (before ++ [e])).trans ?_
          cases rows.mapM fun row => t.decode initial row columns with
          | error e' => rfl
          | ok entities => exact congrArg Except.ok (List.append_assoc before [e] entities)

theorem mapM_congr_of_forall₂ {R : α → γ → Prop} {f : α → Except Error β} {g : γ → Except Error β}
    {as : List α} {cs : List γ} (hrelated : List.Forall₂ R as cs)
    (hsame : ∀ a, ∀ c ∈ cs, R a c → f a = g c) : as.mapM f = cs.mapM g := by
  induction hrelated with
  | nil => rfl
  | @cons a c as cs hfirst hrest ih =>
      rw [List.mapM_cons, List.mapM_cons, hsame a c List.mem_cons_self hfirst,
        ih fun a' c' hc => hsame a' c' (List.mem_cons_of_mem c hc)]

def Table.decodeAll (t : Table E) (initial : E) (query : Session σ (List LabelledRow)) :
    Session σ (List E) := do
  let rows ← query
  conclude (rows.mapM fun r => t.decode initial r.toRow r.columns)

namespace Database

/-- The rows of a statement, from a driver that delivers them in its own way. -/
def queryVia (db : Database σ) (deliver : RowStream → Delivery) (statement : Statement) :
    Session σ (List LabelledRow) :=
  db.foldRowsAsking db.settings.ask deliver statement [] fun rows row =>
    conclude (LabelledRow.readNext (statement.resultColumns?.getD []) rows row)

def queryAsVia (db : Database σ) (deliver : RowStream → Delivery) (t : Table E) (initial : E)
    (select : Select) : Session σ (List E) :=
  db.foldRowsAsking db.settings.ask deliver (.select select) [] fun entities row =>
    conclude (t.decodeNext initial select.resultColumns entities row)

variable {db : Database σ} {deliver : RowStream → Delivery} {w : World σ} {c : CompiledSql}
  {stream : RowStream}

theorem queryVia_eq (hdelivers : ∀ stream : RowStream, stream.Delivers (deliver stream))
    (statement : Statement) : db.queryVia deliver statement = db.query statement := by
  rw [queryVia, foldRowsAsking_ask db hdelivers, query_eq]

theorem queryAsVia_eq (hdelivers : ∀ stream : RowStream, stream.Delivers (deliver stream))
    (t : Table E) (initial : E) (select : Select) :
    db.queryAsVia deliver t initial select = db.queryAs t initial select := by
  rw [queryAsVia, foldRowsAsking_ask db hdelivers, queryAs_eq]

theorem queryVia_of_answer (hdelivers : db.manager.driver.DeliversFields deliver)
    {statement : Statement} (hanswered : (db.answer statement w).1 = .ok (c, stream)) :
    ∃ rows, List.Forall₂ (fun r row => r.toRow.Agrees row ∧
        r.columns = statement.resultColumns?.getD []) rows (deliver stream).rows ∧
      (db.queryVia deliver statement w).1 =
        match (deliver stream).report with
        | .ok _ => .ok rows
        | .error e => .error (db.settings.mapFailure c.sql e) := by
  have hgives : (db.answer statement).Gives (c, stream) := ⟨w, _, Prod.ext hanswered rfl⟩
  obtain ⟨rows, hread, heach⟩ := LabelledRow.foldlM_readNext
    (isDelivered_of_answer hdelivers hgives) (statement.resultColumns?.getD []) []
  refine ⟨rows, heach, ?_⟩
  rw [queryVia, foldRowsAsking_fst, hanswered]
  exact gatheredVia_of_taken hread

/-- The last failure of decoding comes before what the driver reports. -/
theorem queryAsVia_of_answer (t : Table E) (initial : E) {select : Select}
    (hanswered : (db.answer (.select select) w).1 = .ok (c, stream)) :
    let decode row := t.decode initial row select.resultColumns
    (db.queryAsVia deliver t initial select w).1 =
      match Delivery.lastFailure? ((deliver stream).handed decode) with
      | some e => .error e
      | none =>
          match (deliver stream).report with
          | .ok _ => (deliver stream).rows.mapM decode
          | .error e => .error (db.settings.mapFailure c.sql e) := by
  intro decode
  rw [queryAsVia, foldRowsAsking_fst, hanswered]
  change (db.gatheredVia deliver (t.decodeNext initial select.resultColumns) [] (c, stream)).map
    Prod.fst = _
  cases hlast : Delivery.lastFailure? ((deliver stream).handed decode) with
  | some e => exact congrArg (Except.map Prod.fst) (gatheredVia_append decode hlast)
  | none =>
      obtain ⟨entities, hdecoded, -⟩ :=
        mapM_of_forall (Delivery.lastFailure?_handed_eq_none_iff.mp hlast)
      have htaken : (deliver stream).rows.foldlM (t.decodeNext initial select.resultColumns) [] =
          .ok entities := by
        rw [Table.foldlM_decodeNext, hdecoded]
        rfl
      rw [gatheredVia_of_taken htaken, hdecoded]

/-- Entities are decoded from the rows in memory as from the rows themselves, provided that no row
is too short for the columns of the select. -/
theorem decodeAll_queryVia (hdelivers : db.manager.driver.DeliversFields deliver) {t : Table E}
    (hdeclared : t.IsDeclared) (initial : E) {select : Select}
    (hanswered : (db.answer (.select select) w).1 = .ok (c, stream))
    (hwhole : (deliver stream).report = .ok ())
    (hlong : ∀ row ∈ (deliver stream).rows, select.resultColumns.length ≤ row.size) :
    (t.decodeAll initial (db.queryVia deliver (.select select)) w).1 =
      (deliver stream).rows.mapM fun row => t.decode initial row select.resultColumns := by
  obtain ⟨rows, heach, hqueried⟩ := queryVia_of_answer hdelivers hanswered
  rw [hwhole] at hqueried
  rw [Table.decodeAll, bind_conclude_apply, hqueried]
  refine mapM_congr_of_forall₂ heach fun r row hrow ⟨hagrees, hcolumns⟩ => ?_
  rw [hcolumns]
  exact Table.decode_congr hdeclared.readsField hagrees (hlong row hrow) initial

/-- What a query gives, and what decoding its rows gives, by the answer of the store and the way in
which the driver delivers it.  A row in memory agrees with the row that it was read from.  Entities
may be decoded while the rows come in or afterwards, unless the answer breaks off, a row is too
short for its columns, or the driver goes on behind a row that could not be decoded: then it is the
last such row that counts. -/
theorem query_queryAs_of_delivery (db : Database σ) (deliver : RowStream → Delivery)
    (hdelivers : db.manager.driver.DeliversFields deliver) (w : World σ) :
    ((∀ stream : RowStream, stream.Delivers (deliver stream)) →
      (∀ statement, db.queryVia deliver statement = db.query statement) ∧
      ∀ {E : Type} (t : Table E) initial select,
        db.queryAsVia deliver t initial select = db.queryAs t initial select) ∧
    (∀ statement : Statement,
      match (db.answer statement w).1 with
      | .error e => (db.queryVia deliver statement w).1 = .error e
      | .ok (c, stream) =>
          match (deliver stream).report with
          | .error e =>
              (db.queryVia deliver statement w).1 = .error (db.settings.mapFailure c.sql e)
          | .ok _ => ∃ rows, (db.queryVia deliver statement w).1 = .ok rows ∧
            List.Forall₂ (fun r row => r.toRow.Agrees row ∧
              ∀ {α : Type} (codec : Codec α), ∀ i < row.size,
                codec.extract r.toRow i = codec.extract row i) rows (deliver stream).rows) ∧
    ∀ {E : Type} (t : Table E), t.IsDeclared → ∀ (initial : E) (select : Select),
      let decode row := t.decode initial row select.resultColumns
      let decodedAfterwards := (t.decodeAll initial (db.queryVia deliver (.select select)) w).1
      match (db.answer (.select select) w).1 with
      | .error e => (db.queryAsVia deliver t initial select w).1 = .error e
      | .ok (c, stream) =>
          ((db.queryAsVia deliver t initial select w).1 =
            match Delivery.lastFailure? ((deliver stream).handed decode) with
            | some e => .error e
            | none =>
                match (deliver stream).report with
                | .ok _ => (deliver stream).rows.mapM decode
                | .error e => .error (db.settings.mapFailure c.sql e)) ∧
          ((deliver stream).report = .ok () →
            (∀ row ∈ (deliver stream).rows, select.resultColumns.length ≤ row.size) →
            decodedAfterwards = (deliver stream).rows.mapM decode ∧
            ((deliver stream).EndsAtFailure decode →
              (db.queryAsVia deliver t initial select w).1 = decodedAfterwards)) := by
  refine ⟨fun hstops => ⟨queryVia_eq hstops, queryAsVia_eq hstops⟩, ?_, ?_⟩
  · intro statement
    split
    next e hanswered =>
      rw [queryVia, foldRowsAsking_fst, hanswered]
      rfl
    next c stream hanswered =>
      obtain ⟨rows, heach, hqueried⟩ := queryVia_of_answer hdelivers hanswered
      rw [hqueried]
      cases (deliver stream).report with
      | error e => rfl
      | ok _ =>
          refine ⟨rows, rfl, heach.imp fun r row ⟨hagrees, _⟩ => ⟨hagrees, ?_⟩⟩
          exact fun codec i hi => hagrees.extract codec hi
  · intro E t hdeclared initial select decode decodedAfterwards
    split
    next e hanswered =>
      rw [queryAsVia, foldRowsAsking_fst, hanswered]
      rfl
    next c stream hanswered =>
      have hentities : (db.queryAsVia deliver t initial select w).1 = _ :=
        queryAsVia_of_answer t initial hanswered
      refine ⟨hentities, fun hwhole hlong => ?_⟩
      have hafter := decodeAll_queryVia hdelivers hdeclared initial hanswered hwhole hlong
      refine ⟨hafter, fun hends => (hentities.trans ?_).trans hafter.symm⟩
      rw [hwhole]
      cases hlast : Delivery.lastFailure? ((deliver stream).handed decode) with
      | some e => exact (hends.mapM_eq_error hlast).symm
      | none => rfl

end Database

namespace RowStream

/-- Hands over every row, whatever becomes of those before it. -/
def insistence (s : RowStream) : Delivery :=
  s.rows.foldr (fun row rest => .hand row fun _ => rest) (.ended s.report)

theorem deliversFields_delivery {s : RowStream} (h : ∀ row ∈ s.rows, row.IsDelivered) :
    s.delivery.DeliversFields := by
  unfold delivery
  generalize s.rows = rows at h ⊢
  induction rows with
  | nil => trivial
  | cons row rows ih =>
      obtain ⟨hrow, hrows⟩ := List.forall_mem_cons.mp h
      refine ⟨hrow, fun told => ?_⟩
      cases told with
      | ok _ => exact ih hrows
      | error e => trivial

end RowStream

theorem ScriptedStore.deliversFields (wireTypes : List WireType) :
    (driver wireTypes).traced.DeliversFields RowStream.delivery := by
  intro p stream ⟨(s, trace), s', hran⟩
  have hanswered : ((driver wireTypes).run (.executeQuery p) s).1 = .ok stream :=
    congrArg Prod.fst hran
  refine RowStream.deliversFields_delivery fun row hrow => ?_
  obtain ⟨labels, values, rfl⟩ := rows_of_executeQuery ⟨s, _, Prod.ext hanswered rfl⟩ row hrow
  exact Row.isDelivered_ofValues labels values

theorem notes_isDeclared : notes.IsDeclared :=
  .declare "id" (Codec.ofType .int64) false false _ (.ofName "notes")

theorem queryAs_answering_seven :
    (scriptedDatabase.queryAs notes ⟨[]⟩ notes.select (answering [[seven]])).1 =
        (notes.decodeAll ⟨[]⟩ (scriptedDatabase.query (.select notes.select))
          (answering [[seven]])).1 ∧
      (scriptedDatabase.queryAs notes ⟨[]⟩ notes.select (answering [[seven]])).1 =
        .ok [⟨[("id", seven)]⟩] := by
  obtain ⟨hruns, -, hentities⟩ := scriptedDatabase.query_queryAs_of_delivery RowStream.delivery
    (ScriptedStore.deliversFields []) (answering [[seven]])
  obtain ⟨hquery, hqueryAs⟩ := hruns RowStream.delivers_delivery
  obtain ⟨-, hagrees⟩ := hentities notes notes_isDeclared ⟨[]⟩ notes.select
  obtain ⟨-, hsame⟩ := hagrees rfl fun row hrow => by
    obtain rfl : row = Row.ofValues ["id"] [seven] := List.mem_singleton.mp hrow
    decide
  rw [← hqueryAs, ← hquery]
  exact ⟨hsame (RowStream.delivers_delivery _).stops.endsAtFailure, rfl⟩

def misread (text : String) : Error :=
  .conversion (.mismatch (.some (.varchar text)) .int64 (some .invalidDigit))

/-- A row without the field of a column fails apart from its copy.  An entity that cannot be decoded
keeps the store from breaking off.  A driver that goes on behind it has the code end with the last
entity of that kind. -/
theorem queryAs_ne_decodeAll :
    ((notes.decodeAll ⟨[]⟩ (scriptedDatabase.query (.select notes.select)) (answering [[]])).1 =
        .error (.usage (.fieldOutOfBounds 0 0)) ∧
      (scriptedDatabase.queryAs notes ⟨[]⟩ notes.select (answering [[]])).1 =
        .error (.plain "No field 0")) ∧
    ((notes.decodeAll ⟨[]⟩ (fickleDatabase.query (.select notes.select)) { store := () }).1 =
        .error (.driver "SELECT * FROM notes" (.plain "gone")) ∧
      (fickleDatabase.queryAs notes ⟨[]⟩ notes.select { store := () }).1 =
        .error (misread "seven")) ∧
    let texts := answering [[.some (.varchar "seven")], [.some (.varchar "eight")]]
    (notes.decodeAll ⟨[]⟩
        (scriptedDatabase.queryVia RowStream.insistence (.select notes.select)) texts).1 =
        .error (misread "seven") ∧
      (scriptedDatabase.queryAsVia RowStream.insistence notes ⟨[]⟩ notes.select texts).1 =
        .error (misread "eight") :=
  ⟨⟨rfl, rfl⟩, ⟨rfl, rfl⟩, rfl, rfl⟩

end TypedSql
