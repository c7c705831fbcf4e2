import TypedSql.Proofs.Session.Settings
import TypedSql.Proofs.Sqlite.Controls

namespace TypedSql.Sqlite

/-! The settings of connections to SQLite: autocommit is their own, and what may be read is a matter
of the engine. -/

namespace Engine

variable {ε : Type} {g : Engine ε}

/-- What may be read changes when the engine is told so, and at no other control. -/
structure KeepsReading (g : Engine ε) : Prop where
  set : ∀ on e, g.readsUncommitted (g.control (.setReadUncommitted on) e).2 =
    if (g.control (.setReadUncommitted on) e).1.isOk then on else g.readsUncommitted e
  others : ∀ control e, (∀ on, control ≠ .setReadUncommitted on) →
    g.readsUncommitted (g.control control e).2 = g.readsUncommitted e
  prepare : ∀ sql e, g.readsUncommitted (g.prepare sql e).2 = g.readsUncommitted e

/-- A statement that does not set itself what may be read. -/
def LeavesReading (g : Engine ε) (sql : String) : Prop :=
  ∀ parameters e, g.readsUncommitted (g.execute sql parameters e).2 = g.readsUncommitted e

theorem KeepsReading.refusing (hlawful : g.KeepsReading) : g.refusing.KeepsReading where
  set on e := by
    by_cases hrefused : Control.setReadUncommitted on ∈ e.2
    · rw [refusing_control_of_mem g hrefused]
      rfl
    · rw [refusing_control_of_not_mem g hrefused]
      exact hlawful.set on e.1
  others control e h := by
    by_cases hrefused : control ∈ e.2
    · rw [refusing_control_of_mem g hrefused]
      rfl
    · rw [refusing_control_of_not_mem g hrefused]
      exact hlawful.others control e.1 h
  prepare sql e := hlawful.prepare sql e.1

theorem LeavesReading.refusing {sql : String} (h : g.LeavesReading sql) :
    g.refusing.LeavesReading sql :=
  fun parameters e => h parameters e.1

end Engine

theorem Notebook.keepsReading : Notebook.engine.KeepsReading where
  set on e := rfl
  others control e h := by
    cases control with
    | begin | commit | rollback => rfl
    | setReadUncommitted on => exact absurd rfl (h on)
  prepare sql e := by rw [prepare_snd]

theorem Notebook.leavesReading (sql : String) : Notebook.engine.LeavesReading sql :=
  Notebook.readsUncommitted_execute sql

namespace Connection

variable {ε α β : Type} {g : Engine ε}

/-- The isolation of an engine, which knows only two levels. -/
def level (readsUncommitted : Bool) : Isolation :=
  if readsUncommitted then .readUncommitted else .serializable

def granted (wanted : Isolation) : Isolation :=
  level (wanted = .readUncommitted)

def settings (g : Engine ε) (c : Connection ε) : Settings :=
  ⟨c.autocommit, level (g.readsUncommitted c.engine)⟩

/-- Code that leaves the settings of the connection as they are. -/
def LeavesSettings (g : Engine ε) (x : Run (Connection ε) α) : Prop :=
  ∀ c, (x c).2.settings g = c.settings g

section

variable {x : Run (Connection ε) α} {f : α → Run (Connection ε) β}

theorem leavesSettings_of (hautocommit : ∀ c, (x c).2.autocommit = c.autocommit)
    (hreading : ∀ c, g.readsUncommitted (x c).2.engine = g.readsUncommitted c.engine) :
    LeavesSettings g x := by
  intro c
  rw [settings, settings, hautocommit, hreading]

theorem leavesSettings_pure (a : α) : LeavesSettings g (pure a) :=
  fun _ => rfl

theorem LeavesSettings.bind (hx : LeavesSettings g x) (hf : ∀ a, LeavesSettings g (f a)) :
    LeavesSettings g (x >>= f) := by
  intro c
  have hfirst := hx c
  rw [Run.bind_apply]
  cases hrun : x c with
  | mk result c' =>
      rw [hrun] at hfirst
      cases result with
      | error e => exact hfirst
      | ok a => exact (hf a c').trans hfirst

end

theorem leavesSettings_get : LeavesSettings g get :=
  fun _ => rfl

theorem leavesSettings_control (hlawful : g.KeepsReading) {control : Control}
    (h : ∀ on, control ≠ .setReadUncommitted on) :
    LeavesSettings g (onEngine (g.control control)) :=
  leavesSettings_of (fun _ => rfl) fun c => hlawful.others control c.engine h

theorem leavesSettings_prepare (hlawful : g.KeepsReading) (p : Prepared) :
    LeavesSettings g (prepare g p) := by
  have hbeginning : LeavesSettings g (beginIfNeeded g) := by
    refine leavesSettings_get.bind fun c => ?_
    split
    · exact leavesSettings_control hlawful (by simp)
    · exact leavesSettings_pure _
  have hpreparing : LeavesSettings g (onEngine (g.prepare (preparedText p))) :=
    leavesSettings_of (fun _ => rfl) fun c => hlawful.prepare _ c.engine
  exact hbeginning.bind fun _ => hpreparing.bind fun _ => fun _ => rfl

theorem leavesSettings_bind (bound : BindCall) :
    LeavesSettings g (Connection.bind bound) := by
  cases bound with
  | bind i v =>
      refine LeavesSettings.bind (fun c => ?_) fun _ _ => rfl
      rw [Run.ofExcept_apply]
  | bindNull i _ => exact fun _ => rfl

theorem leavesSettings_execute {p : Prepared} (h : g.LeavesReading (preparedText p)) :
    LeavesSettings g (execute g p) := by
  refine leavesSettings_get.bind fun sent => ?_
  exact leavesSettings_of (fun _ => rfl) fun c => h _ c.engine

theorem leavesSettings_executeUpdate {p : Prepared} (h : g.LeavesReading (preparedText p)) :
    LeavesSettings g (executeUpdate g p) := by
  refine (leavesSettings_execute h).bind fun outcome => ?_
  cases outcome.failure with
  | some e => exact fun _ => rfl
  | none =>
      simp only
      split
      · exact leavesSettings_pure _
      · exact leavesSettings_pure _

theorem leavesSettings_executeQuery {p : Prepared} (h : g.LeavesReading (preparedText p)) :
    LeavesSettings g (executeQuery g p) :=
  (leavesSettings_execute h).bind fun _ => leavesSettings_pure _

theorem leavesSettings_finish (hlawful : g.KeepsReading) {control : Control}
    (h : ∀ on, control ≠ .setReadUncommitted on) : LeavesSettings g (finish g control) := by
  refine leavesSettings_get.bind fun c => ?_
  split
  · exact leavesSettings_control hlawful h
  · exact leavesSettings_pure _

theorem granted_settings (c : Connection ε) :
    granted (c.settings g).isolation = (c.settings g).isolation := by
  unfold settings
  cases g.readsUncommitted c.engine with
  | true => rfl
  | false => rfl

theorem settings_setIsolation (hlawful : g.KeepsReading) (wanted : Isolation) (c : Connection ε) :
    (setIsolation g wanted c).2.settings g =
      if (setIsolation g wanted c).1.isOk then { c.settings g with isolation := granted wanted }
      else c.settings g := by
  have htold := hlawful.set (wanted = .readUncommitted) c.engine
  have hset : (setIsolation g wanted c).2.settings g = ⟨c.autocommit, level (g.readsUncommitted
      (g.control (.setReadUncommitted (wanted = .readUncommitted)) c.engine).2)⟩ := rfl
  rw [hset, htold, setIsolation, onEngine, Run.within_apply]
  split
  · rfl
  · rfl

theorem settings_setAutocommit (hlawful : g.KeepsReading) (on : Bool) (c : Connection ε) :
    (setAutocommit g on c).2.settings g =
      if (setAutocommit g on c).1.isOk then { c.settings g with autocommit := on }
      else c.settings g := by
  cases on with
  | false => rfl
  | true =>
      have hsame : setAutocommit g true c =
          (finish g .commit >>= fun _ => modify fun c => { c with autocommit := true }) c := rfl
      have hcommitted : (finish g .commit c).2.settings g = c.settings g :=
        leavesSettings_finish hlawful (by simp) c
      rw [hsame, Run.bind_apply]
      cases hrun : finish g .commit c with
      | mk outcome c' =>
          rw [hrun] at hcommitted
          cases outcome with
          | error e => exact hcommitted
          | ok _ =>
              rw [← hcommitted]
              rfl

end Connection

namespace Store

variable {ε α : Type} {g : Engine ε} {s : Store ε} {n k : Nat}

def settings? (g : Engine ε) (s : Store ε) (n : Nat) : Option Settings :=
  (s.connections[n]?).map (Connection.settings g)

theorem settings?_onConnection (x : Run (Connection ε) α) :
    settings? g (onConnection k x s).2 n =
      if k = n then (s.connections[n]?).map fun c => (x c).2.settings g else settings? g s n := by
  simp only [onConnection, Run.within_apply, settings?, List.getElem?_set]
  by_cases hsame : k = n
  · subst hsame
    cases hfound : s.connections[k]? with
    | none => simp [List.getElem?_eq_none_iff.mp hfound]
    | some c =>
        obtain ⟨hinRange, rfl⟩ := List.getElem?_eq_some_iff.mp hfound
        simp [hinRange, connection, List.getD_eq_getElem?_getD]
  · simp [hsame]

theorem settings?_of_leaves {x : Run (Connection ε) α} (h : Connection.LeavesSettings g x) :
    settings? g (onConnection k x s).2 n = settings? g s n := by
  rw [settings?_onConnection]
  split
  · rw [settings?]
    congr 1
    funext c
    exact h c
  · rfl

theorem settings?_apart {x : Run (Connection ε) α} (h : k ≠ n) :
    settings? g (onConnection k x s).2 n = settings? g s n := by
  rw [settings?_onConnection, if_neg h]

theorem connection_of_settings? {v : Settings} (h : settings? g s n = some v) :
    (s.connection n).settings g = v := by
  obtain ⟨c, hfound, rfl⟩ := Option.map_eq_some_iff.mp h
  rw [connection, List.getD_eq_getElem?_getD, hfound, Option.getD_some]

theorem settings?_changed {x : Run (Connection ε) α} {v : Settings}
    (h : settings? g s n = some v) :
    settings? g (onConnection n x s).2 n = some ((x (s.connection n)).2.settings g) := by
  obtain ⟨c, hfound, rfl⟩ := Option.map_eq_some_iff.mp h
  rw [settings?_onConnection, if_pos rfl, hfound, connection, List.getD_eq_getElem?_getD, hfound]
  rfl

theorem keepsSettings (hlawful : g.KeepsReading) :
    (driver g).KeepsSettings (settings? g) Connection.granted where
  isolation h hanswer := by
    rw [← connection_of_settings? h]
    exact (Except.ok.inj hanswer).symm
  autocommit h hanswer := by
    rw [← connection_of_settings? h]
    exact (Except.ok.inj hanswer).symm
  setIsolation {s n v} level h := by
    have hchanged := settings?_changed (x := Connection.setIsolation g level) h
    rw [Connection.settings_setIsolation hlawful, connection_of_settings? h] at hchanged
    exact hchanged
  setAutocommit {s n v} on h := by
    have hchanged := settings?_changed (x := Connection.setAutocommit g on) h
    rw [Connection.settings_setAutocommit hlawful, connection_of_settings? h] at hchanged
    exact hchanged
  others {s n v c} h hc := by
    rw [← h]
    cases c with
    | connect =>
        obtain ⟨_, hfound, -⟩ := Option.map_eq_some_iff.mp h
        obtain ⟨hinRange, -⟩ := List.getElem?_eq_some_iff.mp hfound
        have hopened : ((driver g).run .connect s).2.connections =
            s.connections ++ [{ engine := s.fresh }] := rfl
        rw [settings?, hopened, List.getElem?_append_left hinRange, settings?]
    | metadata _ | close _ => rfl
    | prepare p | bind p _ | executeUpdate p | executeQuery p | setIsolation k _
    | setAutocommit k _ =>
        exact settings?_apart (by simpa [Call.leavesSettings, Call.connection?] using hc)
    | commit k =>
        exact settings?_of_leaves (x := Connection.commit g)
          (Connection.leavesSettings_finish hlawful (by simp))
    | rollback k =>
        exact settings?_of_leaves (x := Connection.rollback g)
          (Connection.leavesSettings_finish hlawful (by simp))
    | isolation k | autocommit k => exact settings?_of_leaves fun _ => rfl
  granted h := by
    rw [← connection_of_settings? h]
    exact Connection.granted_settings _

/-- Statements leave the settings of connections to SQLite as they are, unless they set themselves
what may be read. -/
theorem leaves_statement (hlawful : g.KeepsReading) {c : Call} (h : c.isStatement)
    (hleaves : ∀ sql, g.LeavesReading sql) : (driver g).LeavesSettings (settings? g) c := by
  intro s n v hv
  rw [← hv]
  cases c with
  | prepare p => exact settings?_of_leaves (Connection.leavesSettings_prepare hlawful p)
  | bind p bound => exact settings?_of_leaves (Connection.leavesSettings_bind bound)
  | executeUpdate p =>
      exact settings?_of_leaves (Connection.leavesSettings_executeUpdate (hleaves _))
  | executeQuery p =>
      exact settings?_of_leaves (Connection.leavesSettings_executeQuery (hleaves _))
  | _ => cases h

end Store

end TypedSql.Sqlite
