import TypedSql.Proofs.Session.Replay
import TypedSql.Sqlite.Notebook

namespace TypedSql.Sqlite

/-! What connections tell their engines, and what becomes of the transactions there. -/

/-- A control that an engine has been told, and whether it has followed. -/
structure Told where
  control : Control
  followed : Bool
deriving DecidableEq, Repr

namespace Control

def ending (rolledBack : Bool) : Control :=
  if rolledBack then rollback else commit

def isEnding : Control → Bool
  | commit | rollback => true
  | _ => false

end Control

namespace Engine

variable {ε : Type}

/-- The engine with all that it has been told beside its state. -/
def recorded (g : Engine ε) : Engine (ε × List Told) where
  version := g.version
  inTransaction := fun e => g.inTransaction e.1
  readsUncommitted := fun e => g.readsUncommitted e.1
  control := fun control e =>
    let (outcome, after) := g.control control e.1
    (outcome, after, e.2 ++ [⟨control, outcome.isOk⟩])
  prepare := fun sql => (g.prepare sql).within Prod.fst fun after e => (after, e.2)
  execute := fun sql parameters =>
    (g.execute sql parameters).within Prod.fst fun after e => (after, e.2)

/-- What is asked of an engine: a commit or a rollback that succeeds ends the open transaction, one
that fails leaves it open, and what may be read makes no difference to it. -/
structure Transactional (g : Engine ε) : Prop where
  ends : ∀ control e, control.isEnding → g.inTransaction e →
    g.inTransaction (g.control control e).2 = !(g.control control e).1.isOk
  stays : ∀ on e,
    g.inTransaction (g.control (.setReadUncommitted on) e).2 = g.inTransaction e

/-- The engine with a list of controls, each of which it refuses once. -/
def refusing (g : Engine ε) : Engine (ε × List Control) where
  version := g.version
  inTransaction := fun e => g.inTransaction e.1
  readsUncommitted := fun e => g.readsUncommitted e.1
  control := fun control e =>
    if control ∈ e.2 then (.error (.plain "database is locked"), e.1, e.2.erase control)
    else (g.control control).within Prod.fst (fun after e => (after, e.2)) e
  prepare := fun sql => (g.prepare sql).within Prod.fst fun after e => (after, e.2)
  execute := fun sql parameters =>
    (g.execute sql parameters).within Prod.fst fun after e => (after, e.2)

theorem refusing_control_of_mem (g : Engine ε) {control : Control} {e : ε × List Control}
    (h : control ∈ e.2) : g.refusing.control control e =
      (.error (.plain "database is locked"), e.1, e.2.erase control) :=
  if_pos h

theorem refusing_control_of_not_mem (g : Engine ε) {control : Control} {e : ε × List Control}
    (h : control ∉ e.2) : g.refusing.control control e =
      ((g.control control e.1).1, (g.control control e.1).2, e.2) :=
  if_neg h

theorem Transactional.refusing {g : Engine ε} (hlawful : g.Transactional) :
    g.refusing.Transactional where
  ends control e h hopen := by
    by_cases hrefused : control ∈ e.2
    · rw [refusing_control_of_mem g hrefused]
      exact hopen
    · rw [refusing_control_of_not_mem g hrefused]
      exact hlawful.ends control e.1 h hopen
  stays on e := by
    by_cases hrefused : Control.setReadUncommitted on ∈ e.2
    · rw [refusing_control_of_mem g hrefused]
      rfl
    · rw [refusing_control_of_not_mem g hrefused]
      exact hlawful.stays on e.1

end Engine

theorem Notebook.transactional : Notebook.engine.Transactional where
  ends control e h _ := by
    cases control with
    | commit | rollback => rfl
    | begin | setReadUncommitted _ => cases h
  stays on e := rfl

namespace Connection

variable {ε α β : Type} {g : Engine ε}

def told (c : Connection (ε × List Told)) : List Told :=
  c.engine.2

def inTransaction (g : Engine ε) (c : Connection (ε × List Told)) : Bool :=
  g.inTransaction c.engine.1

/-- Code that tells the engine nothing but some controls. -/
def TellsOnly (allowed : Control → Prop) (x : Run (Connection (ε × List Told)) α) : Prop :=
  ∀ c, ∃ new, (x c).2.told = c.told ++ new ∧ ∀ i ∈ new, allowed i.control

section

variable {allowed : Control → Prop} {x : Run (Connection (ε × List Told)) α}
  {f : α → Run (Connection (ε × List Told)) β}

theorem tellsOnly_of_told (h : ∀ c, (x c).2.told = c.told) : TellsOnly allowed x :=
  fun c => ⟨[], by rw [h, List.append_nil], fun _ hi => absurd hi List.not_mem_nil⟩

theorem tellsNothing_of_told (h : ∀ c, (x c).2.told = c.told) : TellsOnly (fun _ => False) x :=
  tellsOnly_of_told h

theorem tellsOnly_pure (a : α) : TellsOnly (ε := ε) allowed (pure a) :=
  tellsOnly_of_told fun _ => rfl

theorem TellsOnly.mono {allowed' : Control → Prop} (h : TellsOnly allowed x)
    (himp : ∀ control, allowed control → allowed' control) : TellsOnly allowed' x := by
  intro c
  obtain ⟨new, htold, hnew⟩ := h c
  exact ⟨new, htold, fun i hi => himp _ (hnew i hi)⟩

theorem TellsOnly.bind (hx : TellsOnly allowed x) (hf : ∀ a, TellsOnly allowed (f a)) :
    TellsOnly allowed (x >>= f) := by
  intro c
  obtain ⟨new, htold, hnew⟩ := hx c
  rw [Run.bind_apply]
  cases hrun : x c with
  | mk result c' =>
      rw [hrun] at htold
      cases result with
      | error e => exact ⟨new, htold, hnew⟩
      | ok a =>
          obtain ⟨new', htold', hnew'⟩ := hf a c'
          refine ⟨new ++ new', ?_, List.forall_mem_append.mpr ⟨hnew, hnew'⟩⟩
          rw [htold', htold, List.append_assoc]

theorem tellsOnly_control (g : Engine ε) {control : Control} (h : allowed control) :
    TellsOnly allowed (onEngine (g.recorded.control control)) :=
  fun c => ⟨[⟨control, (g.control control c.engine.1).1.isOk⟩], rfl, by simpa using h⟩

end

theorem tellsOnly_prepare (g : Engine ε) (p : Prepared) :
    TellsOnly (· = .begin) (prepare g.recorded p) := by
  have hbeginning : TellsOnly (· = .begin) (beginIfNeeded g.recorded) := by
    refine TellsOnly.bind (tellsOnly_of_told fun _ => rfl) fun c => ?_
    split
    · exact tellsOnly_control g rfl
    · exact tellsOnly_pure _
  refine hbeginning.bind fun _ => ?_
  exact TellsOnly.bind (tellsOnly_of_told fun _ => rfl) fun _ => tellsOnly_of_told fun _ => rfl

theorem tellsOnly_finish (g : Engine ε) (control : Control) :
    TellsOnly (· = control) (finish g.recorded control) := by
  refine TellsOnly.bind (tellsOnly_of_told fun _ => rfl) fun c => ?_
  split
  · exact tellsOnly_control g rfl
  · exact tellsOnly_pure _

theorem tellsOnly_setAutocommit (g : Engine ε) (on : Bool) :
    TellsOnly (fun control => on ∧ control = .commit) (setAutocommit g.recorded on) := by
  cases on with
  | false => exact tellsOnly_of_told fun _ => rfl
  | true =>
      refine TellsOnly.bind ?_ fun _ => tellsOnly_of_told fun _ => rfl
      exact (tellsOnly_finish g .commit).mono fun _ hsame => ⟨rfl, hsame⟩

theorem tellsOnly_setIsolation (g : Engine ε) (level : Isolation) :
    TellsOnly (· = .setReadUncommitted (level = .readUncommitted))
      (setIsolation g.recorded level) :=
  tellsOnly_control g rfl

theorem told_setIsolation (g : Engine ε) (level : Isolation) (c : Connection (ε × List Told)) :
    ∃ i : Told, (setIsolation g.recorded level c).2.told = c.told ++ [i] ∧
      i.control.isEnding = false :=
  ⟨_, rfl, rfl⟩

theorem tellsNothing_execute (g : Engine ε) (p : Prepared) :
    TellsOnly (fun _ => False) (execute g.recorded p) :=
  tellsOnly_of_told fun _ => rfl

theorem tellsNothing_executeUpdate (g : Engine ε) (p : Prepared) :
    TellsOnly (fun _ => False) (executeUpdate g.recorded p) := by
  refine (tellsNothing_execute g p).bind fun outcome => ?_
  cases outcome.failure with
  | some e => exact tellsOnly_of_told fun _ => rfl
  | none =>
      simp only
      split
      · exact tellsOnly_pure _
      · exact tellsOnly_pure _

theorem tellsNothing_bind (bound : BindCall) :
    TellsOnly (fun _ => False) (bind bound : Run (Connection (ε × List Told)) Unit) := by
  cases bound with
  | bind i v =>
      refine TellsOnly.bind (tellsOnly_of_told fun c => ?_) fun _ => tellsOnly_of_told fun _ => rfl
      rw [Run.ofExcept_apply]
  | bindNull i _ => exact tellsOnly_of_told fun _ => rfl

theorem finish_of_idle {g : Engine ε} {c : Connection ε} (h : g.inTransaction c.engine = false)
    (control : Control) : finish g control c = (.ok (), c) := by
  simp [finish, Run.bind_apply, h]

theorem finish_of_open {g : Engine ε} {c : Connection ε} (h : g.inTransaction c.engine = true)
    (control : Control) : finish g control c = onEngine (g.control control) c := by
  simp [finish, Run.bind_apply, h]

/-- How a connection comes out of a commit or a rollback.  When no transaction is open, there is
nothing to tell the engine. -/
structure Ends (g : Engine ε) (control : Control) (c : Connection (ε × List Told))
    (succeeded : Bool) (c' : Connection (ε × List Told)) : Prop where
  told : c'.told = c.told ++ if c.inTransaction g then [⟨control, succeeded⟩] else []
  inTransaction : c'.inTransaction g = !succeeded

theorem finish_ends (hlawful : g.Transactional) {control : Control} (h : control.isEnding)
    (c : Connection (ε × List Told)) :
    Ends g control c (finish g.recorded control c).1.isOk (finish g.recorded control c).2 := by
  cases hopen : c.inTransaction g with
  | false =>
      have hopen' : g.recorded.inTransaction c.engine = false := hopen
      rw [finish_of_idle hopen']
      exact ⟨by simp [hopen], by rw [hopen]; rfl⟩
  | true =>
      have hopen' : g.recorded.inTransaction c.engine = true := hopen
      rw [finish_of_open hopen']
      exact ⟨by rw [hopen]; rfl, hlawful.ends control c.engine.1 h hopen⟩

/-- Switching autocommit on ends the transaction as a commit does. -/
theorem setAutocommit_ends (hlawful : g.Transactional) (c : Connection (ε × List Told)) :
    Ends g .commit c (setAutocommit g.recorded true c).1.isOk
      (setAutocommit g.recorded true c).2 := by
  have hends := finish_ends hlawful (show Control.commit.isEnding from rfl) c
  have hsame : setAutocommit g.recorded true c =
      (finish g.recorded .commit >>= fun _ => modify fun c => { c with autocommit := true }) c :=
    rfl
  rw [hsame, Run.bind_apply]
  cases hrun : finish g.recorded .commit c with
  | mk outcome c' =>
      rw [hrun] at hends
      cases outcome with
      | ok _ => exact ⟨hends.told, hends.inTransaction⟩
      | error e => exact hends

end Connection

namespace Store

variable {ε α : Type} {g : Engine ε} {s s' : Store (ε × List Told)} {n : Nat}

theorem length_onConnection (x : Run (Connection (ε × List Told)) α) :
    (onConnection n x s).2.connections.length = s.connections.length := by
  simp [onConnection]

theorem connection_onConnection (hn : n < s.connections.length)
    (x : Run (Connection (ε × List Told)) α) :
    (onConnection n x s).2.connection n = (x (s.connection n)).2 := by
  simp [onConnection, connection, List.getD_eq_getElem?_getD, hn]

theorem ends_onConnection (hn : n < s.connections.length)
    {x : Run (Connection (ε × List Told)) Unit} {control : Control}
    (h : ∀ c, Connection.Ends g control c (x c).1.isOk (x c).2) :
    n < (onConnection n x s).2.connections.length ∧
      Connection.Ends g control (s.connection n) (onConnection n x s).1.isOk
        ((onConnection n x s).2.connection n) := by
  rw [length_onConnection, connection_onConnection hn]
  exact ⟨hn, h (s.connection n)⟩

theorem told_onConnection (hn : n < s.connections.length)
    {x : Run (Connection (ε × List Told)) α} {allowed : Control → Prop} {Q : Prop}
    (h : Connection.TellsOnly allowed x) (hcommit : allowed .commit → Q) :
    (onConnection n x s).2.connections.length = s.connections.length ∧
      ∃ new, ((onConnection n x s).2.connection n).told = (s.connection n).told ++ new ∧
        ∀ i ∈ new, i.control = .commit → Q := by
  obtain ⟨new, htold, hnew⟩ := h (s.connection n)
  refine ⟨length_onConnection x, new, by rw [connection_onConnection hn, htold], ?_⟩
  intro i hi hsame
  exact hcommit (by rw [← hsame]; exact hnew i hi)

/-- Nothing but a commit and switching autocommit on has the engine commit. -/
theorem told_run (g : Engine ε) {c : Call} (hc : c.connection? = some n)
    (hn : n < s.connections.length) :
    ((driver g.recorded).run c s).2.connections.length = s.connections.length ∧
      ∃ new, (((driver g.recorded).run c s).2.connection n).told = (s.connection n).told ++ new ∧
        ∀ i ∈ new, i.control = .commit → c = .commit n ∨ c = .setAutocommit n true := by
  cases c with
  | connect => cases hc
  | metadata _ | close _ =>
      exact ⟨rfl, [], (List.append_nil _).symm, fun _ hi => absurd hi List.not_mem_nil⟩
  | prepare p =>
      cases hc
      exact told_onConnection hn (Connection.tellsOnly_prepare g p) nofun
  | bind p bound =>
      cases hc
      exact told_onConnection hn (Connection.tellsNothing_bind bound) nofun
  | executeUpdate p =>
      cases hc
      exact told_onConnection hn (Connection.tellsNothing_executeUpdate g p) nofun
  | executeQuery p =>
      cases hc
      exact told_onConnection hn
        ((Connection.tellsNothing_execute g p).bind fun _ => Connection.tellsOnly_pure _) nofun
  | commit k =>
      cases hc
      exact told_onConnection hn (x := Connection.commit g.recorded)
        (Connection.tellsOnly_finish g .commit) fun _ => .inl rfl
  | rollback k =>
      cases hc
      exact told_onConnection hn (x := Connection.rollback g.recorded)
        (Connection.tellsOnly_finish g .rollback) nofun
  | isolation k | autocommit k =>
      cases hc
      exact told_onConnection hn (Connection.tellsNothing_of_told fun _ => rfl) nofun
  | setIsolation k level =>
      cases hc
      exact told_onConnection hn (x := Connection.setIsolation g.recorded level)
        (Connection.tellsOnly_setIsolation g level) nofun
  | setAutocommit k on =>
      cases hc
      refine told_onConnection hn (Connection.tellsOnly_setAutocommit g on) fun hallowed => .inr ?_
      rw [hallowed.1]

end Store

end TypedSql.Sqlite
