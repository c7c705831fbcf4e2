import TypedSql.Proofs.Sqlite.Controls

namespace TypedSql.Sqlite

/-! Autocommit, which a connection remembers, and transactions, which its engine has open: two
states that requests keep in step, whatever they are. -/

/-- What an engine hears of: controls, and statements to prepare.  Of a statement it is noted
whether a transaction was open by then. -/
inductive Heard where
  | control (told : Told)
  | statement (sql : String) (inside : Bool)
deriving DecidableEq, Repr

namespace Heard

def control? : Heard → Option Control
  | control told => some told.control
  | statement _ _ => none

def isRefusal : Heard → Bool
  | control told => !told.followed
  | statement _ _ => false

end Heard

/-- Controls that take an engine from one state to another, with a transaction open or not: each
`begin` where none is open, and each ending where one is. -/
inductive Alternates : Bool → List Control → Bool → Prop
  | nil {o : Bool} : Alternates o [] o
  | begin {rest : List Control} {o : Bool} (h : Alternates true rest o) :
      Alternates false (.begin :: rest) o
  | ending {control : Control} {rest : List Control} {o : Bool} (hisEnding : control.isEnding)
      (h : Alternates false rest o) : Alternates true (control :: rest) o
  | pragma {on : Bool} {rest : List Control} {o o' : Bool} (h : Alternates o rest o') :
      Alternates o (.setReadUncommitted on :: rest) o'

namespace Alternates

variable {o o' o'' : Bool} {controls rest : List Control}

theorem append (h : Alternates o controls o') (hrest : Alternates o' rest o'') :
    Alternates o (controls ++ rest) o'' := by
  induction h with
  | nil => exact hrest
  | begin _ ih => exact .begin (ih hrest)
  | ending hisEnding _ ih => exact .ending hisEnding (ih hrest)
  | pragma _ ih => exact .pragma (ih hrest)

/-- Controls that lead up to a `begin` end the open transaction, if there is one, and nothing
more. -/
theorem countP_before_begin (h : Alternates o (controls ++ .begin :: rest) o')
    (hno : .begin ∉ controls) : controls.countP Control.isEnding = if o then 1 else 0 := by
  induction controls generalizing o with
  | nil =>
      cases h with
      | begin _ => rfl
      | ending hisEnding _ => cases hisEnding
  | cons control controls ih =>
      have hno' : Control.begin ∉ controls := fun hmem => hno (.tail control hmem)
      cases h with
      | begin _ => exact absurd (.head controls) hno
      | ending hisEnding h =>
          rw [List.countP_cons_of_pos hisEnding, ih h hno']
          rfl
      | pragma h => rw [List.countP_cons_of_neg Bool.false_ne_true, ih h hno']

theorem of_append (h : Alternates o (controls ++ rest) o'') :
    ∃ o', Alternates o controls o' ∧ Alternates o' rest o'' := by
  induction controls generalizing o with
  | nil => exact ⟨o, .nil, h⟩
  | cons control controls ih =>
      cases h with
      | begin h =>
          obtain ⟨o', hbefore, hafter⟩ := ih h
          exact ⟨o', .begin hbefore, hafter⟩
      | ending hisEnding h =>
          obtain ⟨o', hbefore, hafter⟩ := ih h
          exact ⟨o', .ending hisEnding hbefore, hafter⟩
      | pragma h =>
          obtain ⟨o', hbefore, hafter⟩ := ih h
          exact ⟨o', .pragma hbefore, hafter⟩

/-- Between one `begin` and the next there is one ending. -/
theorem countP_between_begins {first : List Control}
    (h : Alternates o (first ++ .begin :: (controls ++ .begin :: rest)) o')
    (hno : .begin ∉ controls) : controls.countP Control.isEnding = 1 := by
  obtain ⟨o₁, -, hafter⟩ := h.of_append
  cases hafter with
  | begin hbetween => exact hbetween.countP_before_begin hno
  | ending hisEnding _ => cases hisEnding

end Alternates

namespace Engine

variable {ε : Type}

/-- The engine with all that it has heard of beside its state. -/
def watched (g : Engine ε) : Engine (ε × List Heard) where
  version := g.version
  inTransaction := fun e => g.inTransaction e.1
  readsUncommitted := fun e => g.readsUncommitted e.1
  control := fun control e =>
    let (outcome, after) := g.control control e.1
    (outcome, after, e.2 ++ [.control ⟨control, outcome.isOk⟩])
  prepare := fun sql e =>
    let (outcome, after) := g.prepare sql e.1
    (outcome, after, e.2 ++ [.statement sql (g.inTransaction e.1)])
  execute := fun sql parameters =>
    (g.execute sql parameters).within Prod.fst fun after e => (after, e.2)

/-- Besides, a `begin` that succeeds opens a transaction. -/
structure Brackets (g : Engine ε) : Prop extends g.Transactional where
  begins : ∀ e, (g.control .begin e).1.isOk → g.inTransaction (g.control .begin e).2

/-- A statement that is no transaction control: neither preparing it nor executing it opens a
transaction or ends one. -/
structure Leaves (g : Engine ε) (sql : String) : Prop where
  prepare : ∀ e, g.inTransaction (g.prepare sql e).2 = g.inTransaction e
  execute : ∀ parameters e, g.inTransaction (g.execute sql parameters e).2 = g.inTransaction e

end Engine

/-- What is asked of a connection while it is open. -/
inductive Request where
  | prepare (p : Prepared)
  | bind (bound : BindCall)
  | executeUpdate (p : Prepared)
  | executeQuery (p : Prepared)
  | commit
  | rollback
  | isolation
  | setIsolation (level : Isolation)
  | setAutocommit (on : Bool)

namespace Request

variable {ε : Type}

def statement? : Request → Option Prepared
  | prepare p | executeUpdate p | executeQuery p => some p
  | _ => none

open Connection in
def run (g : Engine ε) : Request → Run (Connection ε) Unit
  | prepare p => Connection.prepare g p
  | bind bound => Connection.bind bound
  | executeUpdate p => do
      let _ ← Connection.executeUpdate g p
  | executeQuery p => do
      let _ ← Connection.executeQuery g p
  | commit => Connection.commit g
  | rollback => Connection.rollback g
  | isolation => do
      let _ ← Connection.isolation g
  | setIsolation level => Connection.setIsolation g level
  | setAutocommit on => Connection.setAutocommit g on

end Request

/-- Whether a connection commits on its own, and whether its engine has a transaction open. -/
structure Standing where
  autocommit : Bool
  isOpen : Bool
deriving DecidableEq, Repr

namespace Standing

/-- A transaction is open only while autocommit is off. -/
def InStep (m : Standing) : Prop :=
  m.isOpen → m.autocommit = false

/-- What the engine hears of a request, when it follows all controls. -/
def heard (m : Standing) : Request → List Heard
  | .prepare p =>
      (if !m.autocommit && !m.isOpen then [.control ⟨.begin, true⟩] else []) ++
        [.statement (Connection.preparedText p) !m.autocommit]
  | .commit => if m.isOpen then [.control ⟨.commit, true⟩] else []
  | .rollback => if m.isOpen then [.control ⟨.rollback, true⟩] else []
  | .setIsolation level => [.control ⟨.setReadUncommitted (level = .readUncommitted), true⟩]
  | .setAutocommit on => if on && m.isOpen then [.control ⟨.commit, true⟩] else []
  | _ => []

def next (m : Standing) : Request → Standing
  | .prepare _ => { m with isOpen := !m.autocommit }
  | .commit | .rollback => { m with isOpen := false }
  | .setAutocommit on => ⟨on, !on && m.isOpen⟩
  | _ => m

variable {m : Standing}

theorem InStep.next (h : m.InStep) (r : Request) : (m.next r).InStep := by
  cases r with
  | prepare p => exact fun hbegun => Bool.not_eq_true _ ▸ (Bool.not_eq_true' _).mp hbegun
  | commit | rollback => exact fun hstays => absurd hstays Bool.false_ne_true
  | setAutocommit on =>
      intro hstays
      cases on with
      | false => rfl
      | true => exact absurd hstays Bool.false_ne_true
  | bind _ | executeUpdate _ | executeQuery _ | isolation | setIsolation _ => exact h

theorem InStep.alternates (h : m.InStep) (r : Request) :
    Alternates m.isOpen ((m.heard r).filterMap Heard.control?) (m.next r).isOpen := by
  obtain ⟨autocommit, isOpen⟩ := m
  cases r with
  | prepare p =>
      cases autocommit with
      | true =>
          cases isOpen with
          | true => exact absurd (h rfl) (Bool.noConfusion)
          | false => exact .nil
      | false =>
          cases isOpen with
          | true => exact .nil
          | false => exact .begin .nil
  | commit | rollback =>
      cases isOpen with
      | true => exact .ending rfl .nil
      | false => exact .nil
  | setIsolation level => exact .pragma .nil
  | setAutocommit on =>
      cases on with
      | false => exact .nil
      | true =>
          cases isOpen with
          | true => exact .ending rfl .nil
          | false => exact .nil
  | bind _ | executeUpdate _ | executeQuery _ | isolation => exact .nil

end Standing

namespace Connection

variable {ε α : Type} {g : Engine ε} {c c' : Connection (ε × List Heard)}

def heard (c : Connection (ε × List Heard)) : List Heard :=
  c.engine.2

def standing (g : Engine ε) (c : Connection (ε × List Heard)) : Standing :=
  ⟨c.autocommit, g.inTransaction c.engine.1⟩

def after (g : Engine ε) (c : Connection ε) (requests : List Request) : Connection ε :=
  requests.foldl (fun c r => (r.run g c).2) c

/-- From one connection to the next the engine hears of something, and unless it refuses a control
the connection goes where it should. -/
def Follows (g : Engine ε) (c : Connection (ε × List Heard)) (r : Request)
    (c' : Connection (ε × List Heard)) : Prop :=
  ∃ new, c'.heard = c.heard ++ new ∧
    ((c.standing g).InStep → (∀ h ∈ new, h.isRefusal = false) →
      new = (c.standing g).heard r ∧ c'.standing g = (c.standing g).next r)

theorem onEngine_control (g : Engine ε) (control : Control) (c : Connection (ε × List Heard)) :
    onEngine (g.watched.control control) c =
      ((g.control control c.engine.1).1,
        { c with engine := ((g.control control c.engine.1).2,
                   c.heard ++ [.control ⟨control, (g.control control c.engine.1).1.isOk⟩]) }) :=
  rfl

theorem onEngine_prepare (g : Engine ε) (sql : String) (c : Connection (ε × List Heard)) :
    onEngine (g.watched.prepare sql) c =
      ((g.prepare sql c.engine.1).1,
        { c with engine := ((g.prepare sql c.engine.1).2,
                   c.heard ++ [.statement sql (g.inTransaction c.engine.1)]) }) :=
  rfl

theorem follows_of_silent {r : Request} (hheard : c'.heard = c.heard)
    (hstanding : c'.standing g = (c.standing g).next r) (hsilent : (c.standing g).heard r = []) :
    Follows g c r c' :=
  ⟨[], by rw [hheard, List.append_nil], fun _ _ => ⟨hsilent.symm, hstanding⟩⟩

theorem follows_of_control {r : Request} {control : Control} {followed : Bool}
    (hheard : c'.heard = c.heard ++ [.control ⟨control, followed⟩])
    (hhears : (c.standing g).heard r = [.control ⟨control, true⟩])
    (hstanding : followed → c'.standing g = (c.standing g).next r) : Follows g c r c' := by
  refine ⟨_, hheard, fun _ hunrefused => ?_⟩
  have hdone : followed = true := by
    simpa [Heard.isRefusal] using hunrefused _ (.head [])
  exact ⟨by rw [hhears, hdone], hstanding hdone⟩

theorem finish_follows (hlawful : g.Transactional) {r : Request} {control : Control}
    (hisEnding : control.isEnding) (c : Connection (ε × List Heard))
    (hheard : (c.standing g).heard r =
      if (c.standing g).isOpen then [.control ⟨control, true⟩] else [])
    (hnext : (c.standing g).next r = { c.standing g with isOpen := false }) :
    Follows g c r (finish g.watched control c).2 := by
  cases hopen : g.inTransaction c.engine.1 with
  | false =>
      have hidle : g.watched.inTransaction c.engine = false := hopen
      rw [finish_of_idle hidle]
      refine follows_of_silent rfl ?_ ?_
      · rw [hnext, standing, hopen]
      · rw [hheard, standing, hopen]
        rfl
  | true =>
      have hisOpen : g.watched.inTransaction c.engine = true := hopen
      rw [finish_of_open hisOpen]
      refine follows_of_control rfl ?_ fun hdone => ?_
      · rw [hheard, standing, hopen]
        rfl
      · have hended := hlawful.ends control c.engine.1 hisEnding hopen
        rw [hnext]
        change Standing.mk c.autocommit (g.inTransaction (g.control control c.engine.1).2) = _
        rw [hended, hdone]
        rfl

theorem setAutocommit_follows (hlawful : g.Transactional) (on : Bool)
    (c : Connection (ε × List Heard)) :
    Follows g c (.setAutocommit on) (setAutocommit g.watched on c).2 := by
  cases on with
  | false => exact follows_of_silent rfl rfl rfl
  | true =>
      have hsame : setAutocommit g.watched true c =
          (finish g.watched .commit >>= fun _ => modify fun c => { c with autocommit := true }) c :=
        rfl
      rw [hsame, Run.bind_apply]
      cases hopen : g.inTransaction c.engine.1 with
      | false =>
          have hidle : g.watched.inTransaction c.engine = false := hopen
          rw [finish_of_idle hidle]
          refine follows_of_silent rfl ?_ ?_
          · change Standing.mk true (g.inTransaction c.engine.1) = ⟨true, false⟩
            rw [hopen]
          · rw [Standing.heard, standing, hopen]
            rfl
      | true =>
          have hisOpen : g.watched.inTransaction c.engine = true := hopen
          have hheard :
              (c.standing g).heard (.setAutocommit true) = [.control ⟨.commit, true⟩] := by
            rw [Standing.heard, standing, hopen]
            rfl
          have hended := hlawful.ends .commit c.engine.1 rfl hopen
          rw [finish_of_open hisOpen, onEngine_control]
          cases hrun : (g.control .commit c.engine.1).1 with
          | error e =>
              rw [hrun] at hended
              exact follows_of_control rfl hheard fun hdone => absurd hdone Bool.false_ne_true
          | ok _ =>
              rw [hrun] at hended
              refine follows_of_control rfl hheard fun _ => ?_
              change Standing.mk true (g.inTransaction (g.control .commit c.engine.1).2) =
                ⟨true, false⟩
              rw [hended]
              rfl

private theorem stated_spec (sql : String) (c : Connection (ε × List Heard)) :
    let stated : Run (Connection (ε × List Heard)) Unit := do
      onEngine (g.watched.prepare sql)
      modify ({ · with parameters := [] })
    (stated c).2.heard = c.heard ++ [.statement sql (g.inTransaction c.engine.1)] ∧
      (stated c).2.standing g = ⟨c.autocommit, g.inTransaction (g.prepare sql c.engine.1).2⟩ := by
  intro stated
  rw [show stated c = _ from Run.bind_apply .., onEngine_prepare]
  cases (g.prepare sql c.engine.1).1 with
  | ok _ => exact ⟨rfl, rfl⟩
  | error e => exact ⟨rfl, rfl⟩

theorem beginIfNeeded_of_needed {g : Engine ε} {c : Connection ε} (hauto : c.autocommit = false)
    (hidle : g.inTransaction c.engine = false) :
    beginIfNeeded g c = onEngine (g.control .begin) c := by
  simp [beginIfNeeded, Run.bind_apply, hauto, hidle]

theorem beginIfNeeded_of_not_needed {g : Engine ε} {c : Connection ε}
    (h : ¬ (c.autocommit = false ∧ g.inTransaction c.engine = false)) :
    beginIfNeeded g c = (.ok (), c) := by
  simp only [not_and, Bool.not_eq_false] at h
  cases hauto : c.autocommit with
  | true => simp [beginIfNeeded, Run.bind_apply, hauto]
  | false => simp [beginIfNeeded, Run.bind_apply, h hauto]

theorem prepare_follows (hlawful : g.Brackets) {p : Prepared} (hplain : g.Leaves (preparedText p))
    (c : Connection (ε × List Heard)) :
    Follows g c (.prepare p) (prepare g.watched p c).2 := by
  rw [prepare, Run.bind_apply]
  by_cases hneeded : c.autocommit = false ∧ g.watched.inTransaction c.engine = false
  · obtain ⟨⟨e, log⟩, autocommit, sent⟩ := c
    obtain ⟨rfl, hidle⟩ := hneeded
    have hidle : g.inTransaction e = false := hidle
    have hbegins := hlawful.begins e
    rw [beginIfNeeded_of_needed rfl hidle, onEngine_control]
    cases hrun : (g.control .begin e).1 with
    | error err =>
        refine ⟨_, rfl, fun _ hunrefused => ?_⟩
        cases hunrefused _ (.head [])
    | ok _ =>
        rw [hrun] at hbegins
        obtain ⟨hheard, hstanding⟩ := stated_spec (g := g) (preparedText p)
          ⟨((g.control .begin e).2, log ++ [.control ⟨.begin, true⟩]), false, sent⟩
        rw [hplain.prepare, hbegins rfl] at hstanding
        rw [hbegins rfl] at hheard
        refine ⟨_, hheard.trans (List.append_assoc ..), fun _ _ => ⟨?_, hstanding⟩⟩
        rw [Standing.heard, standing, hidle]
        rfl
  · rw [beginIfNeeded_of_not_needed hneeded]
    obtain ⟨hheard, hstanding⟩ := stated_spec (g := g) (preparedText p) c
    rw [hplain.prepare] at hstanding
    refine ⟨_, hheard, fun hinStep _ => ?_⟩
    have hinside : g.inTransaction c.engine.1 = !c.autocommit := by
      cases hauto : c.autocommit with
      | false => exact (Bool.not_eq_false _).mp fun hidle => hneeded ⟨hauto, hidle⟩
      | true =>
          refine (Bool.not_eq_true _).mp fun hisOpen => ?_
          cases hauto.symm.trans (hinStep hisOpen)
    rw [hinside] at hstanding ⊢
    refine ⟨?_, hstanding⟩
    rw [Standing.heard, standing, hinside]
    cases c.autocommit with
    | true => rfl
    | false => rfl

private theorem snd_bind {σ β : Type} (x : Run σ α) {f : α → Run σ β} (h : ∀ a s, (f a s).2 = s)
    (s : σ) : ((x >>= f) s).2 = (x s).2 := by
  rw [Run.bind_apply]
  cases x s with
  | mk outcome s' =>
      cases outcome with
      | ok a => exact h a s'
      | error e => rfl

theorem snd_executeUpdate (g : Engine ε) (p : Prepared) (c : Connection ε) :
    (executeUpdate g p c).2 = (execute g p c).2 := by
  refine snd_bind _ (fun outcome c' => ?_) c
  cases outcome.failure with
  | some e => rfl
  | none =>
      simp only
      split
      · rfl
      · rfl

theorem execute_follows {r : Request} {p : Prepared} (hplain : g.Leaves (preparedText p))
    (c : Connection (ε × List Heard)) (hsilent : (c.standing g).heard r = [])
    (hnext : (c.standing g).next r = c.standing g) : Follows g c r (execute g.watched p c).2 := by
  refine follows_of_silent rfl ?_ hsilent
  rw [hnext]
  exact congrArg (Standing.mk c.autocommit) (hplain.execute _ c.engine.1)

theorem bind_follows (bound : BindCall) (c : Connection (ε × List Heard)) :
    Follows g c (.bind bound) (bind bound c).2 := by
  cases bound with
  | bindNull i type => exact follows_of_silent rfl rfl rfl
  | bind i v =>
      rw [bind, Run.bind_apply, Run.ofExcept_apply]
      cases store v with
      | ok stored => exact follows_of_silent rfl rfl rfl
      | error e => exact follows_of_silent rfl rfl rfl

theorem run_follows (hlawful : g.Brackets) {r : Request}
    (hplain : ∀ p, r.statement? = some p → g.Leaves (preparedText p))
    (c : Connection (ε × List Heard)) : Follows g c r (r.run g.watched c).2 := by
  cases r with
  | prepare p => exact prepare_follows hlawful (hplain p rfl) c
  | bind bound => exact bind_follows bound c
  | executeUpdate p =>
      rw [Request.run, snd_bind _ fun _ _ => rfl, snd_executeUpdate]
      exact execute_follows (hplain p rfl) c rfl rfl
  | executeQuery p =>
      rw [Request.run, snd_bind _ fun _ _ => rfl, executeQuery, snd_bind _ fun _ _ => rfl]
      exact execute_follows (hplain p rfl) c rfl rfl
  | commit => exact finish_follows hlawful.toTransactional rfl c rfl rfl
  | rollback => exact finish_follows hlawful.toTransactional rfl c rfl rfl
  | isolation => exact follows_of_silent rfl rfl rfl
  | setIsolation level =>
      rw [Request.run, setIsolation, onEngine_control]
      refine follows_of_control rfl rfl fun _ => ?_
      exact congrArg (Standing.mk c.autocommit) (hlawful.stays _ c.engine.1)
  | setAutocommit on => exact setAutocommit_follows hlawful.toTransactional on c

theorem after_append (g : Engine ε) (c : Connection ε) (requests more : List Request) :
    c.after g (requests ++ more) = (c.after g requests).after g more :=
  List.foldl_append

/-- Requests one after the other, with statements that are no transaction control.  As long as no
control is refused, the connection stays in step, and its controls alternate. -/
theorem after_follows (hlawful : g.Brackets) {requests : List Request}
    (hplain : ∀ r ∈ requests, ∀ p, r.statement? = some p → g.Leaves (preparedText p))
    (c : Connection (ε × List Heard)) :
    ∃ new, (c.after g.watched requests).heard = c.heard ++ new ∧
      ((c.standing g).InStep → (∀ h ∈ new, h.isRefusal = false) →
        ((c.after g.watched requests).standing g).InStep ∧
        Alternates (c.standing g).isOpen (new.filterMap Heard.control?)
          ((c.after g.watched requests).standing g).isOpen) := by
  induction requests generalizing c with
  | nil => exact ⟨[], (List.append_nil _).symm, fun hinStep _ => ⟨hinStep, .nil⟩⟩
  | cons r requests ih =>
      obtain ⟨hr, hplain⟩ := List.forall_mem_cons.mp hplain
      obtain ⟨new, hheard, hfollows⟩ := run_follows hlawful hr c
      obtain ⟨later, hlater, hrest⟩ := ih hplain (r.run g.watched c).2
      refine ⟨new ++ later, ?_, fun hinStep hunrefused => ?_⟩
      · rw [after, List.foldl_cons, ← after, hlater, hheard, List.append_assoc]
      · obtain ⟨hfirst, hsecond⟩ := List.forall_mem_append.mp hunrefused
        obtain ⟨rfl, hstanding⟩ := hfollows hinStep hfirst
        rw [hstanding] at hrest
        obtain ⟨hinStep', halternates⟩ := hrest (hinStep.next r) hsecond
        refine ⟨hinStep', ?_⟩
        rw [List.filterMap_append]
        exact (hinStep.alternates r).append halternates

/-- What has been refused stays refused. -/
theorem unrefused_of_after (hlawful : g.Brackets) {requests : List Request}
    (hplain : ∀ r ∈ requests, ∀ p, r.statement? = some p → g.Leaves (preparedText p))
    (hfollowed : ∀ h ∈ (c.after g.watched requests).heard, h.isRefusal = false) :
    ∀ h ∈ c.heard, h.isRefusal = false := by
  obtain ⟨new, hheard, -⟩ := after_follows hlawful hplain c
  rw [hheard] at hfollowed
  exact (List.forall_mem_append.mp hfollowed).1

theorem heard_after_single (hlawful : g.Brackets) {r : Request}
    (hplain : ∀ p, r.statement? = some p → g.Leaves (preparedText p))
    (hinStep : (c.standing g).InStep)
    (hfollowed : ∀ h ∈ (c.after g.watched [r]).heard, h.isRefusal = false) :
    (c.after g.watched [r]).heard = c.heard ++ (c.standing g).heard r := by
  obtain ⟨new, hheard, hfollows⟩ := run_follows hlawful hplain c
  have hsingle : (c.after g.watched [r]).heard = c.heard ++ new := hheard
  rw [hsingle] at hfollowed
  rw [hsingle, (hfollows hinStep (List.forall_mem_append.mp hfollowed).2).1]

theorem inStep_after (hlawful : g.Brackets) {requests : List Request}
    (hplain : ∀ r ∈ requests, ∀ p, r.statement? = some p → g.Leaves (preparedText p))
    (hinStep : (c.standing g).InStep)
    (hfollowed : ∀ h ∈ (c.after g.watched requests).heard, h.isRefusal = false) :
    ((c.after g.watched requests).standing g).InStep := by
  obtain ⟨new, hheard, hfollows⟩ := after_follows hlawful hplain c
  rw [hheard] at hfollowed
  exact (hfollows hinStep (List.forall_mem_append.mp hfollowed).2).1

def opened (e : ε) : Connection (ε × List Heard) :=
  { engine := (e, []) }

/-- Autocommit and the engine's transactions are in step at every moment: none is open while
autocommit is on, each statement is prepared inside of one exactly when autocommit is off, and an
end with nothing to be ended comes to nothing.  So each `begin` has one ending before the next. -/
theorem transactions_follow_autocommit (hlawful : g.Brackets) {e : ε}
    (hidle : g.inTransaction e = false) {requests : List Request}
    (hplain : ∀ r ∈ requests, ∀ p, r.statement? = some p → g.Leaves (preparedText p))
    (hfollowed : ∀ h ∈ ((opened e).after g.watched requests).heard, h.isRefusal = false) :
    (∀ before later, requests = before ++ later →
      let c := (opened e).after g.watched before
      (g.inTransaction c.engine.1 → c.autocommit = false) ∧
      (∀ p rest, later = .prepare p :: rest →
        (c.after g.watched [.prepare p]).heard = c.heard ++
          ((if !c.autocommit && !g.inTransaction c.engine.1 then [.control ⟨.begin, true⟩]
            else []) ++ [.statement (preparedText p) !c.autocommit])) ∧
      (g.inTransaction c.engine.1 = false → ∀ rest,
        (later = .commit :: rest → c.after g.watched [.commit] = c) ∧
        (later = .rollback :: rest → c.after g.watched [.rollback] = c))) ∧
    let c := (opened e).after g.watched requests
    let controls := c.heard.filterMap Heard.control?
    Alternates false controls (g.inTransaction c.engine.1) ∧
    ∀ first between rest, controls = first ++ .begin :: (between ++ .begin :: rest) →
      .begin ∉ between → between.countP Control.isEnding = 1 := by
  have hstart : ((opened e).standing g).InStep := fun hisOpen =>
    absurd (hidle.symm.trans hisOpen) Bool.false_ne_true
  have halternates : Alternates false
      (((opened e).after g.watched requests).heard.filterMap Heard.control?)
      (g.inTransaction ((opened e).after g.watched requests).engine.1) := by
    obtain ⟨new, hheard, hfollows⟩ := after_follows hlawful hplain (opened e)
    obtain rfl : ((opened e).after g.watched requests).heard = new := hheard
    have hrun := (hfollows hstart hfollowed).2
    rwa [show ((opened e).standing g).isOpen = false from hidle] at hrun
  refine ⟨?_, halternates, fun first between rest hsplit hno => ?_⟩
  · rintro before later rfl
    intro c
    obtain ⟨hearly, hlate⟩ := List.forall_mem_append.mp hplain
    rw [after_append] at hfollowed
    have hinStep : (c.standing g).InStep :=
      inStep_after hlawful hearly hstart (unrefused_of_after hlawful hlate hfollowed)
    refine ⟨hinStep, ?_, fun hidle => ?_⟩
    · rintro p rest rfl
      obtain ⟨hp, hrest⟩ := List.forall_mem_cons.mp hlate
      exact heard_after_single hlawful hp hinStep
        (unrefused_of_after (c := c.after g.watched [.prepare p]) hlawful hrest hfollowed)
    · have hidle' : g.watched.inTransaction c.engine = false := hidle
      intro rest
      refine ⟨fun _ => ?_, fun _ => ?_⟩
      · exact congrArg Prod.snd (finish_of_idle hidle' .commit)
      · exact congrArg Prod.snd (finish_of_idle hidle' .rollback)
  · rw [hsplit] at halternates
    exact halternates.countP_between_begins hno

end Connection

namespace Notebook

theorem brackets : engine.Brackets where
  toTransactional := transactional
  begins _ _ := rfl

theorem leaves (sql : String) : engine.Leaves sql where
  prepare s := congrArg engine.inTransaction (prepare_snd sql s)
  execute parameters s := congrArg Option.isSome (saved_execute sql parameters s)

end Notebook

/-- Work in two transactions.  The second statement is none that the engine understands, and when
the first end is repeated there is nothing to be ended. -/
def notedTwice : List Request :=
  let insert : Prepared := ⟨0, "INSERT INTO t (x) VALUES (?)", false⟩
  [.setAutocommit false, .prepare ⟨0, "INSERT t", false⟩, .prepare insert,
   .bind (.bindNull 0 .varchar), .executeUpdate insert, .commit, .rollback,
   .setIsolation .readUncommitted, .isolation, .prepare insert, .setAutocommit true,
   .prepare ⟨0, "SELECT COUNT(*) FROM t", false⟩]

theorem notedTwice_alternates :
    let c := (Connection.opened {}).after Notebook.engine.watched notedTwice
    c.heard.filterMap Heard.control? =
      [.begin] ++ ([.commit, .setReadUncommitted true] ++ [.begin, .commit]) ∧
    [Control.commit, .setReadUncommitted true].countP Control.isEnding = 1 ∧
    (Notebook.engine.inTransaction c.engine.1 → c.autocommit = false) := by
  have hcontrols : ((Connection.opened {}).after Notebook.engine.watched notedTwice).heard.filterMap
      Heard.control? = [.begin] ++ ([.commit, .setReadUncommitted true] ++ [.begin, .commit]) := by
    decide +kernel
  have hfollowed : ∀ h ∈ ((Connection.opened {}).after Notebook.engine.watched notedTwice).heard,
      h.isRefusal = false := by
    decide +kernel
  obtain ⟨hmoments, -, hbetween⟩ := Connection.transactions_follow_autocommit Notebook.brackets rfl
    (fun _ _ p _ => Notebook.leaves _) hfollowed
  refine ⟨hcontrols, hbetween [] _ _ hcontrols (by decide), ?_⟩
  exact (hmoments notedTwice [] (List.append_nil _).symm).1

end TypedSql.Sqlite
