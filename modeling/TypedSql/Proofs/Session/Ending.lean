import TypedSql.Proofs.Session.Statements
import TypedSql.Store.Scripted

namespace TypedSql

/-! How the scope that has begun a transaction ends it: at most one connection has been set up, and
if one has been, one call ends the transaction there before the connection is given back. -/

namespace Call

def isEnding : Call → Bool
  | commit _ | rollback _ => true
  | _ => false

def isUpkeep : Call → Bool
  | connect | isolation _ | setIsolation _ _ | autocommit _ | setAutocommit _ _ | close _ => true
  | _ => false

def ending (rolledBack : Bool) (connection : Nat) : Call :=
  if rolledBack then rollback connection else commit connection

variable {c : Call} {connection : Nat}

theorem isUpkeep_of_isSetting (h : c.isSetting connection) : c.isUpkeep := by
  cases c with
  | isolation _ | setIsolation _ _ | autocommit _ | setAutocommit _ _ => rfl
  | _ => cases h

theorem isStatement_of_isUpkeep (h : c.isUpkeep) : c.isStatement = false := by
  cases c with
  | prepare _ | bind _ _ | executeUpdate _ | executeQuery _ => cases h
  | _ => rfl

theorem isEnding_of_isUpkeep (h : c.isUpkeep) : c.isEnding = false := by
  cases c with
  | commit _ | rollback _ => cases h
  | _ => rfl

theorem isEnding_of_isUse (h : c.isUse connection) : c.isEnding = false := by
  cases c with
  | commit _ | rollback _ => simp [isUse] at h
  | _ => rfl

theorem isEnding_ending (rolledBack : Bool) : (ending rolledBack connection).isEnding := by
  cases rolledBack with
  | true => rfl
  | false => rfl

theorem isStatement_ending (rolledBack : Bool) :
    (ending rolledBack connection).isStatement = false := by
  cases rolledBack with
  | true => rfl
  | false => rfl

end Call

variable {σ α : Type}

/-- Whether a scope with the outcome rolls its transaction back. -/
def rolledBackBy (rollsBack : Error → Bool) : Except Error α → Bool
  | .ok _ => false
  | .error e => e.isPanic || rollsBack e

/-- The outcome for the caller: the failure of the scope comes before that of its end. -/
def concluded : Except Error α → Option Error → Except Error α
  | .ok _, some e => .error e
  | outcome, _ => outcome

namespace Transaction

/-- All that is said for a transaction, with the connection that is set up and the exchange that
ends it. -/
inductive Lifetime (t : Transaction) (rolledBack : Bool) :
    Option OpenConnection → Option Exchange → List Exchange → Prop
  | untouched {failures : List (List Exchange)}
      (hfailed : ∀ failure ∈ failures, FailedOpening failure) :
      Lifetime t rolledBack none none failures.flatten
  | ended {failures : List (List Exchange)} {o : OpenConnection} {uses release : List Exchange}
      {ending : Exchange} (hfailed : ∀ failure ∈ failures, FailedOpening failure)
      (hareUses : ∀ x ∈ uses, x.call.isUse o.connection)
      (hisEnding : ending.call = .ending rolledBack o.connection)
      (hreleased : release.map Exchange.call = t.releaseCalls o) :
      Lifetime t rolledBack (some o) (some ending)
        (failures.flatten ++ t.opening o ++ uses ++ ending :: release)

theorem isUpkeep_of_failed {es : List Exchange} (h : FailedOpening es) :
    ∀ x ∈ es, x.call.isUpkeep := by
  cases h with
  | inl hrefused =>
      obtain ⟨e, rfl⟩ := hrefused
      simp [Call.isUpkeep]
  | inr hinterrupted =>
      obtain ⟨connection, setup, closing, rfl, hsetup, hclosing⟩ := hinterrupted
      obtain ⟨done, failing, rfl, hdone, hfailing, -⟩ := hsetup
      have hsetting (x : Exchange) (hx : x ∈ done) : x.call.isUpkeep :=
        Call.isUpkeep_of_isSetting (hdone x hx).1
      have hcloses : closing.call.isUpkeep := by
        rw [hclosing]
        rfl
      intro x hx
      simp only [List.mem_cons, List.mem_append, List.not_mem_nil, or_false] at hx
      obtain rfl | (hx | rfl) | rfl := hx
      · rfl
      · exact hsetting x hx
      · exact Call.isUpkeep_of_isSetting hfailing
      · exact hcloses

theorem isUpkeep_of_opening {t : Transaction} {o : OpenConnection} :
    ∀ x ∈ t.opening o, x.call.isUpkeep := by
  intro x hx
  obtain rfl | hx := List.mem_cons.mp hx
  · rfl
  · exact Call.isUpkeep_of_isSetting (t.isSetting_of_mem_settings hx).1

theorem isUpkeep_of_failures {failures : List (List Exchange)}
    (h : ∀ failure ∈ failures, FailedOpening failure) :
    ∀ x ∈ failures.flatten, x.call.isUpkeep := by
  intro x hx
  obtain ⟨failure, hfailure, hx⟩ := List.mem_flatten.mp hx
  exact isUpkeep_of_failed (h failure hfailure) x hx

theorem isUpkeep_of_releaseCalls {t : Transaction} {o : OpenConnection} :
    ∀ c ∈ t.releaseCalls o, c.isUpkeep := by
  intro c hc
  rw [releaseCalls_eq, List.mem_append, List.mem_singleton] at hc
  obtain hc | rfl := hc
  · exact Call.isUpkeep_of_isSetting (isSetting_of_restoringCalls hc)
  · rfl

theorem isUpkeep_of_released {t : Transaction} {o : OpenConnection} {release : List Exchange}
    (h : release.map Exchange.call = t.releaseCalls o) : ∀ x ∈ release, x.call.isUpkeep := by
  intro x hx
  have hcall : x.call ∈ t.releaseCalls o := by
    rw [← h]
    exact List.mem_map_of_mem hx
  exact isUpkeep_of_releaseCalls x.call hcall

theorem filter_isEnding_of_isUpkeep {es : List Exchange} (h : ∀ x ∈ es, x.call.isUpkeep) :
    es.filter (fun x => x.call.isEnding) = [] := by
  apply List.filter_eq_nil_iff.mpr
  intro x hx
  rw [Call.isEnding_of_isUpkeep (h x hx)]
  exact Bool.false_ne_true

theorem filter_isEnding_of_isUse {connection : Nat} {es : List Exchange}
    (h : ∀ x ∈ es, x.call.isUse connection) : es.filter (fun x => x.call.isEnding) = [] := by
  apply List.filter_eq_nil_iff.mpr
  intro x hx
  rw [Call.isEnding_of_isUse (h x hx)]
  exact Bool.false_ne_true

theorem History.lifetime {t : Transaction} {opened : Option OpenConnection} {rolledBack : Bool}
    {ended : Option Exchange} {es release : List Exchange} (h : t.History opened es)
    (hended : ended.map Exchange.call =
      opened.map fun o => .ending rolledBack o.connection)
    (hrelease : release.map Exchange.call = opened.elim [] t.releaseCalls) :
    t.Lifetime rolledBack opened ended (es ++ (ended.toList ++ release)) := by
  obtain ⟨failures, hfailed, hshape⟩ := h.shape
  cases opened with
  | none =>
      obtain rfl := Option.map_eq_none_iff.mp hended
      obtain rfl := List.map_eq_nil_iff.mp hrelease
      simp only at hshape
      rw [hshape, Option.toList_none, List.append_nil, List.append_nil]
      exact .untouched hfailed
  | some o =>
      obtain ⟨uses, hareUses, hes⟩ := hshape
      obtain ⟨ending, rfl, hisEnding⟩ := Option.map_eq_some_iff.mp hended
      rw [hes]
      exact .ended hfailed hareUses hisEnding hrelease

namespace Lifetime

variable {t : Transaction} {rolledBack : Bool} {opened : Option OpenConnection}
  {ending : Option Exchange} {es : List Exchange}

/-- Every statement runs on the one connection that has been set up. -/
theorem connection_of_isStatement (h : t.Lifetime rolledBack opened ending es) {x : Exchange}
    (hx : x ∈ es) (hstatement : x.call.isStatement) :
    x.call.connection? = opened.map OpenConnection.connection := by
  have hnotUpkeep (h : x.call.isUpkeep) : False := by
    rw [Call.isStatement_of_isUpkeep h] at hstatement
    cases hstatement
  cases h with
  | untouched hfailed => exact (hnotUpkeep (isUpkeep_of_failures hfailed x hx)).elim
  | @ended failures o uses release ending hfailed hareUses hisEnding hreleased =>
      simp only [List.mem_append, List.mem_cons] at hx
      obtain ((hx | hx) | hx) | rfl | hx := hx
      · exact (hnotUpkeep (isUpkeep_of_failures hfailed x hx)).elim
      · exact (hnotUpkeep (isUpkeep_of_opening x hx)).elim
      · have hisUse := hareUses x hx
        simp only [Call.isUse, Bool.and_eq_true, decide_eq_true_eq] at hisUse
        exact hisUse.1
      · rw [hisEnding, Call.isStatement_ending] at hstatement
        cases hstatement
      · exact (hnotUpkeep (isUpkeep_of_released hreleased x hx)).elim

/-- The transaction is ended once if a connection has been set up for it, and never otherwise. -/
theorem filter_isEnding (h : t.Lifetime rolledBack opened ending es) :
    es.filter (fun x => x.call.isEnding) = ending.toList := by
  cases h with
  | untouched hfailed => exact filter_isEnding_of_isUpkeep (isUpkeep_of_failures hfailed)
  | @ended failures o uses release ending hfailed hareUses hisEnding hreleased =>
      have hisThere : ending.call.isEnding := by
        rw [hisEnding]
        exact Call.isEnding_ending _
      have hatEnd : (ending :: release).filter (fun x => x.call.isEnding) = [ending] := by
        rw [List.filter_cons_of_pos (by exact hisThere),
          filter_isEnding_of_isUpkeep (isUpkeep_of_released hreleased)]
      rw [List.filter_append, List.filter_append, List.filter_append,
        filter_isEnding_of_isUpkeep (isUpkeep_of_failures hfailed),
        filter_isEnding_of_isUpkeep isUpkeep_of_opening, filter_isEnding_of_isUse hareUses, hatEnd]
      rfl

end Lifetime

def settle (d : Driver σ) (t : Transaction) (rolledBack : Bool) : Session σ Unit :=
  if rolledBack then t.rollback d else t.commit d

theorem settle_of_inUse (d : Driver σ) {t : Transaction} {w : World σ} (h : (w.state t).inUse)
    (rolledBack : Bool) :
    t.settle d rolledBack w = (.error (.usage .connectionInUse), w) := by
  cases rolledBack with
  | true => simp [settle, rollback, idle, Run.bind_apply, h]
  | false => simp [settle, commit, idle, Run.bind_apply, h]

theorem settle_of_unopened (d : Driver σ) {t : Transaction} {w : World σ}
    (h : w.state t = ⟨none, false⟩) (rolledBack : Bool) :
    t.settle d rolledBack w = (.ok (), w) := by
  cases rolledBack with
  | true => simp [settle, rollback, idle, Run.bind_apply, h]
  | false => simp [settle, commit, idle, Run.bind_apply, h]

open Session

variable (d : Driver σ) {t : Transaction} {w w' : World (σ × List Exchange)}

private def Settles (c : Call) (outcome : Except Error Unit) (es : List Exchange) : Prop :=
  ∃ x : Exchange, es = [x] ∧ x.call = c ∧ outcome = concluded (.ok ()) x.error?

private theorem settles_logged {c : Call} {x : Session (σ × List Exchange) Unit}
    (hx : Makes x (Settles c)) (message : String) :
    Makes (do
      log .debug .transaction message
      x) (Settles c) := by
  have hsilent : Tells (σ := σ) (log .debug .transaction message) [] :=
    makes_log _ _ _ ⟨rfl, rfl⟩
  apply hsilent.bind
  intro es hes
  rw [List.map_eq_nil_iff.mp hes]
  exact hx

theorem settle_of_opened {o : OpenConnection} (h : w.state t = ⟨some o, false⟩)
    (rolledBack : Bool) :
    ∃ (ended : Exchange) (w' : World (σ × List Exchange)),
      t.settle d.traced rolledBack w = (concluded (.ok ()) ended.error?, w') ∧
      ended.call = .ending rolledBack o.connection ∧ w.Exchanged [ended] w' := by
  have hcalling : Makes (if rolledBack then call d.traced (.rollback o.connection)
      else call d.traced (.commit o.connection)) (Settles (.ending rolledBack o.connection)) := by
    cases rolledBack with
    | true => exact makes_call d (.rollback o.connection) fun outcome =>
        ⟨_, rfl, rfl, by cases outcome <;> rfl⟩
    | false => exact makes_call d (.commit o.connection) fun outcome =>
        ⟨_, rfl, rfl, by cases outcome <;> rfl⟩
  obtain ⟨es, hmade, ended, rfl, hcall, houtcome⟩ :=
    settles_logged hcalling (if rolledBack then "Rollback" else "Commit") w
  have hsame : t.settle d.traced rolledBack w = (do
      log .debug .transaction (if rolledBack then "Rollback" else "Commit")
      if rolledBack then call d.traced (.rollback o.connection)
      else call d.traced (.commit o.connection)) w := by
    cases rolledBack with
    | true => simp [settle, rollback, idle, Run.bind_apply, h]
    | false => simp [settle, commit, idle, Run.bind_apply, h]
  rw [hsame]
  exact ⟨ended, _, Prod.ext houtcome rfl, hcall, hmade⟩

theorem settle_spec (hidle : (w.state t).inUse = false) (rolledBack : Bool) :
    ∃ (ended : Option Exchange) (w' : World (σ × List Exchange)),
      t.settle d.traced rolledBack w =
        (concluded (.ok ()) (ended.bind Exchange.error?), w') ∧
      ended.map Exchange.call =
        (w.state t).opened.map (fun o => .ending rolledBack o.connection) ∧
      w.Exchanged ended.toList w' := by
  cases hstate : w.state t with
  | mk opened inUse =>
      rw [hstate] at hidle
      subst hidle
      cases opened with
      | none => exact ⟨none, w, settle_of_unopened d.traced hstate rolledBack, rfl, .refl w⟩
      | some o =>
          obtain ⟨ended, w', hrun, hcall, hmade⟩ := settle_of_opened d hstate rolledBack
          exact ⟨some ended, w', hrun, by rw [Option.map_some, hcall, Option.map_some], hmade⟩

theorem close_of_unopened {τ : Type} (d : Driver τ) {v : World τ} (h : v.state t = ⟨none, false⟩) :
    t.close d v = (.ok (), (v.setState t {}).unbind t) := by
  simp [close, Run.bind_apply, h]

theorem close_of_opened {τ : Type} (d : Driver τ) {v v' : World τ} {o : OpenConnection}
    (h : v.state t = ⟨some o, false⟩) (hrelease : t.release d o (v.setState t {}) = (.ok (), v')) :
    t.close d v = (.ok (), v'.unbind t) := by
  simp [close, Run.bind_apply, h, hrelease]

/-- Closing gives back the connection, if there is one, and frees the thread. -/
theorem close_leaves (hidle : (w.state t).inUse = false) :
    ∃ release v, t.close d.traced w = (.ok (), v.unbind t) ∧
      release.map Exchange.call = (w.state t).opened.elim [] t.releaseCalls ∧
      (w.setState t {}).Exchanged release v := by
  cases hstate : w.state t with
  | mk opened inUse =>
      rw [hstate] at hidle
      subst hidle
      cases opened with
      | none => exact ⟨[], _, close_of_unopened d.traced hstate, rfl, .refl _⟩
      | some o =>
          obtain ⟨release, hmade, houtcome, hcalls⟩ := t.tells_release d o (w.setState t {})
          have hrelease : t.release d.traced o (w.setState t {}) =
              (.ok (), (t.release d.traced o (w.setState t {})).2) := Prod.ext houtcome rfl
          exact ⟨release, _, close_of_opened d.traced hstate hrelease, hcalls, hmade⟩

end Transaction

namespace Manager

open Session Transaction

variable {m : Manager (σ × List Exchange)} {d : Driver σ} {t : Transaction}
  {w : World (σ × List Exchange)}

section

variable {τ : Type} {n : Manager τ} {v v₁ v₂ v₃ : World τ} {rollsBack : Error → Bool}
  {ended : Except Error Unit}

theorem finish_ok (a : α) (hsettle : t.settle n.driver false v = (ended, v₁))
    (hclose : t.close n.driver v₁ = (.ok (), v₂)) :
    n.finish t rollsBack (.ok a) v = (ended.map fun _ => a, v₂) := by
  have hcommit : t.commit n.driver v = (ended, v₁) := hsettle
  cases ended with
  | ok _ => simp [finish, conclude, Run.bind_apply, hcommit, hclose, Except.map]
  | error e => simp [finish, conclude, Run.bind_apply, hcommit, hclose, Except.map]

theorem finish_panic {e : Error} (hpanic : e.isPanic)
    (hreport : reporting .error .transaction "Could not roll back the transaction"
      (t.rollback n.driver) v = (.ok (), v₁))
    (hclose : t.close n.driver v₁ = (.ok (), v₂)) :
    n.finish t rollsBack (.error e : Except Error α) v = (.error e, v₂) := by
  simp [finish, Run.bind_apply, hpanic, hreport, hclose]

theorem finish_error {e : Error} (hpanic : e.isPanic = false)
    (hsettle : t.settle n.driver (rollsBack e) v = (ended, v₁))
    (hclose : t.close n.driver v₁ = (.ok (), v₂))
    (hreport : reporting .error .transaction "Could not end the transaction" (conclude ended) v₂ =
      (.ok (), v₃)) :
    n.finish t rollsBack (.error e : Except Error α) v = (.error e, v₃) := by
  rw [settle] at hsettle
  simp [finish, Run.bind_apply, hpanic, hsettle, hclose, hreport]

end

/-- What ends a transaction takes its connection away, if there is one, and frees the thread. -/
theorem finish_leaves (hdriver : m.driver = d.traced) (hidle : (w.state t).inUse = false)
    (rollsBack : Error → Bool) (outcome : Except Error α) :
    ∃ (ended : Option Exchange) (release : List Exchange) (v w' : World (σ × List Exchange)),
      m.finish t rollsBack outcome w = (concluded outcome (ended.bind Exchange.error?), w') ∧
      ended.map Exchange.call = (w.state t).opened.map
        (fun o => .ending (rolledBackBy rollsBack outcome) o.connection) ∧
      release.map Exchange.call = (w.state t).opened.elim [] t.releaseCalls ∧
      (w.setState t {}).Exchanged (ended.toList ++ release) v ∧ (v.unbind t).Exchanged [] w' := by
  obtain ⟨ended, w₁, hsettle, hended, hsettled⟩ :=
    settle_spec d hidle (rolledBackBy rollsBack outcome)
  rw [← hdriver] at hsettle
  have hclosing {w₁ : World (σ × List Exchange)} (hmade : w.Exchanged ended.toList w₁) :
      ∃ release v, t.close m.driver w₁ = (.ok (), v.unbind t) ∧
        release.map Exchange.call = (w.state t).opened.elim [] t.releaseCalls ∧
        (w.setState t {}).Exchanged (ended.toList ++ release) v := by
    obtain ⟨release, v, hclose, hcalls, hreleased⟩ := close_leaves d (t := t) (w := w₁)
      (by rw [hmade.state, hidle])
    rw [hmade.state] at hcalls
    exact ⟨release, v, by rw [hdriver, hclose], hcalls, (hmade.setState t {}).trans hreleased⟩
  cases outcome with
  | ok a =>
      obtain ⟨release, v, hclose, hcalls, hreleased⟩ := hclosing hsettled
      refine ⟨ended, release, v, _, ?_, hended, hcalls, hreleased, .refl _⟩
      rw [finish_ok a hsettle hclose]
      cases ended.bind Exchange.error? with
      | none => rfl
      | some e => rfl
  | error e =>
      by_cases hpanic : e.isPanic
      · obtain ⟨w₁', hreport, hsilent⟩ := reporting_apply .error .transaction
          "Could not roll back the transaction" (t.rollback m.driver) w
        have hrollback : t.rollback m.driver w =
            (concluded (.ok ()) (ended.bind Exchange.error?), w₁) := by
          rw [rolledBackBy, hpanic, Bool.true_or] at hsettle
          exact hsettle
        rw [hrollback] at hsilent
        have hmade := hsettled.trans hsilent
        rw [List.append_nil] at hmade
        obtain ⟨release, v, hclose, hcalls, hreleased⟩ := hclosing hmade
        exact ⟨ended, release, v, _, finish_panic hpanic hreport hclose, hended, hcalls, hreleased,
          .refl _⟩
      · obtain ⟨release, v, hclose, hcalls, hreleased⟩ := hclosing hsettled
        obtain ⟨w', hreport, hsilent⟩ := reporting_apply .error .transaction
          "Could not end the transaction"
          (conclude (concluded (.ok ()) (ended.bind Exchange.error?))) (v.unbind t)
        rw [conclude, Run.ofExcept_apply] at hsilent
        rw [rolledBackBy, eq_false_of_ne_true hpanic, Bool.false_or] at hsettle
        exact ⟨ended, release, v, w',
          finish_error (eq_false_of_ne_true hpanic) hsettle hclose hreport, hended, hcalls,
          hreleased, hsilent⟩

theorem finish_spec (hdriver : m.driver = d.traced) (hidle : (w.state t).inUse = false)
    (hbound : w.current? t.manager = some t) (rollsBack : Error → Bool)
    (outcome : Except Error α) :
    ∃ (ended : Option Exchange) (release : List Exchange) (w' : World (σ × List Exchange)),
      m.finish t rollsBack outcome w = (concluded outcome (ended.bind Exchange.error?), w') ∧
      ended.map Exchange.call = (w.state t).opened.map
        (fun o => .ending (rolledBackBy rollsBack outcome) o.connection) ∧
      release.map Exchange.call = (w.state t).opened.elim [] t.releaseCalls ∧
      w'.trace = w.trace ++ (ended.toList ++ release) ∧ w'.current? t.manager = none := by
  obtain ⟨ended, release, v, w', hrun, hended, hrelease, hreleased, hsilent⟩ :=
    finish_leaves hdriver hidle rollsBack outcome
  refine ⟨ended, release, w', hrun, hended, hrelease, ?_, ?_⟩
  · rw [hsilent.trace, World.trace_unbind, List.append_nil, hreleased.trace]
    rfl
  · rw [hsilent.current?]
    apply World.current?_unbind
    rw [hreleased.current?]
    exact hbound

theorem begin_of_free {τ : Type} {v : World τ} (n : Driver τ) {id : Nat}
    (isolation : Option Isolation) (hfree : v.current? id = none) (wanted : Option Isolation) :
    ∃ logging, (threaded id n isolation).begin wanted v =
      (.ok ⟨v.transactions.length, id, wanted⟩,
        { v.begun ⟨v.transactions.length, id, wanted⟩ with logging }) := by
  refine ⟨v.logging.add ⟨.debug, .transaction, s!"Transaction began on {n.name}"⟩, ?_⟩
  simp only [begin, Run.bind_apply, Run.get_apply, hfree, log, Run.modify_apply,
    Option.isSome_none, Bool.false_eq_true, if_false]
  rfl

theorem begin_spec (d : Driver σ) {id : Nat} (isolation : Option Isolation)
    (hfree : w.current? id = none) (wanted : Option Isolation) :
    ∃ t begun, (threaded id d.traced isolation).begin wanted w = (.ok t, begun) ∧
      t.manager = id ∧ begun.state t = {} ∧ t.Running w.trace begun := by
  obtain ⟨logging, hbegin⟩ := begin_of_free d.traced isolation hfree wanted
  exact ⟨_, _, hbegin, rfl, World.state_begun rfl, (running_begun rfl).reported logging⟩

theorem useTransaction_of_free {τ : Type} {n : Manager τ} {v begun v₁ : World τ}
    {wanted : Option Isolation} {rollsBack : Error → Bool}
    {body : Transaction → Session τ α} {outcome : Except Error α}
    (hcurrent : n.current? v = (.ok none, v))
    (hbegin : n.begin (wanted.or n.defaultIsolation) v = (.ok t, begun))
    (hrun : body t begun = (outcome, v₁)) :
    n.useTransaction wanted rollsBack body v = n.finish t rollsBack outcome v₁ := by
  rw [useTransaction, Run.bind_ok hcurrent]
  simp only [Run.bind_ok hbegin, Run.bind_apply, Run.attempt_apply, hrun]

/-- How a scope runs that finds its thread free: its transaction, the world in which its body
starts, what is said until the body ends, and what is said to end the transaction. -/
structure Outermost (m : Manager (σ × List Exchange)) (wanted : Option Isolation)
    (rollsBack : Error → Bool) (body : Transaction → Session (σ × List Exchange) α)
    (w : World (σ × List Exchange)) (t : Transaction) (begun : World (σ × List Exchange))
    (said : List Exchange) (ended : Option Exchange) (release : List Exchange) : Prop where
  begins : m.begin (wanted.or m.defaultIsolation) w = (.ok t, begun)
  running : t.Running w.trace begun
  said_eq : (body t begun).2.trace = w.trace ++ said
  history : t.History ((body t begun).2.state t).opened said
  ended_call : ended.map Exchange.call = ((body t begun).2.state t).opened.map
    fun o => .ending (rolledBackBy rollsBack (body t begun).1) o.connection
  release_calls : release.map Exchange.call =
    ((body t begun).2.state t).opened.elim [] t.releaseCalls
  finishes : m.useTransaction wanted rollsBack body w =
    m.finish t rollsBack (body t begun).1 (body t begun).2
  outcome : (m.useTransaction wanted rollsBack body w).1 =
    concluded (body t begun).1 (ended.bind Exchange.error?)
  trace : (m.useTransaction wanted rollsBack body w).2.trace =
    w.trace ++ (said ++ (ended.toList ++ release))
  freed : (m.useTransaction wanted rollsBack body w).2.current? t.manager = none

theorem outermost_of_advances {id : Nat} {isolation : Option Isolation}
    {body : Transaction → Session (σ × List Exchange) α}
    (hm : m = .threaded id d.traced isolation)
    (hbody : ∀ (t : Transaction) (begun : World (σ × List Exchange)), t.manager = id →
      t.Running w.trace begun → t.Advances w.trace begun (body t begun).2)
    (hfree : w.current? id = none) (wanted : Option Isolation) (rollsBack : Error → Bool) :
    ∃ t begun said ended release, t.manager = id ∧
      m.Outermost wanted rollsBack body w t begun said ended release := by
  obtain ⟨t, begun, hbegin, hmanager, hfresh, hrunning⟩ :=
    begin_spec d isolation hfree (wanted.or isolation)
  have hcurrent : m.current? w = (.ok none, w) := by
    rw [hm, threaded_current?, hfree]
  have hdriver : m.driver = d.traced := by rw [hm, driver]
  have hdefault : m.defaultIsolation = isolation := by rw [hm, defaultIsolation]
  rw [← hm, ← hdefault] at hbegin
  have hadvances := hbody t begun hmanager hrunning
  have hidle : ((body t begun).2.state t).inUse = false := by
    rw [hadvances.inUse, hfresh]
  obtain ⟨said, hsaid, hhistory⟩ := hadvances.running.history
  obtain ⟨ended, release, w₂, hfinish, hended, hrelease, htrace, hfreed⟩ :=
    finish_spec hdriver hidle hadvances.running.bound rollsBack (body t begun).1
  have hfinishes : m.useTransaction wanted rollsBack body w =
      m.finish t rollsBack (body t begun).1 (body t begun).2 :=
    useTransaction_of_free hcurrent hbegin rfl
  refine ⟨t, begun, said, ended, release, hmanager, hbegin, hrunning, hsaid, hhistory, hended,
    hrelease, hfinishes, ?_, ?_, ?_⟩
  · rw [hfinishes, hfinish]
  · rw [hfinishes, hfinish, htrace, hsaid, List.append_assoc]
  · rw [hfinishes, hfinish]
    exact hfreed

theorem outermost {id : Nat} {isolation : Option Isolation}
    {body : Transaction → Session (σ × List Exchange) α}
    (hm : m = .threaded id d.traced isolation) (hbody : ∀ t, InScope m t [] (body t))
    (hfree : w.current? id = none) (wanted : Option Isolation) (rollsBack : Error → Bool) :
    ∃ t begun said ended release, t.manager = id ∧
      m.Outermost wanted rollsBack body w t begun said ended release :=
  outermost_of_advances hm (fun t _ hmanager hrunning =>
    (hbody t).advances (by rw [hm, hmanager]) hrunning (fun _ hmem => absurd hmem List.not_mem_nil))
    hfree wanted rollsBack

/-- An outermost scope ends the transaction that it has begun.  Whatever its body does, at most one
connection is set up, every statement runs on it, and it is the only one that is told to commit or
to roll back, once, between the last statement and the close; nothing stays bound, and the caller
is told the failure of the body or else that of the end. -/
theorem useTransaction_ends_once {id : Nat} {isolation : Option Isolation}
    {body : Transaction → Session (σ × List Exchange) α}
    (hm : m = .threaded id d.traced isolation) (hbody : ∀ t, InScope m t [] (body t))
    (hfree : w.current? id = none) (wanted : Option Isolation) (rollsBack : Error → Bool) :
    ∃ t begun opened ending es,
      m.begin (wanted.or isolation) w = (.ok t, begun) ∧
      t.Lifetime (rolledBackBy rollsBack (body t begun).1) opened ending es ∧
      (∀ x ∈ es, x.call.isStatement →
        x.call.connection? = opened.map OpenConnection.connection) ∧
      es.filter (fun x => x.call.isEnding) = ending.toList ∧
      (m.useTransaction wanted rollsBack body w).1 =
        concluded (body t begun).1 (ending.bind Exchange.error?) ∧
      (m.useTransaction wanted rollsBack body w).2.trace = w.trace ++ es ∧
      (m.useTransaction wanted rollsBack body w).2.current? id = none := by
  obtain ⟨t, begun, said, ended, release, hmanager, hscope⟩ :=
    outermost hm hbody hfree wanted rollsBack
  have hlifetime := hscope.history.lifetime hscope.ended_call hscope.release_calls
  refine ⟨t, begun, _, ended, _, ?_, hlifetime,
    fun x hx hstatement => hlifetime.connection_of_isStatement hx hstatement,
    hlifetime.filter_isEnding, hscope.outcome, hscope.trace, ?_⟩
  · rw [← hscope.begins, hm, defaultIsolation]
  · rw [← hmanager]
    exact hscope.freed

end Manager

def scriptedDatabase : Database (ScriptedStore × List Exchange) where
  settings := { metadata := {}, codecs := ⟨[], []⟩, dialect := .generic, config := {},
                writer := ⟨.generic, {}⟩ }
  driver := (ScriptedStore.driver []).traced
  manager := .threaded 0 (ScriptedStore.driver []).traced none

/-- The store refuses the first connection, and it does not commit. -/
def faultyWorld : World (ScriptedStore × List Exchange) :=
  { store := ({ faults := [⟨.connect, "refused", some 1⟩, ⟨.commit, "gone", none⟩] }, []) }

def retriedChange (_ : Transaction) : Session (ScriptedStore × List Exchange) RowsAffected := do
  let change := scriptedDatabase.executeUpdate (.raw ⟨"DELETE FROM a", []⟩)
  match ← (scriptedDatabase.useTransaction fun _ => change).attempt with
  | .ok affected => return affected
  | .error _ => change

theorem retriedChange_inScope (t : Transaction) :
    InScope scriptedDatabase.manager t [] (retriedChange t) := by
  refine .bind (Database.useTransaction_inScope (Database.executeUpdate_inScope _)).attempt
    fun outcome _ => ?_
  cases outcome with
  | ok affected => exact .pure affected
  | error e => exact Database.executeUpdate_inScope _

def retriedRun : Except Error RowsAffected × World (ScriptedStore × List Exchange) :=
  scriptedDatabase.useTransaction retriedChange faultyWorld

theorem retriedRun_ends_once :
    retriedRun.1 = .error (.plain "gone") ∧ retriedRun.2.current? 0 = none ∧
      ∃ (t : Transaction) (opened : Option OpenConnection) (ending : Exchange),
        t.Lifetime false opened (some ending) retriedRun.2.trace ∧ ending.call = .commit 1 := by
  refine ⟨rfl, rfl, ?_⟩
  obtain ⟨t, begun, opened, ending, es, hbegin, hlifetime, -, hending, -, htrace, -⟩ :=
    Manager.useTransaction_ends_once (m := scriptedDatabase.manager) (d := ScriptedStore.driver [])
      (w := faultyWorld) rfl retriedChange_inScope rfl none (fun _ => true)
  cases hbegin
  have hall : retriedRun.2.trace = es := htrace
  rw [← hall] at hending hlifetime
  have hcalls : (retriedRun.2.trace.filter fun x => x.call.isEnding).map Exchange.call =
      [.commit 1] := rfl
  rw [hending] at hcalls
  cases ending with
  | none => cases hcalls
  | some ending => exact ⟨_, opened, ending, hlifetime, List.singleton_inj.mp hcalls⟩

end TypedSql
