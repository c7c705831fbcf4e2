import TypedSql.Proofs.Session.Invariant

namespace TypedSql

/-! Sessions change their store by calls alone: what every call keeps of a store is kept by whole
scopes.  One such thing is that the trace tells what has become of the store. -/

variable {σ τ α β : Type}

namespace Driver

def Keeps (d : Driver τ) (P : τ → Prop) : Prop :=
  ∀ c s, P s → P (d.run c s).2

/-- In a state, the driver gives the answers of some exchanges, and it gets into another state. -/
def Ran (d : Driver σ) : σ → List Exchange → σ → Prop
  | s, [], s' => s' = s
  | s, x :: es, s' => (d.run x.call s).1 = x.outcome ∧ d.Ran (d.run x.call s).2 es s'

variable {d : Driver σ} {s s' : σ}

theorem ran_nil : d.Ran s [] s' ↔ s' = s := Iff.rfl

theorem ran_cons {x : Exchange} {es : List Exchange} :
    d.Ran s (x :: es) s' ↔ (d.run x.call s).1 = x.outcome ∧ d.Ran (d.run x.call s).2 es s' :=
  Iff.rfl

theorem ran_append {es es' : List Exchange} :
    d.Ran s (es ++ es') s' ↔ ∃ mid, d.Ran s es mid ∧ d.Ran mid es' s' := by
  induction es generalizing s with
  | nil => simp [ran_nil]
  | cons x es ih => simp only [List.cons_append, ran_cons, ih, and_assoc, exists_and_left]

theorem ran_call (d : Driver σ) (c : Call) (s : σ) :
    d.Ran s [⟨c, (d.run c s).1⟩] (d.run c s).2 :=
  ⟨rfl, rfl⟩

/-- What a driver keeps is kept by all the exchanges that it takes part in. -/
theorem Ran.keeps {P : σ → Prop} (hd : d.Keeps P) {es : List Exchange} (h : d.Ran s es s')
    (hs : P s) : P s' := by
  induction es generalizing s with
  | nil =>
      cases h
      exact hs
  | cons x es ih => exact ih h.2 (hd x.call s hs)

/-- The trace of a driver since a moment explains the state that it has got into. -/
def Explains (d : Driver σ) (s : σ) (past : List Exchange) (traced : σ × List Exchange) : Prop :=
  ∃ es, traced.2 = past ++ es ∧ d.Ran s es traced.1

theorem keeps_explains (d : Driver σ) (s : σ) (past : List Exchange) :
    d.traced.Keeps (d.Explains s past) := by
  intro c now h
  obtain ⟨es, htrace, hran⟩ := h
  refine ⟨es ++ [⟨c, (d.run c now.1).1⟩], ?_, ?_⟩
  · rw [traced_run d c now.1 now.2, htrace, List.append_assoc]
  · exact ran_append.mpr ⟨now.1, hran, d.ran_call c now.1⟩

end Driver

namespace Session

/-- Code that keeps a property of the store, however it ends. -/
def Keeps (P : τ → Prop) (x : Session τ α) : Prop :=
  ∀ w, P w.store → P (x w).2.store

variable {P : τ → Prop} {d : Driver τ} {x : Session τ α} {f : α → Session τ β}

theorem keeps_of_store (h : ∀ w, (x w).2.store = w.store) : Keeps P x := by
  intro w hw
  rw [h]
  exact hw

theorem keeps_pure (a : α) : Keeps P (pure a : Session τ α) :=
  keeps_of_store fun _ => rfl

theorem keeps_throw (e : Error) : Keeps P (throw e : Session τ α) :=
  keeps_of_store fun _ => rfl

theorem keeps_get : Keeps P (get : Session τ (World τ)) :=
  keeps_of_store fun _ => rfl

theorem keeps_conclude (outcome : Except Error α) : Keeps P (conclude outcome : Session τ α) := by
  refine keeps_of_store fun w => ?_
  rw [conclude, Run.ofExcept_apply]

theorem keeps_log (level : LogLevel) (source : LogSource) (message : String) :
    Keeps P (log level source message) :=
  keeps_of_store fun _ => rfl

theorem keeps_call (hd : d.Keeps P) (c : Call) : Keeps P (call d c) :=
  fun w => hd c w.store

theorem Keeps.then (hx : Keeps P x) (hf : ∀ a, x.Gives a → Keeps P (f a)) :
    Keeps P (x >>= f) := by
  intro w hw
  have hfirst := hx w hw
  rw [Run.bind_apply]
  cases hrun : x w with
  | mk result w' =>
      rw [hrun] at hfirst
      cases result with
      | ok a => exact hf a ⟨w, w', hrun⟩ w' hfirst
      | error e => exact hfirst

theorem Keeps.bind (hx : Keeps P x) (hf : ∀ a, Keeps P (f a)) : Keeps P (x >>= f) :=
  hx.then fun a _ => hf a

theorem Keeps.attempt (hx : Keeps P x) : Keeps P x.attempt :=
  hx

theorem Keeps.reporting {x : Session τ Unit} (hx : Keeps P x) (level : LogLevel)
    (source : LogSource) (what : String) : Keeps P (reporting level source what x) := by
  refine hx.attempt.bind fun outcome => ?_
  cases outcome with
  | ok _ => exact keeps_pure _
  | error e => exact keeps_log _ _ _

theorem keeps_onStandalone (hd : d.Keeps P) (source : LogSource) (what : String)
    {f : Nat → Session τ α} (hf : ∀ connection, Keeps P (f connection)) :
    Keeps P (onStandalone d source what f) := by
  refine (keeps_call hd .connect).bind fun connection => ?_
  refine (hf connection).attempt.bind fun outcome => ?_
  exact ((keeps_call hd (.close connection)).reporting _ _ _).bind fun _ => keeps_conclude outcome

end Session

namespace Transaction

open Session

variable {P : τ → Prop} {d : Driver τ}

theorem keeps_setUp (hd : d.Keeps P) (t : Transaction) (connection : Nat) :
    Keeps P (t.setUp d connection) := by
  have hautocommitting (isolation : Option Isolation) : Keeps P (do
      let autocommit ← call d (.autocommit connection)
      if autocommit then call d (.setAutocommit connection false)
      return (⟨connection, isolation, autocommit⟩ : OpenConnection)) := by
    refine (keeps_call hd _).bind fun autocommit => ?_
    cases autocommit with
    | false => exact keeps_pure _
    | true => exact (keeps_call hd (.setAutocommit connection false)).bind fun _ => keeps_pure _
  refine (keeps_call hd _).bind fun isolation => ?_
  cases t.isolation with
  | none => exact hautocommitting isolation
  | some wanted =>
      by_cases hchange : isolation ≠ some wanted
      · simp only [if_pos hchange]
        exact (keeps_call hd _).bind fun _ => hautocommitting isolation
      · simp only [if_neg hchange]
        exact hautocommitting isolation

theorem keeps_connect (hd : d.Keeps P) (t : Transaction) : Keeps P (t.connect d) := by
  refine (keeps_call hd _).bind fun connection => ?_
  refine (t.keeps_setUp hd connection).attempt.bind fun outcome => ?_
  cases outcome with
  | ok opened => exact keeps_pure _
  | error e =>
      exact ((keeps_call hd (.close connection)).reporting _ _ _).bind fun _ => keeps_throw e

theorem keeps_idle (t : Transaction) : Keeps P t.idle := by
  refine keeps_of_store fun w => ?_
  simp only [idle, Run.bind_apply, Run.get_apply]
  split <;> rfl

theorem keeps_settle (hd : d.Keeps P) (t : Transaction) (rolledBack : Bool) :
    Keeps P (t.settle d rolledBack) := by
  cases rolledBack with
  | true =>
      refine t.keeps_idle.bind fun s => ?_
      cases s.opened with
      | none => exact keeps_pure _
      | some o => exact (keeps_log _ _ _).bind fun _ => keeps_call hd (.rollback o.connection)
  | false =>
      refine t.keeps_idle.bind fun s => ?_
      cases s.opened with
      | none => exact keeps_pure _
      | some o => exact (keeps_log _ _ _).bind fun _ => keeps_call hd (.commit o.connection)

theorem keeps_release (hd : d.Keeps P) (t : Transaction) (o : OpenConnection) :
    Keeps P (t.release d o) := by
  have hclosing : Keeps P (reporting .warn .transaction "Could not close the transaction connection"
      (call d (.close o.connection))) := (keeps_call hd (.close o.connection)).reporting _ _ _
  have hautocommitting : Keeps P (do
      if o.autocommit then
        reporting .warn .transaction "Could not restore autocommit"
          (call d (.setAutocommit o.connection true))
      reporting .warn .transaction "Could not close the transaction connection"
        (call d (.close o.connection))) := by
    cases o.autocommit with
    | false => exact hclosing
    | true =>
        exact ((keeps_call hd (.setAutocommit o.connection true)).reporting _ _ _).bind
          fun _ => hclosing
  unfold release
  cases o.isolation with
  | none => exact hautocommitting
  | some captured =>
      cases hchanged : t.isolation.any (· ≠ captured) with
      | false =>
          simp only [hchanged, Bool.false_eq_true, if_false]
          exact hautocommitting
      | true =>
          simp only [hchanged, if_true]
          exact ((keeps_call hd (.setIsolation o.connection captured)).reporting _ _ _).bind
            fun _ => hautocommitting

theorem keeps_close (hd : d.Keeps P) (t : Transaction) : Keeps P (t.close d) := by
  have hleaving : Keeps (τ := τ) P (modify (·.unbind t)) := by
    refine keeps_of_store fun w => ?_
    rw [Run.modify_apply, World.unbind]
    split <;> rfl
  refine keeps_get.bind fun w => ?_
  extract_lets s leave
  split
  · exact (keeps_log _ _ _).bind fun _ => hleaving
  · refine Keeps.bind (keeps_of_store fun _ => rfl) fun _ => ?_
    cases s.opened with
    | none => exact hleaving
    | some o => exact (t.keeps_release hd o).bind fun _ => hleaving

theorem keeps_lent (hd : d.Keeps P) (t : Transaction) {f : Nat → Session τ α}
    (hf : ∀ connection, Keeps P (f connection)) : Keeps P (t.withConnection d f) := by
  have hused (o : OpenConnection) : Keeps P (do
      modify (·.setState t ⟨some o, true⟩)
      let outcome ← (f o.connection).attempt
      modify fun w => w.setState t { w.state t with inUse := false }
      conclude outcome) := by
    refine Keeps.bind (keeps_of_store fun _ => rfl) fun _ => ?_
    refine (hf o.connection).attempt.bind fun outcome => ?_
    exact Keeps.bind (keeps_of_store fun _ => rfl) fun _ => keeps_conclude outcome
  refine t.keeps_idle.bind fun s => ?_
  cases s.opened with
  | some o => exact hused o
  | none => exact (t.keeps_connect hd).bind hused

end Transaction

namespace Manager

open Session

variable {P : τ → Prop} {m : Manager τ}

theorem keeps_begin (isolation : Option Isolation) : Keeps P (m.begin isolation) := by
  cases m with
  | external _ => exact keeps_throw _
  | threaded id d default =>
      refine keeps_of_store fun w => ?_
      cases hcurrent : w.current? id with
      | none =>
          obtain ⟨logging, hbegin⟩ := begin_of_free d default hcurrent isolation
          rw [hbegin]
          rfl
      | some t => simp [begin, Run.bind_apply, hcurrent]

theorem keeps_finish (hd : m.driver.Keeps P) (t : Transaction) (rollsBack : Error → Bool)
    (outcome : Except Error α) : Keeps P (m.finish t rollsBack outcome) := by
  cases outcome with
  | ok a =>
      refine (t.keeps_settle hd false).attempt.bind fun ended => ?_
      refine (t.keeps_close hd).bind fun _ => ?_
      exact (keeps_conclude ended).bind fun _ => keeps_pure a
  | error e =>
      unfold finish
      simp only
      split
      · refine Keeps.bind ((t.keeps_settle hd true).reporting _ _ _) fun _ => ?_
        exact (t.keeps_close hd).bind fun _ => keeps_throw e
      · refine Keeps.bind (t.keeps_settle hd (rollsBack e)).attempt fun ended => ?_
        refine (t.keeps_close hd).bind fun _ => ?_
        exact ((keeps_conclude ended).reporting _ _ _).bind fun _ => keeps_throw e

theorem keeps_finishAsking (hd : m.driver.Keeps P) (t : Transaction)
    {rule : Error → Session τ Bool} (hrule : ∀ e, Keeps P (rule e)) (outcome : Except Error α) :
    Keeps P (m.finishAsking t rule outcome) := by
  cases outcome with
  | ok a => exact m.keeps_finish hd t _ _
  | error e =>
      unfold finishAsking
      simp only
      split
      · exact m.keeps_finish hd t _ _
      · refine (hrule e).attempt.bind fun answer => ?_
        cases answer with
        | ok rollsBack => exact m.keeps_finish hd t _ _
        | error panic => exact m.keeps_finish hd t _ _

theorem keeps_current? (m : Manager τ) : Keeps P m.current? := by
  cases m with
  | threaded _ _ _ => exact keeps_of_store fun _ => rfl
  | external _ => exact keeps_pure _

theorem keeps_useConnection (hd : m.driver.Keeps P) {f : Nat → Session τ α}
    (hf : ∀ connection, Keeps P (f connection)) : Keeps P (m.useConnection f) := by
  refine m.keeps_current?.bind fun current => ?_
  cases current with
  | some t => exact t.keeps_lent hd hf
  | none =>
      exact keeps_onStandalone hd .transaction "Could not close the connection" hf

theorem keeps_useTransactionAsking (hd : m.driver.Keeps P) (isolation : Option Isolation)
    {rule : Error → Session τ Bool} {body : Transaction → Session τ α}
    (hrule : ∀ e, Keeps P (rule e)) (hbody : ∀ t, Keeps P (body t)) :
    Keeps P (m.useTransactionAsking isolation rule body) := by
  refine m.keeps_current?.bind fun current => ?_
  cases current with
  | some t => exact hbody t
  | none =>
      refine (m.keeps_begin _).bind fun t => ?_
      exact (hbody t).attempt.bind fun outcome => m.keeps_finishAsking hd t hrule outcome

end Manager

open Session

/-- Whatever a program does, the store keeps what every call keeps. -/
theorem Client.keeps {d : Driver τ} {held : List Nat} {scopes : List Transaction}
    {x : Session τ α} (h : Client d held scopes x) {P : τ → Prop} (hd : d.Keeps P) :
    Keeps P x := by
  induction h with
  | pure a => exact keeps_pure a
  | throw e => exact keeps_throw e
  | look f => exact keeps_of_store fun _ => rfl
  | report f => exact keeps_of_store fun _ => rfl
  | enrol f => exact keeps_of_store fun _ => rfl
  | attempt hinner ih => exact ih.attempt
  | bind hfirst hrest ihFirst ihRest => exact ihFirst.then ihRest
  | readMetadata =>
      rw [Database.readMetadata_eq]
      exact keeps_onStandalone hd _ _ fun connection => keeps_call hd (.metadata connection)
  | call c hisHeld hisBorrowed => exact keeps_call hd c
  | @useConnection _ _ _ m hsource f hinner ih =>
      subst hsource
      exact m.keeps_useConnection hd ih
  | @useTransaction _ _ _ m hsource isolation rule body hasked hinner ihAsked ih =>
      subst hsource
      exact m.keeps_useTransactionAsking hd isolation ihAsked ih
  | @current _ _ _ m hsource f hbound hfree ihBound ihFree =>
      refine m.keeps_current?.bind fun current => ?_
      cases current with
      | some t => exact ihBound t
      | none => exact ihFree
  | @withConnection _ _ _ t hisLent f hinner ih => exact t.keeps_lent hd ih
  | @commit _ _ t hisLent => exact t.keeps_settle hd false
  | @rollback _ _ t hisLent => exact t.keeps_settle hd true
  | @close _ _ t hisLent => exact t.keeps_close hd

/-- What a program says to a store takes the store from where the program has found it to where the
program leaves it. -/
theorem Client.ran {d : Driver σ} {held : List Nat} {scopes : List Transaction}
    {x : Session (σ × List Exchange) α} (h : Client d.traced held scopes x)
    (w : World (σ × List Exchange)) :
    ∃ es, (x w).2.trace = w.trace ++ es ∧ d.Ran w.store.1 es (x w).2.store.1 :=
  h.keeps (d.keeps_explains w.store.1 w.trace) w ⟨[], (List.append_nil _).symm, rfl⟩

namespace Transaction

variable {d : Driver σ} {P : σ × List Exchange → Prop} {t : Transaction} {past : List Exchange}
  {w : World (σ × List Exchange)}

theorem keeps_withConnection (hd : d.traced.Keeps P) {f : Nat → Session (σ × List Exchange) α}
    (hrunning : t.Running past w) (hstore : P w.store)
    (hinner : (w.state t).inUse = false → ∀ o v, t.Running past v → v.state t = ⟨some o, true⟩ →
      P v.store → P (f o.connection v).2.store) :
    P (t.withConnection d.traced f w).2.store := by
  cases hstate : w.state t with
  | mk opened inUse =>
      have hentering (hidle : inUse = false) {o : OpenConnection} {v : World (σ × List Exchange)}
          (hreaches : t.Reaches past o v) (hv : P v.store) :
          P (t.onConnection o f v).2.store := by
        obtain ⟨hentered, hstarted⟩ := hreaches.entered
        exact hinner (by rw [hstate, hidle]) o _ hstarted hentered hv
      cases inUse with
      | true =>
          rw [withConnection_of_inUse _ _ (by rw [hstate])]
          exact hstore
      | false =>
          cases opened with
          | some o =>
              rw [withConnection_of_opened _ _ hstate]
              exact hentering rfl (hrunning.reaches hstate) hstore
          | none =>
              have hconnected := t.keeps_connect hd w hstore
              obtain ⟨es, hmade, houtcome⟩ := t.makes_connect d w
              cases hconnect : t.connect d.traced w with
              | mk result w' =>
                  rw [hconnect] at hconnected hmade houtcome
                  cases result with
                  | error e =>
                      rw [withConnection_of_connect_error _ _ hstate hconnect]
                      exact hconnected
                  | ok o =>
                      simp only at houtcome
                      subst houtcome
                      rw [withConnection_of_connect _ _ hstate hconnect]
                      exact hentering rfl (hrunning.reaches_of_opening hstate hmade) hconnected

end Transaction

/-- Whatever code does inside a scope, the store keeps what every call keeps. -/
theorem InScope.keeps {m : Manager (σ × List Exchange)} {t : Transaction} {held : List Nat}
    {x : Session (σ × List Exchange) α} {d : Driver σ} {isolation : Option Isolation}
    (hm : m = .threaded t.manager d.traced isolation) (h : InScope m t held x)
    {P : σ × List Exchange → Prop} (hd : d.traced.Keeps P) {past : List Exchange}
    {w : World (σ × List Exchange)} (hrunning : t.Running past w) (hheld : t.Holds held w)
    (hstore : P w.store) : P (x w).2.store := by
  have hdriver : m.driver = d.traced := by rw [hm, Manager.driver]
  have hcurrent {w : World (σ × List Exchange)} (hrunning : t.Running past w) :
      m.current? w = (.ok (some t), w) := by
    rw [hm, Manager.threaded_current?, hrunning.bound]
  induction h generalizing w with
  | pure a => exact hstore
  | throw e => exact hstore
  | look f => exact hstore
  | report f => exact hstore
  | attempt hinner ih => exact ih hrunning hheld hstore
  | @bind _ _ _ x f hfirst hrest ihFirst ihRest =>
      have hadvances := hfirst.advances hm hrunning hheld
      have hkept := ihFirst hrunning hheld hstore
      rw [Run.bind_apply]
      cases hrun : x w with
      | mk result w' =>
          rw [hrun] at hadvances hkept
          cases result with
          | error e => exact hkept
          | ok a =>
              exact ihRest a ⟨w, w', hrun⟩ hadvances.running (hheld.advances hadvances) hkept
  | call c hisHeld hisUse =>
      rw [hdriver]
      exact hd c w.store hstore
  | useConnection hinner ih =>
      rw [Manager.useConnection_of_current (hcurrent hrunning), hdriver]
      exact Transaction.keeps_withConnection hd hrunning hstore fun hidle o v hrunning' hstate =>
        ih o.connection hrunning' (hheld.entered hidle hstate)
  | withConnection hinner ih =>
      rw [hdriver]
      exact Transaction.keeps_withConnection hd hrunning hstore fun hidle o v hrunning' hstate =>
        ih o.connection hrunning' (hheld.entered hidle hstate)
  | useTransaction isolation rollsBack hinner ih =>
      rw [Manager.useTransaction_of_current (hcurrent hrunning)]
      exact ih hrunning hheld hstore

namespace Manager.Outermost

variable {m : Manager (σ × List Exchange)} {d : Driver σ} {isolation wanted : Option Isolation}
  {rollsBack : Error → Bool} {body : Transaction → Session (σ × List Exchange) α} {t : Transaction}
  {w begun : World (σ × List Exchange)} {said release : List Exchange} {ended : Option Exchange}

/-- What is said until the body ends, and then to end the transaction, takes the store from where
the scope has found it to where the scope leaves it. -/
theorem ran (hscope : m.Outermost wanted rollsBack body w t begun said ended release)
    (hm : m = .threaded t.manager d.traced isolation) (hbody : InScope m t [] (body t)) :
    d.Ran w.store.1 said (body t begun).2.store.1 ∧
      d.Ran (body t begun).2.store.1 (ended.toList ++ release)
        (m.useTransaction wanted rollsBack body w).2.store.1 := by
  have hdriver : m.driver = d.traced := by rw [hm, driver]
  have hsame : begun.store = w.store := by
    have hkept := m.keeps_begin (P := (· = w.store)) (wanted.or m.defaultIsolation) w rfl
    rw [hscope.begins] at hkept
    exact hkept
  constructor
  · obtain ⟨es, htrace, hran⟩ := hbody.keeps hm (d.keeps_explains w.store.1 w.trace) hscope.running
      (fun _ hmem => absurd hmem List.not_mem_nil)
      ⟨[], by simp [hsame, World.trace], by rw [hsame]; rfl⟩
    have hes : es = said := List.append_cancel_left (htrace.symm.trans hscope.said_eq)
    rw [← hes]
    exact hran
  · have hd : m.driver.Keeps (d.Explains (body t begun).2.store.1 (body t begun).2.trace) := by
      rw [hdriver]
      exact d.keeps_explains _ _
    obtain ⟨es, htrace, hran⟩ := m.keeps_finish hd t rollsBack (body t begun).1 (body t begun).2
      ⟨[], (List.append_nil _).symm, rfl⟩
    rw [← hscope.finishes] at htrace hran
    have hes : es = ended.toList ++ release := by
      have hwhole := htrace.symm.trans hscope.trace
      rw [hscope.said_eq, List.append_assoc] at hwhole
      exact List.append_cancel_left (List.append_cancel_left hwhole)
    rw [← hes]
    exact hran

end Manager.Outermost

end TypedSql
