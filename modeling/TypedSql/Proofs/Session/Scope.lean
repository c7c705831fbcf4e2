import TypedSql.Proofs.Session.Connections

namespace TypedSql

/-! Code inside a scope of a transaction, and what it makes of the transaction.  Until the scope
ends, the transaction stays bound to its thread, at most one connection is opened for it, and all
that is said besides is said to that connection. -/

namespace Call

def isUse (connection : Nat) (c : Call) : Bool :=
  c.connection? = some connection &&
    match c with
    | commit _ | rollback _ | close _ => false
    | _ => true

end Call

namespace Run

variable {σ α β : Type}

def Gives (x : Run σ α) (a : α) : Prop :=
  ∃ s s', x s = (.ok a, s')

theorem Gives.of_pure {a b : α} (h : (pure a : Run σ α).Gives b) : a = b := by
  obtain ⟨s, s', hrun⟩ := h
  cases hrun
  rfl

theorem Gives.of_bind {x : Run σ α} {f : α → Run σ β} {b : β} (h : (x >>= f).Gives b) :
    ∃ a, x.Gives a ∧ (f a).Gives b := by
  obtain ⟨s, s', hrun⟩ := h
  rw [bind_apply] at hrun
  cases hx : x s with
  | mk result s₁ =>
      rw [hx] at hrun
      cases result with
      | ok a => exact ⟨a, ⟨s, s₁, hx⟩, s₁, s', hrun⟩
      | error e => cases hrun

end Run

variable {σ : Type}

/-- Code that runs while a transaction of a manager is bound to the thread: whatever is put
together from statements and other uses of connections, inner scopes of any kind, failures and
panics, and handlers of both.  The connections that the code has at hand are listed; it does not
end anything on them itself. -/
inductive InScope (m : Manager σ) (t : Transaction) :
    {α : Type} → List Nat → Session σ α → Prop
  | pure {α : Type} {held : List Nat} (a : α) : InScope m t held (pure a)
  | throw {α : Type} {held : List Nat} (e : Error) : InScope m t held (throw e : Session σ α)
  | bind {α β : Type} {held : List Nat} {x : Session σ α} {f : α → Session σ β}
      (hfirst : InScope m t held x) (hrest : ∀ a, x.Gives a → InScope m t held (f a)) :
      InScope m t held (x >>= f)
  | attempt {α : Type} {held : List Nat} {x : Session σ α} (hinner : InScope m t held x) :
      InScope m t held x.attempt
  | look {α : Type} {held : List Nat} (f : World σ → α) : InScope m t held (do return f (← get))
  | report {held : List Nat} (f : Logging → Logging) :
      InScope m t held (modify fun w => { w with logging := f w.logging })
  | call {held : List Nat} {connection : Nat} (c : Call) (hisHeld : connection ∈ held)
      (hisUse : c.isUse connection) : InScope m t held (Session.call m.driver c)
  | useConnection {α : Type} {held : List Nat} {f : Nat → Session σ α}
      (hinner : ∀ connection, InScope m t (connection :: held) (f connection)) :
      InScope m t held (m.useConnection f)
  | withConnection {α : Type} {held : List Nat} {f : Nat → Session σ α}
      (hinner : ∀ connection, InScope m t (connection :: held) (f connection)) :
      InScope m t held (t.withConnection m.driver f)
  /-- An inner scope is handed the transaction that is bound. -/
  | useTransaction {α : Type} {held : List Nat} (isolation : Option Isolation)
      (rollsBack : Error → Bool) {body : Transaction → Session σ α}
      (hinner : InScope m t held (body t)) :
      InScope m t held (m.useTransaction isolation rollsBack body)

namespace Transaction

/-- What has been said for a transaction until its end begins, and the connection that has been
opened for it. -/
inductive History (t : Transaction) : Option OpenConnection → List Exchange → Prop
  | begun : History t none []
  | failed {es failure : List Exchange} (hbefore : History t none es)
      (hfailed : FailedOpening failure) : History t none (es ++ failure)
  | opened {es : List Exchange} (hbefore : History t none es) (o : OpenConnection) :
      History t (some o) (es ++ t.opening o)
  | used {es : List Exchange} {o : OpenConnection} (hbefore : History t (some o) es) {x : Exchange}
      (hisUse : x.call.isUse o.connection) : History t (some o) (es ++ [x])

/-- At most one connection is ever opened: openings that fail, then the one that does not, then
uses of its connection. -/
theorem History.shape {t : Transaction} {opened : Option OpenConnection} {es : List Exchange}
    (h : t.History opened es) :
    ∃ failures : List (List Exchange), (∀ failure ∈ failures, FailedOpening failure) ∧
      match opened with
      | none => es = failures.flatten
      | some o => ∃ uses : List Exchange, (∀ x ∈ uses, x.call.isUse o.connection) ∧
          es = failures.flatten ++ t.opening o ++ uses := by
  induction h with
  | begun => exact ⟨[], by simp, rfl⟩
  | @failed es failure _ hfailed ih =>
      obtain ⟨failures, hall, hes⟩ := ih
      refine ⟨failures ++ [failure], List.forall_mem_append.mpr ⟨hall, by simpa using hfailed⟩, ?_⟩
      simp only at hes ⊢
      rw [hes]
      simp
  | @opened es _ o ih =>
      obtain ⟨failures, hall, hes⟩ := ih
      refine ⟨failures, hall, [], by simp, ?_⟩
      simp only at hes
      rw [hes, List.append_nil]
  | @used es o _ x hisUse ih =>
      obtain ⟨failures, hall, uses, hallUses, hes⟩ := ih
      refine ⟨failures, hall, uses ++ [x],
        List.forall_mem_append.mpr ⟨hallUses, by simpa using hisUse⟩, ?_⟩
      rw [hes, List.append_assoc]

/-- The transaction is bound, and all that has been said since its scope began was said for it. -/
structure Running (t : Transaction) (past : List Exchange) (w : World (σ × List Exchange)) :
    Prop where
  bound : w.current? t.manager = some t
  inRange : t.id < w.transactions.length
  opened : (w.state t).inUse → (w.state t).opened.isSome
  history : ∃ es, w.trace = past ++ es ∧ t.History (w.state t).opened es

theorem running_begun {t : Transaction} {w : World (σ × List Exchange)}
    (h : t.id = w.transactions.length) : t.Running w.trace (w.begun t) := by
  have hfresh := World.state_begun h
  refine ⟨World.current?_begun, ?_, ?_, [], (List.append_nil _).symm, ?_⟩
  · simp [World.begun, World.bind, h]
  · rw [hfresh]
    exact fun hbusy => absurd hbusy Bool.false_ne_true
  · rw [hfresh]
    exact .begun

theorem Running.reported {t : Transaction} {past : List Exchange} {w : World (σ × List Exchange)}
    (h : t.Running past w) (logging : Logging) : t.Running past { w with logging } :=
  ⟨h.bound, h.inRange, h.opened, h.history⟩

/-- What code inside the scope makes of the world: the scope goes on, the connection is in use as
before, and while it is in use it stays. -/
structure Advances (t : Transaction) (past : List Exchange) (w w' : World (σ × List Exchange)) :
    Prop where
  running : t.Running past w'
  thread : w'.thread = w.thread
  inUse : (w'.state t).inUse = (w.state t).inUse
  kept : (w.state t).inUse → w'.state t = w.state t

variable {t : Transaction} {past : List Exchange} {w w' w'' : World (σ × List Exchange)}

theorem Running.advances (h : t.Running past w) : t.Advances past w w :=
  ⟨h, rfl, rfl, fun _ => rfl⟩

theorem Advances.trans (hfirst : t.Advances past w w') (hsecond : t.Advances past w' w'') :
    t.Advances past w w'' where
  running := hsecond.running
  thread := hsecond.thread.trans hfirst.thread
  inUse := hsecond.inUse.trans hfirst.inUse
  kept h := by rw [hsecond.kept (by rw [hfirst.inUse]; exact h), hfirst.kept h]

def onConnection {α : Type} (t : Transaction) (o : OpenConnection) (f : Nat → Session σ α)
    (w : World σ) : Except Error α × World σ :=
  let ran := f o.connection (w.setState t ⟨some o, true⟩)
  (ran.1, ran.2.setState t { ran.2.state t with inUse := false })

section

variable {τ α : Type} (d : Driver τ) (f : Nat → Session τ α) {v v' : World τ}

theorem withConnection_of_inUse (h : (v.state t).inUse) :
    t.withConnection d f v = (.error (.usage .connectionInUse), v) := by
  simp [withConnection, idle, Run.bind_apply, h]

theorem withConnection_of_opened {o : OpenConnection} (h : v.state t = ⟨some o, false⟩) :
    t.withConnection d f v = t.onConnection o f v := by
  simp [withConnection, idle, onConnection, Session.conclude, Run.bind_apply, h]

theorem withConnection_of_connect {o : OpenConnection} (h : v.state t = ⟨none, false⟩)
    (hconnect : t.connect d v = (.ok o, v')) :
    t.withConnection d f v = t.onConnection o f v' := by
  simp [withConnection, idle, onConnection, Session.conclude, Run.bind_apply, h, hconnect]

theorem withConnection_of_connect_error {e : Error} (h : v.state t = ⟨none, false⟩)
    (hconnect : t.connect d v = (.error e, v')) :
    t.withConnection d f v = (.error e, v') := by
  simp [withConnection, idle, Run.bind_apply, h, hconnect]

end

/-- A use of the connection fails at once, or after an opening that fails, or it comes to a
connection that is there or has been opened for it. -/
theorem withConnection_cases {α : Type} (d : Driver σ) (f : Nat → Session (σ × List Exchange) α)
    (t : Transaction) (w : World (σ × List Exchange)) :
    (w.state t).inUse ∧ t.withConnection d.traced f w = (.error (.usage .connectionInUse), w) ∨
    (∃ e es w', w.state t = ⟨none, false⟩ ∧ w.Exchanged es w' ∧ t.BrokenOpening es ∧
      t.withConnection d.traced f w = (.error e, w')) ∨
    (∃ o, w.state t = ⟨some o, false⟩ ∧
      t.withConnection d.traced f w = t.onConnection o f w) ∨
    ∃ o w', w.state t = ⟨none, false⟩ ∧ w.Exchanged (t.opening o) w' ∧
      t.withConnection d.traced f w = t.onConnection o f w' := by
  cases hstate : w.state t with
  | mk opened inUse =>
      cases inUse with
      | true => exact .inl ⟨rfl, withConnection_of_inUse _ _ (by rw [hstate])⟩
      | false =>
          cases opened with
          | some o => exact .inr (.inr (.inl ⟨o, rfl, withConnection_of_opened _ _ hstate⟩))
          | none =>
              obtain ⟨es, hmade, houtcome⟩ := t.makes_connect d w
              cases hconnect : t.connect d.traced w with
              | mk result w' =>
                  rw [hconnect] at hmade houtcome
                  cases result with
                  | error e =>
                      exact .inr (.inl ⟨e, es, w', rfl, hmade, houtcome,
                        withConnection_of_connect_error _ _ hstate hconnect⟩)
                  | ok o =>
                      simp only at houtcome
                      subst houtcome
                      exact .inr (.inr (.inr ⟨o, w', rfl, hmade,
                        withConnection_of_connect _ _ hstate hconnect⟩))

/-- The connection has been opened for the transaction, though it may not be noted there yet. -/
structure Reaches (t : Transaction) (past : List Exchange) (o : OpenConnection)
    (w : World (σ × List Exchange)) : Prop where
  bound : w.current? t.manager = some t
  inRange : t.id < w.transactions.length
  history : ∃ es, w.trace = past ++ es ∧ t.History (some o) es

/-- Between two moments some exchanges have taken place, and nothing else has come of them for a
transaction and the thread that it is bound to. -/
structure Spared (t : Transaction) (es : List Exchange) (w w' : World (σ × List Exchange)) :
    Prop where
  trace : w'.trace = w.trace ++ es
  thread : w'.thread = w.thread
  bound : w'.current? t.manager = w.current? t.manager
  state : w'.state t = w.state t
  inRange : w.transactions.length ≤ w'.transactions.length

theorem Spared.of_exchanged {es : List Exchange} (hmade : w.Exchanged es w') :
    t.Spared es w w' :=
  ⟨hmade.trace, hmade.thread, hmade.current? t.manager, hmade.state t,
    Nat.le_of_eq (congrArg List.length hmade.transactions).symm⟩

theorem Running.spared {es : List Exchange} (h : t.Running past w) (hmade : t.Spared es w w')
    (hhistory : ∀ before, t.History (w.state t).opened before →
      t.History (w.state t).opened (before ++ es)) : t.Running past w' := by
  obtain ⟨before, htrace, htold⟩ := h.history
  refine ⟨?_, Nat.lt_of_lt_of_le h.inRange hmade.inRange, ?_, before ++ es, ?_, ?_⟩
  · rw [hmade.bound]
    exact h.bound
  · rw [hmade.state]
    exact h.opened
  · rw [hmade.trace, htrace, List.append_assoc]
  · rw [hmade.state]
    exact hhistory before htold

theorem Running.reaches {o : OpenConnection} {inUse : Bool} (h : t.Running past w)
    (hstate : w.state t = ⟨some o, inUse⟩) : t.Reaches past o w := by
  refine ⟨h.bound, h.inRange, ?_⟩
  have hhistory := h.history
  rw [hstate] at hhistory
  exact hhistory

theorem Running.reaches_of_opening {o : OpenConnection} {inUse : Bool} (h : t.Running past w)
    (hstate : w.state t = ⟨none, inUse⟩) (hmade : w.Exchanged (t.opening o) w') :
    t.Reaches past o w' := by
  obtain ⟨before, htrace, hhistory⟩ := h.history
  rw [hstate] at hhistory
  refine ⟨?_, ?_, before ++ t.opening o, ?_, hhistory.opened o⟩
  · rw [hmade.current?]
    exact h.bound
  · rw [hmade.transactions]
    exact h.inRange
  · rw [hmade.trace, htrace, List.append_assoc]

theorem Running.failed {es : List Exchange} {inUse : Bool} (h : t.Running past w)
    (hstate : w.state t = ⟨none, inUse⟩) (hmade : w.Exchanged es w')
    (hfailed : FailedOpening es) : t.Running past w' := by
  refine h.spared (.of_exchanged hmade) ?_
  rw [hstate]
  exact fun before hhistory => hhistory.failed hfailed

theorem Reaches.entered {o : OpenConnection} (h : t.Reaches past o w) :
    (w.setState t ⟨some o, true⟩).state t = ⟨some o, true⟩ ∧
      t.Running past (w.setState t ⟨some o, true⟩) := by
  have hentered : (w.setState t ⟨some o, true⟩).state t = ⟨some o, true⟩ :=
    World.state_setState h.inRange
  refine ⟨hentered, h.bound, by rw [World.length_setState]; exact h.inRange, ?_, ?_⟩
  · rw [hentered]
    exact fun _ => rfl
  · rw [hentered]
    exact h.history

theorem advances_onConnection {α : Type} {o : OpenConnection}
    {f : Nat → Session (σ × List Exchange) α} (hidle : (w.state t).inUse = false)
    (hthread : w'.thread = w.thread) (hreaches : t.Reaches past o w')
    (hinner : ∀ v, t.Running past v → v.state t = ⟨some o, true⟩ →
      t.Advances past v (f o.connection v).2) :
    t.Advances past w (t.onConnection o f w').2 := by
  obtain ⟨hentered, hstarted⟩ := hreaches.entered
  have hinside := hinner _ hstarted hentered
  have hkept := hinside.kept (by rw [hentered])
  rw [hentered] at hkept
  have hleft := World.state_setState (s := ⟨some o, false⟩) hinside.running.inRange
  obtain ⟨es, htrace, hhistory⟩ := hinside.running.history
  rw [hkept] at hhistory
  simp only [onConnection, hkept]
  refine ⟨⟨hinside.running.bound, ?_, ?_, ?_⟩, hinside.thread.trans hthread, ?_, ?_⟩
  · rw [World.length_setState]
    exact hinside.running.inRange
  · rw [hleft]
    exact fun h => absurd h Bool.false_ne_true
  · rw [hleft]
    exact ⟨es, htrace, hhistory⟩
  · rw [hleft, hidle]
  · rw [hidle]
    exact fun h => absurd h Bool.false_ne_true

theorem advances_withConnection {α : Type} (d : Driver σ)
    {f : Nat → Session (σ × List Exchange) α} (hrunning : t.Running past w)
    (hinner : (w.state t).inUse = false → ∀ o v, t.Running past v → v.state t = ⟨some o, true⟩ →
      t.Advances past v (f o.connection v).2) :
    t.Advances past w (t.withConnection d.traced f w).2 := by
  obtain ⟨-, hrun⟩ | ⟨e, es, w', hstate, hmade, hbroken, hrun⟩ | ⟨o, hstate, hrun⟩ |
    ⟨o, w', hstate, hmade, hrun⟩ := withConnection_cases d f t w
  · rw [hrun]
    exact hrunning.advances
  · rw [hrun]
    have hsame := hmade.state t
    exact ⟨hrunning.failed hstate hmade hbroken.failed, hmade.thread, by rw [hsame], fun _ => hsame⟩
  · rw [hrun]
    have hidle : (w.state t).inUse = false := by rw [hstate]
    exact advances_onConnection hidle rfl (hrunning.reaches hstate) (hinner hidle o)
  · rw [hrun]
    have hidle : (w.state t).inUse = false := by rw [hstate]
    exact advances_onConnection hidle hmade.thread (hrunning.reaches_of_opening hstate hmade)
      (hinner hidle o)

def Holds {τ : Type} (t : Transaction) (held : List Nat) (w : World τ) : Prop :=
  ∀ connection ∈ held, ∃ o : OpenConnection,
    o.connection = connection ∧ w.state t = ⟨some o, true⟩

theorem Holds.advances {held : List Nat} (h : t.Holds held w) (hadvances : t.Advances past w w') :
    t.Holds held w' := by
  intro connection hmem
  obtain ⟨o, hsame, hstate⟩ := h connection hmem
  exact ⟨o, hsame, by rw [hadvances.kept (by rw [hstate]), hstate]⟩

/-- Nothing is at hand while the connection is not in use, so entering puts one at hand. -/
theorem Holds.entered {held : List Nat} (h : t.Holds held w) (hidle : (w.state t).inUse = false)
    {o : OpenConnection} (hstate : w'.state t = ⟨some o, true⟩) :
    t.Holds (o.connection :: held) w' := by
  intro connection hmem
  cases List.mem_cons.mp hmem with
  | inl hsame => exact ⟨o, hsame.symm, hstate⟩
  | inr hmem =>
      obtain ⟨o', -, hbusy⟩ := h connection hmem
      rw [hbusy] at hidle
      cases hidle

theorem advances_bind {α β : Type} {x : Session (σ × List Exchange) α}
    {f : α → Session (σ × List Exchange) β} (hfirst : t.Advances past w (x w).2)
    (hrest : ∀ a, x.Gives a → ∀ w', t.Advances past w w' → t.Advances past w' (f a w').2) :
    t.Advances past w ((x >>= f) w).2 := by
  rw [Run.bind_apply]
  cases hrun : x w with
  | mk result w' =>
      rw [hrun] at hfirst
      cases result with
      | error e => exact hfirst
      | ok a => exact hfirst.trans (hrest a ⟨w, w', hrun⟩ w' hfirst)

theorem advances_call (d : Driver σ) {held : List Nat} {connection : Nat} {c : Call}
    (hrunning : t.Running past w) (hheld : t.Holds held w) (hisHeld : connection ∈ held)
    (hisUse : c.isUse connection) : t.Advances past w (Session.call d.traced c w).2 := by
  obtain ⟨o, hsame, hstate⟩ := hheld connection hisHeld
  obtain ⟨es, hmade, hes⟩ := Session.makes_call d c
    (P := fun outcome es => es = [⟨c, outcome⟩]) (fun _ => rfl) w
  have hrunning' : t.Running past (Session.call d.traced c w).2 := by
    refine hrunning.spared (.of_exchanged hmade) ?_
    rw [hes, hstate]
    exact fun before hhistory => hhistory.used (by rw [hsame]; exact hisUse)
  exact ⟨hrunning', hmade.thread, by rw [hmade.state], fun _ => hmade.state t⟩

end Transaction

namespace Manager

variable {α : Type} {m : Manager σ} {t : Transaction} {w : World σ}

theorem useConnection_of_current (h : m.current? w = (.ok (some t), w)) (f : Nat → Session σ α) :
    m.useConnection f w = t.withConnection m.driver f w := by
  rw [useConnection, Run.bind_ok h]

theorem useTransaction_of_current (h : m.current? w = (.ok (some t), w))
    (isolation : Option Isolation) (rollsBack : Error → Bool) (body : Transaction → Session σ α) :
    m.useTransaction isolation rollsBack body w = body t w := by
  rw [useTransaction, Run.bind_ok h]

theorem threaded_current? (id : Nat) (d : Driver σ) (isolation : Option Isolation) :
    (threaded id d isolation).current? w = (.ok (w.current? id), w) := rfl

end Manager

namespace InScope

open Transaction

theorem advances {α : Type} {m : Manager (σ × List Exchange)} {t : Transaction} {held : List Nat}
    {x : Session (σ × List Exchange) α} {d : Driver σ} {isolation : Option Isolation}
    (hm : m = .threaded t.manager d.traced isolation) (h : InScope m t held x)
    {past : List Exchange} {w : World (σ × List Exchange)} (hrunning : t.Running past w)
    (hheld : t.Holds held w) : t.Advances past w (x w).2 := by
  have hdriver : m.driver = d.traced := by rw [hm, Manager.driver]
  have hcurrent {w : World (σ × List Exchange)} (hrunning : t.Running past w) :
      m.current? w = (.ok (some t), w) := by
    rw [hm, Manager.threaded_current?, hrunning.bound]
  induction h generalizing w with
  | pure a => exact hrunning.advances
  | throw e => exact hrunning.advances
  | look f => exact hrunning.advances
  | report f => exact ⟨hrunning.reported _, rfl, rfl, fun _ => rfl⟩
  | attempt hinner ih => exact ih hrunning hheld
  | bind hfirst hrest ihFirst ihRest =>
      exact advances_bind (ihFirst hrunning hheld) fun a hgives _ hadvances =>
        ihRest a hgives hadvances.running (hheld.advances hadvances)
  | call c hisHeld hisUse =>
      rw [hdriver]
      exact advances_call d hrunning hheld hisHeld hisUse
  | useConnection hinner ih =>
      rw [Manager.useConnection_of_current (hcurrent hrunning), hdriver]
      exact advances_withConnection d hrunning fun hidle o v hrunning' hstate =>
        ih o.connection hrunning' (hheld.entered hidle hstate)
  | withConnection hinner ih =>
      rw [hdriver]
      exact advances_withConnection d hrunning fun hidle o v hrunning' hstate =>
        ih o.connection hrunning' (hheld.entered hidle hstate)
  | useTransaction isolation rollsBack hinner ih =>
      rw [Manager.useTransaction_of_current (hcurrent hrunning)]
      exact ih hrunning hheld

end InScope

end TypedSql
