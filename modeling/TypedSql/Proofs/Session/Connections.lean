import TypedSql.Proofs.Session.Exchanges

namespace TypedSql

/-! How the connection of a transaction is opened and given back.  What is said to the store is
determined by the transaction and by what the store has answered. -/

namespace Call

def isSetting (connection : Nat) : Call → Bool
  | isolation c | setIsolation c _ | autocommit c | setAutocommit c _ => c == connection
  | _ => false

end Call

/-- Exchanges about the settings of a connection, all of which succeed but the last. -/
def InterruptedSetup (connection : Nat) (es : List Exchange) : Prop :=
  ∃ done failing, es = done ++ [failing] ∧
    (∀ x ∈ done, x.call.isSetting connection ∧ x.succeeded) ∧
    failing.call.isSetting connection ∧ failing.succeeded = false

/-- Exchanges that open no connection: either none is there, or it cannot be set up and is closed
again. -/
def FailedOpening (es : List Exchange) : Prop :=
  (∃ e, es = [⟨.connect, .error e⟩]) ∨
    ∃ connection setup closing, es = ⟨.connect, .ok connection⟩ :: (setup ++ [closing]) ∧
      InterruptedSetup connection setup ∧ closing.call = .close connection

namespace Transaction

def settings (t : Transaction) (o : OpenConnection) : List Exchange :=
  ⟨.isolation o.connection, .ok o.isolation⟩ ::
    ((match t.isolation with
      | some wanted =>
          if o.isolation ≠ some wanted then [⟨.setIsolation o.connection wanted, .ok ()⟩] else []
      | none => []) ++
    ⟨.autocommit o.connection, .ok o.autocommit⟩ ::
    (if o.autocommit then [⟨.setAutocommit o.connection false, .ok ()⟩] else []))

def opening (t : Transaction) (o : OpenConnection) : List Exchange :=
  ⟨.connect, .ok o.connection⟩ :: t.settings o

/-- A set-up that is left when one of its calls fails. -/
def BrokenSetup (t : Transaction) (connection : Nat) (es : List Exchange) : Prop :=
  ∃ o done x rest failing, o.connection = connection ∧ t.settings o = done ++ x :: rest ∧
    failing.call = x.call ∧ failing.succeeded = false ∧ es = done ++ [failing]

/-- An opening that fails: there is no connection, or its set-up is left halfway. -/
def BrokenOpening (t : Transaction) (es : List Exchange) : Prop :=
  (∃ e, es = [⟨.connect, .error e⟩]) ∨
    ∃ connection setup closing, es = ⟨.connect, .ok connection⟩ :: (setup ++ [closing]) ∧
      t.BrokenSetup connection setup ∧ closing.call = .close connection

def releaseCalls (t : Transaction) (o : OpenConnection) : List Call :=
  (match o.isolation with
    | some captured =>
        if t.isolation.any (· ≠ captured) then [.setIsolation o.connection captured] else []
    | none => []) ++
  ((if o.autocommit then [.setAutocommit o.connection true] else []) ++ [.close o.connection])

end Transaction

namespace Transaction

open Session

variable {σ : Type} (d : Driver σ) (t : Transaction)

theorem isSetting_of_mem_settings {o : OpenConnection} {x : Exchange} (h : x ∈ t.settings o) :
    x.call.isSetting o.connection ∧ x.succeeded := by
  simp only [settings, List.mem_cons, List.mem_append] at h
  obtain rfl | h | rfl | h := h
  · exact ⟨by simp [Call.isSetting], rfl⟩
  · split at h
    · split at h
      · rw [List.mem_singleton.mp h]
        exact ⟨by simp [Call.isSetting], rfl⟩
      · cases h
    · cases h
  · exact ⟨by simp [Call.isSetting], rfl⟩
  · split at h
    · rw [List.mem_singleton.mp h]
      exact ⟨by simp [Call.isSetting], rfl⟩
    · cases h

variable {t} in
theorem BrokenSetup.interrupted {connection : Nat} {es : List Exchange}
    (h : t.BrokenSetup connection es) : InterruptedSetup connection es := by
  obtain ⟨o, done, x, rest, failing, rfl, hsettings, hcall, hfailed, rfl⟩ := h
  refine ⟨done, failing, rfl, fun y hy => t.isSetting_of_mem_settings ?_, ?_, hfailed⟩
  · rw [hsettings]
    exact List.mem_append_left _ hy
  · rw [hcall]
    refine (t.isSetting_of_mem_settings ?_).1
    rw [hsettings]
    exact List.mem_append_right _ List.mem_cons_self

variable {t} in
theorem BrokenOpening.failed {es : List Exchange} (h : t.BrokenOpening es) : FailedOpening es := by
  obtain hrefused | ⟨connection, setup, closing, rfl, hbroken, hclosing⟩ := h
  · exact .inl hrefused
  · exact .inr ⟨connection, setup, closing, rfl, hbroken.interrupted, hclosing⟩

private def SetsUp (connection : Nat) (before : List Exchange)
    (outcome : Except Error OpenConnection) (es : List Exchange) : Prop :=
  match outcome with
  | .ok o => o.connection = connection ∧ before ++ es = t.settings o
  | .error _ => t.BrokenSetup connection (before ++ es)

private theorem makes_setting {connection : Nat} {before : List Exchange} {c : Call}
    {o : OpenConnection} {a : c.Answer} {rest : List Exchange} (hsame : o.connection = connection)
    (hsettings : t.settings o = before ++ ⟨c, .ok a⟩ :: rest)
    {f : c.Answer → Session (σ × List Exchange) OpenConnection}
    (h : ∀ a, Makes (f a) (t.SetsUp connection (before ++ [⟨c, .ok a⟩]))) :
    Makes (call d.traced c >>= f) (t.SetsUp connection before) := by
  refine (makes_call d c (P := fun outcome es => es = [⟨c, outcome⟩]) fun _ => rfl).bind
    (fun a es hes => ?_) (fun e es hes => ?_)
  · subst hes
    apply (h a).mono
    intro outcome es' hmade
    cases outcome with
    | ok o => simpa [SetsUp] using hmade
    | error e => simpa [SetsUp] using hmade
  · subst hes
    exact ⟨o, before, _, rest, ⟨c, .error e⟩, hsame, hsettings, rfl, rfl, rfl⟩

private theorem makes_autocommit {connection : Nat} {isolation : Option Isolation}
    {before : List Exchange}
    (h : ∀ autocommit, before ++ ⟨.autocommit connection, .ok autocommit⟩ ::
      (if autocommit then [⟨.setAutocommit connection false, .ok ()⟩] else []) =
        t.settings ⟨connection, isolation, autocommit⟩) :
    Makes (do
      let autocommit ← call d.traced (.autocommit connection)
      if autocommit then call d.traced (.setAutocommit connection false)
      return ⟨connection, isolation, autocommit⟩) (t.SetsUp connection before) := by
  refine t.makes_setting d rfl (h false).symm fun autocommit => ?_
  cases autocommit with
  | false =>
      refine makes_pure ⟨rfl, ?_⟩
      simpa using h false
  | true =>
      have hwhole : t.settings ⟨connection, isolation, true⟩ =
          (before ++ [⟨.autocommit connection, .ok true⟩]) ++
            ⟨.setAutocommit connection false, .ok ()⟩ :: [] := by
        simpa using (h true).symm
      refine t.makes_setting d rfl hwhole fun _ => makes_pure ⟨rfl, ?_⟩
      simpa using h true

theorem makes_setUp (connection : Nat) :
    Makes (t.setUp d.traced connection) fun outcome es =>
      match outcome with
      | .ok o => o.connection = connection ∧ es = t.settings o
      | .error _ => t.BrokenSetup connection es := by
  suffices h : Makes (t.setUp d.traced connection) (t.SetsUp connection []) by
    apply h.mono
    intro outcome es hmade
    cases outcome with
    | ok o => exact hmade
    | error e => exact hmade
  have hwhole : t.settings ⟨connection, none, false⟩ =
      [] ++ ⟨.isolation connection, .ok none⟩ :: _ := rfl
  refine t.makes_setting d rfl hwhole fun isolation => ?_
  cases hwanted : t.isolation with
  | none => exact t.makes_autocommit d fun autocommit => by simp [settings, hwanted]
  | some wanted =>
      by_cases hchange : isolation ≠ some wanted
      · simp only [if_pos hchange]
        have hwhole : t.settings ⟨connection, isolation, false⟩ =
            ([] ++ [⟨.isolation connection, .ok isolation⟩]) ++
              ⟨.setIsolation connection wanted, .ok ()⟩ ::
                [⟨.autocommit connection, .ok false⟩] := by
          simp [settings, hwanted, hchange]
        refine t.makes_setting d rfl hwhole fun _ => ?_
        exact t.makes_autocommit d fun autocommit => by simp [settings, hwanted, hchange]
      · simp only [if_neg hchange]
        exact t.makes_autocommit d fun autocommit => by simp [settings, hwanted, hchange]

/-- The calls that give a connection back its settings before it is closed. -/
def restoringCalls (t : Transaction) (o : OpenConnection) : List Call :=
  (match o.isolation with
    | some captured =>
        if t.isolation.any (· ≠ captured) then [.setIsolation o.connection captured] else []
    | none => []) ++
  if o.autocommit then [.setAutocommit o.connection true] else []

section

omit d

variable {t} {o : OpenConnection}

theorem releaseCalls_eq : t.releaseCalls o = t.restoringCalls o ++ [.close o.connection] :=
  (List.append_assoc _ _ _).symm

theorem isSetting_of_restoringCalls {c : Call} (h : c ∈ t.restoringCalls o) :
    c.isSetting o.connection := by
  obtain h | h := List.mem_append.mp h
  · split at h
    · split at h
      · rw [List.mem_singleton.mp h]
        simp [Call.isSetting]
      · cases h
    · cases h
  · split at h
    · rw [List.mem_singleton.mp h]
      simp [Call.isSetting]
    · cases h

theorem restored_of_release {es : List Exchange} (h : es.map Exchange.call = t.releaseCalls o) :
    ∃ restoring closing, es = restoring ++ [closing] ∧
      restoring.map Exchange.call = t.restoringCalls o ∧ closing.call = .close o.connection := by
  rw [releaseCalls_eq] at h
  obtain ⟨restoring, closing, rfl, hrestoring, hclosing⟩ := List.map_eq_append_iff.mp h
  obtain ⟨last, rfl, hlast⟩ := List.map_eq_singleton_iff.mp hclosing
  exact ⟨restoring, last, rfl, hrestoring, hlast⟩

end

def Tells (x : Session (σ × List Exchange) Unit) (calls : List Call) : Prop :=
  Makes x fun outcome es => outcome = .ok () ∧ es.map Exchange.call = calls

theorem Tells.bind {α : Type} {x : Session (σ × List Exchange) Unit}
    {y : Session (σ × List Exchange) α} {calls : List Call}
    {Q : Except Error α → List Exchange → Prop} (hfirst : Tells x calls)
    (h : ∀ es, es.map Exchange.call = calls → Makes y fun outcome es' => Q outcome (es ++ es')) :
    Makes (x >>= fun _ => y) Q := by
  apply Makes.bind hfirst
  · intro _ es hmade
    exact h es hmade.2
  · intro e es hmade
    obtain ⟨himpossible, -⟩ := hmade
    cases himpossible

theorem Tells.then {x y : Session (σ × List Exchange) Unit} {calls calls' : List Call}
    (hfirst : Tells x calls) (hsecond : Tells y calls') :
    Tells (x >>= fun _ => y) (calls ++ calls') := by
  apply hfirst.bind
  intro es hes
  apply hsecond.mono
  intro outcome es' hmade
  exact ⟨hmade.1, by rw [List.map_append, hes, hmade.2]⟩

theorem tells_reporting {x : Session (σ × List Exchange) Unit} {calls : List Call}
    (h : Makes x fun _ es => es.map Exchange.call = calls) (level : LogLevel) (source : LogSource)
    (what : String) : Tells (reporting level source what x) calls := by
  apply (h.reporting level source what).mono
  intro outcome es hmade
  obtain ⟨hsame, -, hcalls⟩ := hmade
  exact ⟨hsame, hcalls⟩

/-- A connection is opened as the settings of the transaction ask for, or not at all. -/
theorem makes_connect :
    Makes (t.connect d.traced) fun outcome es =>
      match outcome with
      | .ok o => es = t.opening o
      | .error _ => t.BrokenOpening es := by
  apply (makes_call d .connect (P := fun outcome es => es = [⟨.connect, outcome⟩])
    fun _ => rfl).bind
  · intro connection es hes
    subst hes
    apply (t.makes_setUp d connection).attempt_bind
    intro result es hmade
    cases result with
    | ok o =>
        obtain ⟨rfl, rfl⟩ := hmade
        apply makes_pure
        simp [opening]
    | error e =>
        have hclosing := makes_call d (.close connection)
          (P := fun _ es => es.map Exchange.call = [.close connection]) fun _ => rfl
        apply (tells_reporting hclosing _ _ _).bind
        intro closed hclosed
        obtain ⟨closing, rfl, hclosing⟩ := List.map_eq_singleton_iff.mp hclosed
        apply makes_throw
        exact .inr ⟨connection, es, closing, by simp, hmade, hclosing⟩
  · intro e es hes
    exact .inl ⟨e, hes⟩

theorem tells_release (o : OpenConnection) : Tells (t.release d.traced o) (t.releaseCalls o) := by
  have hclosing : Tells (reporting .warn .transaction "Could not close the transaction connection"
      (call d.traced (.close o.connection))) [.close o.connection] :=
    tells_reporting (makes_call d (.close o.connection) fun _ => rfl) _ _ _
  have hautocommitting : Tells (do
      if o.autocommit then
        reporting .warn .transaction "Could not restore autocommit"
          (call d.traced (.setAutocommit o.connection true))
      reporting .warn .transaction "Could not close the transaction connection"
        (call d.traced (.close o.connection)))
      ((if o.autocommit then [.setAutocommit o.connection true] else []) ++
        [.close o.connection]) := by
    cases o.autocommit with
    | false => exact hclosing
    | true =>
        exact (tells_reporting (makes_call d (.setAutocommit o.connection true) fun _ => rfl)
          _ _ _).then hclosing
  unfold release releaseCalls
  cases o.isolation with
  | none => exact hautocommitting
  | some captured =>
      cases hchanged : t.isolation.any (· ≠ captured) with
      | false =>
          simp only [hchanged, Bool.false_eq_true, if_false, List.nil_append]
          exact hautocommitting
      | true =>
          simp only [hchanged, if_true]
          exact (tells_reporting (makes_call d (.setIsolation o.connection captured) fun _ => rfl)
            _ _ _).then hautocommitting

end Transaction

end TypedSql
