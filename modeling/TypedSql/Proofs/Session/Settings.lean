import TypedSql.Proofs.Session.Course
import TypedSql.Proofs.Session.Replay

namespace TypedSql

/-! The settings of connections.  A transaction changes those of its connection and restores them
before the connection is closed, so that whoever has the session next finds them as they were. -/

variable {σ α : Type}

structure Settings where
  autocommit : Bool
  isolation : Isolation

namespace Settings

/-- The settings after a call that succeeds.  A store may grant another isolation than the one that
it is asked for. -/
def told (granted : Isolation → Isolation) (n : Nat) (v : Settings) : Call → Settings
  | .setIsolation k level => if k = n then { v with isolation := granted level } else v
  | .setAutocommit k on => if k = n then { v with autocommit := on } else v
  | _ => v

def after (granted : Isolation → Isolation) (n : Nat) (v : Settings) (x : Exchange) : Settings :=
  if x.succeeded then v.told granted n x.call else v

def afterAll (granted : Isolation → Isolation) (n : Nat) (v : Settings) (es : List Exchange) :
    Settings :=
  es.foldl (after granted n) v

variable {granted : Isolation → Isolation} {n : Nat} {v : Settings} {es : List Exchange}

@[simp] theorem afterAll_append (es es' : List Exchange) :
    v.afterAll granted n (es ++ es') = (v.afterAll granted n es).afterAll granted n es' :=
  List.foldl_append

theorem afterAll_of_succeeded (h : ∀ x ∈ es, x.succeeded) :
    v.afterAll granted n es = (es.map Exchange.call).foldl (told granted n) v := by
  induction es generalizing v with
  | nil => rfl
  | cons x es ih =>
      obtain ⟨hfirst, hrest⟩ := List.forall_mem_cons.mp h
      rw [List.map_cons, List.foldl_cons, ← ih hrest, afterAll, afterAll, List.foldl_cons, after,
        if_pos hfirst]

theorem afterAll_of_same (h : ∀ x ∈ es, ∀ v : Settings, v.after granted n x = v) :
    v.afterAll granted n es = v := by
  induction es with
  | nil => rfl
  | cons x es ih =>
      obtain ⟨hfirst, hrest⟩ := List.forall_mem_cons.mp h
      rw [afterAll, List.foldl_cons, hfirst v]
      exact ih hrest

theorem afterAll_of_isolation {level : Isolation}
    (h : ∀ x ∈ es, x = ⟨.setIsolation n level, .ok ()⟩ ∨ ∀ v : Settings, v.after granted n x = v) :
    v.afterAll granted n es = v ∨
      ⟨.setIsolation n level, .ok ()⟩ ∈ es ∧
        v.afterAll granted n es = { v with isolation := granted level } := by
  induction es generalizing v with
  | nil => exact .inl rfl
  | cons x es ih =>
      obtain ⟨hfirst, hrest⟩ := List.forall_mem_cons.mp h
      rw [afterAll, List.foldl_cons]
      obtain rfl | hsame := hfirst
      · have hset : v.after granted n ⟨.setIsolation n level, .ok ()⟩ =
            { v with isolation := granted level } := by
          simp [after, told, Exchange.succeeded, Except.isOk, Except.toBool]
        refine .inr ⟨List.mem_cons_self, ?_⟩
        rw [hset]
        obtain hunchanged | ⟨-, hagain⟩ := ih (v := { v with isolation := granted level }) hrest
        · exact hunchanged
        · exact hagain
      · rw [hsame v]
        exact (ih hrest).imp_right fun hchanged => ⟨List.mem_cons_of_mem x hchanged.1, hchanged.2⟩

theorem after_of_failed {x : Exchange} (h : x.succeeded = false) (v : Settings) :
    v.after granted n x = v := by
  rw [after, h, if_neg (by simp)]

end Settings

namespace Transaction

open Settings

variable {t : Transaction} {o : OpenConnection} {granted : Isolation → Isolation} {v : Settings}

/-- What precedes the reading of autocommit when a connection is set up. -/
def isolating (t : Transaction) (o : OpenConnection) : List Exchange :=
  ⟨.isolation o.connection, .ok o.isolation⟩ ::
    match t.isolation with
    | some wanted =>
        if o.isolation ≠ some wanted then [⟨.setIsolation o.connection wanted, .ok ()⟩] else []
    | none => []

theorem settings_eq : t.settings o = t.isolating o ++
    (⟨.autocommit o.connection, .ok o.autocommit⟩ ::
      if o.autocommit then [⟨.setAutocommit o.connection false, .ok ()⟩] else []) := rfl

theorem afterAll_isolating :
    v.afterAll granted o.connection (t.isolating o) = { v with
      isolation := match t.isolation with
        | some wanted => if o.isolation ≠ some wanted then granted wanted else v.isolation
        | none => v.isolation } := by
  unfold isolating
  cases t.isolation with
  | none => rfl
  | some wanted =>
      by_cases hsame : o.isolation = some wanted
      · simp [hsame, afterAll, after, told]
      · simp [hsame, afterAll, after, told, Exchange.succeeded, Except.isOk, Except.toBool]

theorem afterAll_settings (hautocommit : o.autocommit = v.autocommit) :
    v.afterAll granted o.connection (t.settings o) =
      { v.afterAll granted o.connection (t.isolating o) with autocommit := false } := by
  rw [settings_eq, afterAll_append, afterAll_isolating, hautocommit]
  cases hon : v.autocommit with
  | false => simp [afterAll, after, told]
  | true => simp [afterAll, after, told, Exchange.succeeded, Except.isOk, Except.toBool]

/-- A connection that has been set up gets back what it was found with, if nothing fails. -/
theorem afterAll_restored {restoring : List Exchange} (hisolation : o.isolation = some v.isolation)
    (hautocommit : o.autocommit = v.autocommit) (hgranted : granted v.isolation = v.isolation)
    (hcalls : restoring.map Exchange.call = t.restoringCalls o)
    (hsucceeded : ∀ x ∈ restoring, x.succeeded) :
    (v.afterAll granted o.connection (t.settings o)).afterAll granted o.connection restoring =
      v := by
  rw [afterAll_of_succeeded hsucceeded, hcalls, restoringCalls, afterAll_settings hautocommit,
    afterAll_isolating, hisolation, hautocommit]
  obtain ⟨autocommit, isolation⟩ := v
  cases t.isolation with
  | none => cases autocommit <;> simp [told]
  | some wanted =>
      by_cases hsame : isolation = wanted
      · cases autocommit <;> simp [told, hsame]
      · have hchanged : wanted ≠ isolation := Ne.symm hsame
        cases autocommit <;> simp [told, hsame, hchanged, hgranted]

theorem mem_isolating {x : Exchange} (h : x ∈ t.isolating o) :
    x = ⟨.isolation o.connection, .ok o.isolation⟩ ∨
      ∃ wanted, t.isolation = some wanted ∧ x = ⟨.setIsolation o.connection wanted, .ok ()⟩ := by
  obtain rfl | h := List.mem_cons.mp h
  · exact .inl rfl
  · split at h
    · rename_i wanted hwanted
      split at h
      · exact .inr ⟨wanted, hwanted, List.mem_singleton.mp h⟩
      · cases h
    · cases h

/-- Autocommit is the last thing to be switched, so a set-up that is left before its end has not
switched it. -/
theorem mem_settings_of_left {done rest : List Exchange} {x y : Exchange}
    (h : t.settings o = done ++ x :: rest) (hy : y ∈ done) :
    y ∈ t.isolating o ∨ y = ⟨.autocommit o.connection, .ok o.autocommit⟩ := by
  have hleft : y ∈ (t.settings o).dropLast := by
    rw [h, List.dropLast_append_cons]
    exact List.mem_append_left _ hy
  rw [settings_eq] at hleft
  cases hon : o.autocommit with
  | false =>
      rw [hon, if_neg (by simp), List.dropLast_concat] at hleft
      exact .inl hleft
  | true =>
      rw [hon, if_pos rfl, List.append_cons, List.dropLast_concat] at hleft
      exact (List.mem_append.mp hleft).imp_right fun hlast => List.mem_singleton.mp hlast

/-- A set-up that is left halfway has switched nothing but, perhaps, the isolation. -/
theorem afterAll_broken {n : Nat} {es : List Exchange} (h : t.BrokenSetup n es) :
    v.afterAll granted n es = v ∨ ∃ wanted, t.isolation = some wanted ∧
      ⟨.setIsolation n wanted, .ok ()⟩ ∈ es ∧
        v.afterAll granted n es = { v with isolation := granted wanted } := by
  obtain ⟨o, done, x, rest, failing, rfl, hsettings, hcall, hfailed, rfl⟩ := h
  have honly (y : Exchange) (hy : y ∈ done ++ [failing]) :
      (∃ wanted, t.isolation = some wanted ∧ y = ⟨.setIsolation o.connection wanted, .ok ()⟩) ∨
        ∀ v : Settings, v.after granted o.connection y = v := by
    obtain hy | hy := List.mem_append.mp hy
    · obtain hy | rfl := mem_settings_of_left hsettings hy
      · obtain rfl | hchanged := mem_isolating hy
        · exact .inr fun v => by simp [after, told]
        · exact .inl hchanged
      · exact .inr fun v => by simp [after, told]
    · rw [List.mem_singleton.mp hy]
      exact .inr fun v => after_of_failed hfailed v
  cases hwanted : t.isolation with
  | none =>
      refine .inl (afterAll_of_same fun y hy => (honly y hy).resolve_left ?_)
      rintro ⟨wanted, hsome, -⟩
      rw [hwanted] at hsome
      cases hsome
  | some wanted =>
      have hsingle (y : Exchange) (hy : y ∈ done ++ [failing]) :
          y = ⟨.setIsolation o.connection wanted, .ok ()⟩ ∨
            ∀ v : Settings, v.after granted o.connection y = v := by
        refine (honly y hy).imp_left ?_
        rintro ⟨wanted', hsome, rfl⟩
        rw [hwanted] at hsome
        rw [Option.some.inj hsome]
      exact (afterAll_of_isolation hsingle).imp_right fun hchanged => ⟨wanted, rfl, hchanged⟩

end Transaction

namespace Call

/-- A call that says nothing about the settings of a connection: one on another connection, or one
that is neither a statement, nor a change of settings, nor the close. -/
def leavesSettings (n : Nat) (c : Call) : Bool :=
  c.connection? ≠ some n ||
    match c with
    | metadata _ | commit _ | rollback _ | isolation _ | autocommit _ => true
    | _ => false

end Call

namespace Driver

/-- A store that reports the settings of its connections, and changes them when they are set.  How
it looks at a connection whose settings are not known is left open. -/
structure KeepsSettings (d : Driver σ) (settings? : σ → Nat → Option Settings)
    (granted : Isolation → Isolation) : Prop where
  isolation {s : σ} {n : Nat} {v : Settings} {reported : Option Isolation}
    (h : settings? s n = some v) (hanswer : (d.run (.isolation n) s).1 = .ok reported) :
    reported = some v.isolation
  autocommit {s : σ} {n : Nat} {v : Settings} {on : Bool} (h : settings? s n = some v)
    (hanswer : (d.run (.autocommit n) s).1 = .ok on) : on = v.autocommit
  setIsolation {s : σ} {n : Nat} {v : Settings} (level : Isolation) (h : settings? s n = some v) :
    settings? (d.run (.setIsolation n level) s).2 n =
      some (if (d.run (.setIsolation n level) s).1.isOk then { v with isolation := granted level }
        else v)
  setAutocommit {s : σ} {n : Nat} {v : Settings} (on : Bool) (h : settings? s n = some v) :
    settings? (d.run (.setAutocommit n on) s).2 n =
      some (if (d.run (.setAutocommit n on) s).1.isOk then { v with autocommit := on } else v)
  others {s : σ} {n : Nat} {v : Settings} {c : Call} (h : settings? s n = some v)
    (hc : c.leavesSettings n) : settings? (d.run c s).2 n = some v
  granted {s : σ} {n : Nat} {v : Settings} (h : settings? s n = some v) :
    granted v.isolation = v.isolation

/-- A call that changes no settings of any connection. -/
def LeavesSettings (d : Driver σ) (settings? : σ → Nat → Option Settings) (c : Call) : Prop :=
  ∀ s n v, settings? s n = some v → settings? (d.run c s).2 n = some v

namespace KeepsSettings

open Exchange

variable {d : Driver σ} {settings? : σ → Nat → Option Settings}
  {granted : Isolation → Isolation} (hlaw : d.KeepsSettings settings? granted)
include hlaw

theorem leaves_metadata (connection : Nat) : d.LeavesSettings settings? (.metadata connection) :=
  fun _ _ _ h => hlaw.others h (by simp [Call.leavesSettings])

theorem leaves_ending (rolledBack : Bool) (connection : Nat) :
    d.LeavesSettings settings? (.ending rolledBack connection) := by
  cases rolledBack with
  | true => exact fun _ _ _ h => hlaw.others h (by simp [Call.ending, Call.leavesSettings])
  | false => exact fun _ _ _ h => hlaw.others h (by simp [Call.ending, Call.leavesSettings])

variable {s s' : σ} {n : Nat} {v : Settings} {es : List Exchange}

/-- Calls that change nothing, and those on other connections, leave the settings as they are. -/
theorem unchanged_of_ran (h : d.Ran s es s') (hv : settings? s n = some v)
    (hes : ∀ x ∈ about n es, d.LeavesSettings settings? x.call) : settings? s' n = some v := by
  induction es generalizing s with
  | nil =>
      cases h
      exact hv
  | cons x es ih =>
      have hes' : ∀ y ∈ about n es, d.LeavesSettings settings? y.call :=
        fun y hy => hes y (List.mem_filter.mpr ⟨List.mem_cons_of_mem x (List.mem_filter.mp hy).1,
          (List.mem_filter.mp hy).2⟩)
      refine ih h.2 ?_ hes'
      by_cases hreached : x.call.connection? = some n
      · exact hes x
          (List.mem_filter.mpr ⟨List.mem_cons_self, by simp [concerns, hreached]⟩) s n v hv
      · exact hlaw.others hv (by simp [Call.leavesSettings, hreached])

theorem after_of_setting {x : Exchange} (hrun : (d.run x.call s).1 = x.outcome)
    (hv : settings? s n = some v) (hx : x.call.isSetting n) :
    settings? (d.run x.call s).2 n = some (v.after granted n x) := by
  obtain ⟨call, outcome⟩ := x
  simp only at hrun hx ⊢
  subst hrun
  cases call with
  | isolation k | autocommit k =>
      rw [Settings.after]
      simpa [Settings.told] using hlaw.others hv (by simp [Call.leavesSettings])
  | setIsolation k level =>
      obtain rfl : k = n := by simpa [Call.isSetting] using hx
      simp [hlaw.setIsolation level hv, Settings.after, Settings.told, succeeded]
  | setAutocommit k on =>
      obtain rfl : k = n := by simpa [Call.isSetting] using hx
      simp [hlaw.setAutocommit on hv, Settings.after, Settings.told, succeeded]
  | _ => cases hx

theorem afterAll_of_ran (h : d.Ran s es s') (hv : settings? s n = some v)
    (hes : ∀ x ∈ about n es, x.call.isSetting n) :
    settings? s' n = some (v.afterAll granted n (about n es)) := by
  induction es generalizing s v with
  | nil =>
      cases h
      exact hv
  | cons x es ih =>
      cases hconcerned : x.concerns n with
      | true =>
          rw [about, List.filter_cons_of_pos hconcerned] at hes ⊢
          obtain ⟨hfirst, hrest⟩ := List.forall_mem_cons.mp hes
          exact ih h.2 (hlaw.after_of_setting h.1 hv hfirst) hrest
      | false =>
          have hapart : x.call.connection? ≠ some n := by
            simp only [concerns, Bool.or_eq_false_iff, decide_eq_false_iff_not] at hconcerned
            exact hconcerned.2
          rw [about, List.filter_cons_of_neg (by simp [hconcerned])] at hes ⊢
          exact ih h.2 (hlaw.others hv (by simp [Call.leavesSettings, hapart])) hes

theorem report_of_ran (h : d.Ran s es s') (hv : settings? s n = some v)
    {before after : List Exchange} {x : Exchange} (hes : about n es = before ++ x :: after)
    (hbefore : ∀ y ∈ before, y.call.isSetting n) :
    ∃ mid, settings? mid n = some (v.afterAll granted n before) ∧
      (d.run x.call mid).1 = x.outcome := by
  obtain ⟨first, last, rfl, hfirst, hlast⟩ := List.filter_eq_append_iff.mp hes
  obtain ⟨quiet, rest, rfl, hquiet, -, -⟩ := List.filter_eq_cons_iff.mp hlast
  rw [← List.append_assoc] at h
  obtain ⟨mid, hbegin, hend⟩ := ran_append.mp h
  have hnothing : about n quiet = [] := List.filter_eq_nil_iff.mpr hquiet
  have htold : about n (first ++ quiet) = before := by
    rw [about_append, hnothing, List.append_nil, about, hfirst]
  refine ⟨mid, ?_, hend.1⟩
  rw [← htold]
  exact hlaw.afterAll_of_ran hbegin hv (by rw [htold]; exact hbefore)

theorem found_of_ran {t : Transaction} {o : OpenConnection} {rest : List Exchange}
    (h : d.Ran s es s') (hv : settings? s o.connection = some v)
    (hes : about o.connection es = t.settings o ++ rest) :
    o.isolation = some v.isolation ∧ o.autocommit = v.autocommit := by
  constructor
  · have hfirst : about o.connection es = [] ++ ⟨.isolation o.connection, .ok o.isolation⟩ :: _ :=
      hes
    obtain ⟨mid, hmid, hanswer⟩ := hlaw.report_of_ran h hv hfirst (List.forall_mem_nil _)
    exact hlaw.isolation hmid hanswer
  · rw [Transaction.settings_eq, List.append_assoc] at hes
    have hearly (x : Exchange) (hx : x ∈ t.isolating o) : x.call.isSetting o.connection :=
      (t.isSetting_of_mem_settings (List.mem_append_left _ hx)).1
    obtain ⟨mid, hmid, hanswer⟩ := hlaw.report_of_ran h hv hes hearly
    rw [Transaction.afterAll_isolating] at hmid
    have hread := hlaw.autocommit hmid hanswer
    exact hread

/-- The connection of a transaction has its settings back when it is closed. -/
theorem restored_of_ran {t : Transaction} {o : OpenConnection} {uses restoring : List Exchange}
    (h : d.Ran s es s') (hv : settings? s o.connection = some v)
    (hes : about o.connection es = t.settings o ++ (uses ++ restoring))
    (hused : ∀ x ∈ uses, d.LeavesSettings settings? x.call)
    (hcalls : restoring.map Exchange.call = t.restoringCalls o)
    (hsucceeded : ∀ x ∈ restoring, x.succeeded) : settings? s' o.connection = some v := by
  obtain ⟨hisolation, hautocommit⟩ := hlaw.found_of_ran h hv hes
  obtain ⟨first, others, rfl, hfirst, hothers⟩ := List.filter_eq_append_iff.mp hes
  obtain ⟨middle, last, rfl, hmiddle, hlast⟩ := List.filter_eq_append_iff.mp hothers
  obtain ⟨ready, hready, h⟩ := ran_append.mp h
  obtain ⟨done, hdone, hend⟩ := ran_append.mp h
  have hsetting (x : Exchange) (hx : x ∈ restoring) : x.call.isSetting o.connection := by
    have hcall : x.call ∈ t.restoringCalls o := by
      rw [← hcalls]
      exact List.mem_map_of_mem hx
    exact Transaction.isSetting_of_restoringCalls hcall
  have hatReady : settings? ready o.connection =
      some (v.afterAll granted o.connection (t.settings o)) := by
    rw [← hfirst]
    refine hlaw.afterAll_of_ran hready hv fun x hx => (t.isSetting_of_mem_settings ?_).1
    rwa [about, hfirst] at hx
  have hatDone := hlaw.unchanged_of_ran hdone hatReady (by rwa [about, hmiddle])
  have hatEnd := hlaw.afterAll_of_ran hend hatDone (by rwa [about, hlast])
  rw [hatEnd, about, hlast, Transaction.afterAll_restored hisolation hautocommit (hlaw.granted hv)
    hcalls hsucceeded]

end KeepsSettings

end Driver

end TypedSql
