import Mathlib.Data.List.Nodup
import TypedSql.Proofs.Session.Acts
import TypedSql.Proofs.Session.Closing

namespace TypedSql

/-! The course of a single connection.  Between its opening and its close it is used by itself, or
it is set up for a transaction, used and restored, or its set-up is left halfway. -/

variable {σ α : Type}

namespace Exchange

/-- An exchange concerns the connection that it opens or that its call reaches. -/
def concerns (n : Nat) (x : Exchange) : Bool :=
  x.opened? = some n || x.call.connection? = some n

def about (n : Nat) (es : List Exchange) : List Exchange :=
  es.filter (concerns n)

variable {n k : Nat} {x : Exchange} {es es' : List Exchange}

theorem concerns_of_isBorrowed (h : x.call.isBorrowed n) : x.concerns n := by
  simp only [Call.isBorrowed, Bool.and_eq_true, decide_eq_true_eq] at h
  simp [concerns, h.1]

theorem eq_of_concerns (h : x.concerns n) (h' : x.concerns k) : n = k := by
  simp only [concerns, Bool.or_eq_true, decide_eq_true_eq] at h h'
  have hapart {a b : Nat} (hopened : x.opened? = some a) : x.call.connection? ≠ some b := by
    rw [connection?_of_opened? hopened]
    simp
  obtain hopened | hreached := h
  · obtain hopened' | hreached' := h'
    · exact Option.some.inj (hopened.symm.trans hopened')
    · exact absurd hreached' (hapart hopened)
  · obtain hopened' | hreached' := h'
    · exact absurd hreached (hapart hopened')
    · exact Option.some.inj (hreached.symm.trans hreached')

@[simp] theorem about_append : about n (es ++ es') = about n es ++ about n es' :=
  List.filter_append es es'

theorem about_of_concerns (h : ∀ x ∈ es, x.concerns n) : about n es = es :=
  List.filter_eq_self.mpr h

theorem not_concerns (h : ∀ x ∈ es, x.concerns k) (hne : k ≠ n) :
    ∀ x ∈ es, x.concerns n = false :=
  fun x hx => Bool.eq_false_iff.mpr fun hconcerned => hne (eq_of_concerns (h x hx) hconcerned)

end Exchange

open Exchange

namespace Transaction

variable {t : Transaction} {o : OpenConnection} {es : List Exchange}

theorem concerns_of_release (h : es.map Exchange.call = t.releaseCalls o) :
    ∀ x ∈ es, x.concerns o.connection := by
  intro x hx
  have hcall : x.call ∈ t.releaseCalls o := by
    rw [← h]
    exact List.mem_map_of_mem hx
  simp [concerns, connection?_of_releaseCalls x.call hcall]

theorem concerns_of_opening : ∀ x ∈ t.opening o, x.concerns o.connection := by
  refine List.forall_mem_cons.mpr ⟨by simp [concerns, opened?], fun x hx => ?_⟩
  exact concerns_of_isBorrowed (Call.isBorrowed_of_isSetting (isSetting_of_settings x hx))

theorem concerns_of_brokenSetup {n : Nat} (h : t.BrokenSetup n es) : ∀ x ∈ es, x.concerns n :=
  fun x hx => concerns_of_isBorrowed
    (Call.isBorrowed_of_isSetting (isSetting_of_interruptedSetup h.interrupted x hx))

end Transaction

/-- What is said to a connection from its opening until its close, when the program makes only calls
of some kind itself. -/
inductive Course (allowed : Call → Prop) (n : Nat) : List Exchange → Prop
  | alone {uses : List Exchange} (hused : ∀ x ∈ uses, x.call.isBorrowed n ∧ allowed x.call) :
      Course allowed n uses
  | broken {t : Transaction} {setup : List Exchange} (h : t.BrokenSetup n setup) :
      Course allowed n setup
  | served {t : Transaction} {o : OpenConnection} {uses restoring : List Exchange}
      (hsame : o.connection = n) (hused : ∀ x ∈ uses, x.call.isBorrowed n ∧ allowed x.call)
      (hrestored : restoring.map Exchange.call = t.restoringCalls o) :
      Course allowed n (t.settings o ++ (uses ++ restoring))

/-- Where a connection stands that is opened once. -/
inductive Standing where
  | unopened
  | alone
  | lent (t : Transaction) (o : OpenConnection)
  | closed

/-- What has been said to a connection, by where it stands. -/
inductive Story (allowed : Call → Prop) (n : Nat) : Standing → List Exchange → Prop
  | unopened : Story allowed n .unopened []
  | alone {uses : List Exchange} (hused : ∀ x ∈ uses, x.call.isBorrowed n ∧ allowed x.call) :
      Story allowed n .alone (⟨.connect, .ok n⟩ :: uses)
  | lent {t : Transaction} {o : OpenConnection} {uses : List Exchange} (hsame : o.connection = n)
      (hused : ∀ x ∈ uses, x.call.isBorrowed n ∧ allowed x.call) :
      Story allowed n (.lent t o) (t.opening o ++ uses)
  | closed {course : List Exchange} {closing : Exchange} (h : Course allowed n course)
      (hclosing : closing.call = .close n) :
      Story allowed n .closed (⟨.connect, .ok n⟩ :: (course ++ [closing]))

namespace Story

variable {allowed : Call → Prop} {n : Nat} {s : Standing} {es : List Exchange}

theorem opened_of_ne (h : Story allowed n s es) (hne : s ≠ .unopened) :
    ⟨.connect, .ok n⟩ ∈ es := by
  cases h with
  | unopened => exact absurd rfl hne
  | alone hused => exact List.mem_cons_self
  | lent hsame hused =>
      rw [← hsame]
      exact List.mem_cons_self
  | closed h hclosing => exact List.mem_cons_self

theorem eq_nil (h : Story allowed n .unopened es) : es = [] := by
  cases h with
  | unopened => rfl

end Story

namespace Standing

def countAlone : Standing → Nat
  | alone => 1
  | _ => 0

def countLent : Standing → Nat
  | lent _ _ => 1
  | _ => 0

/-- The connection is where its standing says: by itself, or with a transaction whose scope has not
ended, or nowhere. -/
structure Fits (s : Standing) (n : Nat) (scopes : List Transaction) (alone : List Nat)
    (w : World (σ × List Exchange)) : Prop where
  alone : alone.count n = s.countAlone
  lent : w.connections.count n = s.countLent
  holder : ∀ t o, s = .lent t o →
    t ∈ scopes ∧ (w.state t).opened = some o ∧ o.connection = n

variable {s : Standing} {n : Nat} {scopes scopes' : List Transaction} {alone alone' : List Nat}
  {w w' : World (σ × List Exchange)}

theorem Fits.unheld (hs : s.countLent = 0) (halone : alone.count n = s.countAlone)
    (hlent : w.connections.count n = 0) : s.Fits n scopes alone w where
  alone := halone
  lent := hlent.trans hs.symm
  holder t o hheld := by
    rw [hheld] at hs
    cases hs

theorem Fits.congr (h : s.Fits n scopes alone w) (halone : alone'.count n = alone.count n)
    (hlent : w'.connections.count n = w.connections.count n)
    (hholder : ∀ t ∈ scopes, ∀ o, (w.state t).opened = some o → o.connection = n →
      t ∈ scopes' ∧ (w'.state t).opened = some o) : s.Fits n scopes' alone' w' where
  alone := halone.trans h.alone
  lent := hlent.trans h.lent
  holder t o hs := by
    obtain ⟨ht, hopened, hsame⟩ := h.holder t o hs
    obtain ⟨ht', hopened'⟩ := hholder t ht o hopened hsame
    exact ⟨ht', hopened', hsame⟩

theorem Fits.exchanged {es : List Exchange} (h : s.Fits n scopes alone w)
    (hmade : w.Exchanged es w') : s.Fits n scopes alone w' :=
  h.congr rfl (by rw [World.connections_congr hmade.transactions]) fun t ht o hopened _ =>
    ⟨ht, by rw [hmade.state, hopened]⟩

end Standing

namespace World

/-- How often a transaction's connection counts among those that are open. -/
theorem count_setState {w : World (σ × List Exchange)} {t : Transaction}
    (hinRange : t.id < w.transactions.length) (s : TransactionState) (n : Nat) :
    (w.setState t s).connections.count n +
        ((w.state t).opened.map OpenConnection.connection).toList.count n =
      w.connections.count n + (s.opened.map OpenConnection.connection).toList.count n := by
  have hexchange := (connections_setState hinRange s).count_eq n
  rwa [List.count_append, List.count_append] at hexchange

end World

open World

/-- What has been said so far to a connection, unless its number has been given twice. -/
def Told (allowed : Call → Prop) (n : Nat) (scopes : List Transaction) (alone : List Nat)
    (w : World (σ × List Exchange)) (es : List Exchange) : Prop :=
  1 < es.countP (fun x => x.opened? = some n) ∨
    ∃ s : Standing, s.Fits n scopes alone w ∧ Story allowed n s (about n es)

namespace Told

variable {allowed : Call → Prop} {n k : Nat} {scopes scopes' : List Transaction}
  {alone alone' : List Nat} {w w' : World (σ × List Exchange)} {es es' : List Exchange}

theorem next (h : Told allowed n scopes alone w es)
    (hstep : ∀ s : Standing, s.Fits n scopes alone w → Story allowed n s (about n es) →
      Told allowed n scopes' alone' w' (es ++ es')) :
    Told allowed n scopes' alone' w' (es ++ es') := by
  obtain hagain | ⟨s, hfits, hstory⟩ := h
  · refine .inl ?_
    rw [List.countP_append]
    omega
  · exact hstep s hfits hstory

/-- Nothing is told of a connection while others are spoken to. -/
theorem apart (h : Told allowed n scopes alone w es) (hes : ∀ x ∈ es', x.concerns n = false)
    (hfits : ∀ s : Standing, s.Fits n scopes alone w → s.Fits n scopes' alone' w') :
    Told allowed n scopes' alone' w' (es ++ es') := by
  refine h.next fun s hs hstory => .inr ⟨s, hfits s hs, ?_⟩
  have hnothing : about n es' = [] :=
    List.filter_eq_nil_iff.mpr fun x hx => by simp [hes x hx]
  rwa [about_append, hnothing, List.append_nil]

/-- A number that is given again is not followed any further. -/
theorem opening (h : Told allowed n scopes alone w es) (hes : ∀ x ∈ es', x.concerns n)
    {s' : Standing} (hstory' : Story allowed n s' es') (hopened : s' ≠ .unopened)
    (hfits' : Standing.unopened.Fits n scopes alone w → s'.Fits n scopes' alone' w') :
    Told allowed n scopes' alone' w' (es ++ es') := by
  have hcounts {l : List Exchange} (h : ⟨.connect, .ok n⟩ ∈ l) :
      0 < l.countP fun x => x.opened? = some n :=
    List.countP_pos_iff.mpr ⟨_, h, by simp [opened?]⟩
  refine h.next fun s hfits hstory => ?_
  by_cases hunopened : s = .unopened
  · subst hunopened
    refine .inr ⟨s', hfits' hfits, ?_⟩
    rw [about_append, hstory.eq_nil, about_of_concerns hes, List.nil_append]
    exact hstory'
  · have hbefore := hcounts (List.mem_filter.mp (hstory.opened_of_ne hunopened)).1
    have hafter := hcounts (hstory'.opened_of_ne hopened)
    refine .inl ?_
    rw [List.countP_append]
    omega

end Told

/-- The world is orderly, transactions are known by their numbers, and what has been said to a
connection fits where it stands. -/
structure World.Recounts (allowed : Call → Prop) (n : Nat) (past : List Exchange)
    (scopes : List Transaction) (alone : List Nat) (w : World (σ × List Exchange)) : Prop where
  orderly : w.Orderly scopes alone past
  distinct : (scopes.map Transaction.id).Nodup
  told : ∃ es, w.trace = past ++ es ∧ Told allowed n scopes alone w es

namespace World.Recounts

variable {allowed : Call → Prop} {n k : Nat} {past : List Exchange}
  {scopes scopes' : List Transaction} {alone alone' : List Nat} {w w' : World (σ × List Exchange)}
  {es : List Exchange} {t : Transaction} {o : OpenConnection}

theorem told_next (h : w.Recounts allowed n past scopes alone) (htrace : w'.trace = w.trace ++ es)
    (hstep : ∀ before, Told allowed n scopes alone w before →
      Told allowed n scopes' alone' w' (before ++ es)) :
    ∃ es, w'.trace = past ++ es ∧ Told allowed n scopes' alone' w' es := by
  obtain ⟨before, htraceBefore, htold⟩ := h.told
  exact ⟨before ++ es, by rw [htrace, htraceBefore, List.append_assoc], hstep before htold⟩

theorem still (h : w.Recounts allowed n past scopes alone) (htrace : w'.trace = w.trace)
    (hfits : ∀ s : Standing, s.Fits n scopes alone w → s.Fits n scopes' alone' w') :
    ∃ es, w'.trace = past ++ es ∧ Told allowed n scopes' alone' w' es := by
  have hsilent : w'.trace = w.trace ++ [] := by rw [htrace, List.append_nil]
  exact h.told_next hsilent fun _ htold => htold.apart (List.forall_mem_nil _) hfits

/-- The transaction that has a connection is the only one that has it. -/
theorem holder_eq (h : w.Recounts allowed n past scopes alone) {s : Standing}
    (hfits : s.Fits n scopes alone w) (ht : t ∈ scopes)
    (hopened : (w.state t).opened = some o) (hsame : o.connection = n) : s = .lent t o := by
  have hinRange := h.orderly.inRange t ht
  have hleaving := count_setState hinRange {} n
  rw [hopened, hfits.lent] at hleaving
  simp only [Option.map_some, hsame, Option.toList_some, List.count_singleton_self, Option.map_none,
    Option.toList_none, List.count_nil, Nat.add_zero] at hleaving
  cases s with
  | unopened | alone | closed => simp [Standing.countLent] at hleaving
  | lent t' o' =>
      obtain ⟨ht', hopened', hsame'⟩ := hfits.holder t' o' rfl
      by_cases hid : t.id = t'.id
      · have halike : t = t' := List.inj_on_of_nodup_map h.distinct ht ht' hid
        subst halike
        rw [hopened] at hopened'
        rw [Option.some.inj hopened']
      · -- The other one would have the connection still when this one has given it back.
        have hkept : ((w.setState t {}).state t').opened = some o' := by
          rw [state_setState_of_ne hid, hopened']
        have hmem := List.count_pos_iff.mpr (connection_mem hkept)
        rw [hsame'] at hmem
        simp only [Standing.countLent] at hleaving
        omega

theorem exchanged (h : w.Recounts allowed n past scopes alone) (hmade : w.Exchanged es w')
    (horderly : w'.Orderly scopes alone' past)
    (hstep : ∀ before, Told allowed n scopes alone w before →
      Told allowed n scopes alone' w' (before ++ es)) :
    w'.Recounts allowed n past scopes alone' :=
  ⟨horderly, h.distinct, h.told_next hmade.trace hstep⟩

theorem silent (h : w.Recounts allowed n past scopes alone) (hmade : w.Exchanged [] w') :
    w'.Recounts allowed n past scopes alone :=
  h.exchanged hmade (h.orderly.silent hmade) fun _ htold =>
    htold.apart (List.forall_mem_nil _) fun _ hfits => hfits.exchanged hmade

theorem used (h : w.Recounts allowed n past scopes alone) {x : Exchange}
    (hopen : k ∈ alone ++ w.connections) (hx : x.call.isBorrowed k) (hallowed : allowed x.call)
    (hmade : w.Exchanged [x] w') : w'.Recounts allowed n past scopes alone := by
  refine h.exchanged hmade (h.orderly.exchanged hmade (.borrowed hopen hx)) fun before htold => ?_
  by_cases hsame : k = n
  · subst hsame
    have hmem := List.count_pos_iff.mpr hopen
    rw [List.count_append] at hmem
    refine htold.next fun s hfits hstory => .inr ⟨s, hfits.exchanged hmade, ?_⟩
    have hgrown {uses : List Exchange}
        (hused : ∀ y ∈ uses, y.call.isBorrowed k ∧ allowed y.call) :
        ∀ y ∈ uses ++ [x], y.call.isBorrowed k ∧ allowed y.call :=
      List.forall_mem_append.mpr ⟨hused, List.forall_mem_singleton.mpr ⟨hx, hallowed⟩⟩
    rw [about_append, about_of_concerns (List.forall_mem_singleton.mpr (concerns_of_isBorrowed hx))]
    rw [hfits.alone, hfits.lent] at hmem
    generalize about k before = told at hstory
    cases hstory with
    | unopened | closed => simp [Standing.countAlone, Standing.countLent] at hmem
    | alone hused => exact .alone (hgrown hused)
    | lent hsame hused =>
        rw [List.append_assoc]
        exact .lent hsame (hgrown hused)
  · exact htold.apart
      (not_concerns (List.forall_mem_singleton.mpr (concerns_of_isBorrowed hx)) hsame)
      fun _ hfits => hfits.exchanged hmade

theorem refused (h : w.Recounts allowed n past scopes alone) {e : Error}
    (hmade : w.Exchanged [⟨.connect, .error e⟩] w') : w'.Recounts allowed n past scopes alone :=
  h.exchanged hmade (h.orderly.exchanged hmade (.refused _ e)) fun _ htold =>
    htold.apart (by simp [concerns, opened?, Call.connection?]) fun _ hfits => hfits.exchanged hmade

theorem opened (h : w.Recounts allowed n past scopes alone)
    (hmade : w.Exchanged [⟨.connect, .ok k⟩] w') :
    w'.Recounts allowed n past scopes (k :: alone) := by
  refine h.exchanged hmade (h.orderly.exchanged hmade (.opened _ k)) fun before htold => ?_
  have hconcerned : ∀ x ∈ [(⟨.connect, .ok k⟩ : Exchange)], x.concerns k := by
    simp [concerns, opened?]
  by_cases hsame : k = n
  · subst hsame
    refine htold.opening hconcerned (.alone (List.forall_mem_nil _)) (by simp) fun hfits => ?_
    exact .unheld rfl (by rw [List.count_cons_self, hfits.alone]; rfl) (hfits.exchanged hmade).lent
  · refine htold.apart (not_concerns hconcerned hsame) fun _ hfits => ?_
    exact (hfits.exchanged hmade).congr (List.count_cons_of_ne hsame) rfl fun _ ht _ hopened _ =>
      ⟨ht, hopened⟩

theorem closed (h : w.Recounts allowed n past scopes (k :: alone)) {x : Exchange}
    (hx : x.call = .close k) (hmade : w.Exchanged [x] w') :
    w'.Recounts allowed n past scopes alone := by
  refine h.exchanged hmade (h.orderly.exchanged hmade (.closed _ hx)) fun before htold => ?_
  have hconcerned : ∀ y ∈ [x], y.concerns k := by
    simp [concerns, hx, Call.connection?]
  by_cases hsame : k = n
  · subst hsame
    refine htold.next fun s hfits hstory => ?_
    have hcounted := hfits.alone
    rw [List.count_cons_self] at hcounted
    generalize hbefore : about k before = told at hstory
    cases hstory with
    | unopened | lent _ _ | closed _ _ => simp [Standing.countAlone] at hcounted
    | alone hused =>
        refine .inr ⟨.closed, .unheld rfl ?_ (hfits.exchanged hmade).lent, ?_⟩
        · simpa [Standing.countAlone] using hcounted
        · rw [about_append, hbefore, about_of_concerns hconcerned]
          exact .closed (.alone hused) hx
  · refine htold.apart (not_concerns hconcerned hsame) fun _ hfits => ?_
    exact (hfits.exchanged hmade).congr (List.count_cons_of_ne hsame).symm rfl
      fun _ ht _ hopened _ =>
      ⟨ht, hopened⟩

theorem broken (h : w.Recounts allowed n past scopes alone) (hes : t.BrokenOpening es)
    (hmade : w.Exchanged es w') : w'.Recounts allowed n past scopes alone := by
  obtain ⟨e, rfl⟩ | ⟨k, setup, closing, rfl, hsetup, hclosing⟩ := hes
  · exact h.refused hmade
  · refine h.exchanged hmade (h.orderly.exchanged hmade
      (.failedOpening _ (.inr ⟨k, setup, closing, rfl, hsetup.interrupted, hclosing⟩)))
      fun before htold => ?_
    have hconcerned : ∀ x ∈ (⟨.connect, .ok k⟩ : Exchange) :: (setup ++ [closing]),
        x.concerns k := by
      refine List.forall_mem_cons.mpr ⟨by simp [concerns, opened?],
        List.forall_mem_append.mpr ⟨Transaction.concerns_of_brokenSetup hsetup, ?_⟩⟩
      simp [concerns, hclosing, Call.connection?]
    by_cases hsame : k = n
    · subst hsame
      refine htold.opening hconcerned (.closed (.broken hsetup) hclosing) (by simp) fun hfits => ?_
      exact .unheld rfl hfits.alone (hfits.exchanged hmade).lent
    · exact htold.apart (not_concerns hconcerned hsame) fun _ hfits => hfits.exchanged hmade

theorem entered (h : w.Recounts allowed n past scopes alone) (ht : t ∈ scopes)
    (hstate : w.state t = ⟨none, false⟩) (hmade : w.Exchanged (t.opening o) w') :
    (w'.setState t ⟨some o, true⟩).Recounts allowed n past scopes alone := by
  have hfound : w'.Orderly scopes (o.connection :: alone) past :=
    h.orderly.exchanged hmade (.opening _ t o)
  have hnone : (w'.state t).opened = none := by rw [hmade.state, hstate]
  have hinRange := hfound.inRange t ht
  have hentering := count_setState hinRange ⟨some o, true⟩ n
  rw [hnone] at hentering
  simp only [Option.map_none, Option.toList_none, List.count_nil, Nat.add_zero, Option.map_some,
    Option.toList_some] at hentering
  refine ⟨hfound.adopted ht hnone true, h.distinct, h.told_next hmade.trace fun before htold => ?_⟩
  by_cases hsame : o.connection = n
  · rw [hsame, List.count_singleton_self] at hentering
    have hstory : Story allowed n (.lent t o) (t.opening o ++ []) :=
      .lent hsame (List.forall_mem_nil _)
    rw [List.append_nil] at hstory
    refine htold.opening ?_ hstory (by simp) fun hfits => ?_
    · rw [← hsame]
      exact Transaction.concerns_of_opening
    · refine ⟨hfits.alone, ?_, fun t' o' hs => ?_⟩
      · rw [hentering, (hfits.exchanged hmade).lent]
        rfl
      · cases hs
        exact ⟨ht, by rw [state_setState hinRange], hsame⟩
  · refine htold.apart (not_concerns Transaction.concerns_of_opening hsame) fun s hfits => ?_
    refine (hfits.exchanged hmade).congr rfl ?_ fun t' ht' o' hopened _ => ⟨ht', ?_⟩
    · rw [hentering, List.count_singleton, beq_eq_false_iff_ne.mpr hsame]
      rfl
    · rw [state_setState_of_ne, hopened]
      intro hid
      rw [← state_of_id_eq hid, hnone] at hopened
      cases hopened

theorem same (h : w.Recounts allowed n past scopes alone) (ht : t ∈ scopes) {s : TransactionState}
    (hs : s.opened = (w.state t).opened) :
    (w.setState t s).Recounts allowed n past scopes alone := by
  have hinRange := h.orderly.inRange t ht
  refine ⟨h.orderly.same ht hs, h.distinct, h.still rfl fun standing hfits => ?_⟩
  refine hfits.congr rfl ?_ fun t' ht' o' hopened _ => ⟨ht', ?_⟩
  · have hcounted := count_setState hinRange s n
    rw [hs] at hcounted
    omega
  · by_cases hid : t.id = t'.id
    · rw [← state_of_id_eq hid, state_setState hinRange, hs, state_of_id_eq hid, hopened]
    · rw [state_setState_of_ne hid, hopened]

/-- The connection of a transaction ends its course when the transaction gives it back. -/
theorem returned (h : w.Recounts allowed n past scopes alone) {ended release : List Exchange}
    (ht : t ∈ scopes) (hopened : (w.state t).opened = some o)
    (hended : ∀ x ∈ ended, x.call.isBorrowed o.connection ∧ allowed x.call)
    (hrelease : release.map Exchange.call = t.releaseCalls o)
    (hmade : (w.setState t {}).Exchanged (ended ++ release) w') :
    w'.Recounts allowed n past scopes alone := by
  have hinRange := h.orderly.inRange t ht
  have horphaned := (h.orderly.orphaned ht hopened).exchanged hmade
    (.trans (.allBorrowed List.mem_cons_self fun x hx => (hended x hx).1) (.release _ hrelease))
  have hleaving := count_setState hinRange {} n
  rw [hopened] at hleaving
  simp only [Option.map_some, Option.toList_some, Option.map_none, Option.toList_none,
    List.count_nil, Nat.add_zero] at hleaving
  have hconcerned : ∀ x ∈ ended ++ release, x.concerns o.connection :=
    List.forall_mem_append.mpr ⟨fun x hx => concerns_of_isBorrowed (hended x hx).1,
      Transaction.concerns_of_release hrelease⟩
  refine ⟨horphaned, h.distinct, h.told_next hmade.trace fun before htold => ?_⟩
  by_cases hsame : o.connection = n
  · refine htold.next fun s hfits hstory => ?_
    have hholder := h.holder_eq hfits ht hopened hsame
    subst hholder
    rw [hsame, List.count_singleton_self, hfits.lent] at hleaving
    refine .inr ⟨.closed, .unheld rfl hfits.alone ?_, ?_⟩
    · rw [connections_congr hmade.transactions]
      exact Nat.succ.inj hleaving
    · obtain ⟨restoring, closing, rfl, hrestored, hclosing⟩ :=
        Transaction.restored_of_release hrelease
      rw [hsame] at hended hconcerned hclosing
      rw [about_append, about_of_concerns hconcerned]
      generalize about n before = told at hstory
      cases hstory with
      | lent _ hused =>
          have hcourse : Course allowed n (t.settings o ++ ((_ ++ ended) ++ restoring)) :=
            .served hsame (List.forall_mem_append.mpr ⟨hused, hended⟩) hrestored
          have hclosed := Story.closed hcourse hclosing
          rw [Transaction.opening, hsame]
          simpa only [List.cons_append, List.append_assoc] using hclosed
  · refine htold.apart (not_concerns hconcerned hsame) fun s hfits => ?_
    refine hfits.congr rfl ?_ fun t' ht' o' hopened' hsame' => ⟨ht', ?_⟩
    · rw [connections_congr hmade.transactions, ← hleaving, List.count_singleton,
        beq_eq_false_iff_ne.mpr hsame]
      rfl
    · rw [hmade.state, state_setState_of_ne, hopened']
      intro hid
      rw [← state_of_id_eq hid, hopened] at hopened'
      exact hsame (by rw [Option.some.inj hopened', hsame'])

theorem unbind (h : w.Recounts allowed n past scopes alone) (t : Transaction) :
    (w.unbind t).Recounts allowed n past scopes alone := by
  refine ⟨h.orderly.unbind t, h.distinct, h.still (trace_unbind w t) fun s hfits => ?_⟩
  exact hfits.congr rfl (by rw [connections_congr (transactions_unbind t)])
    fun t' ht' o' hopened _ => ⟨ht', by rw [state_unbind, hopened]⟩

theorem begun (h : w.Recounts allowed n past scopes alone) (hid : t.id = w.transactions.length) :
    (w.begun t).Recounts allowed n past (t :: scopes) alone := by
  refine ⟨h.orderly.begun hid, ?_, h.still rfl fun s hfits => ?_⟩
  · refine List.nodup_cons.mpr ⟨fun hmem => ?_, h.distinct⟩
    obtain ⟨t', ht', hsame⟩ := List.mem_map.mp hmem
    have hinRange := h.orderly.inRange t' ht'
    omega
  · exact hfits.congr rfl (by rw [connections_begun]) fun t' ht' o' hopened _ =>
      ⟨List.mem_cons_of_mem t ht', by rw [state_begun_eq, hopened]⟩

theorem leave (h : w.Recounts allowed n past (t :: scopes) alone) (hstate : w.state t = {}) :
    (w.unbind t).Recounts allowed n past scopes alone := by
  refine ⟨h.orderly.leave hstate, (List.nodup_cons.mp h.distinct).2,
    h.still (trace_unbind w t) fun s hfits => ?_⟩
  refine hfits.congr rfl (by rw [connections_congr (transactions_unbind t)])
    fun t' ht' o' hopened _ => ⟨(List.mem_cons.mp ht').resolve_left fun hsame => ?_,
      by rw [state_unbind, hopened]⟩
  rw [hsame, hstate] at hopened
  cases hopened

end World.Recounts

theorem World.recounts_invariant {allowed : Call → Prop}
    (hmetadata : ∀ connection, allowed (.metadata connection))
    (hending : ∀ rolledBack connection, allowed (.ending rolledBack connection)) (n : Nat)
    (past : List Exchange) :
    Invariant allowed fun scopes alone (w : World (σ × List Exchange)) =>
      w.Recounts allowed n past scopes alone where
  metadata := hmetadata
  ending := hending
  inRange h := h.orderly.inRange
  bound h hcurrent := (h.orderly.bound _ _ hcurrent).1
  silent h := h.silent
  used h := h.used
  refused h := h.refused
  opened h := h.opened
  closed h := h.closed
  broken h _ := h.broken
  entered h := h.entered
  same h ht := h.same ht
  returned h := h.returned
  unbind h := h.unbind
  begun h := h.begun
  leave h := h.leave

theorem World.AtRest.recounts {w : World (σ × List Exchange)} (h : w.AtRest)
    (allowed : Call → Prop) (n : Nat) : w.Recounts allowed n w.trace [] [] where
  orderly := h.orderly
  distinct := List.nodup_nil
  told := by
    have hnowhere : w.connections.count n = 0 := by rw [h.connections, List.count_nil]
    exact ⟨[], (List.append_nil _).symm, .inr ⟨.unopened, .unheld rfl rfl hnowhere, .unopened⟩⟩

/-- Whatever a program does and whatever fails, a connection whose number is given once has a course
that ends with its close. -/
theorem Program.course {allowed : Call → Prop} {d : Driver σ} {x : Session (σ × List Exchange) α}
    (h : Program allowed d.traced [] [] x)
    (hmetadata : ∀ connection, allowed (.metadata connection))
    (hending : ∀ rolledBack connection, allowed (.ending rolledBack connection))
    {w : World (σ × List Exchange)} (hatRest : w.AtRest) {before after : List Exchange} {n : Nat}
    (htrace : (x w).2.trace = w.trace ++ (before ++ ⟨.connect, .ok n⟩ :: after))
    (honce : ∀ y ∈ before ++ after, y.opened? ≠ some n) :
    ∃ between closing rest, after = between ++ closing :: rest ∧ closing.call = .close n ∧
      Course allowed n (about n between) := by
  have hkept := h.preserves (recounts_invariant hmetadata hending n w.trace) (List.Subset.refl [])
    (hatRest.recounts allowed n) fun _ hmem => absurd hmem List.not_mem_nil
  obtain ⟨es, htrace', htold⟩ := hkept.holds.told
  obtain rfl := List.append_cancel_left (htrace'.symm.trans htrace)
  have hconcerned : concerns n ⟨.connect, .ok n⟩ := by simp [concerns, opened?]
  obtain hagain | ⟨s, hfits, hstory⟩ := htold
  · have hunopened {l : List Exchange} (hl : ∀ y ∈ l, y.opened? ≠ some n) :
        l.countP (fun y => y.opened? = some n) = 0 :=
      List.countP_eq_zero.mpr fun y hy => by simpa using hl y hy
    obtain ⟨hbefore, hafter⟩ := List.forall_mem_append.mp honce
    rw [List.countP_append, List.countP_cons, hunopened hbefore, hunopened hafter] at hagain
    simp [opened?] at hagain
  · rw [about_append, about, about, List.filter_cons_of_pos hconcerned] at hstory
    generalize htold : before.filter (concerns n) ++ ⟨.connect, .ok n⟩ :: after.filter (concerns n)
      = told at hstory
    cases hstory with
    | unopened => simp at htold
    | alone _ => cases hfits.alone
    | lent _ _ =>
        obtain ⟨himpossible, -⟩ := hfits.holder _ _ rfl
        cases himpossible
    | closed hcourse hclosing =>
        cases hbefore : before.filter (concerns n) with
        | cons y ys =>
            rw [hbefore, List.cons_append] at htold
            have hmem : y ∈ before := (List.mem_filter.mp (hbefore ▸ List.mem_cons_self)).1
            refine absurd ?_ (honce y (List.mem_append_left _ hmem))
            rw [(List.cons.inj htold).1]
            rfl
        | nil =>
            rw [hbefore, List.nil_append] at htold
            obtain ⟨between, last, rfl, hbetween, hlast⟩ :=
              List.filter_eq_append_iff.mp (List.cons.inj htold).2
            obtain ⟨quiet, rest, rfl, hquiet, -, -⟩ := List.filter_eq_cons_iff.mp hlast
            refine ⟨between ++ quiet, _, rest, by rw [List.append_assoc], hclosing, ?_⟩
            have hnothing : about n quiet = [] := List.filter_eq_nil_iff.mpr hquiet
            rw [about_append, hnothing, List.append_nil, about, hbetween]
            exact hcourse

end TypedSql
