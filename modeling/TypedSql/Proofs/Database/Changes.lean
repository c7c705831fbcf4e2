import TypedSql.Proofs.Session.Client
import TypedSql.Store.Scripted

namespace TypedSql

/-! Copies of a database with other settings.  However the copies are made, what they write follows
from the store that the first one was built on, the last dialect, and the last casing. -/

open Session

variable {σ : Type}

namespace CodecRegistry

variable {r r' : CodecRegistry}

/-- The codecs of a registry after it has been told of more: those it had and the new ones, each
listed once. -/
structure Takes (r : CodecRegistry) (ids : List CodecId) (r' : CodecRegistry) : Prop where
  supported : r'.supported = r.supported
  mem_iff : ∀ id, id ∈ r'.registered ↔ id ∈ r.registered ∨ id ∈ ids
  nodup : r.registered.Nodup → r'.registered.Nodup

theorem register_of_supports {id : CodecId} (h : r.supports id.type) :
    ∃ r', r.register id = .ok r' ∧ r.Takes [id] r' := by
  rw [register, if_pos h]
  refine ⟨_, rfl, ?_⟩
  split
  case isTrue hknown =>
    have hmem : id ∈ r.registered := List.contains_iff_mem.mp hknown
    refine ⟨rfl, fun other => ⟨.inl, ?_⟩, fun h => h⟩
    rintro (hbefore | hsame)
    · exact hbefore
    · exact List.mem_singleton.mp hsame ▸ hmem
  case isFalse hunknown =>
    have hnew : id ∉ r.registered := fun hmem => hunknown (List.contains_iff_mem.mpr hmem)
    refine ⟨rfl, fun other => List.mem_append, fun h => ?_⟩
    exact List.nodup_append.mpr ⟨h, List.pairwise_singleton _ id, fun a ha b hb hsame =>
      hnew (List.mem_singleton.mp hb ▸ hsame ▸ ha)⟩

theorem registerAll_spec (r : CodecRegistry) (ids : List CodecId) :
    (∃ r', r.registerAll ids = .ok r' ∧ r.Takes ids r' ∧ ∀ id ∈ ids, r.supports id.type) ∨
    (∃ fault, r.registerAll ids = .error fault ∧ ∃ id ∈ ids, ¬ r.supports id.type) := by
  induction ids generalizing r with
  | nil =>
      refine .inl ⟨r, rfl, ⟨rfl, fun id => ?_, fun h => h⟩, fun _ h => absurd h List.not_mem_nil⟩
      simp only [List.not_mem_nil, or_false]
  | cons id ids ih =>
      by_cases hid : r.supports id.type
      · obtain ⟨r₁, hfirst, htaken⟩ := register_of_supports hid
        have hstep : r.registerAll (id :: ids) = r₁.registerAll ids := by
          rw [registerAll, List.foldlM_cons, hfirst]
          rfl
        have hsame (type : WireType) : r₁.supports type = r.supports type := by
          rw [supports, supports, htaken.supported]
        rw [hstep]
        obtain ⟨r', hrest, hall, hsupported⟩ |
            ⟨fault, hrefused, other, hother, hunsupported⟩ := ih r₁
        · refine .inl ⟨r', hrest, ⟨hall.supported.trans htaken.supported, fun x => ?_,
            hall.nodup ∘ htaken.nodup⟩, fun x hx => ?_⟩
          · rw [hall.mem_iff, htaken.mem_iff, List.mem_singleton, List.mem_cons, or_assoc]
          · obtain rfl | hlater := List.mem_cons.mp hx
            · exact hid
            · exact hsame x.type ▸ hsupported x hlater
        · exact .inr ⟨fault, hrefused, other, .tail id hother, hsame other.type ▸ hunsupported⟩
      · refine .inr ⟨.unhandledType id.native.name id.type, ?_, id, .head ids, hid⟩
        rw [registerAll, List.foldlM_cons, register, if_neg hid]
        rfl

end CodecRegistry

inductive Setting where
  | casing | dialect | failureMap | codecs
deriving DecidableEq

/-- A call that makes a copy of a database. -/
inductive Change : Type 1 where
  | casing (casing : KeywordCasing)
  | dialect (dialect : Dialect)
  | failureMap (map : FailureMap)
  | codec (id : CodecId)
  | table {E : Type} (t : Table E)

namespace Change

def setting : Change → Setting
  | casing _ => .casing
  | dialect _ => .dialect
  | failureMap _ => .failureMap
  | codec _ | table _ => .codecs

def casing? : Change → Option KeywordCasing
  | casing c => some c
  | _ => none

def dialect? : Change → Option Dialect
  | dialect d => some d
  | _ => none

def failureMap? : Change → Option FailureMap
  | failureMap map => some map
  | _ => none

def codecs : Change → List CodecId
  | codec id => [id]
  | table t => t.columns.map ColumnRef.codec
  | _ => []

def lastCasing? (changes : List Change) : Option KeywordCasing :=
  (changes.filterMap casing?).getLast?

def lastDialect? (changes : List Change) : Option Dialect :=
  (changes.filterMap dialect?).getLast?

def lastFailureMap? (changes : List Change) : Option FailureMap :=
  (changes.filterMap failureMap?).getLast?

private theorem filterMap_filter_setting {α : Type} {told : Change → Option α} {k : Setting}
    (h : ∀ c : Change, c.setting ≠ k → told c = none) (changes : List Change) :
    (changes.filter (·.setting = k)).filterMap told = changes.filterMap told := by
  induction changes with
  | nil => rfl
  | cons c changes ih =>
      by_cases hc : c.setting = k
      · rw [List.filter_cons_of_pos (by simpa using hc), List.filterMap_cons, List.filterMap_cons,
          ih]
      · rw [List.filter_cons_of_neg (by simpa using hc), List.filterMap_cons_none (h c hc), ih]

private theorem flatMap_filter_setting (changes : List Change) :
    (changes.filter (·.setting = .codecs)).flatMap codecs = changes.flatMap codecs := by
  induction changes with
  | nil => rfl
  | cons c changes ih =>
      by_cases hc : c.setting = .codecs
      · rw [List.filter_cons_of_pos (by simpa using hc), List.flatMap_cons, List.flatMap_cons, ih]
      · have hnone : c.codecs = [] := by cases c <;> first | rfl | exact absurd rfl hc
        rw [List.filter_cons_of_neg (by simpa using hc), List.flatMap_cons, hnone, ih,
          List.nil_append]

end Change

namespace DatabaseSettings

open Change

variable {s : DatabaseSettings}

/-- The settings that a change leads to. -/
def changed (s : DatabaseSettings) : Change → Except ConfigurationFault DatabaseSettings
  | .casing c => .ok (s.withCasing c)
  | .dialect d => .ok (s.withDialect d)
  | .failureMap map => .ok (s.withFailureMap map)
  | .codec id => s.withCodecs [id]
  | .table t => s.withCodecs (t.columns.map ColumnRef.codec)

def changedAll (s : DatabaseSettings) (changes : List Change) :
    Except ConfigurationFault DatabaseSettings :=
  changes.foldlM changed s

/-- The writer is the one of the dialect for the rules of writing. -/
def IsCoherent (s : DatabaseSettings) : Prop :=
  s.writer = .of s.dialect s.config

/-- The last change of each setting, over settings that are given. -/
def settled (s : DatabaseSettings) (changes : List Change) (codecs : CodecRegistry) :
    DatabaseSettings :=
  let dialect := (lastDialect? changes).getD s.dialect
  let config := { s.config with casing := (lastCasing? changes).getD s.config.casing }
  { s with codecs, dialect, config
           writer := .of dialect config
           failureMap := (lastFailureMap? changes).or s.failureMap }

theorem settled_nil (h : s.IsCoherent) : s.settled [] s.codecs = s := by
  obtain ⟨metadata, codecs, dialect, config, writer, map⟩ := s
  rw [show writer = .of dialect config from h]
  rfl

theorem settled_isCoherent (changes : List Change) (r : CodecRegistry) :
    (s.settled changes r).IsCoherent :=
  rfl

theorem settled_settled (changes later : List Change) (r r' : CodecRegistry) :
    (s.settled changes r).settled later r' = s.settled (changes ++ later) r' := by
  simp only [settled, lastCasing?, lastDialect?, lastFailureMap?, List.filterMap_append,
    List.getLast?_append, Option.getD_or, Option.or_assoc]

theorem changed_eq (h : s.IsCoherent) (c : Change) :
    s.changed c = (s.codecs.registerAll c.codecs).map (s.settled [c]) := by
  have hcoherent : s.writer = .of s.dialect s.config := h
  cases c with
  | casing c => rfl
  | dialect d => rfl
  | failureMap map =>
      change Except.ok (s.withFailureMap map) = Except.ok (s.settled [.failureMap map] s.codecs)
      rw [withFailureMap, hcoherent]
      rfl
  | codec id =>
      rw [changed, withCodecs, hcoherent]
      rfl
  | table t =>
      rw [changed, withCodecs, hcoherent]
      rfl

/-- Any changes, one after the other: their codecs are registered, and for the rest the last change
of each setting counts. -/
theorem changedAll_eq (h : s.IsCoherent) (changes : List Change) :
    s.changedAll changes =
      (s.codecs.registerAll (changes.flatMap Change.codecs)).map (s.settled changes) := by
  induction changes generalizing s with
  | nil => exact congrArg Except.ok (settled_nil h).symm
  | cons c changes ih =>
      have hsplit : s.codecs.registerAll ((c :: changes).flatMap Change.codecs) =
          s.codecs.registerAll c.codecs >>= fun r =>
            r.registerAll (changes.flatMap Change.codecs) := by
        rw [CodecRegistry.registerAll, List.flatMap_cons, List.foldlM_append]
        rfl
      rw [changedAll, List.foldlM_cons, changed_eq h, hsplit]
      cases s.codecs.registerAll c.codecs with
      | error fault => rfl
      | ok r =>
          refine (ih (s.settled_isCoherent [c] r)).trans ?_
          exact congrArg (Except.map · _) (funext fun r' => s.settled_settled [c] changes r r')

/-- The order of changes matters among those of one setting only. -/
theorem changedAll_congr (h : s.IsCoherent) {changes changes' : List Change}
    (hsame : ∀ k : Setting,
      changes.filter (·.setting = k) = changes'.filter (·.setting = k)) :
    s.changedAll changes = s.changedAll changes' := by
  have htold {α : Type} {f : Change → Option α} {k : Setting}
      (hf : ∀ c : Change, c.setting ≠ k → f c = none) :
      changes.filterMap f = changes'.filterMap f := by
    rw [← filterMap_filter_setting hf, hsame, filterMap_filter_setting hf]
  have hcasing : changes.filterMap casing? = changes'.filterMap casing? :=
    htold (k := .casing) fun c hc => by cases c <;> first | rfl | exact absurd rfl hc
  have hdialect : changes.filterMap dialect? = changes'.filterMap dialect? :=
    htold (k := .dialect) fun c hc => by cases c <;> first | rfl | exact absurd rfl hc
  have hmap : changes.filterMap failureMap? = changes'.filterMap failureMap? :=
    htold (k := .failureMap) fun c hc => by cases c <;> first | rfl | exact absurd rfl hc
  have hcodecs : changes.flatMap Change.codecs = changes'.flatMap Change.codecs := by
    rw [← flatMap_filter_setting, hsame, flatMap_filter_setting]
  rw [changedAll_eq h, changedAll_eq h, hcodecs]
  refine congrArg (Except.map · _) (funext fun r => ?_)
  rw [settled, settled, lastCasing?, lastDialect?, lastFailureMap?, hcasing, hdialect, hmap]
  rfl

theorem changedAll_dialects (h : s.IsCoherent) {detour : List Change}
    (hdetour : ∀ c ∈ detour, c.setting = .dialect) :
    s.changedAll (detour ++ [.dialect s.dialect]) = .ok s := by
  have honly (c : Change) (hc : c ∈ detour ++ [Change.dialect s.dialect]) :
      c.setting = .dialect := by
    obtain hbefore | hlast := List.mem_append.mp hc
    · exact hdetour c hbefore
    · rw [List.mem_singleton.mp hlast]
      rfl
  have huntold {α : Type} {f : Change → Option α} (hf : ∀ d, f (.dialect d) = none) :
      (detour ++ [Change.dialect s.dialect]).filterMap f = [] := by
    refine List.filterMap_eq_nil_iff.mpr fun c hc => ?_
    cases c with
    | dialect d => exact hf d
    | casing _ | failureMap _ | codec _ | table _ => cases honly _ hc
  have hcodecs : (detour ++ [Change.dialect s.dialect]).flatMap Change.codecs = [] := by
    refine List.flatMap_eq_nil_iff.mpr fun c hc => ?_
    cases c with
    | dialect d => rfl
    | casing _ | failureMap _ | codec _ | table _ => cases honly _ hc
  have hback : lastDialect? (detour ++ [Change.dialect s.dialect]) = some s.dialect := by
    rw [lastDialect?, List.filterMap_append, List.getLast?_append]
    rfl
  rw [changedAll_eq h, hcodecs]
  refine congrArg Except.ok ?_
  rw [settled, lastCasing?, huntold fun _ => rfl, lastFailureMap?, huntold fun _ => rfl, hback]
  exact settled_nil h

end DatabaseSettings

namespace Writer

theorem quote_of {dialect : Dialect} (h : dialect ≠ .mysql) (config : WriterConfig) :
    (Writer.of dialect config).config.quote = config.quote := by
  rw [of, if_neg fun hmysql => h hmysql.1]

end Writer

namespace Database

open Change

variable {db : Database σ}

def change (db : Database σ) : Change → Session σ (Database σ)
  | .casing c => return db.withSettings (db.settings.withCasing c)
  | .dialect d => return db.withSettings (db.settings.withDialect d)
  | .failureMap map => return db.withSettings (db.settings.withFailureMap map)
  | .codec id => return db.withSettings (← db.withCodecs [id])
  | .table t => return db.withSettings (← db.withTable t)

def changeAll (db : Database σ) (changes : List Change) : Session σ (Database σ) :=
  changes.foldlM change db

/-- Makes copies one after the other, each of one of the databases that there are by then.  A call
that is refused adds none. -/
def makeCopies (family : List (Database σ)) : List (Nat × Change) → Session σ (List (Database σ))
  | [] => return family
  | (i, c) :: calls => do
      match family[i]? with
      | none => makeCopies family calls
      | some db =>
          match ← (db.change c).attempt with
          | .ok copy => makeCopies (family ++ [copy]) calls
          | .error _ => makeCopies family calls

section

variable {family : List (Database σ)} {i : Nat} {c : Change} {w w₁ : World σ}

theorem makeCopies_cons_of_none (h : family[i]? = none) (calls : List (Nat × Change)) :
    makeCopies family ((i, c) :: calls) = makeCopies family calls := by
  rw [makeCopies, h]

theorem makeCopies_cons_of_ok (h : family[i]? = some db) {copy : Database σ}
    (hmade : db.change c w = (.ok copy, w₁)) (calls : List (Nat × Change)) :
    makeCopies family ((i, c) :: calls) w = makeCopies (family ++ [copy]) calls w₁ := by
  rw [makeCopies, h]
  simp only [Run.bind_apply, Run.attempt_apply, hmade]

theorem makeCopies_cons_of_error (h : family[i]? = some db) {e : Error}
    (hrefused : db.change c w = (.error e, w₁)) (calls : List (Nat × Change)) :
    makeCopies family ((i, c) :: calls) w = makeCopies family calls w₁ := by
  rw [makeCopies, h]
  simp only [Run.bind_apply, Run.attempt_apply, hrefused]

end

theorem accept_bind {α β : Type} (x : Except ConfigurationFault α)
    (f : α → Except ConfigurationFault β) :
    (accept (x >>= f) : Session σ β) = accept x >>= fun a => accept (f a) := by
  cases x with
  | ok a => rfl
  | error fault => rfl

theorem change_eq (c : Change) :
    db.change c = accept (db.settings.changed c) >>= fun s => pure (db.withSettings s) := by
  cases c with
  | casing c => rfl
  | dialect d => rfl
  | failureMap map => rfl
  | codec id => rfl
  | table t => rfl

theorem changeAll_eq (changes : List Change) :
    db.changeAll changes =
      accept (db.settings.changedAll changes) >>= fun s => pure (db.withSettings s) := by
  induction changes generalizing db with
  | nil => rfl
  | cons c changes ih =>
      have hsplit : db.settings.changedAll (c :: changes) =
          db.settings.changed c >>= fun s => s.changedAll changes := List.foldlM_cons
      rw [changeAll, List.foldlM_cons, change_eq, hsplit, accept_bind, bind_assoc, bind_assoc]
      refine bind_congr fun s => ?_
      exact @ih (db.withSettings s)

theorem changeAll_of_ok {changes : List Change} {s : DatabaseSettings}
    (h : db.settings.changedAll changes = .ok s) (w : World σ) :
    db.changeAll changes w = (.ok (db.withSettings s), w) := by
  rw [changeAll_eq, h]
  rfl

theorem changeAll_gives {changes : List Change} {copy : Database σ}
    (h : (db.changeAll changes).Gives copy) :
    ∃ s, db.settings.changedAll changes = .ok s ∧ copy = db.withSettings s := by
  rw [changeAll_eq] at h
  obtain ⟨s, hfirst, hrest⟩ := h.of_bind
  cases hs : db.settings.changedAll changes with
  | ok s' =>
      rw [hs] at hfirst
      obtain rfl : s' = s := hfirst.of_pure
      exact ⟨s', rfl, hrest.of_pure.symm⟩
  | error fault =>
      rw [hs] at hfirst
      obtain ⟨w, w', hrefused⟩ := hfirst
      cases hrefused

theorem changeAll_append_gives {changes more : List Change} {copy last : Database σ}
    (hfirst : (db.changeAll changes).Gives copy) (hrest : (copy.changeAll more).Gives last) :
    (db.changeAll (changes ++ more)).Gives last := by
  obtain ⟨s, hs, rfl⟩ := changeAll_gives hfirst
  obtain ⟨s', hs', rfl⟩ := changeAll_gives hrest
  have hboth : db.settings.changedAll (changes ++ more) = .ok s' := by
    rw [DatabaseSettings.changedAll, List.foldlM_append, ← DatabaseSettings.changedAll, hs]
    exact hs'
  obtain ⟨w, -, -⟩ := hfirst
  exact ⟨w, w, changeAll_of_ok hboth w⟩

/-- The databases that copies are made of stay as they are, and each copy is one of theirs. -/
theorem makeCopies_spec (family : List (Database σ)) (calls : List (Nat × Change)) (w : World σ) :
    ∃ copies w', makeCopies family calls w = (.ok (family ++ copies), w') ∧
      ∀ copy ∈ copies, ∃ db ∈ family, ∃ changes, (db.changeAll changes).Gives copy := by
  induction calls generalizing family w with
  | nil => exact ⟨[], w, by rw [List.append_nil]; rfl, fun _ h => absurd h List.not_mem_nil⟩
  | cons call calls ih =>
      obtain ⟨i, c⟩ := call
      cases hi : family[i]? with
      | none =>
          rw [makeCopies_cons_of_none hi]
          exact ih family w
      | some db =>
          have hsource : db ∈ family := List.mem_of_getElem? hi
          cases hc : db.change c w with
          | mk result w₁ =>
              cases result with
              | error e =>
                  rw [makeCopies_cons_of_error hi hc]
                  exact ih family w₁
              | ok copy =>
                  have hmade : (db.changeAll [c]).Gives copy :=
                    ⟨w, w₁, by rw [changeAll, List.foldlM_cons, Run.bind_ok hc]; rfl⟩
                  obtain ⟨copies, w', hrun, hcopies⟩ := ih (family ++ [copy]) w₁
                  refine ⟨copy :: copies, w', ?_, ?_⟩
                  · rw [makeCopies_cons_of_ok hi hc, hrun, List.append_assoc]
                    rfl
                  · intro other hother
                    obtain rfl | hlater := List.mem_cons.mp hother
                    · exact ⟨db, hsource, [c], hmade⟩
                    · obtain ⟨origin, horigin, changes, hchanges⟩ := hcopies other hlater
                      obtain hknown | hnew := List.mem_append.mp horigin
                      · exact ⟨origin, hknown, changes, hchanges⟩
                      · obtain rfl := List.mem_singleton.mp hnew
                        exact ⟨db, hsource, [c] ++ changes, changeAll_append_gives hmade hchanges⟩

theorem compile_congr {other : Database σ} (h : other.settings.writer = db.settings.writer) :
    other.compile = db.compile := by
  funext statement
  rw [compile, compile, DatabaseSettings.compile, DatabaseSettings.compile, h]

theorem compile_fst (statement : Statement) (w w' : World σ) :
    (db.compile statement w').1 = (db.compile statement w).1 := by
  rw [compile, conclude, Run.ofExcept_apply, Run.ofExcept_apply]

section Coherent

variable (hcoherent : db.settings.IsCoherent) {changes : List Change}

include hcoherent

/-- A copy has the settings of its origin, with the codecs of the changes and the last change of
each other setting. -/
theorem settled_of_changeAll {copy : Database σ} (h : (db.changeAll changes).Gives copy) :
    ∃ r, db.settings.codecs.Takes (changes.flatMap Change.codecs) r ∧
      copy = db.withSettings (db.settings.settled changes r) := by
  obtain ⟨s, hs, rfl⟩ := changeAll_gives h
  rw [DatabaseSettings.changedAll_eq hcoherent] at hs
  obtain ⟨r, hr, htaken, -⟩ | ⟨fault, hr, -⟩ :=
    db.settings.codecs.registerAll_spec (changes.flatMap Change.codecs)
  · rw [hr] at hs
    exact ⟨r, htaken, congrArg db.withSettings (Except.ok.inj hs).symm⟩
  · rw [hr] at hs
    cases hs

theorem changeAll_ok_iff (w : World σ) :
    (∃ copy, db.changeAll changes w = (.ok copy, w)) ↔
      ∀ c ∈ changes, ∀ id ∈ c.codecs, db.settings.codecs.supports id.type := by
  rw [← List.forall_mem_flatMap]
  obtain ⟨r, hr, -, hsupported⟩ | ⟨fault, hr, id, hid, hunsupported⟩ :=
    db.settings.codecs.registerAll_spec (changes.flatMap Change.codecs)
  · have hchanged : db.settings.changedAll changes = .ok (db.settings.settled changes r) := by
      rw [DatabaseSettings.changedAll_eq hcoherent, hr]
      rfl
    exact ⟨fun _ => hsupported, fun _ => ⟨_, changeAll_of_ok hchanged w⟩⟩
  · refine ⟨fun ⟨copy, hrun⟩ => ?_, fun hall => absurd (hall id hid) hunsupported⟩
    obtain ⟨s, hs, -⟩ := changeAll_gives ⟨w, w, hrun⟩
    rw [DatabaseSettings.changedAll_eq hcoherent, hr] at hs
    cases hs

theorem isCoherent_of_changeAll {copy : Database σ} (h : (db.changeAll changes).Gives copy) :
    copy.settings.IsCoherent := by
  obtain ⟨r, -, rfl⟩ := settled_of_changeAll hcoherent h
  exact db.settings.settled_isCoherent changes r

/-- Copies of one database write alike when their dialects and casings are the same. -/
theorem writer_of_changeAll {changes' : List Change} {copy other : Database σ}
    (hcopy : (db.changeAll changes).Gives copy) (hother : (db.changeAll changes').Gives other)
    (hdialect : other.settings.dialect = copy.settings.dialect)
    (hcasing : other.settings.config.casing = copy.settings.config.casing) :
    other.settings.writer = copy.settings.writer := by
  have hconfig : other.settings.config = copy.settings.config := by
    obtain ⟨r, -, rfl⟩ := settled_of_changeAll hcoherent hcopy
    obtain ⟨r', -, rfl⟩ := settled_of_changeAll hcoherent hother
    exact congrArg (fun casing => { db.settings.config with casing }) hcasing
  rw [show other.settings.writer = _ from isCoherent_of_changeAll hcoherent hother,
    show copy.settings.writer = _ from isCoherent_of_changeAll hcoherent hcopy, hdialect, hconfig]

theorem changeAll_congr {changes' : List Change}
    (hsame : ∀ k : Setting,
      changes.filter (·.setting = k) = changes'.filter (·.setting = k)) :
    db.changeAll changes = db.changeAll changes' := by
  rw [changeAll_eq, changeAll_eq, DatabaseSettings.changedAll_congr hcoherent hsame]

theorem changeAll_dialects (hdialects : ∀ c ∈ changes, c.setting = .dialect) :
    db.changeAll (changes ++ [.dialect db.settings.dialect]) = pure db := by
  funext w
  exact changeAll_of_ok (DatabaseSettings.changedAll_dialects hcoherent hdialects) w

end Coherent

theorem IsBuilt.takes {o : DatabaseOptions} {d : Driver σ} {provider : Option (Driver σ)}
    (h : db.IsBuilt o d provider) :
    CodecRegistry.Takes ⟨d.wireTypes, []⟩ o.codecs db.settings.codecs := by
  obtain ⟨r, hr, htaken, -⟩ | ⟨fault, hr, -⟩ :=
    CodecRegistry.registerAll_spec ⟨d.wireTypes, []⟩ o.codecs
  · rw [h.codecs] at hr
    exact Except.ok.inj hr ▸ htaken
  · rw [h.codecs] at hr
    cases hr

/-- What a database and its copies write follows from the last dialect and the last casing
alone.  Copies are refused only for codecs that the driver does not carry; changes of different
settings may be made in any order; a way through other dialects, MySQL among them, leads back to
the same database, with the quotes of the store; and no database is touched by copies that are made
of it. -/
theorem copies_follow_their_settings {o : DatabaseOptions} {d : Driver σ}
    {provider : Option (Driver σ)} {built : Database σ}
    (hbuilt : (build o d provider).Gives built) (changes : List Change) :
    (∀ w, (∃ db, built.changeAll changes w = (.ok db, w)) ↔
      ∀ c ∈ changes, ∀ id ∈ c.codecs, d.wireTypes.contains id.type) ∧
    ∀ db, (built.changeAll changes).Gives db →
      db.settings.writer = .of db.settings.dialect db.settings.config ∧
      db.settings.dialect = (lastDialect? changes).getD built.settings.dialect ∧
      (let config := o.config built.settings.metadata
       db.settings.config = { config with
         casing := (lastCasing? changes).getD config.casing }) ∧
      (∀ changes' other, (built.changeAll changes').Gives other →
        other.settings.dialect = db.settings.dialect →
        other.settings.config.casing = db.settings.config.casing → other.compile = db.compile) ∧
      (∀ more more' : List Change,
        (∀ k : Setting, more.filter (·.setting = k) = more'.filter (·.setting = k)) →
        db.changeAll more = db.changeAll more') ∧
      (db.settings.codecs.registered.Nodup ∧
        ∀ id, id ∈ db.settings.codecs.registered ↔
          id ∈ o.codecs ∨ ∃ c ∈ changes, id ∈ c.codecs) ∧
      (db.settings.dialect ≠ .mysql →
        db.settings.writer.config.quote = (o.config built.settings.metadata).quote) ∧
      (∀ detour : List Change, (∀ c ∈ detour, c.setting = .dialect) →
        db.changeAll (detour ++ [.dialect db.settings.dialect]) = pure db) ∧
      ∀ family, db ∈ family → ∀ calls w, ∃ copies w',
        makeCopies family calls w = (.ok (family ++ copies), w') ∧
        (∀ statement, (db.compile statement w').1 = (db.compile statement w).1) ∧
        ∀ copy ∈ copies, ∃ origin ∈ family, ∃ more, (origin.changeAll more).Gives copy := by
  have hisBuilt := isBuilt_of_build hbuilt
  have hcoherent : built.settings.IsCoherent := hisBuilt.writer
  have htold := hisBuilt.takes
  refine ⟨fun w => ?_, fun db hdb => ?_⟩
  · rw [changeAll_ok_iff hcoherent w]
    simp only [CodecRegistry.supports, htold.supported]
  · have hkept := isCoherent_of_changeAll hcoherent hdb
    obtain ⟨r, htaken, hsettings⟩ := settled_of_changeAll hcoherent hdb
    have hconfig : db.settings.config = { o.config built.settings.metadata with
        casing := (lastCasing? changes).getD (o.config built.settings.metadata).casing } := by
      rw [← hisBuilt.config, hsettings]
      rfl
    refine ⟨hkept, ?_, hconfig, ?_, ?_, ?_, ?_, ?_, ?_⟩
    · rw [hsettings]
      rfl
    · intro changes' other hother hdialect hcasing
      exact compile_congr (writer_of_changeAll hcoherent hdb hother hdialect hcasing)
    · intro more more' hsame
      exact changeAll_congr hkept hsame
    · rw [hsettings]
      refine ⟨htaken.nodup (htold.nodup .nil), fun id => ?_⟩
      refine (htaken.mem_iff id).trans (or_congr ?_ List.mem_flatMap)
      exact (htold.mem_iff id).trans (or_iff_right List.not_mem_nil)
    · intro hother
      rw [show db.settings.writer = _ from hkept, Writer.quote_of hother, hconfig]
    · intro detour hdetour
      exact changeAll_dialects hkept hdetour
    · intro family _ calls w
      obtain ⟨copies, w', hrun, hcopies⟩ := makeCopies_spec family calls w
      exact ⟨copies, w', hrun, fun statement => compile_fst statement w w', hcopies⟩

/-- The store is recognized as one that takes backticks. -/
def mariaWorld : World ScriptedStore :=
  { store := { metadata := { product := "MariaDB", version := "11.4" } } }

theorem maria_copy_without_backticks :
    ∃ built copy : Database ScriptedStore,
      (build {} (ScriptedStore.driver [.date]) none).Gives built ∧
      built.settings.writer.config.quote = "`" ∧
      (built.changeAll [.codec (.ofType .date), .dialect .postgres, .casing .upper]).Gives copy ∧
      copy.settings.writer.config.quote = "\"" := by
  obtain ⟨built, hbuilt, hcarried, hbacktick⟩ :
      ∃ built : Database ScriptedStore,
        (build {} (ScriptedStore.driver [.date]) none).Gives built ∧
        built.settings.metadata = { product := "MariaDB", version := "11.4" } ∧
        built.settings.writer.config.quote = "`" :=
    ⟨_, ⟨mariaWorld, _, rfl⟩, rfl, rfl⟩
  obtain ⟨haccepted, hcopies⟩ := copies_follow_their_settings hbuilt
    [.codec (.ofType .date), .dialect .postgres, .casing .upper]
  obtain ⟨copy, hrun⟩ := (haccepted mariaWorld).mpr (by decide)
  obtain ⟨-, hdialect, -, -, -, -, hquote, -, -⟩ := hcopies copy ⟨_, _, hrun⟩
  have hpostgres : copy.settings.dialect = .postgres := hdialect
  refine ⟨built, copy, hbuilt, hbacktick, ⟨_, _, hrun⟩, ?_⟩
  rw [hquote (by rw [hpostgres]; decide), hcarried]
  rfl

end Database

end TypedSql
