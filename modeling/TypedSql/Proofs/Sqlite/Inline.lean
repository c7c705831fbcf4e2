import TypedSql.Proofs.Number.Numeral
import TypedSql.Proofs.Number.Written
import TypedSql.Proofs.Sql.Token
import TypedSql.Proofs.Sqlite.RoundTrip
import TypedSql.Writer.Render

namespace TypedSql

open Text

/-! A value inside the text of a statement, as SQLite reads it, beside the same value bound as a
parameter. -/

theorem ZonedTimestamp.mark_mem_writeRfc3339 {t : ZonedTimestamp} {text : List Char}
    (hwritten : t.writeRfc3339 = .ok text) : 'T' ∈ text := by
  rw [writeRfc3339_of_hasRfc3339 (hasRfc3339_of_writeRfc3339 hwritten)] at hwritten
  obtain rfl := Except.ok.inj hwritten
  simp

/-- Dates and timestamps of the last thousand years before year 0. -/
def Content.LosesPlace : Content → Prop
  | date d => d.LosesPlace
  | timestamp t => t.date.LosesPlace
  | _ => False

namespace Sqlite

/-- Numbers as SQLite reads them: digits alone are a whole number if it has room for one; what has
a point, an exponent, or too many digits is a number of floating point. -/
def readNumber? (text : List Char) : Option Storage :=
  match Integer.read .int64 text with
  | .ok n => (Integer.ofInt? .int64 n).map .integer
  | .error _ =>
      match text with
      | '-' :: digits => (Binary.readUnsigned? .double true digits).map .real
      | digits => (Binary.readUnsigned? .double false digits).map .real

def readWord? (text : List Char) : Option Storage :=
  match asciiLowercase (String.ofList text) with
  | "null" => some .null
  | "true" => some (.integer (.ofBool .int64 true))
  | "false" => some (.integer (.ofBool .int64 false))
  | _ => none

def readPlain? (text : List Char) : Option Storage :=
  (readNumber? text).orElse fun _ => readWord? text

/-- A literal as SQLite reads it: text between single quotes, bytes behind an `X`, a word or a
number. -/
def readLiteral? (text : List Char) : Option Storage :=
  match Sql.lex text with
  | some [.region '\'' body] => some (.text (String.ofList body))
  | some [.char 'X', .region '\'' digits] | some [.char 'x', .region '\'' digits] =>
      (bytesOfHex? digits).map .blob
  | some _ => readPlain? text
  | none => none

theorem lex_quotedText (body : String) :
    Sql.lex (Writer.quotedText body) = some [.region '\'' body.toList] := by
  have hends : ([] : List Char).head? ≠ some '\'' := nofun
  have hreads := Sql.readsAs_enclosed (by decide) body.toList hends
  rw [Sql.ReadsAs, List.append_nil] at hreads
  rw [Writer.quotedText, Sql.replace_eq_doubled]
  exact hreads

theorem readLiteral?_quotedText (body : String) :
    readLiteral? (Writer.quotedText body) = some (.text body) := by
  rw [readLiteral?, lex_quotedText]
  simp only [String.ofList_toList]

theorem readLiteral?_blob (bytes : List UInt8) :
    readLiteral? ('X' :: Writer.quotedText (String.ofList (upperHex bytes))) =
      some (.blob bytes) := by
  have hlexed : Sql.lex ('X' :: Writer.quotedText (String.ofList (upperHex bytes))) =
      (Sql.lex (Writer.quotedText (String.ofList (upperHex bytes)))).map (.char 'X' :: ·) := rfl
  rw [readLiteral?, hlexed, lex_quotedText]
  simp [bytesOfHex?_upperHex]

theorem isQuote_of_isNumeral {c : Char} (hnumeral : isNumeral c) : Sql.isQuote c = false := by
  simp only [Sql.isQuote, Bool.or_eq_false_iff, beq_eq_false_iff_ne]
  refine ⟨⟨?_, ?_⟩, ?_⟩ <;>
  · rintro rfl
    exact absurd hnumeral (by decide)

theorem lex_numeric {text : List Char} (hnumeric : IsNumeric text) :
    Sql.lex text = some (text.map .char) := by
  have hunquoted : text.all fun c => !Sql.isQuote c := by
    rw [List.all_eq_true]
    intro c hc
    rw [isQuote_of_isNumeral (hnumeric.isNumeral_of_mem hc)]
    rfl
  have hreads := Sql.readsAs_chars hunquoted []
  rw [Sql.ReadsAs, List.append_nil] at hreads
  simpa [Sql.lex, Sql.lexFrom] using hreads

theorem readLiteral?_numeric {text : List Char} (hnumeric : IsNumeric text) :
    readLiteral? text = readPlain? text := by
  have hlexed := lex_numeric hnumeric
  unfold readLiteral?
  split
  next hregion =>
    rw [hlexed] at hregion
    cases text <;> simp at hregion
  next hregion =>
    rw [hlexed] at hregion
    rcases text with _ | ⟨_, _ | _⟩ <;> simp at hregion
  next hregion =>
    rw [hlexed] at hregion
    rcases text with _ | ⟨_, _ | _⟩ <;> simp at hregion
  next => rfl
  next hfailed =>
    rw [hlexed] at hfailed
    cases hfailed

theorem readNumber?_ne_text (text : List Char) (s : String) :
    readNumber? text ≠ some (.text s) := by
  intro hread
  unfold readNumber? at hread
  split at hread
  · obtain ⟨n, -, hsame⟩ := Option.map_eq_some_iff.mp hread
    cases hsame
  · split at hread
    all_goals
      obtain ⟨x, -, hsame⟩ := Option.map_eq_some_iff.mp hread
      cases hsame

theorem readPlain?_ne_text (text : List Char) (s : String) : readPlain? text ≠ some (.text s) := by
  intro hread
  rw [readPlain?] at hread
  cases hnumber : readNumber? text with
  | some other =>
      rw [hnumber] at hread
      exact readNumber?_ne_text text s (hnumber.trans hread)
  | none =>
      rw [hnumber, Option.orElse_none] at hread
      unfold readWord? at hread
      split at hread <;> cases hread

theorem readLiteral?_word (casing : KeywordCasing) (b : Bool) :
    readLiteral? ((if b then "true" else "false").toList.map casing.apply) =
      some (.integer (.ofBool .int64 b)) := by
  cases casing <;> cases b <;> rfl

theorem readLiteral?_toString (n : Integer .int64) :
    readLiteral? (toString n.val).toList = some (.integer n) := by
  have hfits : Integer.ofInt? .int64 n.val = some n := Integer.ofInt?_eq_some_iff.mpr rfl
  have hnumber : readNumber? (toString n.val).toList = some (.integer n) := by
    simp only [readNumber?, Integer.read_toString, hfits]
    rfl
  rw [readLiteral?_numeric (.toString_int _), readPlain?, hnumber]
  rfl

/-- What SQLite gets for a rendering by itself: what is bound for a placeholder, and else what it
reads from the text. -/
def denoted? (w : Writer) (r : Rendering) : Option Storage :=
  match r.failure, r.pieces with
  | some _, _ => none
  | none, [.placeholder p] => (store p.value).toOption
  | none, pieces => readLiteral? (w.print 0 pieces)

variable {w : Writer} {scope : Scope} {c : Content} {s : Storage}

theorem denoted?_parameter (w : Writer) (scope : Scope) (codec : CodecId)
    (hstored : storeContent c = .ok s) :
    denoted? w ((Expr.parameter ⟨.some c, codec⟩).render w scope) = some s := by
  rw [Expr.render]
  exact congrArg Except.toOption hstored

theorem denoted?_quoted (w : Writer) (body : String) :
    denoted? w (.ofPieces [.quoted body]) = some (.text body) := by
  have hprinted : w.print 0 [.quoted body] = Writer.quotedText body := List.append_nil _
  simp only [denoted?, Rendering.ofPieces, hprinted, readLiteral?_quotedText]

theorem denoted?_symbol (w : Writer) (text : String) :
    denoted? w (.symbol text) = readLiteral? text.toList := by
  have hprinted : w.print 0 [.symbol text] = text.toList := List.append_nil _
  simp only [denoted?, Rendering.symbol, Rendering.ofPieces, hprinted]

theorem denoted?_word (w : Writer) (b : Bool) :
    denoted? w (.word (if b then "true" else "false")) =
      some (.integer (.ofBool .int64 b)) := by
  have hprinted (text : String) : w.print 0 [.word text] = text.toList.map w.config.casing.apply :=
    List.append_nil _
  simp only [denoted?, Rendering.word, Rendering.ofPieces, hprinted, readLiteral?_word]

theorem denoted?_blob (w : Writer) (bytes : List UInt8) :
    denoted? w (.ofPieces [.symbol "X", .quoted (String.ofList (upperHex bytes))]) =
      some (.blob bytes) := by
  have hprinted : w.print 0 [.symbol "X", .quoted (String.ofList (upperHex bytes))] =
      'X' :: Writer.quotedText (String.ofList (upperHex bytes)) :=
    congrArg ('X' :: ·) (List.append_nil _)
  simp only [denoted?, Rendering.ofPieces, hprinted, readLiteral?_blob]

/-- What is neither a decimal nor a zoned timestamp is read as it is bound. -/
theorem denoted?_literal (w : Writer) (hsingle : c.type ≠ .float32) (hdouble : c.type ≠ .float64)
    (hdecimal : c.type ≠ .decimal) (hzoned : c.type ≠ .timestampWithTimezone)
    (hkeeps : ¬c.LosesPlace) (hstored : storeContent c = .ok s) :
    denoted? w (c.literal w.dialect) = some s := by
  cases c with
  | float32 => exact absurd rfl hsingle
  | float64 => exact absurd rfl hdouble
  | decimal => exact absurd rfl hdecimal
  | timestampWithTimezone => exact absurd rfl hzoned
  | boolean b =>
      obtain rfl := Except.ok.inj hstored
      exact denoted?_word w b
  | integer kind n =>
      rw [storeContent] at hstored
      cases hfits : Integer.ofInt? .int64 n.val with
      | none =>
          rw [hfits] at hstored
          cases hstored
      | some m =>
          rw [hfits] at hstored
          obtain rfl := Except.ok.inj hstored
          rw [Content.literal, denoted?_symbol, ← Integer.ofInt?_eq_some_iff.mp hfits,
            readLiteral?_toString]
  | varchar text =>
      obtain rfl := Except.ok.inj hstored
      exact denoted?_quoted w text
  | blob bytes =>
      obtain rfl := Except.ok.inj hstored
      exact denoted?_blob w bytes
  | date d =>
      obtain rfl := Except.ok.inj hstored
      rw [Content.literal, denoted?_quoted, Date.writeLiteral_eq_write hkeeps]
  | time t =>
      obtain rfl := Except.ok.inj hstored
      exact denoted?_quoted w _
  | timestamp t =>
      obtain rfl := Except.ok.inj hstored
      rw [Content.literal, denoted?_quoted, Timestamp.writeLiteral_eq_writeStored hkeeps]
      rfl
  | uuid u =>
      obtain rfl := Except.ok.inj hstored
      exact denoted?_quoted w _

/-- A decimal is bound as text and read as a number. -/
theorem denoted?_decimal (w : Writer) (d : Decimal) (hstored : storeContent (.decimal d) = .ok s) :
    denoted? w ((Content.decimal d).literal w.dialect) ≠ some s := by
  obtain rfl := Except.ok.inj hstored
  rw [Content.literal, denoted?_symbol, String.toList_ofList,
    readLiteral?_numeric d.isNumeric_write]
  exact readPlain?_ne_text _ _

/-- A zoned timestamp is bound in its internet form, and written by its universal time alone. -/
theorem denoted?_zoned (w : Writer) (t : ZonedTimestamp)
    (hstored : storeContent (.timestampWithTimezone t) = .ok s) :
    denoted? w ((Content.timestampWithTimezone t).literal w.dialect) ≠ some s := by
  rw [storeContent] at hstored
  cases hwritten : t.writeRfc3339 with
  | error part =>
      rw [hwritten] at hstored
      cases hstored
  | ok text =>
      rw [hwritten] at hstored
      obtain rfl := Except.ok.inj hstored
      rw [Content.literal]
      cases t.toUtc? with
      | none =>
          intro hsame
          cases hsame
      | some utc =>
          intro hsame
          simp only [denoted?_quoted, Option.some.injEq, Storage.text.injEq] at hsame
          have htexts : utc.writeLiteral = text := String.ofList_injective hsame
          exact utc.unmarked_writeLiteral (htexts ▸ ZonedTimestamp.mark_mem_writeRfc3339 hwritten)

/-- A value that SQLite takes as a parameter is read from the text of a statement as that same
stored value exactly if it is neither a decimal nor a timestamp with a zone. -/
theorem denoted?_literal_iff (w : Writer) (scope : Scope) (codec : CodecId)
    (hsingle : c.type ≠ .float32) (hdouble : c.type ≠ .float64) (hkeeps : ¬c.LosesPlace)
    (hstored : storeContent c = .ok s) :
    denoted? w ((Expr.parameter ⟨.some c, codec⟩).render w scope) = some s ∧
    (denoted? w ((Expr.literal (.some c)).render w scope) = some s ↔
      c.type ≠ .decimal ∧ c.type ≠ .timestampWithTimezone) := by
  refine ⟨denoted?_parameter w scope codec hstored, ?_⟩
  rw [Expr.render, Value.literal]
  constructor
  · intro hsame
    constructor
    · intro htype
      cases c with
      | decimal d => exact denoted?_decimal w d hstored hsame
      | _ => cases htype
    · intro htype
      cases c with
      | timestampWithTimezone t => exact denoted?_zoned w t hstored hsame
      | _ => cases htype
  · rintro ⟨hdecimal, hzoned⟩
    exact denoted?_literal w hsingle hdouble hdecimal hzoned hkeeps hstored

def firstJulianDay : Date := (Date.ofParts? (-4712) 1 1).get rfl

theorem denoted?_firstJulianDay :
    denoted? (.of .sqlite {})
        ((Expr.literal (.some (.date firstJulianDay))).render (.of .sqlite {}) {}) =
      some (.text "-4712-01-01") := by
  have hkeeps : ¬(Content.date firstJulianDay).LosesPlace := by
    rintro ⟨hlate, -⟩
    exact absurd hlate (by decide)
  have hiff :=
    denoted?_literal_iff (.of .sqlite {}) {} (.ofType .date) (by decide) (by decide) hkeeps
    (show storeContent (.date firstJulianDay) = .ok (.text "-4712-01-01") from rfl)
  exact hiff.2.mpr ⟨by decide, by decide⟩

def noonInHelsinki : ZonedTimestamp :=
  let date := (Date.ofParts? 2024 3 15).get rfl
  let time := (TimeOfDay.ofParts? 12 0 0 0).get rfl
  (ZonedTimestamp.ofParts? ⟨date, time⟩ 7200).get rfl

def price : Decimal := ⟨false, 12340, 3, by decide, by decide⟩

/-- The zone of a timestamp is lost in the text of a statement, and so are the places of a
decimal. -/
theorem denoted?_literal_ne_bound :
    (storeContent (.timestampWithTimezone noonInHelsinki) =
        .ok (.text "2024-03-15T12:00:00+02:00") ∧
      denoted? (.of .sqlite {}) ((Expr.literal
          (.some (.timestampWithTimezone noonInHelsinki))).render (.of .sqlite {}) {}) =
        some (.text "2024-03-15 10:00:00.0")) ∧
    storeContent (.decimal price) = .ok (.text "12.340") ∧
      denoted? (.of .sqlite {})
          ((Expr.literal (.some (.decimal price))).render (.of .sqlite {}) {}) =
        some (.real ⟨false, 4623136420479977390⟩) :=
  ⟨⟨rfl, rfl⟩, rfl, rfl⟩

end Sqlite

end TypedSql
