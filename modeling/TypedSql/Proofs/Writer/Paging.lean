import TypedSql.Proofs.Query.Meaning
import TypedSql.Proofs.Text.Digits
import TypedSql.Proofs.Writer.Tokens
import TypedSql.Writer.Render

namespace TypedSql

/-! The clauses that cut the rows of a query, read back as the stores read them: each dialect has
its own order of the two counts and its own way to leave one out, and all of them cut the same. -/

namespace Sql

/-- Words of a text between blanks, a comma being a word of its own.  `word` is the one that is
being read. -/
def wordsFrom : List Char → List Char → List (List Char)
  | [], [] => []
  | word, [] => [word]
  | word, c :: cs =>
      if c = ' ' ∨ c = ',' then
        (if word = [] then [] else [word]) ++ (if c = ',' then [[',']] else []) ++ wordsFrom [] cs
      else wordsFrom (word ++ [c]) cs

def words (text : List Char) : List (List Char) :=
  wordsFrom [] text

def IsWord (word : List Char) : Prop :=
  word ≠ [] ∧ ∀ c ∈ word, c ≠ ' ' ∧ c ≠ ','

def EndsWord (rest : List Char) : Prop :=
  ∀ c ∈ rest.head?, c = ' ' ∨ c = ','

theorem wordsFrom_append {word : List Char} (h : ∀ c ∈ word, c ≠ ' ' ∧ c ≠ ',')
    (before rest : List Char) :
    wordsFrom before (word ++ rest) = wordsFrom (before ++ word) rest := by
  induction word generalizing before with
  | nil => rw [List.append_nil, List.nil_append]
  | cons c cs ih =>
      obtain ⟨⟨hnoBlank, hnoComma⟩, hlater⟩ := List.forall_mem_cons.mp h
      have hinWord : ¬(c = ' ' ∨ c = ',') := by simp [hnoBlank, hnoComma]
      rw [List.cons_append, wordsFrom, if_neg hinWord, ih hlater, List.append_assoc]
      rfl

theorem words_word {word rest : List Char} (h : IsWord word) (hends : EndsWord rest) :
    words (word ++ rest) = word :: words rest := by
  rw [words, wordsFrom_append h.2, List.nil_append]
  cases rest with
  | nil =>
      obtain ⟨c, cs, rfl⟩ := List.exists_cons_of_ne_nil h.1
      rfl
  | cons c cs =>
      have hapart : c = ' ' ∨ c = ',' := hends c rfl
      simp [words, wordsFrom, hapart, h.1]

/-- What a word of the clauses stands for. -/
inductive PageToken where
  | limit
  | offset
  | comma
  | count (n : Int)
deriving DecidableEq, Repr

/-- The place among the parameters that a word stands for, if it is a placeholder of the dialect.
`count` placeholders stand before it. -/
def place? (d : Dialect) (count : Nat) (word : List Char) : Option Nat :=
  match d, word with
  | .postgres, '$' :: digits =>
      if digits.all Char.isDigit ∧ 0 < Nat.ofDigitChars 10 digits 0 then
        some (Nat.ofDigitChars 10 digits 0 - 1)
      else none
  | .mysql, ['?'] | .sqlite, ['?'] => some count
  | _, _ => none

/-- What a word that is no placeholder stands for.  Case makes no difference to keywords. -/
def fixed? (word : List Char) : Option PageToken :=
  if word = [','] then some .comma
  else if word.map Char.toLower = "limit".toList then some .limit
  else if word.map Char.toLower = "offset".toList then some .offset
  else (Integer.read .int64 word).toOption.map .count

end Sql

def Parameter.rowCount? (p : Parameter) : Option Int :=
  match p.value with
  | .some (.integer .int64 i) => some i.val
  | _ => none

namespace Sql

def pageTokens? (d : Dialect) (parameters : List Parameter) :
    Nat → List (List Char) → Option (List PageToken)
  | _, [] => some []
  | count, word :: words =>
      match place? d count word with
      | some place => do
          let n ← (parameters[place]?).bind Parameter.rowCount?
          (pageTokens? d parameters (count + 1) words).map (.count n :: ·)
      | none => do
          let token ← fixed? word
          (pageTokens? d parameters count words).map (token :: ·)

/-- How many rows are passed over and how many are kept. -/
structure Window where
  limit : Option Nat
  offset : Option Nat
deriving DecidableEq, Repr

def rowCount? (n : Int) : Option Nat :=
  if 0 ≤ n then some n.toNat else none

/-- What the clauses mean in each dialect.  PostgreSQL has LIMIT and OFFSET as clauses of their own,
MySQL has the rows passed over in front of LIMIT's count, and SQLite has OFFSET behind LIMIT only,
whose count is no limit if it is negative. -/
def window? (d : Dialect) (tokens : List PageToken) : Option Window :=
  match d, tokens with
  | .postgres, [] => some ⟨none, none⟩
  | .postgres, [.limit, .count n] => do return ⟨← rowCount? n, none⟩
  | .postgres, [.offset, .count m] => do return ⟨none, ← rowCount? m⟩
  | .postgres, [.limit, .count n, .offset, .count m] => do
      return ⟨← rowCount? n, ← rowCount? m⟩
  | .mysql, [.limit, .count n] => do return ⟨← rowCount? n, none⟩
  | .mysql, [.limit, .count m, .comma, .count n] => do return ⟨← rowCount? n, ← rowCount? m⟩
  | .sqlite, [.limit, .count n] => some ⟨rowCount? n, none⟩
  | .sqlite, [.limit, .count n, .offset, .count m] => some ⟨rowCount? n, some m.toNat⟩
  | _, _ => none

/-- The window that clauses open, written behind `count` placeholders of a statement that has these
parameters. -/
def readWindow? (d : Dialect) (parameters : List Parameter) (count : Nat) (text : List Char) :
    Option Window :=
  (pageTokens? d parameters count (words text)).bind (window? d)

end Sql

/-- The row count that a parameter of 64 bits with a sign carries. -/
def saturated (n : Nat) : Nat :=
  min n (Nat.pow 2 63 - 1)

theorem Parameter.rowCount?_ofRowCount (n : Nat) :
    (ofRowCount n).rowCount? = some (saturated n : Int) := by
  have hmost : IntegerKind.int64.greatest = (Nat.pow 2 63 - 1 : Nat) := by decide
  have hleast : IntegerKind.int64.least ≤ 0 := by decide
  show some ((Integer.ofInt? .int64 n).getD (.top .int64)).val = _
  by_cases hfits : (n : Int) ≤ IntegerKind.int64.greatest
  · have hfound : Integer.ofInt? .int64 n = some ⟨n, by omega, hfits⟩ :=
      Integer.ofInt?_eq_some_iff.mpr rfl
    rw [hfound, Option.getD_some, saturated, Nat.min_eq_left (by omega)]
  · have hmissed : Integer.ofInt? .int64 n = none := dif_neg (by omega)
    rw [hmissed, Option.getD_none, saturated, Nat.min_eq_right (by omega), ← hmost]
    rfl

theorem Sql.rowCount?_natCast (n : Nat) : rowCount? n = some n :=
  if_pos (Int.natCast_nonneg n)

section

variable {α : Type} {rows : List α}

theorem drop_saturated (hshort : rows.length < Nat.pow 2 63) (n : Nat) :
    rows.drop (saturated n) = rows.drop n := by
  by_cases hfits : n ≤ Nat.pow 2 63 - 1
  · rw [saturated, Nat.min_eq_left hfits]
  · rw [saturated, Nat.min_eq_right (by omega), List.drop_eq_nil_of_le (by omega),
      List.drop_eq_nil_of_le (by omega)]

theorem take_saturated (hshort : rows.length < Nat.pow 2 63) (n : Nat) :
    rows.take (saturated n) = rows.take n := by
  by_cases hfits : n ≤ Nat.pow 2 63 - 1
  · rw [saturated, Nat.min_eq_left hfits]
  · rw [saturated, Nat.min_eq_right (by omega), List.take_of_length_le (by omega),
      List.take_of_length_le (by omega)]

/-- No list is so long that counts beyond the range of a parameter would be missed. -/
theorem page_saturated (hshort : rows.length < Nat.pow 2 63) (limit offset : Option Nat) :
    page (limit.map saturated) (offset.map saturated) rows = page limit offset rows := by
  have hskipped : rows.drop ((offset.map saturated).getD 0) = rows.drop (offset.getD 0) := by
    cases offset with
    | none => rfl
    | some n => exact drop_saturated hshort n
  have hleft : (rows.drop (offset.getD 0)).length < Nat.pow 2 63 := by
    rw [List.length_drop]
    omega
  simp only [page, hskipped]
  cases limit with
  | none => rfl
  | some n => exact take_saturated hleft n

theorem page_unlimitedRows (hshort : rows.length < Nat.pow 2 63) (limit offset : Option Nat) :
    page (some (limit.getD unlimitedRows)) offset rows = page limit offset rows := by
  cases limit with
  | some n => rfl
  | none =>
      have hall : rows.length ≤ unlimitedRows := by
        have : Nat.pow 2 63 ≤ unlimitedRows := by decide
        omega
      have hshort : (rows.drop (offset.getD 0)).length ≤ unlimitedRows := by
        rw [List.length_drop]
        omega
      exact List.take_of_length_le hshort

end

theorem Sql.isWord_of_isAlpha {word : List Char} (hpresent : word ≠ [])
    (hletters : ∀ c ∈ word, c.isAlpha) : IsWord word := by
  refine ⟨hpresent, fun c hc => ⟨?_, ?_⟩⟩ <;>
    rintro rfl <;> exact absurd (hletters _ hc) (by decide)

theorem Sql.place?_of_isAlpha {word : List Char} (hletters : ∀ c ∈ word, c.isAlpha) (d : Dialect)
    (count : Nat) : place? d count word = none := by
  unfold place?
  split
  · exact absurd (hletters '$' List.mem_cons_self) (by decide)
  · exact absurd (hletters '?' List.mem_cons_self) (by decide)
  · exact absurd (hletters '?' List.mem_cons_self) (by decide)
  · rfl

theorem Sql.place?_placeholderText {w : Writer} (hdialect : w.dialect ≠ .generic) (count : Nat) :
    place? w.dialect count (w.placeholderText count) = some count := by
  cases h : w.dialect with
  | generic => exact absurd h hdialect
  | postgres =>
      have hdigits : (Nat.toDigits 10 (count + 1)).all Char.isDigit :=
        List.all_eq_true.mpr fun _ => Nat.isDigit_of_mem_toDigits (by decide) (by decide)
      simp [Writer.placeholderText, place?, h, hdigits,
        Nat.ofDigitChars_toDigits (show 1 < 10 by decide) (show 10 ≤ 10 by decide)]
  | mysql => simp [Writer.placeholderText, place?, h]
  | sqlite => simp [Writer.placeholderText, place?, h]

namespace Writer

variable {w : Writer}

theorem isWord_placeholderText (count : Nat) : Sql.IsWord (w.placeholderText count) := by
  cases h : w.dialect with
  | postgres =>
      rw [placeholderText, h]
      refine ⟨List.cons_ne_nil _ _, List.forall_mem_cons.mpr ⟨by decide, fun c hc => ?_⟩⟩
      have hdigit : c.isDigit := Nat.isDigit_of_mem_toDigits (by decide) (by decide) hc
      exact ⟨ne_of_isDigit hdigit rfl, ne_of_isDigit hdigit rfl⟩
  | _ =>
      have hmark : w.placeholderText count = ['?'] := by rw [placeholderText, h]
      rw [hmark]
      exact ⟨List.cons_ne_nil _ _, List.forall_mem_singleton.mpr (by decide)⟩

end Writer

namespace Sql

variable {d : Dialect} {parameters : List Parameter} {count : Nat}

theorem pageTokens?_fixed {word : List Char} {token : PageToken}
    (hnoPlace : place? d count word = none) (hstands : fixed? word = some token)
    (words : List (List Char)) :
    pageTokens? d parameters count (word :: words) =
      (pageTokens? d parameters count words).map (token :: ·) := by
  simp [pageTokens?, hnoPlace, hstands]

theorem pageTokens?_keyword {keyword : String} {token : PageToken} (hpresent : keyword.toList ≠ [])
    (hletters : keyword.toList.all Char.isAlpha) {casing : KeywordCasing}
    (hstands : fixed? (keyword.toList.map casing.apply) = some token) {rest : List Char}
    (hends : EndsWord rest) :
    pageTokens? d parameters count (words (keyword.toList.map casing.apply ++ rest)) =
      (pageTokens? d parameters count (words rest)).map (token :: ·) := by
  have hwritten : ∀ c ∈ keyword.toList.map casing.apply, c.isAlpha := by
    intro c hc
    obtain ⟨d, hd, rfl⟩ := List.mem_map.mp hc
    exact casing.apply_of_isAlpha (p := Char.isAlpha) (fun _ h => h)
      (List.all_eq_true.mp hletters d hd)
  have hword := isWord_of_isAlpha (by simpa using hpresent) hwritten
  rw [words_word hword hends, pageTokens?_fixed (place?_of_isAlpha hwritten d count) hstands]

theorem pageTokens?_placeholder {w : Writer} (hdialect : w.dialect ≠ .generic) {n : Nat}
    (hfound : parameters[count]? = some (.ofRowCount n)) {rest : List Char}
    (hends : EndsWord rest) :
    pageTokens? w.dialect parameters count (words (w.placeholderText count ++ rest)) =
      (pageTokens? w.dialect parameters (count + 1) (words rest)).map
        (.count (saturated n) :: ·) := by
  simp [words_word (w.isWord_placeholderText count) hends, pageTokens?,
    place?_placeholderText hdialect, hfound, Parameter.rowCount?_ofRowCount]

end Sql

inductive PagePart where
  | limit
  | offset
  | rows (n : Nat)
  /-- A second count behind the first. -/
  | moreRows (n : Nat)
  | unlimited

namespace PagePart

def pieces : PagePart → List Piece
  | limit => [.symbol " ", .word "limit"]
  | offset => [.symbol " ", .word "offset"]
  | rows n => [.symbol " ", .placeholder (.ofRowCount n)]
  | moreRows n => [.symbol ", ", .placeholder (.ofRowCount n)]
  | unlimited => [.symbol " ", .symbol "-1"]

def tokens : PagePart → List Sql.PageToken
  | limit => [.limit]
  | offset => [.offset]
  | rows n => [.count (saturated n)]
  | moreRows n => [.comma, .count (saturated n)]
  | unlimited => [.count (-1)]

variable {w : Writer}

theorem endsWord_print (parts : List PagePart) (count : Nat) :
    Sql.EndsWord (w.print count (parts.flatMap pieces)) := by
  cases parts with
  | nil => simp [Writer.print, Sql.EndsWord]
  | cons part parts =>
      cases part <;> simp [pieces, Writer.print, Writer.pieceText, Sql.EndsWord]

theorem pageTokens?_print (hdialect : w.dialect ≠ .generic) (parts : List PagePart)
    (before later : List Parameter) :
    Sql.pageTokens? w.dialect
        (before ++ (Piece.parameters (parts.flatMap pieces) ++ later)) before.length
        (Sql.words (w.print before.length (parts.flatMap pieces))) =
      some (parts.flatMap tokens) := by
  induction parts generalizing before with
  | nil => rfl
  | cons part parts ih =>
      have hends (count : Nat) := endsWord_print (w := w) parts count
      have hcounted (n : Nat) :
          Sql.pageTokens? w.dialect
              (before ++ (.ofRowCount n :: (Piece.parameters (parts.flatMap pieces) ++ later)))
              before.length
              (Sql.words (w.placeholderText before.length ++
                w.print (before.length + 1) (parts.flatMap pieces))) =
            some (.count (saturated n) :: parts.flatMap tokens) := by
        have hfound (rest : List Parameter) :
            (before ++ (.ofRowCount n :: rest))[before.length]? = some (.ofRowCount n) := by
          simp
        have htail := ih (before ++ [.ofRowCount n])
        rw [List.append_assoc, List.length_append] at htail
        rw [Sql.pageTokens?_placeholder hdialect (hfound _) (hends _)]
        exact congrArg (Option.map _) htail
      cases part with
      | limit =>
          have hstands (casing : KeywordCasing) :
              Sql.fixed? ("limit".toList.map casing.apply) = some .limit := by
            cases casing <;> decide
          exact (Sql.pageTokens?_keyword (by decide) (by decide) (hstands _) (hends _)).trans
            (congrArg (Option.map _) (ih before))
      | offset =>
          have hstands (casing : KeywordCasing) :
              Sql.fixed? ("offset".toList.map casing.apply) = some .offset := by
            cases casing <;> decide
          exact (Sql.pageTokens?_keyword (by decide) (by decide) (hstands _) (hends _)).trans
            (congrArg (Option.map _) (ih before))
      | unlimited =>
          have hcut (rest : List Char) (h : Sql.EndsWord rest) :
              Sql.words (' ' :: '-' :: '1' :: rest) = ['-', '1'] :: Sql.words rest :=
            have hone := List.forall_mem_singleton.mpr (by decide)
            have hminus : Sql.IsWord ['-', '1'] :=
              ⟨List.cons_ne_nil _ _, List.forall_mem_cons.mpr ⟨by decide, hone⟩⟩
            Sql.words_word hminus h
          refine (congrArg _ (hcut _ (hends before.length))).trans ?_
          have hstands : Sql.fixed? ['-', '1'] = some (.count (-1)) := by decide
          rw [Sql.pageTokens?_fixed (by cases w.dialect <;> rfl) hstands]
          exact congrArg (Option.map _) (ih before)
      | rows n => exact hcounted n
      | moreRows n =>
          have hstands : Sql.fixed? [','] = some .comma := by decide
          refine (Sql.pageTokens?_fixed ?_ hstands _).trans (congrArg (Option.map _) (hcounted n))
          cases w.dialect <;> rfl

end PagePart

namespace Dialect

def pageParts (d : Dialect) (limit offset : Option Nat) : List PagePart :=
  match d with
  | .generic => []
  | .postgres =>
      (match limit with
        | some n => [.limit, .rows n]
        | none => []) ++
      (match offset with
        | some m => [.offset, .rows m]
        | none => [])
  | .mysql =>
      match offset with
      | some m => [.limit, .rows m, .moreRows (limit.getD unlimitedRows)]
      | none => [.limit, .rows (limit.getD unlimitedRows)]
  | .sqlite =>
      (match limit with
        | some n => [.limit, .rows n]
        | none => [.limit, .unlimited]) ++
      (match offset with
        | some m => [.offset, .rows m]
        | none => [])

theorem pagination_eq_ofPieces {d : Dialect} (hd : d ≠ .generic) (limit offset : Option Nat) :
    d.pagination limit offset = .ofPieces ((d.pageParts limit offset).flatMap PagePart.pieces) := by
  cases d with
  | generic => exact absurd rfl hd
  | mysql => cases offset <;> rfl
  | _ => cases limit <;> cases offset <;> rfl

/-- The window that the parts of the dialect open. -/
def window (d : Dialect) (limit offset : Option Nat) : Sql.Window :=
  match d with
  | .mysql => ⟨some (saturated (limit.getD unlimitedRows)), offset.map saturated⟩
  | _ => ⟨limit.map saturated, offset.map saturated⟩

theorem window?_pageParts {d : Dialect} (hd : d ≠ .generic) (limit offset : Option Nat) :
    Sql.window? d ((d.pageParts limit offset).flatMap PagePart.tokens) =
      some (d.window limit offset) := by
  have hunlimited : Sql.rowCount? (-1) = none := rfl
  cases d with
  | generic => exact absurd rfl hd
  | _ =>
      cases limit <;> cases offset <;>
        simp [pageParts, window, PagePart.tokens, Sql.window?, Sql.rowCount?_natCast, hunlimited]

theorem page_window (d : Dialect) (limit offset : Option Nat) {α : Type} {rows : List α}
    (hshort : rows.length < Nat.pow 2 63) :
    page (d.window limit offset).limit (d.window limit offset).offset rows =
      page limit offset rows := by
  cases d with
  | mysql =>
      have hcounted := page_saturated hshort (some (limit.getD unlimitedRows)) offset
      exact hcounted.trans (page_unlimitedRows hshort limit offset)
  | _ => exact page_saturated hshort limit offset

end Dialect

/-- The clauses that a dialect writes behind the rest of a statement select the rows that were asked
for, whatever parameters the statement has before and after. -/
theorem Writer.pagination_selects {w : Writer} (hdialect : w.dialect ≠ .generic)
    (limit offset : Option Nat) (c : Context) (out : String) :
    ∃ text pushed window,
      w.write c out (w.dialect.pagination limit offset) =
          ({ c with parameters := c.parameters ++ pushed }, out ++ String.ofList text, none) ∧
        (∀ later, Sql.readWindow? w.dialect (c.parameters ++ pushed ++ later) c.parameters.length
          text = some window) ∧
        ∀ (α : Type) (rows : List α), rows.length < Nat.pow 2 63 →
          page window.limit window.offset rows = page limit offset rows := by
  let parts := w.dialect.pageParts limit offset
  refine ⟨w.print c.count (parts.flatMap PagePart.pieces),
    Piece.parameters (parts.flatMap PagePart.pieces), w.dialect.window limit offset, ?_, ?_, ?_⟩
  · rw [Dialect.pagination_eq_ofPieces hdialect]
    rfl
  · intro later
    rw [Sql.readWindow?, List.append_assoc]
    have hread := PagePart.pageTokens?_print hdialect parts c.parameters later
    exact (congrArg (Option.bind · _) hread).trans (Dialect.window?_pageParts hdialect limit offset)
  · exact fun α rows hshort => w.dialect.page_window limit offset hshort

/-- MySQL writes a limit even if only rows are to be passed over. -/
theorem Writer.pagination_selects_all_but_one :
    ∃ text pushed window,
      (Writer.of .mysql {}).write {} "" (Dialect.pagination .mysql none (some 1)) =
          ({ parameters := pushed }, " LIMIT ?, ?", none) ∧
        String.ofList text = " LIMIT ?, ?" ∧
        Sql.readWindow? .mysql pushed 0 text = some window ∧
        page window.limit window.offset ['a', 'b', 'c'] = ['b', 'c'] := by
  obtain ⟨text, pushed, window, hwritten, hread, hsame⟩ :=
    Writer.pagination_selects (w := Writer.of .mysql {}) (by decide) none (some 1) {} ""
  rw [String.empty_append] at hwritten
  have hshown : " LIMIT ?, ?" = String.ofList text := congrArg (·.2.1) hwritten
  have hfound := hread []
  rw [List.append_nil] at hfound
  exact ⟨text, pushed, window, hshown ▸ hwritten, hshown.symm, hfound,
    hsame Char ['a', 'b', 'c'] (by decide)⟩

end TypedSql
