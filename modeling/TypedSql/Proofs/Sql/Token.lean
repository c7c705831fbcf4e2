import Mathlib.Data.List.Basic
import TypedSql.Text.Cut

namespace TypedSql.Sql

/-! Reading the text of a statement as a store does: single quotes, double quotes and backticks
enclose regions, and inside a region its quote is written twice. -/

def isQuote (c : Char) : Bool :=
  c == '\'' || c == '"' || c == '\x60'

/-- A character outside the quoted regions, or a region with what stands for its contents. -/
inductive Token where
  | char (c : Char)
  | region (quote : Char) (body : List Char)
deriving DecidableEq, Repr

/-- Where the reader stands.  Behind a quote that may close a region, the next character tells
whether it does. -/
inductive LexState where
  | outside
  | inside (quote : Char) (body : List Char)
  | closing (quote : Char) (body : List Char)
deriving DecidableEq, Repr

/-- The tokens of a text, none if a region is still open at its end. -/
def lexFrom : LexState → List Char → Option (List Token)
  | .outside, [] => some []
  | .inside _ _, [] => none
  | .closing quote body, [] => some [.region quote body]
  | .outside, c :: cs =>
      if isQuote c then lexFrom (.inside c []) cs else (lexFrom .outside cs).map (.char c :: ·)
  | .inside quote body, c :: cs =>
      if c = quote then lexFrom (.closing quote body) cs
      else lexFrom (.inside quote (body ++ [c])) cs
  | .closing quote body, c :: cs =>
      if c = quote then lexFrom (.inside quote (body ++ [quote])) cs
      else
        (if isQuote c then lexFrom (.inside c []) cs
         else (lexFrom .outside cs).map (.char c :: ·)).map (.region quote body :: ·)

def lex (text : List Char) : Option (List Token) :=
  lexFrom .outside text

def doubled (quote : Char) (text : List Char) : List Char :=
  text.flatMap fun c => if c = quote then [quote, quote] else [c]

def enclosed (quote : Char) (body : List Char) : List Char :=
  quote :: doubled quote body ++ [quote]

namespace Token

def text : Token → List Char
  | char c => [c]
  | region quote body => enclosed quote body

/-- Text of a token, of which nothing is left between single quotes. -/
def emptiedText : Token → List Char
  | region '\'' _ => enclosed '\'' []
  | t => t.text

end Token

theorem replaceChars_single (quote : Char) (text : List Char) :
    Text.replaceChars [quote] [quote, quote] 0 text = doubled quote text := by
  induction text with
  | nil => rfl
  | cons c cs ih =>
      by_cases h : c = quote
      · subst h
        simpa [Text.replaceChars, doubled] using ih
      · have : ¬ quote = c := fun he => h he.symm
        simpa [Text.replaceChars, doubled, h, this] using ih

theorem replace_eq_doubled (quote : Char) (text : List Char) :
    Text.replace text [quote] [quote, quote] = doubled quote text := by
  rw [Text.replace, if_neg (by simp), replaceChars_single]

theorem doubled_of_not_mem {quote : Char} {text : List Char} (hunquoted : quote ∉ text) :
    doubled quote text = text := by
  have hsingle : ∀ c ∈ text, (if c = quote then [quote, quote] else [c]) = [c] :=
    fun c hc => if_neg (List.forall_mem_ne'.mpr hunquoted c hc)
  rw [doubled, List.flatMap_congr hsingle, List.flatMap_singleton' text]

theorem lexFrom_inside_doubled (quote : Char) (body text rest : List Char) :
    lexFrom (.inside quote body) (doubled quote text ++ rest) =
      lexFrom (.inside quote (body ++ text)) rest := by
  induction text generalizing body with
  | nil => simp [doubled]
  | cons c cs ih =>
      have hstep : doubled quote (c :: cs) ++ rest =
          (if c = quote then [quote, quote] else [c]) ++ (doubled quote cs ++ rest) := by
        simp [doubled]
      rw [hstep]
      by_cases h : c = quote
      · subst h
        simp [lexFrom, ih]
      · simp [lexFrom, h, ih]

theorem lexFrom_closing {quote : Char} {rest : List Char} (h : rest.head? ≠ some quote)
    (body : List Char) :
    lexFrom (.closing quote body) rest = (lex rest).map (.region quote body :: ·) := by
  cases rest with
  | nil => rfl
  | cons c cs =>
      have : c ≠ quote := by simpa using h
      simp [lex, lexFrom, this]

def ReadsAs (text : List Char) (ts : List Token) (rest : List Char) : Prop :=
  lex (text ++ rest) = (lex rest).map (ts ++ ·)

theorem ReadsAs.append {a b rest : List Char} {ta tb : List Token} (ha : ReadsAs a ta (b ++ rest))
    (hb : ReadsAs b tb rest) : ReadsAs (a ++ b) (ta ++ tb) rest := by
  rw [ReadsAs, List.append_assoc, ha, hb, Option.map_map]
  simp [Function.comp_def]

theorem readsAs_nil (rest : List Char) : ReadsAs [] [] rest := by
  simp [ReadsAs]

theorem readsAs_enclosed {quote : Char} (hquote : isQuote quote) (body : List Char)
    {rest : List Char} (h : rest.head? ≠ some quote) :
    ReadsAs (enclosed quote body) [.region quote body] rest := by
  have hopening : lex (enclosed quote body ++ rest) =
      lexFrom (.inside quote []) (doubled quote body ++ quote :: rest) := by
    simp [lex, enclosed, lexFrom, hquote]
  rw [ReadsAs, hopening, lexFrom_inside_doubled]
  simp [lexFrom, lexFrom_closing h]

theorem readsAs_chars {text : List Char} (h : text.all fun c => !isQuote c) (rest : List Char) :
    ReadsAs text (text.map .char) rest := by
  induction text with
  | nil => exact readsAs_nil rest
  | cons c cs ih =>
      simp only [List.all_cons, Bool.and_eq_true, Bool.not_eq_true'] at h
      have hthere := ih (by simpa using h.2)
      rw [ReadsAs, lex] at hthere
      simp [ReadsAs, lex, lexFrom, h.1, hthere, Function.comp_def]

namespace Token

/-- Number of open parentheses behind a token, none if it closes one that is not open. -/
def depth? (depth : Nat) : Token → Option Nat
  | char c =>
      if c = '(' then some (depth + 1)
      else if c = ')' then (if depth = 0 then none else some (depth - 1))
      else some depth
  | region _ _ => some depth

end Token

def depthAfter? (depth : Nat) (ts : List Token) : Option Nat :=
  ts.foldlM Token.depth? depth

/-- Every parenthesis is closed behind where it is opened, and none is closed besides. -/
def Balanced (ts : List Token) : Prop :=
  depthAfter? 0 ts = some 0

theorem depthAfter?_append (depth : Nat) (ts us : List Token) :
    depthAfter? depth (ts ++ us) = (depthAfter? depth ts).bind (depthAfter? · us) := by
  simp [depthAfter?, List.foldlM_append]

theorem depthAfter?_chars {text : List Char} (h : ∀ c ∈ text, c ≠ '(' ∧ c ≠ ')') (depth : Nat) :
    depthAfter? depth (text.map .char) = some depth := by
  induction text with
  | nil => rfl
  | cons c cs ih =>
      obtain ⟨hopen, hclose⟩ := h c (by simp)
      have hrest := ih fun d hd => h d (by simp [hd])
      simpa [depthAfter?, Token.depth?, hopen, hclose] using hrest

def leadingDigits : List Token → List Char
  | .char c :: ts => if c.isDigit then c :: leadingDigits ts else []
  | _ => []

/-- The placeholders from left to right: question marks, and dollar signs with the number behind
them. -/
def placeholders : List Token → List (List Char)
  | [] => []
  | .region _ _ :: ts => placeholders ts
  | .char c :: ts =>
      if c = '?' then ['?'] :: placeholders ts
      else if c = '$' then ('$' :: leadingDigits ts) :: placeholders ts
      else placeholders ts

theorem placeholders_chars {text : List Char} (h : ∀ c ∈ text, c ≠ '?' ∧ c ≠ '$')
    (ts : List Token) : placeholders (text.map .char ++ ts) = placeholders ts := by
  induction text with
  | nil => rfl
  | cons c cs ih =>
      obtain ⟨hmark, hdollar⟩ := h c (by simp)
      have hrest := ih fun d hd => h d (by simp [hd])
      simpa [placeholders, hmark, hdollar] using hrest

theorem leadingDigits_chars {digits : List Char} (h : ∀ c ∈ digits, c.isDigit) {ts : List Token}
    (hend : leadingDigits ts = []) : leadingDigits (digits.map .char ++ ts) = digits := by
  induction digits with
  | nil => simpa using hend
  | cons c cs ih =>
      have hhere : c.isDigit := h c (by simp)
      have hrest := ih fun d hd => h d (by simp [hd])
      simp [leadingDigits, hhere, hrest]

theorem placeholders_numbered {digits : List Char} (h : ∀ c ∈ digits, c.isDigit)
    {ts : List Token} (hend : leadingDigits ts = []) :
    placeholders (('$' :: digits).map .char ++ ts) = ('$' :: digits) :: placeholders ts := by
  have hdigitsOnly : ∀ c ∈ digits, c ≠ '?' ∧ c ≠ '$' := by
    intro c hc
    have := h c hc
    constructor <;> rintro rfl <;> simp at this
  simp [placeholders, leadingDigits_chars h hend, placeholders_chars hdigitsOnly]

end TypedSql.Sql
