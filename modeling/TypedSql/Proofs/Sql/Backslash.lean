import TypedSql.Proofs.Sql.Token
import TypedSql.Writer.Render

namespace TypedSql

/-! Text literals where a backslash is read too, as in MySQL.  Quotes are doubled when a text is
written and backslashes are not, so a backslash can take a quote that was meant for something
else. -/

namespace Sql

/-- What stands behind a literal whose opening quote has been read, none if it is never closed.  A
backslash makes the next character part of the literal, and two quotes stand for one. -/
def behindLiteral? : List Char → Option (List Char)
  | [] => none
  | [c] => if c = '\'' then some [] else none
  | c :: d :: cs =>
      if c = '\\' then behindLiteral? cs
      else if c = '\'' then (if d = '\'' then behindLiteral? cs else some (d :: cs))
      else behindLiteral? (d :: cs)

/-- A text that is a single literal from its first to its last character. -/
def IsLiteral (text : List Char) : Prop :=
  ∃ body, text = '\'' :: body ∧ behindLiteral? body = some []

theorem isLiteral_cons_iff (c : Char) (cs : List Char) :
    IsLiteral (c :: cs) ↔ c = '\'' ∧ behindLiteral? cs = some [] := by
  constructor
  · rintro ⟨body, hsplit, hclosed⟩
    obtain ⟨hquote, rfl⟩ := List.cons.inj hsplit
    exact ⟨hquote, hclosed⟩
  · rintro ⟨rfl, hclosed⟩
    exact ⟨cs, rfl, hclosed⟩

instance : (text : List Char) → Decidable (IsLiteral text)
  | [] => isFalse fun ⟨_, hsplit, _⟩ => nomatch hsplit
  | c :: cs => decidable_of_iff _ (isLiteral_cons_iff c cs).symm

/-- Backslashes in front of a quote or the end come in pairs. -/
def BackslashesPair (text : List Char) : Prop :=
  ∀ before n after, text = before ++ (List.replicate n '\\' ++ after) →
    before.getLast? ≠ some '\\' → (∀ c ∈ after.head?, c = '\'') → n % 2 = 0

theorem behindLiteral?_cons {c : Char} (hbackslash : c ≠ '\\') (hquote : c ≠ '\'')
    (cs : List Char) : behindLiteral? (c :: cs) = behindLiteral? cs := by
  cases cs with
  | nil => simp [behindLiteral?, hquote]
  | cons d cs => simp [behindLiteral?, hbackslash, hquote]

theorem behindLiteral?_escaped (c : Char) (cs : List Char) :
    behindLiteral? ('\\' :: c :: cs) = behindLiteral? cs := by
  simp [behindLiteral?]

theorem behindLiteral?_doubled (cs : List Char) :
    behindLiteral? ('\'' :: '\'' :: cs) = behindLiteral? cs := by
  simp [behindLiteral?]

theorem doubled_cons_quote (quote : Char) (cs : List Char) :
    doubled quote (quote :: cs) = quote :: quote :: doubled quote cs := by
  simp [doubled]

theorem doubled_cons_of_ne {quote c : Char} (h : c ≠ quote) (cs : List Char) :
    doubled quote (c :: cs) = c :: doubled quote cs := by
  simp [doubled, h]

/-- A quote that stands alone closes the literal too early or not at all. -/
theorem behindLiteral?_lone_quote (text : List Char) :
    behindLiteral? ('\'' :: (doubled '\'' text ++ ['\''])) ≠ some [] := by
  induction text with
  | nil => simp [doubled, behindLiteral?]
  | cons c cs ih =>
      by_cases hquote : c = '\''
      · rw [hquote, doubled_cons_quote, List.cons_append, List.cons_append, behindLiteral?_doubled]
        exact ih
      · rw [doubled_cons_of_ne hquote, List.cons_append]
        simp [behindLiteral?, hquote]

namespace BackslashesPair

theorem nil : BackslashesPair [] := by
  intro before n after hsplit _ _
  obtain ⟨-, hsplit⟩ := List.append_eq_nil_iff.mp hsplit.symm
  have hnone : n = 0 := by simpa using (List.append_eq_nil_iff.mp hsplit).1
  rw [hnone]

theorem not_single : ¬BackslashesPair ['\\'] := fun hpair =>
  Nat.one_ne_zero (hpair [] 1 [] rfl (by simp) (by simp))

theorem not_before_quote (cs : List Char) : ¬BackslashesPair ('\\' :: '\'' :: cs) := fun hpair =>
  Nat.one_ne_zero (hpair [] 1 ('\'' :: cs) rfl (by simp) (by simp))

theorem of_append (front : List Char) {cs : List Char} (hpair : BackslashesPair (front ++ cs))
    (hfront : front.getLast? ≠ some '\\') : BackslashesPair cs := by
  intro before n after hsplit hlast hbehind
  refine hpair (front ++ before) n after (by rw [hsplit, List.append_assoc]) ?_ hbehind
  cases before with
  | nil => simpa using hfront
  | cons d before => simpa [List.getLast?_append] using hlast

theorem cons_iff {c : Char} (h : c ≠ '\\') (cs : List Char) :
    BackslashesPair (c :: cs) ↔ BackslashesPair cs := by
  constructor
  · exact fun hpair => of_append [c] hpair (by simpa using h)
  · intro hpair before n after hsplit hlast hbehind
    match before, n with
    | [], 0 => rfl
    | [], n + 1 => exact absurd (List.cons.inj hsplit).1 h
    | d :: before, n =>
        refine hpair before n after (List.cons.inj hsplit).2 ?_ hbehind
        cases before with
        | nil => simp
        | cons e before => simpa using hlast

theorem escaped_iff {c : Char} (h : c ≠ '\'') (cs : List Char) :
    BackslashesPair ('\\' :: c :: cs) ↔ BackslashesPair cs := by
  constructor
  · intro hpair
    by_cases hbackslash : c = '\\'
    · subst hbackslash
      intro before n after hsplit hlast hbehind
      cases before with
      | nil =>
          have hlonger : '\\' :: '\\' :: cs = [] ++ (List.replicate (n + 2) '\\' ++ after) := by
            rw [hsplit]
            rfl
          have heven := hpair [] (n + 2) after hlonger (by simp) hbehind
          omega
      | cons d before =>
          exact hpair ('\\' :: '\\' :: d :: before) n after (by rw [hsplit]; rfl)
            (by simpa using hlast) hbehind
    · exact of_append ['\\', c] hpair (by simpa using hbackslash)
  · intro hpair before n after hsplit hlast hbehind
    match before, n with
    | [], 0 => rfl
    | [], 1 =>
        obtain rfl : after = c :: cs := (List.cons.inj hsplit).2.symm
        exact absurd (hbehind c rfl) h
    | [], n + 2 =>
        have hshorter : cs = [] ++ (List.replicate n '\\' ++ after) :=
          (List.cons.inj (List.cons.inj hsplit).2).2
        have heven := hpair [] n after hshorter (by simp) hbehind
        omega
    | [d], n =>
        obtain rfl := (List.cons.inj hsplit).1
        exact absurd rfl hlast
    | d :: e :: before, n =>
        refine hpair before n after (List.cons.inj (List.cons.inj hsplit).2).2 ?_ hbehind
        cases before with
        | nil => simp
        | cons f before => simpa using hlast

end BackslashesPair

/-- The literal of a text ends where it is meant to just if no backslash has taken one of its quotes
or the one at the end. -/
theorem behindLiteral?_doubled_iff (text : List Char) :
    behindLiteral? (doubled '\'' text ++ ['\'']) = some [] ↔ BackslashesPair text := by
  match text with
  | [] => simp [doubled, behindLiteral?, BackslashesPair.nil]
  | c :: cs =>
      by_cases hbackslash : c = '\\'
      · subst hbackslash
        rw [doubled_cons_of_ne (by decide)]
        match cs with
        | [] => simp [doubled, behindLiteral?, BackslashesPair.not_single]
        | c :: cs =>
            by_cases hquote : c = '\''
            · rw [hquote, doubled_cons_quote, List.cons_append, List.cons_append, List.cons_append,
                behindLiteral?_escaped]
              exact iff_of_false (behindLiteral?_lone_quote cs)
                (BackslashesPair.not_before_quote cs)
            · rw [doubled_cons_of_ne hquote, List.cons_append, List.cons_append,
                behindLiteral?_escaped, BackslashesPair.escaped_iff hquote]
              exact behindLiteral?_doubled_iff cs
      · rw [BackslashesPair.cons_iff hbackslash]
        by_cases hquote : c = '\''
        · rw [hquote, doubled_cons_quote, List.cons_append, List.cons_append,
            behindLiteral?_doubled]
          exact behindLiteral?_doubled_iff cs
        · rw [doubled_cons_of_ne hquote, List.cons_append, behindLiteral?_cons hbackslash hquote]
          exact behindLiteral?_doubled_iff cs

theorem isLiteral_enclosed_iff (text : List Char) :
    IsLiteral (enclosed '\'' text) ↔ BackslashesPair text := by
  rw [← behindLiteral?_doubled_iff]
  exact (isLiteral_cons_iff '\'' _).trans (and_iff_right rfl)

end Sql

/-- What a writer makes of a text literal is read as a single literal, where backslashes are read
too, just if no odd number of backslashes stands in front of a quote or at the end. -/
theorem Writer.isLiteral_text_iff (config : WriterConfig) (scope : Scope) (count : Nat)
    (text : String) :
    let written := (Expr.literal (.some (.varchar text))).render (.of .mysql config) scope
    written.failure = none ∧
      (Sql.IsLiteral ((Writer.of .mysql config).print count written.pieces) ↔
        Sql.BackslashesPair text.toList) := by
  intro written
  have hprinted : (Writer.of .mysql config).print count written.pieces =
      Sql.enclosed '\'' text.toList := by
    show quotedText text ++ [] = _
    rw [List.append_nil, quotedText, Sql.replace_eq_doubled]
    rfl
  refine ⟨rfl, ?_⟩
  rw [hprinted]
  exact Sql.isLiteral_enclosed_iff text.toList

/-- A backslash in front of a quote lets the rest of a text out of its literal. -/
theorem Writer.backslash_frees_text :
    let escaping := "\\' OR 1=1 -- "
    let written := (Expr.literal (.some (.varchar escaping))).render (.of .mysql {}) {}
    (Writer.of .mysql {}).print 0 written.pieces = "'\\'' OR 1=1 -- '".toList ∧
      Sql.behindLiteral? "\\'' OR 1=1 -- '".toList = some " OR 1=1 -- '".toList ∧
      ¬Sql.IsLiteral ((Writer.of .mysql {}).print 0 written.pieces) :=
  ⟨by decide, by decide, by decide⟩

end TypedSql
