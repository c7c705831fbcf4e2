import TypedSql.Proofs.Sql.Token
import TypedSql.Writer.Render

namespace TypedSql

/-! The grammar of the pieces that statements are rendered into.  Names, literals in quotes and
placeholders stand before a delimiter or at the end, and parentheses come in pairs. -/

def isDelimiter (c : Char) : Bool :=
  c == ' ' || c == ',' || c == ')' || c == '.'

/-- Characters of punctuation and numbers, which a reader of the text passes over. -/
def isInert (c : Char) : Bool :=
  !Sql.isQuote c && c != '?' && c != '$' && c != '(' && c != ')'

theorem isInert_of_isAlphanum {c : Char} (h : c.isAlphanum) : isInert c := by
  simp only [isInert, Sql.isQuote, Bool.and_eq_true, Bool.not_eq_true', Bool.or_eq_false_iff,
    beq_eq_false_iff_ne, bne_iff_ne]
  refine ⟨⟨⟨⟨⟨⟨?_, ?_⟩, ?_⟩, ?_⟩, ?_⟩, ?_⟩, ?_⟩ <;> rintro rfl <;> contradiction

namespace Piece

def isAtom : Piece → Bool
  | name _ | quoted _ | placeholder _ => true
  | _ => false

def isDelimited : Piece → Bool
  | symbol text => text.toList.head?.any isDelimiter
  | _ => false

def AreDelimited (ps : List Piece) : Prop :=
  ∀ p ∈ ps.head?, p.isDelimited

theorem areDelimited_nil : AreDelimited [] := by
  simp [AreDelimited]

theorem areDelimited_cons {p : Piece} (h : p.isDelimited) (ps : List Piece) :
    AreDelimited (p :: ps) := by
  simpa [AreDelimited] using h

/-- Delimited pieces are none at all, or begin with a symbol that begins with a delimiter. -/
theorem AreDelimited.eq_nil_or_symbol {ps : List Piece} (h : AreDelimited ps) :
    ps = [] ∨ ∃ text rest c cs, ps = symbol text :: rest ∧ text.toList = c :: cs ∧
      isDelimiter c := by
  cases ps with
  | nil => exact .inl rfl
  | cons p rest =>
      have hdelimited : p.isDelimited := by simpa [AreDelimited] using h
      cases p with
      | symbol text =>
          cases hchars : text.toList with
          | nil => simp [isDelimited, hchars] at hdelimited
          | cons c cs =>
              exact .inr ⟨text, rest, c, cs, rfl, hchars,
                by simpa [isDelimited, hchars] using hdelimited⟩
      | _ => contradiction

theorem areDelimited_append {a b : List Piece} (ha : AreDelimited a) (hb : AreDelimited b) :
    AreDelimited (a ++ b) := by
  cases a with
  | nil => exact hb
  | cons p ps => simpa [AreDelimited] using ha

end Piece

/-- Pieces of a text whose words consist of characters that pass `ok`. -/
inductive Phrase (ok : Char → Bool) : List Piece → Prop
  | nil : Phrase ok []
  | word {text : String} {ps : List Piece} (hchars : text.toList.all ok) (hrest : Phrase ok ps) :
      Phrase ok (.word text :: ps)
  | symbol {text : String} {ps : List Piece} (hchars : text.toList.all isInert)
      (hrest : Phrase ok ps) : Phrase ok (.symbol text :: ps)
  | atom {p : Piece} {ps : List Piece} (hisAtom : p.isAtom) (hdelimited : Piece.AreDelimited ps)
      (hrest : Phrase ok ps) : Phrase ok (p :: ps)
  | parens {left right : String} {inner ps : List Piece} (hopens : left = "(" ∨ left = " (")
      (hbody : Phrase ok inner) (hcloses : right = ")" ∨ right = ") ") (hrest : Phrase ok ps) :
      Phrase ok (.symbol left :: (inner ++ .symbol right :: ps))

namespace Phrase

variable {ok : Char → Bool}

theorem append {a b : List Piece} (ha : Phrase ok a) (hb : Phrase ok b)
    (hdelimited : Piece.AreDelimited b) : Phrase ok (a ++ b) := by
  induction ha with
  | nil => exact hb
  | word hchars _ ih => exact .word hchars ih
  | symbol hchars _ ih => exact .symbol hchars ih
  | atom hisAtom hbehind _ ih =>
      exact .atom hisAtom (Piece.areDelimited_append hbehind hdelimited) ih
  | parens hopens hbody hcloses _ _ ih => simpa using Phrase.parens hopens hbody hcloses ih

theorem single_atom {p : Piece} (h : p.isAtom) : Phrase ok [p] :=
  .atom h Piece.areDelimited_nil .nil

theorem append_of_not_visible {quote : String} (hquote : quote ≠ "") {a b : List Piece}
    (ha : Phrase ok a) (hvisible : ∀ p ∈ a, p.isVisible quote = false) (hb : Phrase ok b) :
    Phrase ok (a ++ b) := by
  induction ha with
  | nil => exact hb
  | word hchars _ ih => exact .word hchars (ih fun p hp => hvisible p (by simp [hp]))
  | symbol hchars _ ih => exact .symbol hchars (ih fun p hp => hvisible p (by simp [hp]))
  | @atom p _ hisAtom _ _ _ =>
      have hhidden := hvisible p (by simp)
      cases p <;> simp_all [Piece.isAtom, Piece.isVisible]
  | @parens left _ _ _ hopens _ _ _ _ _ =>
      have hhidden := hvisible (.symbol left) (by simp)
      rcases hopens with rfl | rfl <;> simp [Piece.isVisible] at hhidden

end Phrase

namespace Rendering

variable {ok : Char → Bool} {a b r q : Rendering}

@[simp] theorem failure_append_eq_none :
    (a ++ b).failure = none ↔ a.failure = none ∧ b.failure = none := by
  cases h : a.failure with
  | some e => simp [append_of_failure h, h]
  | none => simp [append_of_none h]

theorem pieces_append (h : a.failure = none) : (a ++ b).pieces = a.pieces ++ b.pieces := by
  rw [append_of_none h]

theorem mem_pieces_append {p : Piece} (h : p ∈ (a ++ b).pieces) : p ∈ a.pieces ∨ p ∈ b.pieces := by
  cases hfailure : a.failure with
  | some e =>
      rw [append_of_failure hfailure] at h
      exact .inl h
  | none =>
      rw [append_of_none hfailure] at h
      exact List.mem_append.mp h

def IsPhrase (ok : Char → Bool) (r : Rendering) : Prop :=
  r.failure = none → Phrase ok r.pieces

/-- What is rendered without a failure is a phrase that can stand behind any other. -/
structure IsTail (ok : Char → Bool) (r : Rendering) : Prop where
  isPhrase : r.IsPhrase ok
  delimited : r.failure = none → Piece.AreDelimited r.pieces

theorem isPhrase_fail (e : Error) : (fail e).IsPhrase ok := by
  intro h
  cases h

theorem isTail_fail (e : Error) : (fail e).IsTail ok where
  isPhrase := isPhrase_fail e
  delimited := by
    intro h
    cases h

theorem isPhrase_ofPieces {ps : List Piece} (h : Phrase ok ps) : (ofPieces ps).IsPhrase ok :=
  fun _ => h

theorem isTail_empty : empty.IsTail ok where
  isPhrase _ := .nil
  delimited _ := Piece.areDelimited_nil

theorem IsPhrase.append_tail (ha : a.IsPhrase ok) (hb : b.IsTail ok) : (a ++ b).IsPhrase ok := by
  intro h
  obtain ⟨hanone, hbnone⟩ := failure_append_eq_none.mp h
  rw [pieces_append hanone]
  exact (ha hanone).append (hb.isPhrase hbnone) (hb.delimited hbnone)

theorem IsTail.append (ha : a.IsTail ok) (hb : b.IsTail ok) : (a ++ b).IsTail ok where
  isPhrase := ha.isPhrase.append_tail hb
  delimited := by
    intro h
    obtain ⟨hanone, hbnone⟩ := failure_append_eq_none.mp h
    rw [pieces_append hanone]
    exact Piece.areDelimited_append (ha.delimited hanone) (hb.delimited hbnone)

theorem IsPhrase.word_append {text : String} (htext : text.toList.all ok)
    (hr : r.IsPhrase ok) : (word text ++ r).IsPhrase ok := by
  intro h
  rw [pieces_append rfl]
  exact .word htext (hr (failure_append_eq_none.mp h).2)

theorem IsPhrase.symbol_append {text : String} (htext : text.toList.all isInert)
    (hr : r.IsPhrase ok) : (symbol text ++ r).IsPhrase ok := by
  intro h
  rw [pieces_append rfl]
  exact .symbol htext (hr (failure_append_eq_none.mp h).2)

theorem IsPhrase.parens {left right : String} (hopens : left = "(" ∨ left = " (")
    (hr : r.IsPhrase ok) (hcloses : right = ")" ∨ right = ") ") (hq : q.IsPhrase ok) :
    (symbol left ++ (r ++ (symbol right ++ q))).IsPhrase ok := by
  intro h
  simp only [failure_append_eq_none] at h
  obtain ⟨-, hrnone, -, hqnone⟩ := h
  rw [pieces_append rfl, pieces_append hrnone, pieces_append rfl]
  exact .parens hopens (hr hrnone) hcloses (hq hqnone)

theorem IsPhrase.isTail_symbol_append {text : String}
    (hdelimited : (Piece.symbol text).isDelimited) (h : (symbol text ++ r).IsPhrase ok) :
    (symbol text ++ r).IsTail ok where
  isPhrase := h
  delimited _ := by
    rw [pieces_append rfl]
    simpa [Piece.AreDelimited, symbol, ofPieces] using hdelimited

end Rendering

theorem Operator.mem_pieces {op : Operator} {p : Piece} (h : p ∈ op.pieces) :
    p = .symbol " " ∨ ∃ token ∈ op.tokens, p = .word token := by
  obtain ⟨tokens⟩ := op
  induction tokens with
  | nil => cases h
  | cons token rest ih =>
      cases rest with
      | nil => exact .inr ⟨token, List.mem_cons_self, List.mem_singleton.mp h⟩
      | cons next rest =>
          obtain rfl | h := List.mem_cons.mp h
          · exact .inr ⟨token, List.mem_cons_self, rfl⟩
          · obtain rfl | h := List.mem_cons.mp h
            · exact .inl rfl
            · obtain hblank | ⟨said, hmem, rfl⟩ := ih h
              · exact .inl hblank
              · exact .inr ⟨said, List.mem_cons_of_mem token hmem, rfl⟩

end TypedSql
