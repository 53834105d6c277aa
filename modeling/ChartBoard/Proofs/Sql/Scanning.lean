import ChartBoard.Sql.Scan
import Mathlib.Data.List.Chain

/-!
# Scanning what was written

A statement is written piece by piece and scanned character by character.  Scanning takes it apart
again into its pieces, provided that what stands outside of quotes holds none itself and that no
quotation follows directly on another.

* `Tidy` is that condition on a list of pieces.
* `scan?_render` gives the tokens of a tidy list: those of its pieces, in order.
* `Tidy.relabel` says that the condition does not depend on what stands between the quotes.
-/

namespace ChartBoard.Sql

/-! ## Tokens of pieces -/

/-- True of the pieces that stand between quotes. -/
def Piece.isQuotation : Piece → Bool
  | name _ | text _ => true
  | _ => false

/-- The tokens of a piece: a quotation is one, all else is read character by character. -/
def Piece.tokens : Piece → List Token
  | name s => [.quoted (.name s)]
  | text s => [.quoted (.text s)]
  | p => p.render.toList.map .outside

/-- Characters that are no quotes. -/
def NoQuote (w : List Char) : Prop := ∀ c ∈ w, Quote.ofChar? c = none

/-- A text that is not empty and holds no quote. -/
def IsBare (s : String) : Prop := s ≠ "" ∧ NoQuote s.toList

-- The instance for lists is named: one that tries all characters would apply as well.
instance (w : List Char) : Decidable (NoQuote w) :=
  List.decidableBAll (fun c => Quote.ofChar? c = none) w

instance (s : String) : Decidable (IsBare s) :=
  inferInstanceAs (Decidable (s ≠ "" ∧ NoQuote s.toList))

/-- Pieces that scanning takes apart again. -/
structure Tidy (ps : List Piece) : Prop where
  bare : ∀ p ∈ ps, p.isQuotation = false → IsBare p.render
  apart : ps.IsChain fun p q => p.isQuotation = false ∨ q.isQuotation = false

/-! ## Scanning one piece -/

theorem scanFrom?_bare {w : List Char} (hw : NoQuote w) (rest : List Char) :
    scanFrom? .outside (w ++ rest) = (scanFrom? .outside rest).map (w.map .outside ++ ·) := by
  induction w with
  | nil => simp
  | cons c w ih =>
    have hc : scanOutside c = ([.outside c], .outside) := by
      simp [scanOutside, hw c List.mem_cons_self]
    simp only [List.cons_append, scanFrom?, ScanState.next, hc,
      ih fun d hd => hw d (List.mem_cons_of_mem c hd), Option.map_map]
    rfl

/-- Every quote inside a quotation is doubled, so the scan reads the content up to the quote that
ends it. -/
theorem scanFrom?_doubled (q : Quote) (content read rest : List Char) :
    scanFrom? (.inside q read) (Text.doubledChars q.char content ++ q.char :: rest) =
      scanFrom? (.atQuote q (content.reverse ++ read)) rest := by
  induction content generalizing read with
  | nil => simp [Text.doubledChars, scanFrom?, ScanState.next]
  | cons c content ih =>
    by_cases hc : c = q.char
    · simp [Text.doubledChars, scanFrom?, ScanState.next, hc, ih]
    · simp [Text.doubledChars, scanFrom?, ScanState.next, hc, ih]

/-- Behind a quote that is not doubled, the quotation is complete. -/
theorem scanFrom?_atQuote (q : Quote) (read : List Char) {rest : List Char}
    (hrest : rest.head? ≠ some q.char) :
    scanFrom? (.atQuote q read) rest =
      (scanFrom? .outside rest).map (.quoted (q.quotation read.reverse) :: ·) := by
  cases rest with
  | nil => simp [scanFrom?, ScanState.finish?]
  | cons c rest =>
    have hc : c ≠ q.char := fun h => hrest (by simp [h])
    simp only [scanFrom?, ScanState.next, if_neg hc, Option.map_map]
    rfl

theorem ofChar?_char (q : Quote) : Quote.ofChar? q.char = some q := by
  cases q <;> rfl

theorem scanFrom?_quotation (q : Quote) (content : List Char) {rest : List Char}
    (hrest : rest.head? ≠ some q.char) :
    scanFrom? .outside (q.char :: (Text.doubledChars q.char content ++ q.char :: rest)) =
      (scanFrom? .outside rest).map (.quoted (q.quotation content) :: ·) := by
  have hopen : scanOutside q.char = ([], .inside q []) := by simp [scanOutside, ofChar?_char]
  simp only [scanFrom?, ScanState.next, hopen, scanFrom?_doubled, List.append_nil,
    scanFrom?_atQuote q _ hrest, List.reverse_reverse, Option.map_map]
  rfl

theorem scanFrom?_piece {p : Piece} (hp : p.isQuotation = false → IsBare p.render)
    {rest : List Char}
    (hrest : p.isQuotation = true → ∀ c ∈ rest.head?, Quote.ofChar? c = none) :
    scanFrom? .outside (p.render.toList ++ rest) =
      (scanFrom? .outside rest).map (p.tokens ++ ·) := by
  have hhead (q : Quote) (h : p.isQuotation = true) : rest.head? ≠ some q.char := by
    intro hc
    have := hrest h q.char hc
    rw [ofChar?_char] at this
    cases this
  cases p with
  | name s =>
    simpa [Piece.render, quotedName, Text.doubled, Piece.tokens, Quote.quotation, Quote.char]
      using scanFrom?_quotation .double s.toList (hhead .double rfl)
  | text s =>
    simpa [Piece.render, quotedText, Text.doubled, Piece.tokens, Quote.quotation, Quote.char]
      using scanFrom?_quotation .single s.toList (hhead .single rfl)
  | code c => exact scanFrom?_bare (hp rfl).2 rest
  | number digits => exact scanFrom?_bare (hp rfl).2 rest
  | source position => exact scanFrom?_bare (hp rfl).2 rest

/-! ## Scanning a statement -/

theorem Tidy.of_cons {p : Piece} {ps : List Piece} (h : Tidy (p :: ps)) : Tidy ps :=
  ⟨fun q hq => h.bare q (List.mem_cons_of_mem p hq), h.apart.of_cons⟩

theorem render_cons (p : Piece) (ps : List Piece) :
    (render (p :: ps)).toList = p.render.toList ++ (render ps).toList := by
  simp [render]

/-- Behind a quotation the text goes on with a character that is no quote, or ends. -/
theorem Tidy.head_not_quote {p : Piece} {ps : List Piece} (h : Tidy (p :: ps))
    (hp : p.isQuotation = true) : ∀ c ∈ (render ps).toList.head?, Quote.ofChar? c = none := by
  intro c hc
  cases ps with
  | nil => simp [render] at hc
  | cons q ps =>
    have hq : q.isQuotation = false := by
      have := h.apart.rel
      simpa [hp] using this
    obtain ⟨hne, hbare⟩ := h.bare q (by simp) hq
    rw [render_cons] at hc
    cases hr : q.render.toList with
    | nil => exact absurd (String.toList_eq_nil_iff.mp hr) hne
    | cons d w =>
      rw [hr] at hc
      obtain rfl : d = c := by simpa using hc
      exact hbare d (by simp [hr])

/-- Scanning a statement gives the tokens of its pieces. -/
theorem scan?_render {ps : List Piece} (h : Tidy ps) :
    scan? (render ps) = some (ps.flatMap Piece.tokens) := by
  unfold scan?
  induction ps with
  | nil => simp [render, scanFrom?, ScanState.finish?]
  | cons p ps ih =>
    rw [render_cons, scanFrom?_piece (h.bare p List.mem_cons_self) h.head_not_quote, ih h.of_cons]
    rfl

/-! ## Other words between the quotes -/

/-- The piece with another name or text between its quotes, if it has any. -/
def Piece.relabel (onName onText : String → String) : Piece → Piece
  | name s => name (onName s)
  | text s => text (onText s)
  | p => p

/-- The token with another name or text between its quotes, if it has any. -/
def Token.relabel (onName onText : String → String) : Token → Token
  | quoted (.name s) => quoted (.name (onName s))
  | quoted (.text s) => quoted (.text (onText s))
  | outside c => outside c

variable (onName onText : String → String)

theorem Piece.isQuotation_relabel (p : Piece) :
    (p.relabel onName onText).isQuotation = p.isQuotation := by
  cases p <;> rfl

theorem Piece.tokens_relabel (p : Piece) :
    (p.relabel onName onText).tokens = p.tokens.map (Token.relabel onName onText) := by
  cases p <;> simp [relabel, tokens, Token.relabel, Function.comp_def]

theorem Tidy.relabel {ps : List Piece} (h : Tidy ps) :
    Tidy (ps.map (Piece.relabel onName onText)) := by
  refine ⟨fun p hp hq => ?_, ?_⟩
  · obtain ⟨p, hmem, rfl⟩ := List.mem_map.mp hp
    rw [Piece.isQuotation_relabel] at hq
    have hsame : p.relabel onName onText = p := by
      cases p <;> first | rfl | cases hq
    rw [hsame]
    exact h.bare p hmem hq
  · rw [List.isChain_map]
    simpa only [Piece.isQuotation_relabel] using h.apart

theorem flatMap_tokens_relabel (ps : List Piece) :
    (ps.map (Piece.relabel onName onText)).flatMap Piece.tokens =
      (ps.flatMap Piece.tokens).map (Token.relabel onName onText) := by
  simp [List.flatMap_map, List.map_flatMap, Piece.tokens_relabel]

end ChartBoard.Sql
