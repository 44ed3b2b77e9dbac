import CodeDigest.Proofs.Blanks
import CodeDigest.Proofs.RemovalJoins

/-! Docstrings under the lexicons whose only comments begin with `#`: which literals they are, and what
stands behind a token that goes. -/
namespace CodeDigest

namespace Lexicon
variable {l : Lexicon} {a c : Char} {s rest : Text} {q : Quote} {kind : Token.Kind}

/-- Only `#` opens a comment, and both quotes open literals wherever they stand. -/
structure Hashed (l : Lexicon) : Prop where
  line : l.lineMarkers = [⟨['#'], none⟩]
  block : l.blockComment = none
  double : l.doubleQuote = true
  single : l.singleQuote = .delimiter
  backtick : l.backtick = .plain

theorem hashed_of_eq (hl : l = python ∨ l = shell) : l.Hashed ∧ l ∈ all := by
  rcases hl with rfl | rfl
  · exact ⟨⟨rfl, rfl, rfl, rfl, rfl⟩, by decide⟩
  · exact ⟨⟨rfl, rfl, rfl, rfl, rfl⟩, by decide⟩

namespace Hashed
variable (hl : l.Hashed)
include hl

theorem opensLineComment_iff : l.OpensLineComment (c :: s) ↔ c = '#' := by
  simp [OpensLineComment, hl.line, LineMarker.Unsuppressed, eq_comm]

theorem not_opensBlockComment : ¬l.OpensBlockComment s := by
  simp [OpensBlockComment, hl.block]

theorem opensLiteral_iff : (∃ q, l.OpensLiteral (c :: s) q) ↔ c ∈ ['"', '\''] := by
  constructor
  · rintro ⟨q, h⟩
    cases h with
    | double h => simp
    | single h => simp
    | escapedChar h => simp
    | char h hc => simp
    | raw h => exact absurd (hl.backtick.symm.trans h) (by decide)
    | template h => exact absurd (hl.backtick.symm.trans h) (by decide)
  · intro hc
    simp only [List.mem_cons, List.not_mem_nil, or_false] at hc
    rcases hc with rfl | rfl
    · exact ⟨_, .double hl.double⟩
    · exact ⟨_, .single hl.single⟩

/-- A literal that opens opens in front of any text. -/
theorem opensLiteral_congr (h : l.OpensLiteral (c :: s) q) (s' : Text) : l.OpensLiteral (c :: s') q := by
  cases h with
  | double h => exact .double h
  | single h => exact .single h
  | escapedChar h => exact absurd (hl.single.symm.trans h) (by decide)
  | char h hc => exact absurd (hl.single.symm.trans h) (by decide)
  | raw h => exact .raw h
  | template h => exact .template h

/-- A character that is neither `#` nor a quote is code. -/
theorem rule_code (hc : c ∉ ['#', '"', '\'']) (rest : Text) : l.TokenRule (.code c) [c] rest := by
  simp only [List.mem_cons, List.not_mem_nil, or_false, not_or] at hc
  refine .code ?_ hl.not_opensBlockComment ?_ ?_
  · rw [hl.opensLineComment_iff]
    exact hc.1
  · rintro ⟨-, delimiter, hd, hp⟩
    rcases mem_tripleDelimiters.mp hd with rfl | rfl
    · exact hc.2.1 (List.cons_prefix_cons.mp hp).1.symm
    · exact hc.2.2 (List.cons_prefix_cons.mp hp).1.symm
  · intro q hq
    have hquote := hl.opensLiteral_iff.mp ⟨q, hq⟩
    simp [hc] at hquote

/-- The first character of a token tells whether it is a comment, a literal or code. -/
theorem rule_head (h : l.TokenRule kind (a :: s) rest) :
    (a = '#' ∧ kind = .lineComment) ∨ (a ∈ ['"', '\''] ∧ ∃ triple, kind = .literal triple) ∨
      (a ∉ ['#', '"', '\''] ∧ kind = .code a ∧ s = []) := by
  generalize htext : a :: s = text at h
  cases h with
  | lineComment hm =>
    rw [hl.line, List.mem_singleton] at hm
    subst hm
    exact .inl ⟨(List.cons_eq_cons.mp htext).1, rfl⟩
  | blockComment hb => exact absurd (hl.block.symm.trans hb) (by simp)
  | triple _ hd =>
    refine .inr (.inl ⟨?_, true, rfl⟩)
    rcases mem_tripleDelimiters.mp hd with rfl | rfl
    · simp [(List.cons_eq_cons.mp htext).1]
    · simp [(List.cons_eq_cons.mp htext).1]
  | literal hopens =>
    obtain ⟨rfl, -⟩ := List.cons_eq_cons.mp htext
    exact .inr (.inl ⟨hl.opensLiteral_iff.mp ⟨_, hopens⟩, false, rfl⟩)
  | code noLine _ _ noLiteral =>
    obtain ⟨rfl, rfl⟩ := List.cons_eq_cons.mp htext
    refine .inr (.inr ⟨?_, rfl, rfl⟩)
    rw [List.mem_cons, not_or]
    refine ⟨mt hl.opensLineComment_iff.mpr noLine, ?_⟩
    exact fun hquote => not_exists.mpr noLiteral (hl.opensLiteral_iff.mpr hquote)

end Hashed
end Lexicon

namespace CommentRemoval
open Lexicon
variable {l : Lexicon} {c : Char} {s before after : Text}

/-- Nothing but white space stands before the end of the line or a comment. -/
def EndsLine : Text → Prop
  | [] => True
  | c :: s => c = '\n' ∨ c = '#' ∨ CharClass.isBlank c = true ∧ EndsLine s

theorem endsLine_of_head (h : ∀ c ∈ s.head?, c = '\n') : EndsLine s := by
  cases s with
  | nil => trivial
  | cons c s => exact .inl (h c rfl)

theorem EndsLine.head (h : EndsLine (c :: s)) : c = '#' ∨ CharClass.isBlank c = true := by
  rcases h with rfl | hhash | ⟨hblank, -⟩
  · exact .inr (by decide)
  · exact .inl hhash
  · exact .inr hblank

theorem EndsLine.head_ne_quote (h : EndsLine (c :: s)) : c ∉ ['"', '\''] := by
  intro hc
  simp only [List.mem_cons, List.not_mem_nil, or_false] at hc
  rcases hc with rfl | rfl
  · exact absurd h.head (by decide)
  · exact absurd h.head (by decide)

theorem endsLine_cons_blank (hblank : CharClass.isBlank c = true) (hnewline : c ≠ '\n') :
    EndsLine (c :: s) ↔ EndsLine s := by
  have hhash : c ≠ '#' := by
    rintro rfl
    exact absurd hblank (by decide)
  simp [EndsLine, hblank, hnewline, hhash]

/-- What a docstring has before it: white space on its line, and a line before that leaves nothing open. -/
def BeginsLine (before : Text) : Prop :=
  Text.isBlank (splitLastLine before).2 = true ∧
    (Text.trimEnd (splitLastLine before).1).getLast?.any leavesOpen = false

theorem isDocstring_iff (hl : l.Hashed) :
    isDocstring l before after = true ↔ BeginsLine before ∧ EndsLine after := by
  have htail : ∀ after : Text, ((Text.trim (after.takeWhile (· ≠ '\n'))).isEmpty ||
      l.startsLineComment (Text.trim (after.takeWhile (· ≠ '\n')))) = true ↔ EndsLine after := by
    intro after
    induction after with
    | nil => exact iff_of_true rfl trivial
    | cons c s ih =>
      by_cases hc : c = '\n'
      · subst hc
        exact iff_of_true rfl (.inl rfl)
      · rw [List.takeWhile_cons_of_pos (by simpa using hc), Text.trim_cons]
        split
        · next hblank => rw [ih, endsLine_cons_blank hblank hc]
        · next hblank =>
          rw [List.isEmpty_cons, Bool.false_or, startsLineComment_iff, hl.opensLineComment_iff]
          simp [EndsLine, hc, hblank]
  rw [isDocstring, Bool.and_eq_true, Bool.and_eq_true, htail, Bool.not_eq_true', BeginsLine]

theorem lastLine_snoc (s : Text) (c : Char) :
    (splitLastLine (s ++ [c])).2 = if c = '\n' then [] else (splitLastLine s).2 ++ [c] := by
  by_cases hc : c = '\n'
  · simp [splitLastLine, hc]
  · simp [splitLastLine, hc]

end CommentRemoval
end CodeDigest
