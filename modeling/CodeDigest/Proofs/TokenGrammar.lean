import CodeDigest.Proofs.Endings
import CodeDigest.Proofs.Tokens
import Mathlib.Data.List.Chain
import Mathlib.Data.List.Induction

/-! The grammar of tokens: what opens a token of each kind, and how far it reaches. The tokens of a text
are the only way to split the text by this grammar. -/
namespace CodeDigest

def LineMarker.Unsuppressed (m : LineMarker) (after : Text) : Prop :=
  m.unlessNext = none ∨ after.head? ≠ m.unlessNext

theorem LineMarker.opens_iff {m : LineMarker} {s : Text} :
    m.opens s = true ↔ ∃ after, s = m.marker ++ after ∧ m.Unsuppressed after := by
  simp only [← Text.strip?_eq_some_iff, opens, Unsuppressed]
  cases Text.strip? m.marker s <;> simp

namespace Lexicon
variable {l : Lexicon} {c : Char} {s u rest body opener closer delimiter : Text} {q : Quote}
  {kind : Token.Kind}

def OpensLineComment (l : Lexicon) (s : Text) : Prop :=
  ∃ m ∈ l.lineMarkers, ∃ after, s = m.marker ++ after ∧ m.Unsuppressed after

def OpensBlockComment (l : Lexicon) (s : Text) : Prop :=
  ∃ opener closer, l.blockComment = some (opener, closer) ∧ opener <+: s

def tripleDelimiters : List Text := [['"', '"', '"'], ['\'', '\'', '\'']]

theorem mem_tripleDelimiters :
    delimiter ∈ tripleDelimiters ↔ delimiter = ['"', '"', '"'] ∨ delimiter = ['\'', '\'', '\''] := by
  simp [tripleDelimiters]

def OpensTriple (l : Lexicon) (s : Text) : Prop :=
  l.tripleQuotes = true ∧ ∃ delimiter ∈ tripleDelimiters, delimiter <+: s

inductive OpensLiteral (l : Lexicon) : Text → Quote → Prop where
  | double {s : Text} (h : l.doubleQuote = true) : OpensLiteral l ('"' :: s) ⟨'"', false, true⟩
  | single {s : Text} (h : l.singleQuote = .delimiter) :
      OpensLiteral l ('\'' :: s) ⟨'\'', false, true⟩
  | escapedChar {s : Text} (h : l.singleQuote = .charOrLifetime) :
      OpensLiteral l ('\'' :: '\\' :: s) ⟨'\'', false, true⟩
  | char {c : Char} {s : Text} (h : l.singleQuote = .charOrLifetime) (hc : c ≠ '\'') :
      OpensLiteral l ('\'' :: c :: '\'' :: s) ⟨'\'', false, true⟩
  | raw {s : Text} (h : l.backtick = .raw) : OpensLiteral l ('`' :: s) ⟨'`', true, false⟩
  | template {s : Text} (h : l.backtick = .template) : OpensLiteral l ('`' :: s) ⟨'`', true, true⟩

/-- The rule for a token of each kind, in front of the rest of the text. -/
inductive TokenRule (l : Lexicon) : Token.Kind → (text rest : Text) → Prop where
  | lineComment {m : LineMarker} {more rest : Text} (hm : m ∈ l.lineMarkers)
      (unsuppressed : m.Unsuppressed (more ++ rest)) (inLine : '\n' ∉ m.marker ++ more)
      (stop : ∀ c ∈ rest.head?, c = '\n') :
      TokenRule l .lineComment (m.marker ++ more) rest
  | blockComment {opener closer body rest : Text} (h : l.blockComment = some (opener, closer))
      (upTo : UpToEnd (ClosesBlock closer) body rest) :
      TokenRule l .blockComment (opener ++ body) rest
  | triple {delimiter body rest : Text} (h : l.tripleQuotes = true)
      (hd : delimiter ∈ tripleDelimiters) (upTo : UpToEnd (ClosesTriple delimiter) body rest) :
      TokenRule l (.literal true) (delimiter ++ body) rest
  | literal {q : Quote} {body rest : Text} (h : l.OpensLiteral (q.delimiter :: (body ++ rest)) q)
      (noTriple : ¬l.OpensTriple (q.delimiter :: (body ++ rest))) (upTo : UpToEnd q.Closes body rest) :
      TokenRule l (.literal false) (q.delimiter :: body) rest
  | code {c : Char} {rest : Text} (noLine : ¬l.OpensLineComment (c :: rest))
      (noBlock : ¬l.OpensBlockComment (c :: rest)) (noTriple : ¬l.OpensTriple (c :: rest))
      (noLiteral : ∀ q, ¬l.OpensLiteral (c :: rest) q) :
      TokenRule l (.code c) [c] rest

theorem startsLineComment_iff : l.startsLineComment s = true ↔ l.OpensLineComment s := by
  rw [startsLineComment, List.any_eq_true]
  simp only [LineMarker.opens_iff, OpensLineComment]

theorem blockComment?_eq_some_iff :
    l.blockComment? s = some (opener, closer) ↔
      l.blockComment = some (opener, closer) ∧ opener <+: s := by
  rw [blockComment?, Option.filter_eq_some_iff, Text.startsWith_iff]

theorem blockComment?_eq_none (h : ¬l.OpensBlockComment s) : l.blockComment? s = none := by
  rw [Option.eq_none_iff_forall_ne_some]
  rintro ⟨opener, closer⟩ hb
  exact h ⟨opener, closer, blockComment?_eq_some_iff.mp hb⟩

theorem tripleQuote?_eq_some (h : l.tripleQuotes = true) (hd : delimiter ∈ tripleDelimiters)
    (hp : delimiter <+: s) : l.tripleQuote? s = some delimiter := by
  obtain ⟨after, rfl⟩ := hp
  rw [tripleQuote?, h]
  rcases mem_tripleDelimiters.mp hd with rfl | rfl <;> rfl

theorem tripleQuote?_eq_none (h : ¬l.OpensTriple s) : l.tripleQuote? s = none := by
  rw [tripleQuote?]
  split
  · rfl
  · next ht =>
    rw [List.find?_eq_none]
    intro d hd hs
    exact h ⟨by simpa using ht, d, hd, Text.startsWith_iff.mp hs⟩

theorem looksLikeCharLiteral_iff :
    looksLikeCharLiteral ('\'' :: s) = true ↔
      (∃ r, s = '\\' :: r) ∨ ∃ c r, c ≠ '\'' ∧ s = c :: '\'' :: r := by
  unfold looksLikeCharLiteral
  split
  · simp_all
  · simp_all
  · simp_all

theorem quote?_eq_some_iff : l.quote? s = some q ↔ l.OpensLiteral s q := by
  constructor
  · intro h
    unfold quote? at h
    split at h
    · next hs =>
      obtain ⟨r, rfl⟩ := List.head?_eq_some_iff.mp hs
      split at h
      · next hd =>
        cases h
        exact .double hd
      · cases h
    · next hs =>
      obtain ⟨r, rfl⟩ := List.head?_eq_some_iff.mp hs
      split at h
      · next hq =>
        cases h
        exact .single hq
      · next hq =>
        split at h
        · next hchar =>
          cases h
          rcases looksLikeCharLiteral_iff.mp hchar with ⟨r, rfl⟩ | ⟨c, r, hc, rfl⟩
          · exact .escapedChar hq
          · exact .char hq hc
        · cases h
      · cases h
    · next hs =>
      obtain ⟨r, rfl⟩ := List.head?_eq_some_iff.mp hs
      split at h
      · cases h
      · next hb =>
        cases h
        exact .raw hb
      · next hb =>
        cases h
        exact .template hb
    · cases h
  · intro h
    cases h with
    | double h => simp [quote?, h]
    | single h => simp [quote?, h]
    | escapedChar h => simp [quote?, h, looksLikeCharLiteral]
    | char h hc => simp [quote?, h, looksLikeCharLiteral_iff, hc]
    | raw h => simp [quote?, h]
    | template h => simp [quote?, h]

theorem quote?_eq_none (h : ∀ q, ¬l.OpensLiteral s q) : l.quote? s = none := by
  rw [Option.eq_none_iff_forall_ne_some]
  exact fun q hq => h q (quote?_eq_some_iff.mp hq)

theorem OpensLiteral.delimiter_mem (h : l.OpensLiteral s q) : q.delimiter ∈ ['"', '\'', '`'] := by
  cases h <;> simp

theorem OpensLiteral.delimiter_ne (h : l.OpensLiteral s q) :
    q.delimiter ≠ '\\' ∧ q.delimiter ≠ '\n' := by
  have hd := h.delimiter_mem
  constructor <;> intro he <;> simp [he] at hd

theorem OpensLiteral.head?_eq (h : l.OpensLiteral s q) : s.head? = some q.delimiter := by
  cases h <;> rfl

/-! What is read at a place, by what opens there. -/

theorem tokenAt_of_line (h : l.OpensLineComment (c :: s)) :
    l.tokenAt c s = (.lineComment, (s.takeWhile (· ≠ '\n')).length) := by
  rw [tokenAt, if_pos (startsLineComment_iff.mpr h)]

section
variable (noLine : ¬l.OpensLineComment (c :: s))
include noLine

theorem tokenAt_of_block (h : l.blockComment = some (opener, closer)) (hp : opener <+: c :: s) :
    l.tokenAt c s =
      (.blockComment, opener.length - 1 + lengthToClose closer (s.drop (opener.length - 1))) := by
  rw [tokenAt, if_neg (mt startsLineComment_iff.mp noLine), blockComment?_eq_some_iff.mpr ⟨h, hp⟩]

variable (noBlock : ¬l.OpensBlockComment (c :: s))
include noBlock

theorem tokenAt_of_triple (h : l.tripleQuotes = true) (hd : delimiter ∈ tripleDelimiters)
    (hp : delimiter <+: c :: s) :
    l.tokenAt c s = (.literal true, 2 + tripleLength delimiter (s.drop 2)) := by
  rw [tokenAt, if_neg (mt startsLineComment_iff.mp noLine), blockComment?_eq_none noBlock,
    tripleQuote?_eq_some h hd hp]

variable (noTriple : ¬l.OpensTriple (c :: s))
include noTriple

theorem tokenAt_of_literal (h : l.OpensLiteral (c :: s) q) :
    l.tokenAt c s = (.literal false, literalLength q s) := by
  rw [tokenAt, if_neg (mt startsLineComment_iff.mp noLine), blockComment?_eq_none noBlock,
    tripleQuote?_eq_none noTriple, quote?_eq_some_iff.mpr h]

theorem tokenAt_of_none (h : ∀ q, ¬l.OpensLiteral (c :: s) q) : l.tokenAt c s = (.code c, 0) := by
  rw [tokenAt, if_neg (mt startsLineComment_iff.mp noLine), blockComment?_eq_none noBlock,
    tripleQuote?_eq_none noTriple, quote?_eq_none h]

end

/-- No place opens two things at once, but for a triple quote, which also opens a literal. -/
structure Unambiguous (l : Lexicon) : Prop where
  line : ∀ m ∈ l.lineMarkers, m.marker ≠ [] ∧ '\n' ∉ m.marker ∧
    m.marker.head? ∉ ['"', '\'', '`'].map some
  block : ∀ b ∈ l.blockComment, b.1 ≠ [] ∧ b.2 ≠ [] ∧ b.1.head? ∉ ['"', '\'', '`'].map some
  apart : ∀ m ∈ l.lineMarkers, ∀ b ∈ l.blockComment, ¬m.marker <+: b.1 ∧ ¬b.1 <+: m.marker

theorem unambiguous_of_mem (hl : l ∈ all) : l.Unambiguous := by
  have h : ∀ l ∈ all,
      (∀ m ∈ l.lineMarkers, m.marker ≠ [] ∧ '\n' ∉ m.marker ∧
        m.marker.head? ∉ ['"', '\'', '`'].map some) ∧
      (∀ b ∈ l.blockComment.toList, b.1 ≠ [] ∧ b.2 ≠ [] ∧
        b.1.head? ∉ ['"', '\'', '`'].map some) ∧
      ∀ m ∈ l.lineMarkers, ∀ b ∈ l.blockComment.toList, ¬m.marker <+: b.1 ∧ ¬b.1 <+: m.marker := by
    decide
  obtain ⟨hline, hblock, hapart⟩ := h l hl
  exact ⟨hline, fun b hb => hblock b (Option.mem_toList.mpr hb),
    fun m hm b hb => hapart m hm b (Option.mem_toList.mpr hb)⟩

theorem exists_of_mem_tripleDelimiters (hd : delimiter ∈ tripleDelimiters) :
    ∃ x, delimiter = [x, x, x] ∧ x ∈ ['"', '\'', '`'] ∧ delimiter.head? ≠ some '\\' := by
  rcases mem_tripleDelimiters.mp hd with rfl | rfl
  · exact ⟨'"', rfl, by simp, by decide⟩
  · exact ⟨'\'', rfl, by simp, by decide⟩

/-- The first part of a text is its first line when it holds no newline and one comes next, if anything
does. -/
theorem length_takeWhile_line_iff :
    ((u ++ rest).takeWhile (· ≠ '\n')).length = u.length ↔ '\n' ∉ u ∧ ∀ c ∈ rest.head?, c = '\n' := by
  induction u with
  | nil =>
    cases rest with
    | nil => simp
    | cons a rest => by_cases ha : a = '\n' <;> simp [ha]
  | cons a u ih =>
    by_cases ha : a = '\n'
    · simp [ha]
    · have hne : '\n' ≠ a := fun h => ha h.symm
      simpa [ha, hne] using ih

section
variable (hl : l.Unambiguous)
include hl

theorem Unambiguous.not_line_of_block (h : l.blockComment = some (opener, closer))
    (hp : opener <+: s) : ¬l.OpensLineComment s := by
  rintro ⟨m, hm, after, rfl, -⟩
  obtain ⟨h1, h2⟩ := hl.apart m hm _ h
  rcases List.prefix_or_prefix_of_prefix hp (List.prefix_append m.marker after) with hp | hp
  · exact h2 hp
  · exact h1 hp

theorem Unambiguous.not_comment_of_quote (hc : c ∈ ['"', '\'', '`']) (s : Text) :
    ¬l.OpensLineComment (c :: s) ∧ ¬l.OpensBlockComment (c :: s) := by
  constructor
  · rintro ⟨m, hm, after, heq, -⟩
    obtain ⟨hne, -, hq⟩ := hl.line m hm
    obtain ⟨a, more, ha⟩ := List.exists_cons_of_ne_nil hne
    rw [ha] at heq hq
    obtain ⟨rfl, -⟩ := List.cons_eq_cons.mp heq
    exact hq (List.mem_map_of_mem hc)
  · rintro ⟨opener, closer, hb, after, heq⟩
    obtain ⟨hne, -, hq⟩ := hl.block _ hb
    obtain ⟨a, more, ha⟩ := List.exists_cons_of_ne_nil hne
    dsimp only at ha hq
    rw [ha] at heq hq
    obtain ⟨rfl, -⟩ := List.cons_eq_cons.mp heq
    exact hq (List.mem_map_of_mem hc)

/-- A token that obeys the grammar is the one that is read. -/
theorem TokenRule.tokenAt_eq (h : l.TokenRule kind (c :: u) rest) :
    l.tokenAt c (u ++ rest) = (kind, u.length) := by
  generalize htext : c :: u = text at h
  cases h with
  | @lineComment m more _ hm unsuppressed inLine stop =>
    have hopens : l.OpensLineComment (c :: (u ++ rest)) := by
      refine ⟨m, hm, more ++ rest, ?_, unsuppressed⟩
      rw [← List.cons_append, htext, List.append_assoc]
    rw [← htext, List.mem_cons, not_or] at inLine
    rw [tokenAt_of_line hopens, length_takeWhile_line_iff.mpr ⟨inLine.2, stop⟩]
  | @blockComment opener closer body _ hb upTo =>
    obtain ⟨hne, hcloser, -⟩ := hl.block _ hb
    obtain ⟨a, o, rfl⟩ := List.exists_cons_of_ne_nil hne
    rw [List.cons_append] at htext
    obtain ⟨rfl, rfl⟩ := List.cons_eq_cons.mp htext
    have hp : c :: o <+: c :: (o ++ body ++ rest) := ⟨body ++ rest, by simp⟩
    rw [tokenAt_of_block (hl.not_line_of_block hb hp) hb hp, List.length_cons, Nat.add_sub_cancel,
      List.append_assoc, List.drop_left, (lengthToClose_eq_iff hcloser).mpr upTo, List.length_append]
  | @triple delimiter body _ ht hd upTo =>
    obtain ⟨x, rfl, hx, hback⟩ := exists_of_mem_tripleDelimiters hd
    rw [List.cons_append] at htext
    obtain ⟨rfl, rfl⟩ := List.cons_eq_cons.mp htext
    obtain ⟨noLine, noBlock⟩ := hl.not_comment_of_quote hx ([c, c] ++ body ++ rest)
    have hp : [c, c, c] <+: c :: ([c, c] ++ body ++ rest) := ⟨body ++ rest, rfl⟩
    have hlen : tripleLength [c, c, c] (body ++ rest) = body.length :=
      (tripleLength_eq_iff (by simp) hback).mpr upTo
    have hdrop : ([c, c] ++ (body ++ rest)).drop 2 = body ++ rest := rfl
    rw [tokenAt_of_triple noLine noBlock ht hd hp, List.append_assoc, hdrop, hlen, List.length_append]
    rfl
  | @literal q body _ hopens noTriple upTo =>
    obtain ⟨rfl, rfl⟩ := List.cons_eq_cons.mp htext
    obtain ⟨noLine, noBlock⟩ := hl.not_comment_of_quote hopens.delimiter_mem (u ++ rest)
    obtain ⟨hback, hnewline⟩ := hopens.delimiter_ne
    rw [tokenAt_of_literal noLine noBlock noTriple hopens,
      (literalLength_eq_iff hback hnewline).mpr upTo]
  | code noLine noBlock noTriple noLiteral =>
    obtain ⟨rfl, rfl⟩ := List.cons_eq_cons.mp htext
    exact tokenAt_of_none noLine noBlock noTriple noLiteral

theorem TokenRule.tokensFrom_eq (h : l.TokenRule kind s rest) (hne : s ≠ []) (start : Nat) :
    l.tokensFrom start (s ++ rest) = ⟨kind, start, s⟩ :: l.tokensFrom (start + Text.byteSize s) rest := by
  obtain ⟨c, u, rfl⟩ := List.exists_cons_of_ne_nil hne
  rw [List.cons_append, tokensFrom]
  simp only [h.tokenAt_eq hl, List.take_left', List.drop_left']

/-- The token that is read obeys the grammar. -/
theorem exists_tokenRule (c : Char) (s : Text) :
    ∃ kind u rest, s = u ++ rest ∧ l.tokenAt c s = (kind, u.length) ∧
      l.TokenRule kind (c :: u) rest := by
  by_cases hline : l.OpensLineComment (c :: s)
  · have hread := tokenAt_of_line hline
    obtain ⟨m, hm, after, heq, unsuppressed⟩ := hline
    obtain ⟨hne, hmarker, -⟩ := hl.line m hm
    obtain ⟨u, rest, rfl, hu⟩ : ∃ u rest, s = u ++ rest ∧ s.takeWhile (· ≠ '\n') = u :=
      ⟨_, _, List.takeWhile_append_dropWhile.symm, rfl⟩
    obtain ⟨inLine, stop⟩ := length_takeWhile_line_iff.mp (congrArg List.length hu)
    rw [hu] at hread
    rw [← List.cons_append] at heq
    -- The marker ends before the line does, as it holds no newline.
    have hmore : ∃ more, c :: u = m.marker ++ more ∧ after = more ++ rest := by
      rcases List.append_eq_append_iff.mp heq with ⟨w, hw, hrest⟩ | h
      · cases w with
        | nil => exact ⟨[], by simpa using hw.symm, by simpa using hrest.symm⟩
        | cons a w =>
          rw [hrest] at stop
          obtain rfl := stop a rfl
          exact absurd (by simp [hw]) hmarker
      · exact h
    obtain ⟨more, hmore, rfl⟩ := hmore
    have hc : c ≠ '\n' := by
      rintro rfl
      obtain ⟨a, k, ha⟩ := List.exists_cons_of_ne_nil hne
      rw [ha] at hmore hmarker
      exact hmarker ((List.cons_eq_cons.mp hmore).1 ▸ List.mem_cons_self)
    refine ⟨.lineComment, u, rest, rfl, hread, ?_⟩
    rw [hmore]
    refine .lineComment hm unsuppressed ?_ stop
    rw [← hmore, List.mem_cons, not_or]
    exact ⟨hc.symm, inLine⟩
  by_cases hblock : l.OpensBlockComment (c :: s)
  · obtain ⟨opener, closer, hb, hp⟩ := hblock
    have hread := tokenAt_of_block hline hb hp
    obtain ⟨hne, hcloser, -⟩ := hl.block _ hb
    obtain ⟨a, o, rfl⟩ := List.exists_cons_of_ne_nil hne
    obtain ⟨rfl, after, rfl⟩ := List.cons_prefix_cons.mp hp
    obtain ⟨body, rest, rfl, hlen, upTo⟩ := exists_lengthToClose hcloser after
    rw [List.length_cons, Nat.add_sub_cancel, List.drop_left, hlen, ← List.length_append] at hread
    exact ⟨.blockComment, o ++ body, rest, (List.append_assoc ..).symm, hread, .blockComment hb upTo⟩
  by_cases htriple : l.OpensTriple (c :: s)
  · obtain ⟨ht, delimiter, hd, hp⟩ := htriple
    have hread := tokenAt_of_triple hline hblock ht hd hp
    obtain ⟨x, rfl, -, hback⟩ := exists_of_mem_tripleDelimiters hd
    obtain ⟨rfl, after, rfl⟩ := List.cons_prefix_cons.mp hp
    obtain ⟨body, rest, rfl, hlen, upTo⟩ := exists_tripleLength (List.cons_ne_nil x _) hback after
    have hdrop : ([x, x] ++ (body ++ rest)).drop 2 = body ++ rest := rfl
    rw [hdrop, hlen, Nat.add_comm] at hread
    exact ⟨.literal true, [x, x] ++ body, rest, rfl, hread, .triple ht hd upTo⟩
  by_cases hliteral : ∃ q, l.OpensLiteral (c :: s) q
  · obtain ⟨q, hq⟩ := hliteral
    obtain ⟨body, rest, rfl, hlen, upTo⟩ := exists_literalLength hq.delimiter_ne.1 s
    have hread := tokenAt_of_literal hline hblock htriple hq
    rw [hlen] at hread
    obtain rfl : c = q.delimiter := Option.some.inj hq.head?_eq
    exact ⟨.literal false, body, rest, rfl, hread, .literal hq htriple upTo⟩
  · have hnone := not_exists.mp hliteral
    exact ⟨.code c, [], s, rfl, tokenAt_of_none hline hblock htriple hnone,
      .code hline hblock htriple hnone⟩

theorem tokenRule_of_tokensFrom {start : Nat} {p r : List Token} {t : Token}
    (h : l.tokensFrom start s = p ++ t :: r) : l.TokenRule t.kind t.text (spelled r) := by
  obtain ⟨c, s', hs, hkind, -, htext⟩ := tokensFrom_eq_append_cons h
  obtain ⟨kind, u, rest, rfl, hread, hrule⟩ := exists_tokenRule hl c s'
  rw [hread] at hkind
  rw [hread, List.take_left' rfl] at htext
  have hrest : spelled r = rest := by
    have hall := spelled_tokensFrom l start s
    rw [h, spelled_append, spelled_cons, hs, htext, List.cons_append] at hall
    exact List.append_cancel_left (List.cons_eq_cons.mp (List.append_cancel_left hall)).2
  rw [hkind, htext, hrest]
  exact hrule

end

/-- Tokens that split a text by the grammar: they tile the text from its first byte to its last, and each
obeys the rule of its kind in front of the text behind it. -/
structure Splits (l : Lexicon) (s : Text) (ts : List Token) : Prop where
  first : ∀ t ∈ ts.head?, t.start = 0
  next : ts.IsChain fun t t' => t.stop = t'.start
  last : (ts.getLast?.map Token.stop).getD 0 = Text.byteSize s
  nonempty : ∀ t ∈ ts, t.start < t.stop
  text : ∀ t ∈ ts, Text.slice? s t.start t.stop = some t.text
  rule : ∀ t ∈ ts, ∃ rest, Text.dropBytes? s t.stop = some rest ∧ l.TokenRule t.kind t.text rest

/-- A token of a text stands between what the tokens before and behind it cover. -/
theorem tokens_place {t : Token} {p r : List Token} (h : l.tokens s = p ++ t :: r) :
    s = spelled p ++ t.text ++ spelled r ∧ t.start = Text.byteSize (spelled p) ∧
      t.stop = Text.byteSize (spelled p ++ t.text) := by
  have hall := spelled_tokensFrom l 0 s
  have hstart := tokensFrom_start h
  rw [tokens] at h
  rw [h, spelled_append, spelled_cons, ← List.append_assoc] at hall
  rw [Nat.zero_add] at hstart
  refine ⟨hall.symm, hstart, ?_⟩
  rw [Token.stop, hstart, Text.byteSize_append]

theorem splits_tokens (hl : l.Unambiguous) (s : Text) : l.Splits s (l.tokens s) := by
  constructor
  · intro t ht
    obtain ⟨r, hr⟩ := List.head?_eq_some_iff.mp ht
    have h : l.tokens s = [] ++ t :: r := hr
    exact (tokens_place h).2.1
  · rw [List.isChain_iff_forall_rel_of_append_cons_cons]
    intro a b p r h
    have h' : l.tokens s = (p ++ [a]) ++ b :: r := by simpa using h
    obtain ⟨-, -, hstop⟩ := tokens_place h
    obtain ⟨-, hstart, -⟩ := tokens_place h'
    rw [hstop, hstart, spelled_append, spelled_cons, spelled_nil, List.append_nil]
  · cases ht : (l.tokens s).getLast? with
    | none =>
      have hs := spelled_tokensFrom l 0 s
      rw [← tokens, List.getLast?_eq_none_iff.mp ht, spelled_nil] at hs
      rw [← hs]
      rfl
    | some t =>
      obtain ⟨p, h⟩ := List.getLast?_eq_some_iff.mp ht
      obtain ⟨hs, -, hstop⟩ := tokens_place h
      rw [spelled_nil, List.append_nil] at hs
      rw [Option.map_some, Option.getD_some, hstop, ← hs]
  · intro t ht
    obtain ⟨p, r, h⟩ := List.append_of_mem ht
    have := byteSize_text_pos h
    rw [Token.stop]
    omega
  · intro t ht
    obtain ⟨p, r, h⟩ := List.append_of_mem ht
    obtain ⟨hs, hstart, hstop⟩ := tokens_place h
    exact Text.slice?_eq_some_iff.mpr ⟨spelled p, spelled r, hs, hstart.symm, hstop.symm⟩
  · intro t ht
    obtain ⟨p, r, h⟩ := List.append_of_mem ht
    obtain ⟨hs, -, hstop⟩ := tokens_place h
    refine ⟨spelled r, ?_, tokenRule_of_tokensFrom hl h⟩
    exact Text.dropBytes?_eq_some_iff.mpr ⟨spelled p ++ t.text, hs, hstop.symm⟩

/-- Tokens that obey the grammar one by one are the first tokens of a text that starts with what they
cover. -/
theorem tokensFrom_append (hl : l.Unambiguous) {start : Nat} {ts : List Token}
    (h : ∀ p t r, ts = p ++ t :: r → t.start = start + Text.byteSize (spelled p) ∧ t.text ≠ [] ∧
      l.TokenRule t.kind t.text (spelled r ++ rest)) :
    l.tokensFrom start (spelled ts ++ rest) =
      ts ++ l.tokensFrom (start + Text.byteSize (spelled ts)) rest := by
  induction ts generalizing start with
  | nil => rfl
  | cons t ts ih =>
    obtain ⟨hstart, hne, hrule⟩ := h [] t ts rfl
    have htail := @ih t.stop <| by
      rintro p t' r rfl
      obtain ⟨hstart', hne', hrule'⟩ := h (t :: p) t' r rfl
      refine ⟨?_, hne', hrule'⟩
      rw [hstart', spelled_cons, Text.byteSize_append, Token.stop, hstart, spelled_nil,
        Text.byteSize_nil, Nat.add_zero, Nat.add_assoc]
    rw [spelled_nil, Text.byteSize_nil, Nat.add_zero] at hstart
    rw [spelled_cons, List.append_assoc, hrule.tokensFrom_eq hl hne, ← hstart, Text.byteSize_append,
      ← Nat.add_assoc]
    exact congrArg (t :: ·) htail

/-- Tokens that obey the grammar one by one are the tokens of what they cover. -/
theorem eq_tokensFrom (hl : l.Unambiguous) {start : Nat} {ts : List Token}
    (h : ∀ p t r, ts = p ++ t :: r → t.start = start + Text.byteSize (spelled p) ∧ t.text ≠ [] ∧
      l.TokenRule t.kind t.text (spelled r)) :
    ts = l.tokensFrom start (spelled ts) := by
  have happend := @tokensFrom_append l [] hl start ts <| by
    intro p t r hts
    rw [List.append_nil]
    exact h p t r hts
  rw [List.append_nil, tokensFrom_nil, List.append_nil] at happend
  exact happend.symm

/-- What tokens cover is a beginning of the text that they split, and the next token starts behind it. -/
theorem Splits.isPrefix {ts p r : List Token} (h : l.Splits s ts) (hts : ts = p ++ r) :
    spelled p <+: s ∧ ∀ t ∈ r.head?, t.start = Text.byteSize (spelled p) := by
  induction p using List.reverseRecOn generalizing r with
  | nil =>
    obtain rfl : ts = r := hts
    exact ⟨List.nil_prefix, h.first⟩
  | append_singleton p t ih =>
    rw [List.append_assoc, List.singleton_append] at hts
    obtain ⟨hlead, hstart⟩ := ih hts
    have ht : t ∈ ts := by simp [hts]
    have hstart : t.start = Text.byteSize (spelled p) := hstart t rfl
    obtain ⟨a, b, hs, ha, hstop⟩ := Text.slice?_eq_some_iff.mp (h.text t ht)
    have hp : spelled (p ++ [t]) = a ++ t.text := by
      obtain ⟨rest, hrest⟩ := hlead
      rw [List.append_assoc] at hs
      obtain ⟨rfl, -⟩ := Text.append_inj_of_byteSize_eq (hs.symm.trans hrest.symm) (ha.trans hstart)
      simp
    rw [hp]
    refine ⟨⟨b, hs.symm⟩, ?_⟩
    intro t' ht'
    obtain ⟨r', rfl⟩ := List.head?_eq_some_iff.mp ht'
    rw [hstop]
    have hnext := List.isChain_iff_forall_rel_of_append_cons_cons.mp h.next
    exact (hnext hts).symm

theorem Splits.stop_eq {ts p r : List Token} {t : Token} (h : l.Splits s ts) (hts : ts = p ++ t :: r) :
    t.stop = Text.byteSize (spelled p ++ t.text) := by
  have hstart : t.start = Text.byteSize (spelled p) := (h.isPrefix hts).2 t rfl
  rw [Token.stop, hstart, Text.byteSize_append]

theorem Splits.spelled_eq {ts : List Token} (h : l.Splits s ts) : spelled ts = s := by
  obtain ⟨⟨w, hw⟩, -⟩ := h.isPrefix (List.append_nil ts).symm
  have hsize : Text.byteSize (spelled ts) = Text.byteSize s := by
    rw [← h.last]
    cases ht : ts.getLast? with
    | none =>
      rw [List.getLast?_eq_none_iff.mp ht]
      rfl
    | some t =>
      obtain ⟨p, hp⟩ := List.getLast?_eq_some_iff.mp ht
      rw [Option.map_some, Option.getD_some, h.stop_eq hp, hp]
      simp
  have hempty : w = [] := by
    apply Text.eq_nil_of_byteSize_eq_zero
    rw [← hw, Text.byteSize_append] at hsize
    omega
  rw [← hw, hempty, List.append_nil]

theorem Splits.eq_tokens (hl : l.Unambiguous) {ts : List Token} (h : l.Splits s ts) :
    ts = l.tokens s := by
  have htokens := @eq_tokensFrom l hl 0 ts <| by
    intro p t r hts
    have ht : t ∈ ts := by simp [hts]
    refine ⟨?_, ?_, ?_⟩
    · rw [Nat.zero_add]
      exact (h.isPrefix hts).2 t rfl
    · intro hempty
      have hpos := h.nonempty t ht
      rw [Token.stop, hempty, Text.byteSize_nil] at hpos
      omega
    · obtain ⟨rest, hdrop, hrule⟩ := h.rule t ht
      obtain ⟨lead, hs, hlead⟩ := Text.dropBytes?_eq_some_iff.mp hdrop
      have hall : spelled p ++ t.text ++ spelled r = lead ++ rest := by
        rw [← hs, ← h.spelled_eq, hts]
        simp
      rw [h.stop_eq hts] at hlead
      obtain ⟨-, rfl⟩ := Text.append_inj_of_byteSize_eq hall hlead.symm
      exact hrule
  rw [htokens, h.spelled_eq, tokens]

/-- Under each of the lexicons, the tokens of a text split it by the grammar, and no other token list
does. -/
theorem eq_tokens_iff_splits (hl : l ∈ all) (s : Text) (ts : List Token) :
    ts = l.tokens s ↔ l.Splits s ts := by
  have hunambiguous := unambiguous_of_mem hl
  constructor
  · rintro rfl
    exact splits_tokens hunambiguous s
  · exact fun h => h.eq_tokens hunambiguous

theorem lifetime_eq_tokens_iff_splits :
    let s := "f::<'a>('\\'', \"\\\"é /* \n /* \" */ // // b\nx".toList
    rust ∈ all ∧ ∀ ts, ts = rust.tokens s ↔ rust.Splits s ts := by
  intro s
  have hl : rust ∈ all := by decide
  exact ⟨hl, eq_tokens_iff_splits hl s⟩

end Lexicon
end CodeDigest
