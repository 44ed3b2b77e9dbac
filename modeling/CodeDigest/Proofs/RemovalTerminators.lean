import CodeDigest.Proofs.Blanks
import CodeDigest.Proofs.CommentRemoval
import CodeDigest.Proofs.LineTerminators

/-! Removal of comments from a text with carriage returns. A comment that goes takes along the carriage return
behind it if it runs to the end of its line; nothing else changes. -/
namespace CodeDigest.CommentRemoval
open Lexicon Text
variable {l : Lexicon} {depth missing : Nat} {k k' s text path content : Text} {ts ts' : List Token}
  {kind : Token.Kind} {t : Token} {c : Char}

theorem count_crlf (s : Text) : (Text.crlf s).count '\r' = s.count '\n' + s.count '\r' := by
  induction s with
  | nil => rfl
  | cons c s ih =>
    by_cases hc : c = '\n'
    · subst hc
      rw [crlf_newline, List.count_cons_self, List.count_cons_of_ne (by decide), List.count_cons_self,
        List.count_cons_of_ne (by decide), ih]
      omega
    · rw [crlf_cons hc, List.count_cons, ih, List.count_cons_of_ne hc, List.count_cons]
      omega

/-- Two texts, last character first, of which the second has a carriage return before each newline, but for
some that are missing. -/
inductive Terminated : Nat → Text → Text → Prop where
  | nil : Terminated 0 [] []
  | char {missing : Nat} {c : Char} {k k' : Text} (hn : c ≠ '\n') (hr : c ≠ '\r')
      (h : Terminated missing k k') : Terminated missing (c :: k) (c :: k')
  | crlf {missing : Nat} {k k' : Text} (h : Terminated missing k k') :
      Terminated missing ('\n' :: k) ('\n' :: '\r' :: k')
  | bare {missing : Nat} {k k' : Text} (h : Terminated missing k k') :
      Terminated (missing + 1) ('\n' :: k) ('\n' :: k')

namespace Terminated

theorem append (h : Terminated missing k k') (hr : '\r' ∉ s) :
    Terminated missing (s.reverse ++ k) ((Text.crlf s).reverse ++ k') := by
  induction s generalizing k k' with
  | nil => exact h
  | cons c s ih =>
    rw [List.mem_cons, not_or] at hr
    rw [List.reverse_cons, List.append_assoc, List.singleton_append]
    by_cases hc : c = '\n'
    · have htail := ih (Terminated.crlf h) hr.2
      simpa [hc] using htail
    · have htail := ih (h.char hc (Ne.symm hr.1)) hr.2
      simpa [crlf_cons hc] using htail

/-- The trim in front of a token that goes ends at a newline, if not before. -/
theorem trim (h : Terminated missing k k') :
    Terminated missing (k.dropWhile isSpaceOrTab) (k'.dropWhile isSpaceOrTab) := by
  induction h with
  | nil => exact .nil
  | @char _ c _ _ hn hr h ih =>
    rw [List.dropWhile_cons, List.dropWhile_cons]
    split
    · exact ih
    · exact h.char hn hr
  | crlf h _ => exact h.crlf
  | bare h _ => exact h.bare

theorem lead_eq (h : Terminated missing k k') : k'.takeWhile (· ≠ '\n') = k.takeWhile (· ≠ '\n') := by
  induction h with
  | nil => rfl
  | char hn _ _ ih => rw [List.takeWhile_cons, List.takeWhile_cons, ih]
  | crlf _ _ => rfl
  | bare _ _ => rfl

theorem mark_eq (h : Terminated missing k k') :
    (k'.dropWhile CharClass.isBlank).head? = (k.dropWhile CharClass.isBlank).head? := by
  induction h with
  | nil => rfl
  | char _ _ _ ih =>
    rw [List.dropWhile_cons, List.dropWhile_cons]
    split
    · exact ih
    · rfl
  | crlf _ ih => exact ih
  | bare _ ih => exact ih

/-- The last mark of the line before. -/
theorem previous_eq (h : Terminated missing k k') :
    ((k'.drop ((k.takeWhile (· ≠ '\n')).length + 1)).dropWhile CharClass.isBlank).head? =
      ((k.drop ((k.takeWhile (· ≠ '\n')).length + 1)).dropWhile CharClass.isBlank).head? := by
  induction h with
  | nil => rfl
  | char hn _ _ ih => simpa [List.takeWhile_cons, hn] using ih
  | crlf h _ => exact h.mark_eq
  | bare h _ => exact h.mark_eq

theorem filter_eq (h : Terminated missing k k') : k'.filter (· ≠ '\r') = k := by
  induction h with
  | nil => rfl
  | char _ hr _ ih => rw [List.filter_cons_of_pos (by simpa using hr), ih]
  | crlf _ ih => simpa using ih
  | bare _ ih => simpa using ih

theorem count_eq (h : Terminated missing k k') : k'.count '\r' + missing = k.count '\n' := by
  induction h with
  | nil => rfl
  | char hn hr _ ih => rwa [List.count_cons_of_ne hr, List.count_cons_of_ne hn]
  | crlf _ ih =>
    rw [List.count_cons_of_ne (by decide), List.count_cons_self, List.count_cons_self]
    omega
  | bare _ ih =>
    rw [List.count_cons_of_ne (by decide), List.count_cons_self]
    omega

/-- Exactly where none is missing each newline has its carriage return. -/
theorem reverse_eq_iff (h : Terminated missing k k') : k'.reverse = Text.crlf k.reverse ↔ missing = 0 := by
  constructor
  · intro heq
    have hcount := congrArg (List.count '\r') heq
    have hreturn : k.count '\r' = 0 := by
      rw [List.count_eq_zero, ← h.filter_eq]
      simp
    rw [List.count_reverse, count_crlf, List.count_reverse, List.count_reverse, hreturn] at hcount
    have := h.count_eq
    omega
  · intro hzero
    induction h with
    | nil => rfl
    | char hn _ _ ih => simp [ih hzero, crlf_cons hn]
    | crlf _ ih => simp [ih hzero]
    | bare _ _ => exact absurd hzero (Nat.succ_ne_zero _)

end Terminated

/-! What a token is judged by. -/

theorem trimStart_crlf (s : Text) : trimStart (Text.crlf s) = Text.crlf (trimStart s) := by
  induction s with
  | nil => rfl
  | cons c s ih =>
    by_cases hc : c = '\n'
    · subst hc
      exact ih
    · rw [crlf_cons hc, trimStart, trimStartBy, List.dropWhile_cons]
      split
      · next hblank => rw [trimStart, trimStartBy, List.dropWhile_cons_of_pos hblank]; exact ih
      · next hblank => rw [trimStart, trimStartBy, List.dropWhile_cons_of_neg hblank, crlf_cons hc]

theorem plain_of_directive (hl : l ∈ all) {d : Text} (hd : d ∈ l.directives) : '\r' ∉ d ∧ '\n' ∉ d := by
  have h : ∀ l ∈ all, ∀ d ∈ l.directives, '\r' ∉ d ∧ '\n' ∉ d := by decide
  exact h l hl d hd

theorem isDirective_crlf (hl : l ∈ all) (text : Text) :
    l.isDirective (Text.crlf text) = l.isDirective text := by
  rw [isDirective, isDirective, trimStart_crlf, Bool.eq_iff_iff, List.any_eq_true, List.any_eq_true]
  refine exists_congr fun d => and_congr_right fun hd => ?_
  obtain ⟨hr, hn⟩ := plain_of_directive hl hd
  rw [startsWith_iff, startsWith_iff]
  constructor
  · rintro ⟨y, hy⟩
    obtain ⟨z, hz, -⟩ := exists_of_crlf_eq_append hr hn hy.symm
    exact ⟨z, hz.symm⟩
  · rintro ⟨z, hz⟩
    exact ⟨Text.crlf z, by rw [← hz, crlf_append, crlf_of_notMem hn]⟩

theorem isDirective_return (hl : l ∈ all) (text : Text) :
    l.isDirective (text ++ ['\r']) = l.isDirective text := by
  rw [isDirective, isDirective, Bool.eq_iff_iff, List.any_eq_true, List.any_eq_true]
  refine exists_congr fun d => and_congr_right fun hd => ?_
  have hr := (plain_of_directive hl hd).1
  have hstart : trimStart (text ++ ['\r']) = trimStart text ∨
      trimStart (text ++ ['\r']) = trimStart text ++ ['\r'] := by
    rw [trimStart, trimStartBy, List.dropWhile_append]
    split
    · next hnil => exact .inl (List.isEmpty_iff.mp hnil).symm
    · exact .inr rfl
  rcases hstart with heq | heq
  · rw [heq]
  · rw [heq, startsWith, strip?_append_of_notMem hr, Option.isSome_map]
    rfl

theorem lineTail_crlf (s : Text) :
    Text.trim ((Text.crlf s).takeWhile (· ≠ '\n')) = Text.trim (s.takeWhile (· ≠ '\n')) := by
  suffices h : (Text.crlf s).takeWhile (· ≠ '\n') = s.takeWhile (· ≠ '\n') ∨
      (Text.crlf s).takeWhile (· ≠ '\n') = s.takeWhile (· ≠ '\n') ++ ['\r'] by
    rcases h with heq | heq
    · rw [heq]
    · rw [heq, trim_concat (by decide)]
  induction s with
  | nil => exact .inl rfl
  | cons c s ih =>
    by_cases hc : c = '\n'
    · subst hc
      exact .inr rfl
    · rw [crlf_cons hc, List.takeWhile_cons_of_pos (by simpa using hc),
        List.takeWhile_cons_of_pos (by simpa using hc)]
      rcases ih with heq | heq
      · exact .inl (by rw [heq])
      · exact .inr (by rw [heq, List.cons_append])

theorem splitLastLine_reverse (k : Text) : splitLastLine k.reverse =
    ((k.drop ((k.takeWhile (· ≠ '\n')).length + 1)).reverse, (k.takeWhile (· ≠ '\n')).reverse) := by
  have hle : (k.takeWhile (· ≠ '\n')).length ≤ k.length := (List.takeWhile_prefix _).length_le
  simp only [splitLastLine, List.reverse_reverse, List.length_reverse, List.take_reverse, Prod.mk.injEq,
    and_true, List.reverse_inj]
  rcases Nat.eq_or_lt_of_le hle with heq | hlt
  · rw [heq, List.drop_of_length_le (by omega), List.drop_of_length_le (by omega)]
  · congr 1
    omega

/-- A docstring is one with carriage returns too. -/
theorem isDocstring_terminated (h : Terminated missing k k') (l : Lexicon) (s : Text) :
    isDocstring l k'.reverse (Text.crlf s) = isDocstring l k.reverse s := by
  have hlast : ∀ s : Text, (Text.trimEnd s.reverse).getLast? = (s.dropWhile CharClass.isBlank).head? := by
    intro s
    rw [Text.trimEnd, Text.trimEndBy, List.reverse_reverse, List.getLast?_reverse]
  simp only [isDocstring, splitLastLine_reverse, lineTail_crlf, hlast, h.previous_eq, h.lead_eq]

/-! The two scans side by side. -/

def returnsLost (l : Lexicon) (ts : List Token) : Nat :=
  ts.dropLast.countP fun t => t.kind == .lineComment && !l.isDirective t.text

theorem returnsLost_cons (h : t.kind = .lineComment → ts = []) : returnsLost l (t :: ts) = returnsLost l ts := by
  cases ts with
  | nil => rfl
  | cons u ts =>
    have hk : t.kind ≠ .lineComment := fun hk => absurd (h hk) (List.cons_ne_nil u ts)
    rw [returnsLost, List.dropLast_cons_cons, List.countP_cons_of_neg (by simp [hk])]
    rfl

theorem returnsLost_ended {n : Token} (hn : n.kind ≠ .lineComment) :
    returnsLost l (t :: n :: ts) =
      returnsLost l ts + if t.kind = .lineComment ∧ l.isDirective t.text = false then 1 else 0 := by
  have htail : returnsLost l (n :: ts) = returnsLost l ts := returnsLost_cons fun hk => absurd hk hn
  rw [← htail, returnsLost, returnsLost, List.dropLast_cons_cons, List.countP_cons]
  simp

theorem keep_code (l : Lexicon) (depth : Nat) (kept : Text) (c : Char) (start : Nat) (ts : List Token) :
    keep l depth kept (⟨.code c, start, [c]⟩ :: ts) = keep l (depthAfter depth c) (c :: kept) ts := by
  rw [keep]
  rfl

theorem keep_of_goes {kept : Text} (h : isDropped l depth kept t ts = true) :
    keep l depth kept (t :: ts) = keep l depth (kept.dropWhile isSpaceOrTab) ts := by
  rw [keep, if_pos h]

theorem keep_of_stays {kept : Text} (h : isDropped l depth kept t ts = false) (hc : t.code? = none) :
    keep l depth kept (t :: ts) = keep l depth (t.text.reverse ++ kept) ts := by
  rw [keep, h, hc]
  rfl

/-- The scan of the text with carriage returns keeps what the other scan keeps, but for the carriage returns
behind line comments that go. -/
theorem keep_twins (hl : l ∈ all) (depth : Nat) (h : Twins ts ts') (hr : '\r' ∉ spelled ts)
    (hk : Terminated missing k k') :
    Terminated (missing + returnsLost l ts) (keep l depth k ts).reverse (keep l depth k' ts').reverse := by
  induction h generalizing missing k k' depth with
  | nil =>
    rw [keep, keep, List.reverse_reverse, List.reverse_reverse]
    exact hk
  | newline h ih =>
    rw [spelled_cons, List.mem_append, not_or] at hr
    rw [returnsLost_cons (by simp), keep_code, keep_code, keep_code]
    exact ih _ hr.2 hk.crlf
  | @same kind text i j ts ts' hlast h ih =>
    rw [spelled_cons, List.mem_append, not_or] at hr
    have hdropped : isDropped l depth k' ⟨kind, j, Text.crlf text⟩ ts' =
        isDropped l depth k ⟨kind, i, text⟩ ts := by
      simp only [isDropped, isDirective_crlf hl, textOf_eq_spelled, h.spelled_eq, isDocstring_terminated hk]
    rw [returnsLost_cons hlast, keep, keep, hdropped]
    split
    · exact ih _ hr.2 hk.trim
    · exact ih _ hr.2 (hk.append hr.1)
  | @ended kind text i j i' j' ts ts' hkind hn h ih =>
    rw [spelled_cons, spelled_cons, List.mem_append, List.mem_append, not_or, not_or] at hr
    obtain ⟨htext, -, htail⟩ := hr
    have hkept : Terminated missing ('\n' :: (text.reverse ++ k)) ('\n' :: ((text ++ ['\r']).reverse ++ k')) := by
      have happend := (hk.append htext).crlf
      rw [crlf_of_notMem hn] at happend
      simpa using happend
    rw [returnsLost_ended (by simp)]
    rcases hkind with rfl | rfl
    · cases hdirective : l.isDirective text with
      | true =>
        rw [keep_of_stays (by simp [isDropped, hdirective]) rfl, keep_code,
          keep_of_stays (by simp [isDropped, isDirective_return hl, hdirective]) rfl, keep_code]
        exact ih _ htail hkept
      | false =>
        -- The comment goes with its carriage return, and the newline stays alone.
        rw [keep_of_goes (by simp [isDropped, hdirective]), keep_code,
          keep_of_goes (by simp [isDropped, isDirective_return hl, hdirective]), keep_code]
        have hone : missing + (returnsLost l ts + 1) = missing + 1 + returnsLost l ts := by omega
        rw [if_pos ⟨rfl, rfl⟩, hone]
        exact ih _ htail hk.trim.bare
    · rw [keep_of_stays rfl rfl, keep_code, keep_of_stays rfl rfl, keep_code]
      exact ih _ htail hkept
  | apostrophe h ih =>
    rw [spelled_cons, List.mem_append, not_or] at hr
    rw [returnsLost_cons (by simp), keep_code, keep]
    exact ih _ hr.2 (hk.char (by decide) (by decide))

/-- Every literal ends in its line, but for those in backticks and triple quotes: none goes on behind an
escaped newline. -/
def LiteralsEndInLine (l : Lexicon) (content : Text) : Prop :=
  ∀ t ∈ l.tokens content, t.kind = .literal false → '\n' ∈ t.text → t.text.head? = some '`'

instance (l : Lexicon) (content : Text) : Decidable (LiteralsEndInLine l content) :=
  inferInstanceAs (Decidable (∀ t ∈ l.tokens content, _))

def returnsLostIn (path content : Text) : Nat :=
  (forPath? path).elim 0 fun l => returnsLost l (l.tokens content)

/-- Where literals end in their lines, comments are removed from a text with carriage returns as they are
from the text without, but for one carriage return with each line comment that goes from the end of a line.
So the results correspond exactly when no such comment goes. -/
theorem removeComments_crlf_iff (path : Text) (hr : '\r' ∉ content)
    (hlines : ∀ l ∈ forPath? path, LiteralsEndInLine l content) :
    let out := removeComments path content
    let out' := removeComments path (Text.crlf content)
    (out' = Text.crlf out ↔ returnsLostIn path content = 0) ∧ out'.filter (· ≠ '\r') = out ∧
      out'.count '\r' + returnsLostIn path content = out.count '\n' := by
  intro out out'
  have hterminated : Terminated (returnsLostIn path content) out.reverse out'.reverse := by
    dsimp only [out, out']
    rw [removeComments, removeComments, returnsLostIn]
    cases h : forPath? path with
    | none =>
      have happend := Terminated.nil.append hr
      simpa using happend
    | some l =>
      have hl := mem_all_of_forPath? h
      have htwins := twins_tokensFrom hl 0 0 content (hlines l h)
      have hspelled := spelled_tokensFrom l 0 content
      have hkeep := keep_twins hl 0 htwins (by rwa [hspelled]) .nil
      rwa [Nat.zero_add] at hkeep
  have hiff := hterminated.reverse_eq_iff
  rw [List.reverse_reverse, List.reverse_reverse] at hiff
  refine ⟨hiff, ?_, ?_⟩
  · have hfilter := congrArg List.reverse hterminated.filter_eq
    rwa [← List.filter_reverse, List.reverse_reverse, List.reverse_reverse] at hfilter
  · have hcount := hterminated.count_eq
    rwa [List.count_reverse, List.count_reverse] at hcount

/-- A docstring goes and a directive stays with their carriage returns; a line comment takes one along. -/
theorem directive_removeComments_crlf_iff :
    let content := "\"\"\"d\ne\"\"\"\nx = '\\'a' # noqa\nf('''b\n''') # c\ny\n# d".toList
    let out := removeComments "a.py".toList content
    let out' := removeComments "a.py".toList (Text.crlf content)
    '\r' ∉ content ∧ (∀ l ∈ forPath? "a.py".toList, LiteralsEndInLine l content) ∧
      returnsLostIn "a.py".toList content = 1 ∧
      (out' = Text.crlf out ↔ returnsLostIn "a.py".toList content = 0) ∧ out'.filter (· ≠ '\r') = out ∧
      out'.count '\r' + returnsLostIn "a.py".toList content = out.count '\n' := by
  intro content out out'
  have h : forPath? "a.py".toList = some python := by decide +kernel
  have hr : '\r' ∉ content := by decide +kernel
  have hlines : ∀ l ∈ forPath? "a.py".toList, LiteralsEndInLine l content := by
    rw [h]
    rintro _ ⟨⟩
    decide +kernel
  exact ⟨hr, hlines, by decide +kernel, removeComments_crlf_iff "a.py".toList hr hlines⟩

/-- A comment at the end of a line takes the carriage return along, and a literal that goes on behind an
escaped newline ends there, so that what follows in it is taken for a comment. -/
theorem comment_loses_carriage_return :
    let line := "x = 1  # c\ny = 2\n".toList
    let continued := "s = \"a\\\n // b\";\n".toList
    '\r' ∉ line ∧ removeComments "a.py".toList line = "x = 1\ny = 2\n".toList ∧
      removeComments "a.py".toList (Text.crlf line) = "x = 1\ny = 2\r\n".toList ∧
      removeComments "a.py".toList (Text.crlf line) ≠ Text.crlf (removeComments "a.py".toList line) ∧
      '\r' ∉ continued ∧ removeComments "a.c".toList continued = continued ∧
      removeComments "a.c".toList (Text.crlf continued) = "s = \"a\\\r\n\n".toList ∧
      removeComments "a.c".toList (Text.crlf continued) ≠
        Text.crlf (removeComments "a.c".toList continued) := by
  decide +kernel

end CodeDigest.CommentRemoval
