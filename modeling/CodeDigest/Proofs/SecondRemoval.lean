import CodeDigest.Proofs.Docstrings

/-! A second removal of comments removes nothing, where only `#` opens comments: what is left is read again
as the tokens that stayed, and none of them is judged otherwise. -/
namespace CodeDigest.CommentRemoval
open Lexicon
variable {l : Lexicon} {content path text rest rest' : Text} {ms before after : List (Token × Bool)}
  {p r ts us : List Token} {t : Token} {gone : Bool} {c x : Char}

/-! Literals and what stands behind them. -/

/-- A literal that did not open a triple quote opens none when no quote comes next that did not before. -/
theorem opensTriple_reread (h : l.TokenRule (.literal false) text rest)
    (hquote : ∀ x ∈ ['"', '\''], rest'.head? = some x → rest.head? = some x)
    (htriple : l.OpensTriple (text ++ rest')) : l.OpensTriple (text ++ rest) := by
  obtain ⟨ht, delimiter, hd, hp⟩ := htriple
  refine ⟨ht, delimiter, hd, ?_⟩
  obtain ⟨x, hx, hmem⟩ : ∃ x, delimiter = [x, x, x] ∧ x ∈ ['"', '\''] := by
    rcases mem_tripleDelimiters.mp hd with rfl | rfl
    · exact ⟨'"', rfl, by simp⟩
    · exact ⟨'\'', rfl, by simp⟩
  subst hx
  cases h with
  | @literal q body _ hopens noTriple upTo =>
    obtain ⟨hback, hnewline⟩ := hopens.delimiter_ne
    rw [List.cons_append, List.cons_prefix_cons] at hp ⊢
    obtain ⟨rfl, hp⟩ := hp
    refine ⟨rfl, ?_⟩
    have hbehind : ∀ y, [q.delimiter] ++ y <+: rest' → ∃ s, rest = q.delimiter :: s := by
      rintro y ⟨w, rfl⟩
      exact List.head?_eq_some_iff.mp (hquote _ hmem rfl)
    rcases body with _ | ⟨b, _ | ⟨b', body⟩⟩
    · -- A literal of one quote ends in front of a newline.
      obtain ⟨s, rfl⟩ := hbehind [q.delimiter] hp
      have hlength := (literalLength_eq_iff hback hnewline).mpr upTo
      rw [List.nil_append, literalLength.eq_def] at hlength
      simp [hback] at hlength
    · rw [List.cons_append, List.cons_prefix_cons] at hp ⊢
      obtain ⟨s, rfl⟩ := hbehind [] hp.2
      exact ⟨hp.1, s, rfl⟩
    · simpa [List.cons_prefix_cons] using hp

/-- A triple-quoted literal ends in a quote, or nothing stands behind it. -/
theorem quote_last (h : l.TokenRule (.literal true) text rest) :
    rest = [] ∨ ∃ x ∈ ['"', '\''], text.getLast? = some x := by
  cases h with
  | @triple delimiter body _ _ hd upTo =>
    cases upTo with
    | unclosed _ => exact .inl rfl
    | closed hends _ =>
      obtain ⟨rfl, -⟩ := hends
      right
      rcases mem_tripleDelimiters.mp hd with rfl | rfl
      · exact ⟨'"', by simp, by rw [← List.append_assoc, List.getLast?_append]; rfl⟩
      · exact ⟨'\'', by simp, by rw [← List.append_assoc, List.getLast?_append]; rfl⟩

/-! What stands behind a token that goes: the line ends there, or the next comment begins. -/

theorem stays_of_code (h : verdicts l content = before ++ (t, gone) :: after) (hc : t.code? = some c) :
    gone = false := by
  have hgoes := judge_goes h (Nat.zero_le _)
  cases gone with
  | false => rfl
  | true =>
    rw [goes_not_code hgoes.symm] at hc
    cases hc

/-- A character that is no space or tab survives. -/
theorem survivors_cons_code (h : verdicts l content = before ++ (t, gone) :: after) (hc : t.code? = some c)
    (hspace : isSpaceOrTab c = false) :
    isDeleted ((t, gone) :: after) = false ∧ survivors ((t, gone) :: after) = t :: survivors after := by
  rw [stays_of_code h hc]
  apply survivors_cons
  rw [isBlankCode, hc]
  exact hspace

section
variable (hl : l.Hashed) (hall : l ∈ all)
include hl hall

/-- What is read where a token starts: a comment, a literal or a character of code. -/
theorem token_head (h : verdicts l content = before ++ (t, gone) :: after) : ∃ a s, t.text = a :: s ∧
    ((a = '#' ∧ t.kind = .lineComment) ∨ (a ∈ ['"', '\''] ∧ ∃ triple, t.kind = .literal triple) ∨
      (a ∉ ['#', '"', '\''] ∧ t.code? = some a ∧ s = [])) := by
  obtain ⟨-, ⟨a, s, htext⟩, hrule⟩ := rule_of_verdicts hall h
  rw [htext] at hrule
  refine ⟨a, s, htext, ?_⟩
  rcases hl.rule_head hrule with hcomment | hliteral | ⟨ha, hcode, hs⟩
  · exact .inl hcomment
  · exact .inr (.inl hliteral)
  · exact .inr (.inr ⟨ha, Token.code?_eq_some_iff.mpr hcode, hs⟩)

theorem endsLine_of_gone (h : verdicts l content = before ++ (t, true) :: after) :
    EndsLine (spelled (after.map (·.1))) := by
  obtain ⟨-, -, hrule⟩ := rule_of_verdicts hall h
  have hgoes := (judge_goes h (Nat.zero_le _)).symm
  rw [goes, Bool.or_eq_true, Bool.and_eq_true, Bool.and_eq_true, isDocstring_iff hl] at hgoes
  rcases hgoes with ⟨hcomment, -⟩ | ⟨-, -, hend⟩
  · rw [Token.isComment] at hcomment
    generalize t.text = text at hrule
    cases hk : t.kind with
    | lineComment =>
      rw [hk] at hrule
      cases hrule with
      | lineComment _ _ _ stop => exact endsLine_of_head stop
    | blockComment =>
      rw [hk] at hrule
      cases hrule with
      | blockComment hb => exact absurd (hl.block.symm.trans hb) (by simp)
    | literal _ => simp [hk] at hcomment
    | code _ => simp [hk] at hcomment
  · exact hend

/-- A text that ends its line still does when comments are removed from it. -/
theorem EndsLine.survivors (h : verdicts l content = before ++ after)
    (hend : EndsLine (spelled (after.map (·.1)))) : EndsLine (spelled (survivors after)) := by
  induction after generalizing before with
  | nil => trivial
  | cons m after ih =>
    obtain ⟨t, gone⟩ := m
    have h' : verdicts l content = (before ++ [(t, gone)]) ++ after := by simp [h]
    obtain ⟨a, s, htext, ⟨rfl, hkind⟩ | ⟨ha, -⟩ | ⟨ha, hcode, rfl⟩⟩ := token_head hl hall h
    · cases gone with
      | true => exact ih h' (endsLine_of_gone hl hall h)
      | false =>
        have hblank : isBlankCode t = false := by simp [isBlankCode, Token.code?, hkind]
        rw [(survivors_cons hblank after).2, spelled_cons, htext]
        exact .inr (.inl rfl)
    · rw [List.map_cons, spelled_cons, htext] at hend
      exact absurd ha hend.head_ne_quote
    · by_cases hnewline : a = '\n'
      · subst hnewline
        rw [(survivors_cons_code h hcode rfl).2, spelled_cons, htext]
        exact .inl rfl
      · rw [List.map_cons, spelled_cons, htext] at hend
        have hblank : CharClass.isBlank a = true := by
          rcases hend.head with rfl | hblank
          · exact absurd (by simp) ha
          · exact hblank
        have htail := ih h' ((endsLine_cons_blank hblank hnewline).mp hend)
        rw [CommentRemoval.survivors]
        split
        · exact htail
        · rw [spelled_cons, htext]
          exact (endsLine_cons_blank hblank hnewline).mpr htail

/-- Where a token is deleted, nothing but white space is left on the line, or the next comment begins. -/
theorem endsLine_of_isDeleted (h : verdicts l content = before ++ after) (hdeleted : isDeleted after = true) :
    EndsLine (spelled (survivors after)) := by
  induction after generalizing before with
  | nil => trivial
  | cons m after ih =>
    obtain ⟨t, gone⟩ := m
    have h' : verdicts l content = (before ++ [(t, gone)]) ++ after := by simp [h]
    rw [survivors, if_pos hdeleted]
    cases gone with
    | true => exact (endsLine_of_gone hl hall h).survivors hl hall h'
    | false =>
      rw [isDeleted, Bool.false_or, Bool.and_eq_true] at hdeleted
      exact ih h' hdeleted.2

/-- A quote that is left next to a token stood there before. -/
theorem head?_of_survivors (h : verdicts l content = before ++ after) (hx : x ∈ ['"', '\''])
    (hhead : (spelled (survivors after)).head? = some x) : (spelled (after.map (·.1))).head? = some x := by
  cases hdeleted : isDeleted after with
  | true =>
    have hend := endsLine_of_isDeleted hl hall h hdeleted
    obtain ⟨s, hs⟩ := List.head?_eq_some_iff.mp hhead
    rw [hs] at hend
    exact absurd hx hend.head_ne_quote
  | false =>
    cases after with
    | nil => cases hhead
    | cons m after =>
      obtain ⟨_, _, htext, -⟩ := token_head hl hall h
      rw [survivors, hdeleted, if_neg Bool.false_ne_true, spelled_cons, htext] at hhead
      rw [List.map_cons, spelled_cons, htext]
      exact hhead

theorem head?_newline_survivors (h : verdicts l content = before ++ after)
    (hhead : (spelled (after.map (·.1))).head? = some '\n') :
    (spelled (survivors after)).head? = some '\n' := by
  cases after with
  | nil => cases hhead
  | cons m after =>
    obtain ⟨t, gone⟩ := m
    obtain ⟨a, s, htext, hkind⟩ := token_head hl hall h
    obtain rfl : a = '\n' := by
      rw [List.map_cons, spelled_cons, htext] at hhead
      exact Option.some.inj hhead
    obtain ⟨hhash, -⟩ | ⟨hquote, -⟩ | ⟨-, hcode, -⟩ := hkind
    · exact absurd hhash (by decide)
    · exact absurd hquote (by decide)
    · rw [(survivors_cons_code h hcode rfl).2, spelled_cons, htext]
      rfl

/-! What is left is read again as the tokens that stayed. -/

/-- A survivor obeys the grammar in front of what is left behind it. -/
theorem rule_of_hashed_survivor (h : verdicts l content = before ++ (t, false) :: after) :
    l.TokenRule t.kind t.text (spelled (survivors after)) := by
  obtain ⟨-, -, hrule⟩ := rule_of_verdicts hall h
  obtain ⟨a, s, htext, hkind⟩ := token_head hl hall h
  have h' : verdicts l content = (before ++ [(t, false)]) ++ after := by simp [h]
  have hreread (hcode : ∀ c, t.kind ≠ .code c) : l.TokenRule t.kind t.text (spelled (survivors after)) := by
    refine hrule.reread (spelled_survivors_nil hall h') ?_ ?_ ?_ fun c hc => absurd hc (hcode c)
    · intro hnewline c hc
      rw [head?_newline_survivors hl hall h' hnewline] at hc
      exact (Option.some.inj hc).symm
    · intro q body hbody _ hopens
      rw [hbody] at hopens ⊢
      exact hl.opensLiteral_congr hopens _
    · intro hliteral
      rw [hliteral] at hrule
      exact opensTriple_reread hrule fun x hx => head?_of_survivors hl hall h' hx
  obtain ⟨-, hkind⟩ | ⟨-, triple, hkind⟩ | ⟨ha, hcode, rfl⟩ := hkind
  · exact hreread (by simp [hkind])
  · exact hreread (by simp [hkind])
  · rw [Token.code?_eq_some_iff.mp hcode, htext]
    exact hl.rule_code ha _

theorem tokens_of_hashed : l.tokens (spelled (survivors (verdicts l content))) =
    placed 0 (survivors (verdicts l content)) := by
  have hplaced := @tokens_placed l [] (survivors (verdicts l content)) hall <| by
    intro p t r hsplit
    obtain ⟨before, after, hms, -, rfl⟩ := exists_of_survivors hsplit
    obtain ⟨-, ⟨a, s, htext⟩, -⟩ := rule_of_verdicts hall hms
    rw [List.append_nil]
    exact ⟨by simp [htext], rule_of_hashed_survivor hl hall hms⟩
  rwa [List.append_nil, tokensFrom_nil, List.append_nil] at hplaced

/-! The verdicts on what is left. -/

/-- Behind text on a line, what is left ends the line only if all that stood there did. -/
theorem endsLine_of_survivors (h : verdicts l content = before ++ after)
    (hink : Text.isBlank (splitLastLine (spelled (survivors before))).2 = false)
    (hend : EndsLine (spelled (survivors after))) : EndsLine (spelled (after.map (·.1))) := by
  induction after generalizing before with
  | nil => trivial
  | cons m after ih =>
    obtain ⟨t, gone⟩ := m
    have h' : verdicts l content = (before ++ [(t, gone)]) ++ after := by simp [h]
    obtain ⟨a, s, htext, ⟨rfl, -⟩ | ⟨ha, triple, hkind⟩ | ⟨ha, hcode, rfl⟩⟩ := token_head hl hall h
    · rw [List.map_cons, spelled_cons, htext]
      exact .inr (.inl rfl)
    · -- A literal behind text on the line is no docstring, so it is left.
      have hstays : gone = false := by
        rw [judge_goes h (Nat.zero_le _), goes, Token.isComment, hkind]
        have hno : isDocstring l (spelled (survivors before)) (spelled (after.map (·.1))) = false := by
          rw [← Bool.not_eq_true, isDocstring_iff hl, BeginsLine, hink]
          simp
        simp [hno]
      have hblank : isBlankCode t = false := by simp [isBlankCode, Token.code?, hkind]
      rw [hstays, (survivors_cons hblank after).2, spelled_cons, htext] at hend
      exact absurd ha hend.head_ne_quote
    · rw [List.map_cons, spelled_cons, htext]
      by_cases hnewline : a = '\n'
      · exact .inl hnewline
      cases hblank : CharClass.isBlank a with
      | true =>
        rw [stays_of_code h hcode] at h' hend
        apply (endsLine_cons_blank hblank hnewline).mpr
        apply ih h'
        · rw [survivors_append_stays, spelled_append, spelled_cons, htext, spelled_nil, List.append_nil,
            lastLine_snoc, if_neg hnewline, Text.isBlank_append, hink, Bool.false_and]
        · rw [survivors] at hend
          split at hend
          · exact hend
          · rw [spelled_cons, htext] at hend
            exact (endsLine_cons_blank hblank hnewline).mp hend
      | false =>
        have hspace : isSpaceOrTab a = false := by
          rw [← Bool.not_eq_true, isSpaceOrTab_iff]
          rintro (rfl | rfl)
          · exact absurd hblank (by decide)
          · exact absurd hblank (by decide)
        rw [(survivors_cons_code h hcode hspace).2, spelled_cons, htext] at hend
        rcases hend.head with rfl | hblank'
        · exact absurd (by simp) ha
        · rw [hblank] at hblank'
          cases hblank'

end

theorem bracketDepth_survivors (ms : List (Token × Bool)) (h : ∀ m ∈ ms, m.2 = true → m.1.code? = none) :
    bracketDepth (survivors ms) = bracketDepth (ms.map (·.1)) := by
  suffices hfold : ∀ depth, ((survivors ms).filterMap Token.code?).foldl depthAfter depth =
      ((ms.map (·.1)).filterMap Token.code?).foldl depthAfter depth from hfold 0
  induction ms with
  | nil => exact fun _ => rfl
  | cons m ms ih =>
    intro depth
    have htail := ih fun m' hm' => h m' (List.mem_cons_of_mem m hm')
    rw [survivors, List.map_cons]
    split
    · next hdeleted =>
      rw [htail]
      cases hc : m.1.code? with
      | none => rw [List.filterMap_cons_none hc]
      | some c =>
        -- A character that is deleted is a space or tab, which is no bracket.
        have hspace : isSpaceOrTab c = true := by
          rw [isDeleted] at hdeleted
          cases hgone : m.2 with
          | true =>
            rw [h m List.mem_cons_self hgone] at hc
            cases hc
          | false =>
            rw [hgone, Bool.false_or, Bool.and_eq_true, isBlankCode, hc] at hdeleted
            exact hdeleted.1
        have hdepth : depthAfter depth c = depth := by
          rcases isSpaceOrTab_iff.mp hspace with rfl | rfl <;> rfl
        rw [List.filterMap_cons_some hc, List.foldl_cons, hdepth]
    · cases hc : m.1.code? with
      | none => rw [List.filterMap_cons_none hc, List.filterMap_cons_none hc, htail]
      | some c =>
        rw [List.filterMap_cons_some hc, List.filterMap_cons_some hc, List.foldl_cons, List.foldl_cons, htail]

theorem bracketDepth_placed (start : Nat) (ts : List Token) :
    bracketDepth (placed start ts) = bracketDepth ts := by
  suffices hcodes : (placed start ts).filterMap Token.code? = ts.filterMap Token.code? by
    rw [bracketDepth, bracketDepth, hcodes]
  induction ts generalizing start with
  | nil => rfl
  | cons t ts ih =>
    rw [placed, List.filterMap_cons, List.filterMap_cons, ih]
    rfl

theorem survivors_of_stay (ts : List Token) : survivors (ts.map (·, false)) = ts := by
  have hstays : ∀ ts : List Token, isDeleted (ts.map (·, false)) = false := by
    intro ts
    induction ts with
    | nil => rfl
    | cons t ts ih => rw [List.map_cons, isDeleted, ih, Bool.and_false, Bool.or_false]
  induction ts with
  | nil => rfl
  | cons t ts ih =>
    have ht : isDeleted ((t, false) :: ts.map (·, false)) = false := hstays (t :: ts)
    rw [List.map_cons, survivors, ht, ih]
    rfl

/-- Tokens of which each stays where all before it stay, stay. -/
theorem judge_of_stay (done : List Token) (h : ∀ p t r, ts = p ++ t :: r →
      goes l ((done ++ p).map (·, false)) t r = false) :
    judge l (done.map (·, false)) ts = (done ++ ts).map (·, false) := by
  induction ts generalizing done with
  | nil => rw [judge, List.append_nil]
  | cons t ts ih =>
    have ht := h [] t ts rfl
    rw [List.append_nil] at ht
    have htail := ih (done ++ [t]) <| by
      rintro p u r rfl
      rw [List.append_assoc]
      exact h (t :: p) u r rfl
    rw [List.map_append, List.append_assoc] at htail
    rw [judge, ht]
    exact htail

section
variable (hl : l.Hashed) (hall : l ∈ all)
include hl hall

/-- A token that stayed stays again. -/
theorem goes_again (h : survivors (verdicts l content) = p ++ t :: r) (start start' : Nat) :
    goes l ((placed 0 p).map (·, false)) { t with start } (placed start' r) = false := by
  obtain ⟨before, after, hms, rfl, rfl⟩ := exists_of_survivors h
  have hms' : verdicts l content = (before ++ [(t, false)]) ++ after := by simp [hms]
  obtain ⟨-, -, hrule⟩ := rule_of_verdicts hall hms
  have hstays := (judge_goes hms (Nat.zero_le _)).symm
  rw [goes, Bool.or_eq_false_iff] at hstays ⊢
  refine ⟨hstays.1, ?_⟩
  by_contra hgoes
  rw [Bool.not_eq_false, Bool.and_eq_true, Bool.and_eq_true, survivors_of_stay, spelled_placed,
    spelled_placed, isDocstring_iff hl, isOutside_iff, List.map_map] at hgoes
  obtain ⟨⟨htriple, hdepth⟩, hbegins, hends⟩ := hgoes
  have hkind : t.kind = .literal true := by simpa using htriple
  have hdepth' : bracketDepth (before.map (·.1)) = 0 := by
    have hsame : (placed 0 (survivors before)).map ((·.1) ∘ (·, false)) = placed 0 (survivors before) :=
      List.map_id _
    rw [hsame, bracketDepth_placed, bracketDepth_survivors] at hdepth
    · exact hdepth
    · rintro ⟨u, gone⟩ hm rfl
      obtain ⟨p, r, rfl⟩ := List.append_of_mem hm
      rw [List.append_assoc, List.cons_append] at hms
      exact goes_not_code (judge_goes hms (Nat.zero_le _)).symm
  have hdocstring : isDocstring l (spelled (survivors before)) (spelled (after.map (·.1))) = true := by
    refine (isDocstring_iff hl).mpr ⟨hbegins, ?_⟩
    rw [hkind] at hrule
    rcases quote_last hrule with hnil | ⟨x, hx, hlast⟩
    · rw [hnil]
      trivial
    · apply endsLine_of_survivors hl hall hms' _ hends
      obtain ⟨w, hw⟩ := List.getLast?_eq_some_iff.mp hlast
      rw [survivors_append_stays, spelled_append, spelled_cons, hw, spelled_nil, List.append_nil,
        ← List.append_assoc, lastLine_snoc]
      simp only [List.mem_cons, List.not_mem_nil, or_false] at hx
      have hquote : CharClass.isBlank x = false ∧ x ≠ '\n' := by
        rcases hx with rfl | rfl <;> decide
      simp [hquote]
  rw [htriple, (isOutside_iff _).mpr hdepth', hdocstring] at hstays
  simp at hstays

/-- Where only `#` opens comments, what is left once they are removed is read as the tokens that stayed, and
none of them goes when it is judged anew. -/
theorem verdicts_again (content : Text) : verdicts l (spelled (survivors (verdicts l content))) =
    (placed 0 (survivors (verdicts l content))).map (·, false) := by
  rw [verdicts, tokens_of_hashed hl hall]
  apply judge_of_stay []
  intro p t r hplaced
  obtain ⟨p', u, r', start', hsplit, rfl, rfl, rfl⟩ := exists_of_placed hplaced
  exact goes_again hl hall hsplit _ start'

end

/-- Where the path's lexicon has only line comments, a second removal changes nothing. -/
theorem removeComments_twice (h : forPath? path = some l) (hl : l = python ∨ l = shell) (content : Text) :
    let out := removeComments path content
    removeComments path out = out ∧
      (∀ t ∈ l.tokens out, t.isComment = true → l.isDirective t.text = true) ∧
      verdicts l out = (placed 0 (survivors (verdicts l content))).map (·, false) := by
  intro out
  obtain ⟨hhashed, hall⟩ := hashed_of_eq hl
  have hremove : ∀ content, removeComments path content = spelled (survivors (verdicts l content)) := by
    intro content
    rw [removeComments, h]
    exact keep_eq hall (tracks_nil _) rfl
  have hout : out = spelled (survivors (verdicts l content)) := hremove content
  have hagain := verdicts_again hhashed hall content
  rw [← hout] at hagain
  refine ⟨?_, ?_, hagain⟩
  · rw [hremove out, hagain, survivors_of_stay, spelled_placed, hout]
  · intro t ht hcomment
    rw [hout, tokens_of_hashed hhashed hall] at ht
    obtain ⟨u, hu, hkind, htext⟩ := exists_of_mem_placed ht
    rw [htext]
    apply isDirective_of_survivor hu
    rwa [Token.isComment, ← hkind]

/-- A docstring goes and the comment behind it too. A literal of an open expression, one inside brackets and
a directive stay, and stay again. -/
theorem docstring_removeComments_twice :
    let content := "#!/bin/py\n\"\"\"d\"\"\"\t# c\nx = \\\n'''a # '''\nf(\n'''b'''\n) # noqa\ny = '' # c\n'''e'''".toList
    let out := removeComments "a.py".toList content
    forPath? "a.py".toList = some python ∧ (python = python ∨ python = shell) ∧
      out = "#!/bin/py\n\nx = \\\n'''a # '''\nf(\n'''b'''\n) # noqa\ny = ''\n".toList ∧
      removeComments "a.py".toList out = out ∧
      (∀ t ∈ python.tokens out, t.isComment = true → python.isDirective t.text = true) ∧
      verdicts python out = (placed 0 (survivors (verdicts python content))).map (·, false) := by
  intro content out
  have h : forPath? "a.py".toList = some python := by decide +kernel
  exact ⟨h, .inl rfl, by decide +kernel, removeComments_twice h (.inl rfl) content⟩

end CodeDigest.CommentRemoval
