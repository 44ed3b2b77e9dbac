import CodeDigest.Proofs.Rereading

/-! Line terminators: how a text is read when each newline has a carriage return in front. The token that
ends where a line does takes the carriage return along, if it runs to the newline; all else stays. -/
namespace CodeDigest

namespace Text
variable {a s m x y : Text} {c : Char}

/-- The text with a carriage return in front of each newline. -/
def crlf (s : Text) : Text := s.flatMap fun c => if c = '\n' then ['\r', '\n'] else [c]

@[simp] theorem crlf_nil : crlf [] = [] := rfl

@[simp] theorem crlf_newline (s : Text) : crlf ('\n' :: s) = '\r' :: '\n' :: crlf s := rfl

theorem crlf_cons (hc : c ≠ '\n') (s : Text) : crlf (c :: s) = c :: crlf s := by
  simp [crlf, hc]

@[simp] theorem crlf_append (a b : Text) : crlf (a ++ b) = crlf a ++ crlf b := List.flatMap_append

theorem crlf_ne_nil (h : s ≠ []) : crlf s ≠ [] := by
  obtain ⟨c, s, rfl⟩ := List.exists_cons_of_ne_nil h
  by_cases hc : c = '\n'
  · simp [hc]
  · simp [crlf_cons hc]

theorem crlf_of_notMem (h : '\n' ∉ s) : crlf s = s := by
  induction s with
  | nil => rfl
  | cons c s ih =>
    rw [List.mem_cons, not_or] at h
    rw [crlf_cons (Ne.symm h.1), ih h.2]

/-- What a text with carriage returns starts with, if it holds neither terminator. -/
theorem exists_of_crlf_eq_append (hr : '\r' ∉ m) (hn : '\n' ∉ m) (h : crlf s = m ++ y) :
    ∃ z, s = m ++ z ∧ y = crlf z := by
  induction m generalizing s with
  | nil => exact ⟨s, rfl, h.symm⟩
  | cons a m ih =>
    rw [List.mem_cons, not_or] at hr hn
    cases s with
    | nil => cases h
    | cons c s =>
      by_cases hc : c = '\n'
      · rw [hc, crlf_newline] at h
        exact absurd (List.cons_eq_cons.mp h).1 hr.1
      · rw [crlf_cons hc] at h
        obtain ⟨rfl, htail⟩ := List.cons_eq_cons.mp h
        obtain ⟨z, rfl, hz⟩ := ih hr.2 hn.2 htail
        exact ⟨z, rfl, hz⟩

/-- What stands in a text with carriage returns, if it holds neither terminator. -/
theorem exists_of_crlf_eq (hne : m ≠ []) (hr : '\r' ∉ m) (hn : '\n' ∉ m) (h : crlf s = x ++ m ++ y) :
    ∃ x₀ y₀, s = x₀ ++ m ++ y₀ ∧ x = crlf x₀ ∧ y = crlf y₀ := by
  induction s generalizing x with
  | nil =>
    obtain ⟨hxm, -⟩ := List.append_eq_nil_iff.mp h.symm
    exact absurd (List.append_eq_nil_iff.mp hxm).2 hne
  | cons c s ih =>
    cases x with
    | nil =>
      obtain ⟨z, hs, hy⟩ := exists_of_crlf_eq_append hr hn h
      exact ⟨[], z, hs, rfl, hy⟩
    | cons a x =>
      by_cases hc : c = '\n'
      · subst hc
        rw [crlf_newline] at h
        obtain ⟨rfl, htail⟩ := List.cons_eq_cons.mp h
        cases x with
        | nil =>
          obtain ⟨b, m, rfl⟩ := List.exists_cons_of_ne_nil hne
          obtain ⟨rfl, -⟩ := List.cons_eq_cons.mp htail
          exact absurd List.mem_cons_self hn
        | cons b x =>
          obtain ⟨rfl, hrest⟩ := List.cons_eq_cons.mp htail
          obtain ⟨x₀, y₀, rfl, hx, hy⟩ := ih hrest
          exact ⟨'\n' :: x₀, y₀, rfl, by rw [crlf_newline, ← hx], hy⟩
      · rw [crlf_cons hc] at h
        obtain ⟨rfl, htail⟩ := List.cons_eq_cons.mp h
        obtain ⟨x₀, y₀, rfl, hx, hy⟩ := ih htail
        exact ⟨c :: x₀, y₀, rfl, by rw [crlf_cons hc, ← hx], hy⟩

theorem backslashes_snoc (s : Text) (c : Char) :
    backslashes (s ++ [c]) = if c = '\\' then backslashes s + 1 else 0 := by
  by_cases hc : c = '\\' <;> simp [backslashes, hc]

theorem escapes_crlf (s : Text) : Escapes (crlf s) ↔ Escapes s := by
  suffices h : backslashes (crlf s) = backslashes s by rw [Escapes, Escapes, h]
  induction s using List.reverseRecOn with
  | nil => rfl
  | append_singleton s c ih =>
    rw [crlf_append, backslashes_snoc]
    by_cases hc : c = '\n'
    · have hpair : crlf [c] = ['\r'] ++ ['\n'] := by rw [hc]; rfl
      rw [hpair, ← List.append_assoc, backslashes_snoc, hc]
      rfl
    · rw [crlf_cons hc, crlf_nil, backslashes_snoc, ih]

end Text

open Text

/-- Ends that hold no terminator are where they were. -/
theorem UpToEnd.crlf {ends : Text → Text → Text → Prop} {body rest : Text}
    (hplain : ∀ x m y, ends x m y → m ≠ [] ∧ '\r' ∉ m ∧ '\n' ∉ m)
    (hcrlf : ∀ x m y, ends (Text.crlf x) m (Text.crlf y) ↔ ends x m y) (h : UpToEnd ends body rest) :
    UpToEnd ends (Text.crlf body) (Text.crlf rest) := by
  cases h with
  | @closed before closing _ hends first =>
    obtain ⟨-, -, hn⟩ := hplain _ _ _ hends
    rw [crlf_append, crlf_of_notMem hn]
    refine .closed ((hcrlf _ _ _).mpr hends) ?_
    intro x m y heq hends'
    obtain ⟨hne, hr', hn'⟩ := hplain _ _ _ hends'
    have hall : Text.crlf (before ++ closing ++ rest) = x ++ m ++ y := by
      rw [crlf_append, crlf_append, crlf_of_notMem hn, heq]
    obtain ⟨x₀, y₀, hx, rfl, rfl⟩ := exists_of_crlf_eq hne hr' hn' hall
    have hle := first x₀ m y₀ hx.symm ((hcrlf _ _ _).mp hends')
    -- The part before the end is a part of what stands before the other end.
    obtain ⟨w, rfl⟩ : before <+: x₀ := by
      apply List.prefix_of_prefix_length_le _ _ hle
      · exact before ++ closing ++ rest
      · rw [List.append_assoc]
        exact List.prefix_append _ _
      · rw [hx, List.append_assoc]
        exact List.prefix_append _ _
    rw [crlf_append, List.length_append]
    exact Nat.le_add_right _ _
  | unclosed h =>
    apply UpToEnd.unclosed
    intro x m y heq hends
    obtain ⟨hne, hr, hn⟩ := hplain _ _ _ hends
    obtain ⟨x₀, y₀, hbody, rfl, rfl⟩ := exists_of_crlf_eq hne hr hn heq.symm
    exact h x₀ m y₀ hbody.symm ((hcrlf _ _ _).mp hends)

namespace Lexicon
variable {l : Lexicon} {s text body rest r : Text} {q : Quote} {kind : Token.Kind} {c : Char}

theorem looksLikeCharLiteral_of_crlf (h : looksLikeCharLiteral (c :: crlf s) = true) :
    looksLikeCharLiteral (c :: s) = true := by
  rcases s with _ | ⟨a, _ | ⟨b, s⟩⟩
  · exact h
  · by_cases ha : a = '\n'
    · rw [ha] at h
      cases h
    · rwa [crlf_cons ha] at h
  · by_cases ha : a = '\n'
    · rw [ha] at h
      cases h
    · rw [crlf_cons ha] at h
      by_cases hb : b = '\n'
      · rw [hb, crlf_newline] at h
        by_cases hback : a = '\\'
        · rw [hback]
          rfl
        · simp [looksLikeCharLiteral, hback] at h
      · rw [crlf_cons hb] at h
        exact (looksLikeCharLiteral_congr ..).trans h

/-- Nothing that opens a comment or a literal holds a terminator. -/
theorem opensNoMore_crlf (hl : l ∈ all) (s : Text) : OpensNoMore l (crlf s) s := by
  have hmarkers : ∀ l ∈ all, (∀ m ∈ l.lineMarkers, '\r' ∉ m.marker ∧ '\n' ∉ m.marker ∧
      m.unlessNext ≠ some '\n') ∧ ∀ b ∈ l.blockComment.toList, '\r' ∉ b.1 ∧ '\n' ∉ b.1 := by decide
  obtain ⟨hline, hblock⟩ := hmarkers l hl
  constructor
  · rintro ⟨m, hm, after, heq, unsuppressed⟩
    obtain ⟨hr, hn, hnext⟩ := hline m hm
    obtain ⟨z, rfl, rfl⟩ := exists_of_crlf_eq_append hr hn heq
    refine ⟨m, hm, z, rfl, ?_⟩
    rcases unsuppressed with hnone | hhead
    · exact .inl hnone
    · right
      cases z with
      | nil => exact hhead
      | cons c z =>
        by_cases hc : c = '\n'
        · rw [hc, List.head?_cons]
          exact hnext.symm
        · rwa [crlf_cons hc] at hhead
  · rintro ⟨opener, closer, hb, after, heq⟩
    obtain ⟨hr, hn⟩ := hblock _ (Option.mem_toList.mpr hb)
    obtain ⟨z, rfl, -⟩ := exists_of_crlf_eq_append hr hn heq.symm
    exact ⟨opener, closer, hb, z, rfl⟩
  · rintro ⟨ht, delimiter, hd, after, heq⟩
    have hplain : '\r' ∉ delimiter ∧ '\n' ∉ delimiter := by
      rcases mem_tripleDelimiters.mp hd with rfl | rfl <;> decide
    obtain ⟨z, rfl, -⟩ := exists_of_crlf_eq_append hplain.1 hplain.2 heq.symm
    exact ⟨ht, delimiter, hd, z, rfl⟩
  · intro q hq
    have hquote := hq.delimiter_mem
    obtain ⟨z, hz⟩ := List.head?_eq_some_iff.mp hq.head?_eq
    have hplain : q.delimiter ≠ '\r' ∧ q.delimiter ≠ '\n' := by
      constructor <;> intro he <;> simp [he] at hquote
    obtain ⟨w, rfl, -⟩ := exists_of_crlf_eq_append (m := [q.delimiter])
      (by simpa using hplain.1.symm) (by simpa using hplain.2.symm) hz
    rw [List.singleton_append, crlf_cons hplain.2] at hq
    exact hq.of_charLiteral looksLikeCharLiteral_of_crlf

/-- A literal that ends in front of a newline was closed, or it takes the carriage return along. -/
theorem literalLength_return (hm : q.multiline = false) (hq : q.delimiter ≠ '\r' ∧ q.delimiter ≠ '\n')
    (hn : '\n' ∉ body) (h : literalLength q (body ++ '\n' :: r) = body.length) :
    (∀ s, literalLength q (body ++ s) = body.length) ∨
      ∀ s, literalLength q (body ++ '\r' :: '\n' :: s) = body.length + 1 := by
  induction hlen : body.length using Nat.strongRecOn generalizing body with
  | ind n ih =>
    subst hlen
    cases body with
    | nil =>
      right
      intro s
      simp [literalLength_cons, hm, hq.1.symm, hq.2.symm]
    | cons b body =>
      rw [List.mem_cons, not_or] at hn
      rw [List.cons_append, literalLength_cons] at h
      simp only [List.cons_append, literalLength_cons, List.length_cons]
      split_ifs at h ⊢
      · cases body with
        | nil => simp at h
        | cons e body =>
          rw [List.mem_cons, not_or] at hn
          have hinner : literalLength q (body ++ '\n' :: r) = body.length := by simpa using h
          have hlt : body.length < (b :: e :: body).length := by
            simp only [List.length_cons]
            omega
          simpa using ih body.length hlt hn.2.2 hinner rfl
      · exact .inl fun _ => h
      · have hinner : literalLength q (body ++ '\n' :: r) = body.length := by simpa using h
        simpa using ih body.length (by simp) hn.2 hinner rfl

theorem closes_crlf (hm : q.multiline = true) (x m y : Text) :
    q.Closes (crlf x) m (crlf y) ↔ q.Closes x m y := by
  constructor
  · intro h
    generalize crlf y = y' at h
    cases h with
    | delimiter free => exact .delimiter fun he => mt (escapes_crlf x).mpr (free he)
    | newline hline _ => exact absurd (hm.symm.trans hline) (by decide)
  · intro h
    cases h with
    | delimiter free => exact .delimiter fun he => mt (escapes_crlf x).mp (free he)
    | newline hline _ => exact absurd (hm.symm.trans hline) (by decide)

/-- How the first token of a text is read when newlines have carriage returns: as it was, as the same with
the carriage return at the end of the line, or, if it is a quote in front of a newline and a quote, as a
character. -/
inductive ReadsCrlf (l : Lexicon) : Token.Kind → (text rest : Text) → Prop where
  | newline {rest : Text} : ReadsCrlf l (.code '\n') ['\n'] rest
  | same {kind : Token.Kind} {text rest : Text} (h : l.TokenRule kind (crlf text) (crlf rest))
      (hlast : kind = .lineComment → rest = []) : ReadsCrlf l kind text rest
  | ended {kind : Token.Kind} {text r : Text} (hk : kind = .lineComment ∨ kind = .literal false)
      (hn : '\n' ∉ text) (h : l.TokenRule kind (text ++ ['\r']) ('\n' :: crlf r)) :
      ReadsCrlf l kind text ('\n' :: r)
  | apostrophe {rest : Text} (h : l.TokenRule (.code '\'') ['\''] (crlf rest)) :
      ReadsCrlf l (.literal false) ['\''] rest

theorem OpensLiteral.backtick_of_multiline (h : l.OpensLiteral s q) :
    q.multiline = true ↔ q.delimiter = '`' := by
  cases h <;> simp

/-- What opens a literal opens it with carriage returns too, unless a newline between two quotes did. -/
theorem OpensLiteral.crlf (h : l.OpensLiteral (c :: s) q) :
    l.OpensLiteral (c :: Text.crlf s) q ∨
      q = ⟨'\'', false, true⟩ ∧ l.singleQuote = .charOrLifetime ∧ ∃ r, s = '\n' :: '\'' :: r := by
  cases h with
  | double h => exact .inl (.double h)
  | single h => exact .inl (.single h)
  | raw h => exact .inl (.raw h)
  | template h => exact .inl (.template h)
  | @escapedChar s h =>
    rw [crlf_cons (by decide)]
    exact .inl (.escapedChar h)
  | @char a s h ha =>
    by_cases hn : a = '\n'
    · exact .inr ⟨rfl, h, s, by rw [hn]⟩
    · rw [crlf_cons hn, crlf_cons (by decide)]
      exact .inl (.char h ha)

/-- A quote that opens nothing in front of a terminator. -/
theorem rule_apostrophe (hl : l ∈ all) (h : l.singleQuote = .charOrLifetime) (s : Text) :
    l.TokenRule (.code '\'') ['\''] ('\r' :: '\n' :: s) := by
  obtain ⟨noLine, noBlock⟩ :=
    (unambiguous_of_mem hl).not_comment_of_quote (c := '\'') (by simp) ('\r' :: '\n' :: s)
  refine .code noLine noBlock ?_ ?_
  · rintro ⟨-, delimiter, hd, hp⟩
    rcases mem_tripleDelimiters.mp hd with rfl | rfl <;> simp at hp
  · intro q hq
    rw [← quote?_eq_some_iff] at hq
    simp [quote?, h, looksLikeCharLiteral] at hq

/-- A literal that may hold newlines ends where it did. -/
theorem upToEnd_multiline (hm : q.multiline = true) (hq : q.delimiter ≠ '\r' ∧ q.delimiter ≠ '\n')
    (h : UpToEnd q.Closes body rest) : UpToEnd q.Closes (crlf body) (crlf rest) := by
  refine h.crlf ?_ (closes_crlf hm)
  intro x m y hends
  cases hends with
  | delimiter _ => exact ⟨by simp, by simpa using hq.1.symm, by simpa using hq.2.symm⟩
  | newline hline _ => exact absurd (hm.symm.trans hline) (by decide)

/-- A literal in one line ends where it did, or behind the carriage return of its line. -/
theorem upToEnd_oneLine (hm : q.multiline = false) (hback : q.delimiter ≠ '\\')
    (hq : q.delimiter ≠ '\r' ∧ q.delimiter ≠ '\n') (hn : '\n' ∉ body) (h : UpToEnd q.Closes body rest) :
    UpToEnd q.Closes body (crlf rest) ∨
      ∃ r, rest = '\n' :: r ∧ UpToEnd q.Closes (body ++ ['\r']) ('\n' :: crlf r) := by
  have hlength := (literalLength_eq_iff hback hq.2).mpr h
  rw [← literalLength_eq_iff hback hq.2]
  cases rest with
  | nil => exact .inl hlength
  | cons a r =>
    by_cases ha : a = '\n'
    · subst ha
      rcases literalLength_return hm hq hn hlength with hclosed | hopen
      · exact .inl (hclosed _)
      · refine .inr ⟨r, rfl, (literalLength_eq_iff hback hq.2).mp ?_⟩
        rw [List.append_assoc, List.length_append]
        exact hopen _
    · left
      apply literalLength_of_rest hlength (by simp)
      intro hhead
      exact absurd (Option.some.inj hhead) ha

theorem readsCrlf_literal (hl : l ∈ all) (hopens : l.OpensLiteral (q.delimiter :: (body ++ rest)) q)
    (noTriple : ¬l.OpensTriple (q.delimiter :: (body ++ rest))) (upTo : UpToEnd q.Closes body rest)
    (hlines : '\n' ∈ body → q.delimiter = '`') : l.ReadsCrlf (.literal false) (q.delimiter :: body) rest := by
  have hmem := hopens.delimiter_mem
  obtain ⟨hback, hnewline⟩ := hopens.delimiter_ne
  have hreturn : q.delimiter ≠ '\r' := by
    intro he
    simp [he] at hmem
  have noTriple' : ¬l.OpensTriple (q.delimiter :: crlf (body ++ rest)) := by
    rw [← crlf_cons hnewline]
    exact mt (opensNoMore_crlf hl _).triple noTriple
  rcases hopens.crlf with hopens' | ⟨rfl, hchar, r, hr⟩
  · have hrule : ∀ body' rest', body' ++ rest' = crlf (body ++ rest) → UpToEnd q.Closes body' rest' →
        l.TokenRule (.literal false) (q.delimiter :: body') rest' := by
      intro body' rest' hsame upTo'
      rw [← hsame] at hopens' noTriple'
      exact .literal hopens' noTriple' upTo'
    cases hm : q.multiline with
    | true =>
      refine .same ?_ (by simp)
      rw [crlf_cons hnewline]
      exact hrule _ _ (crlf_append ..).symm (upToEnd_multiline hm ⟨hreturn, hnewline⟩ upTo)
    | false =>
      have hn : '\n' ∉ body := by
        intro h
        have hmulti := hopens.backtick_of_multiline.mpr (hlines h)
        exact absurd (hm.symm.trans hmulti) (by decide)
      have hplain : crlf (body ++ rest) = body ++ crlf rest := by rw [crlf_append, crlf_of_notMem hn]
      rcases upToEnd_oneLine hm hback ⟨hreturn, hnewline⟩ hn upTo with hsame | ⟨r, rfl, hended⟩
      · refine .same ?_ (by simp)
        rw [crlf_cons hnewline, crlf_of_notMem hn]
        exact hrule _ _ hplain.symm hsame
      · refine .ended (.inr rfl) (by simp [hn, hnewline.symm]) (hrule _ _ ?_ hended)
        rw [hplain, crlf_newline]
        exact List.append_assoc body ['\r'] _
  · -- The literal is the quote alone, as the newline ends it.
    have hlength := (literalLength_eq_iff hback hnewline).mpr upTo
    obtain rfl : body = [] := by
      rw [hr, literalLength_cons] at hlength
      simpa using hlength.symm
    obtain rfl : rest = _ := hr
    exact .apostrophe (rule_apostrophe hl hchar _)

/-- The rule of a token holds with carriage returns, up to the one in front of the newline that ends it. -/
theorem TokenRule.readsCrlf (hl : l ∈ all) (h : l.TokenRule kind text rest)
    (hlines : kind = .literal false → '\n' ∈ text → text.head? = some '`') : l.ReadsCrlf kind text rest := by
  have hmarkers : ∀ l ∈ all, (∀ m ∈ l.lineMarkers, m.unlessNext ≠ some '\r') ∧
      ∀ b ∈ l.blockComment.toList, '\n' ∉ b.1 ∧ b.2 ≠ [] ∧ '\r' ∉ b.2 ∧ '\n' ∉ b.2 := by decide
  obtain ⟨hline, hblock⟩ := hmarkers l hl
  cases h with
  | @lineComment m more _ hm unsuppressed inLine stop =>
    cases rest with
    | nil =>
      refine .same ?_ fun _ => rfl
      rw [crlf_of_notMem inLine]
      exact .lineComment hm unsuppressed inLine stop
    | cons a r =>
      obtain rfl := stop a rfl
      refine .ended (.inl rfl) inLine ?_
      rw [List.append_assoc]
      refine .lineComment hm ?_ ?_ (by simp)
      · rcases unsuppressed with hnone | hhead
        · exact .inl hnone
        · right
          cases more with
          | nil => exact (hline m hm).symm
          | cons b more => exact hhead
      · rw [← List.append_assoc, List.mem_append, not_or]
        exact ⟨inLine, by decide⟩
  | @blockComment opener closer body _ hb upTo =>
    obtain ⟨hn, hne, hr', hn'⟩ := hblock _ (Option.mem_toList.mpr hb)
    refine .same ?_ (by simp)
    rw [crlf_append, crlf_of_notMem hn]
    refine .blockComment hb (upTo.crlf ?_ fun _ _ _ => Iff.rfl)
    rintro x m y rfl
    exact ⟨hne, hr', hn'⟩
  | @triple delimiter body _ ht hd upTo =>
    have hplain : delimiter ≠ [] ∧ '\r' ∉ delimiter ∧ '\n' ∉ delimiter := by
      rcases mem_tripleDelimiters.mp hd with rfl | rfl <;> decide
    refine .same ?_ (by simp)
    rw [crlf_append, crlf_of_notMem hplain.2.2]
    refine .triple ht hd (upTo.crlf ?_ ?_)
    · rintro x m y ⟨rfl, -⟩
      exact hplain
    · intro x m y
      rw [ClosesTriple, ClosesTriple, escapes_crlf]
  | @literal q body _ hopens noTriple upTo =>
    apply readsCrlf_literal hl hopens noTriple upTo
    intro hbody
    exact Option.some.inj (hlines rfl (List.mem_cons_of_mem _ hbody))
  | @code c _ noLine noBlock noTriple noLiteral =>
    by_cases hc : c = '\n'
    · rw [hc]
      exact .newline
    · have hmore := opensNoMore_crlf hl (c :: rest)
      refine .same ?_ (by simp)
      rw [crlf_cons hc] at hmore ⊢
      refine .code (mt hmore.line noLine) (mt hmore.block noBlock) (mt hmore.triple noTriple) ?_
      exact fun q => mt (hmore.literal q) (noLiteral q)

inductive Twins : List Token → List Token → Prop where
  | nil : Twins [] []
  | newline {i j k : Nat} {ts ts' : List Token} (h : Twins ts ts') :
      Twins (⟨.code '\n', i, ['\n']⟩ :: ts) (⟨.code '\r', j, ['\r']⟩ :: ⟨.code '\n', k, ['\n']⟩ :: ts')
  | same {kind : Token.Kind} {text : Text} {i j : Nat} {ts ts' : List Token}
      (hlast : kind = .lineComment → ts = []) (h : Twins ts ts') :
      Twins (⟨kind, i, text⟩ :: ts) (⟨kind, j, crlf text⟩ :: ts')
  | ended {kind : Token.Kind} {text : Text} {i j i' j' : Nat} {ts ts' : List Token}
      (hk : kind = .lineComment ∨ kind = .literal false) (hn : '\n' ∉ text) (h : Twins ts ts') :
      Twins (⟨kind, i, text⟩ :: ⟨.code '\n', i', ['\n']⟩ :: ts)
        (⟨kind, j, text ++ ['\r']⟩ :: ⟨.code '\n', j', ['\n']⟩ :: ts')
  | apostrophe {i j : Nat} {ts ts' : List Token} (h : Twins ts ts') :
      Twins (⟨.literal false, i, ['\'']⟩ :: ts) (⟨.code '\'', j, ['\'']⟩ :: ts')

theorem Twins.spelled_eq {ts ts' : List Token} (h : Twins ts ts') : spelled ts' = crlf (spelled ts) := by
  induction h with
  | nil => rfl
  | newline _ ih => simp [ih]
  | same _ _ ih => rw [spelled_cons, spelled_cons, crlf_append, ih]
  | ended _ hn _ ih => simp [ih, crlf_of_notMem hn]
  | apostrophe _ ih =>
    rw [spelled_cons, spelled_cons, crlf_append, ih]
    rfl

/-- A terminator in code is read alone. -/
theorem tokensFrom_terminator (hl : l ∈ all) (hc : c = '\r' ∨ c = '\n') (start : Nat) (s : Text) :
    l.tokensFrom start (c :: s) = ⟨.code c, start, [c]⟩ :: l.tokensFrom (start + Text.byteSize [c]) s := by
  have hunmarked : ∀ l ∈ all, l.Unmarked '\r' ∧ l.Unmarked '\n' := by decide
  have hmarked : l.Unmarked c := by
    obtain ⟨hr, hn⟩ := hunmarked l hl
    rcases hc with rfl | rfl
    · exact hr
    · exact hn
  rw [tokensFrom, tokenAt_of_unmarked hmarked]
  simp

/-- Where literals end in their lines, carriage returns change the tokens at the ends of lines only. -/
theorem twins_tokensFrom (hl : l ∈ all) (start start' : Nat) (s : Text)
    (hlines : ∀ t ∈ l.tokensFrom start s, t.kind = .literal false → '\n' ∈ t.text → t.text.head? = some '`') :
    Twins (l.tokensFrom start s) (l.tokensFrom start' (crlf s)) := by
  have hunambiguous := unambiguous_of_mem hl
  induction hlen : s.length using Nat.strongRecOn generalizing s start start' with
  | ind n ih =>
    subst hlen
    cases s with
    | nil =>
      rw [crlf_nil, tokensFrom_nil, tokensFrom_nil]
      exact .nil
    | cons c s =>
      obtain ⟨kind, u, rest, rfl, -, hrule⟩ := exists_tokenRule hunambiguous c s
      have htokens := hrule.tokensFrom_eq hunambiguous (List.cons_ne_nil c u) start
      rw [List.cons_append] at htokens
      rw [htokens] at hlines ⊢
      rw [List.forall_mem_cons] at hlines
      have hread := hrule.readsCrlf hl hlines.1
      have htail {start start' : Nat} {r : Text} (hle : r.length ≤ rest.length)
          (hr : ∀ t ∈ l.tokensFrom start r, t.kind = .literal false → '\n' ∈ t.text →
            t.text.head? = some '`') : Twins (l.tokensFrom start r) (l.tokensFrom start' (crlf r)) := by
        apply ih r.length _ _ _ _ hr rfl
        simp only [List.length_cons, List.length_append]
        omega
      rw [← List.cons_append, crlf_append]
      generalize htext : c :: u = text at hread hlines ⊢
      have hne : text ≠ [] := by simp [← htext]
      cases hread with
      | newline =>
        have hpair : crlf ['\n'] ++ crlf rest = '\r' :: '\n' :: crlf rest := rfl
        rw [hpair, tokensFrom_terminator hl (.inl rfl), tokensFrom_terminator hl (.inr rfl)]
        exact .newline (htail (Nat.le_refl _) hlines.2)
      | same h hlast =>
        rw [h.tokensFrom_eq hunambiguous (crlf_ne_nil hne)]
        refine .same ?_ (htail (Nat.le_refl _) hlines.2)
        intro hk
        rw [hlast hk, tokensFrom_nil]
      | @ended _ _ r hk hn h =>
        have hsplit : crlf text ++ crlf ('\n' :: r) = (text ++ ['\r']) ++ '\n' :: crlf r := by
          rw [crlf_of_notMem hn, crlf_newline, List.append_assoc]
          rfl
        rw [tokensFrom_terminator hl (.inr rfl), List.forall_mem_cons] at hlines
        rw [tokensFrom_terminator hl (.inr rfl), hsplit, h.tokensFrom_eq hunambiguous (by simp),
          tokensFrom_terminator hl (.inr rfl)]
        exact .ended hk hn (htail (Nat.le_succ _) hlines.2.2)
      | apostrophe h =>
        have hquote : crlf ['\''] = ['\''] := rfl
        rw [hquote, h.tokensFrom_eq hunambiguous (by simp)]
        exact .apostrophe (htail (Nat.le_refl _) hlines.2)

end Lexicon
end CodeDigest
