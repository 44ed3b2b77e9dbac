import CodeDigest.Proofs.CommentRemoval
import CodeDigest.Proofs.Rereading
import CodeDigest.Text.CharClass

/-! What the removal of comments joins. What stood on both sides of a comment that goes stands side by side
then, and is read together with what is behind it. -/
namespace CodeDigest

namespace Lexicon
variable {l : Lexicon} {s text body rest rest' : Text} {q : Quote} {kind : Token.Kind} {a : Char}

/-- No comment starts with a newline or a single quote. -/
theorem TokenRule.not_comment (hl : l ∈ all) (h : l.TokenRule kind (a :: s) rest)
    (ha : a ∈ ['\n', '\'']) : kind ≠ .lineComment ∧ kind ≠ .blockComment := by
  have hheads : ∀ l ∈ all,
      (∀ m ∈ l.lineMarkers, m.marker ≠ [] ∧ m.marker.head? ∉ ['\n', '\''].map some) ∧
      ∀ b ∈ l.blockComment.toList, b.1 ≠ [] ∧ b.1.head? ∉ ['\n', '\''].map some := by decide
  obtain ⟨hline, hblock⟩ := hheads l hl
  have hsome : some a ∈ ['\n', '\''].map some := List.mem_map_of_mem ha
  have hhead : ∀ {marker more : Text}, marker ≠ [] → a :: s = marker ++ more → marker.head? = some a := by
    intro marker more hne heq
    obtain ⟨b, marker, rfl⟩ := List.exists_cons_of_ne_nil hne
    exact congrArg some (List.cons_eq_cons.mp heq).1.symm
  generalize htext : a :: s = text at h
  constructor
  · rintro rfl
    cases h with
    | lineComment hm =>
      obtain ⟨hne, hnot⟩ := hline _ hm
      rw [hhead hne htext] at hnot
      exact hnot hsome
  · rintro rfl
    cases h with
    | blockComment hb =>
      obtain ⟨hne, hnot⟩ := hblock _ (Option.mem_toList.mpr hb)
      rw [hhead hne htext] at hnot
      exact hnot hsome

theorem tripleQuotes_of_blockComment (hl : l ∈ all) (hb : l.blockComment.isSome) :
    l.tripleQuotes = false := by
  have h : ∀ l ∈ all, l.blockComment.isSome → l.tripleQuotes = false := by decide
  exact h l hl hb

/-! Tokens that are moved up to one another. -/

/-- Tokens one behind the other, the first at a byte. -/
def placed (start : Nat) : List Token → List Token
  | [] => []
  | t :: ts => { t with start } :: placed (start + Text.byteSize t.text) ts

variable {start : Nat} {ts us p r : List Token} {t : Token}

@[simp] theorem spelled_placed (start : Nat) (ts : List Token) : spelled (placed start ts) = spelled ts := by
  induction ts generalizing start with
  | nil => rfl
  | cons t ts ih => rw [placed, spelled_cons, spelled_cons, ih]

theorem placed_append (start : Nat) (ts us : List Token) :
    placed start (ts ++ us) = placed start ts ++ placed (start + Text.byteSize (spelled ts)) us := by
  induction ts generalizing start with
  | nil => rfl
  | cons t ts ih =>
    rw [List.cons_append, placed, ih, placed, spelled_cons, Text.byteSize_append, Nat.add_assoc]
    rfl

theorem exists_of_placed (h : placed start ts = p ++ t :: r) :
    ∃ p' t' r' start', ts = p' ++ t' :: r' ∧ p = placed start p' ∧ r = placed start' r' ∧
      t = { t' with start := start + Text.byteSize (spelled p) } := by
  induction ts generalizing start p with
  | nil => simp [placed] at h
  | cons u ts ih =>
    rw [placed] at h
    cases p with
    | nil =>
      obtain ⟨rfl, rfl⟩ := List.cons_eq_cons.mp h
      exact ⟨[], u, ts, _, rfl, rfl, rfl, rfl⟩
    | cons a p =>
      obtain ⟨rfl, htail⟩ := List.cons_eq_cons.mp h
      obtain ⟨p', t', r', start', rfl, rfl, rfl, rfl⟩ := ih htail
      refine ⟨u :: p', t', r', start', rfl, rfl, rfl, ?_⟩
      rw [spelled_cons, Text.byteSize_append, Nat.add_assoc]

theorem exists_of_mem_placed (h : t ∈ placed start ts) : ∃ u ∈ ts, t.kind = u.kind ∧ t.text = u.text := by
  obtain ⟨p, r, hplaced⟩ := List.append_of_mem h
  obtain ⟨p', u, r', _, rfl, -, -, rfl⟩ := exists_of_placed hplaced
  exact ⟨u, by simp, rfl, rfl⟩

/-- Tokens that obey the grammar where they are placed are read there. -/
theorem tokens_placed (hl : l ∈ all) (h : ∀ p t r, ts = p ++ t :: r →
      t.text ≠ [] ∧ l.TokenRule t.kind t.text (spelled r ++ rest)) :
    l.tokens (spelled ts ++ rest) = placed 0 ts ++ l.tokensFrom (Text.byteSize (spelled ts)) rest := by
  have happend := @tokensFrom_append l rest (unambiguous_of_mem hl) 0 (placed 0 ts) <| by
    intro p t r hplaced
    obtain ⟨p', u, r', _, rfl, -, rfl, rfl⟩ := exists_of_placed hplaced
    obtain ⟨htext, hrule⟩ := h p' u r' rfl
    rw [spelled_placed]
    exact ⟨rfl, htext, hrule⟩
  rw [spelled_placed, Nat.zero_add] at happend
  exact happend

def OpensComment (l : Lexicon) (s : Text) : Prop := l.OpensLineComment s ∨ l.OpensBlockComment s

/-- With the tokens behind them, none of the code characters among some tokens opens a comment or a
literal. -/
def StaysCode (l : Lexicon) (ts after : List Token) : Prop :=
  ∀ p t r c, ts = p ++ t :: r → t.code? = some c →
    ¬l.OpensComment (c :: spelled (r ++ after)) ∧ ∀ q, ¬l.OpensLiteral (c :: spelled (r ++ after)) q

/-- Code that is read as code opens nothing. -/
theorem staysCode_of_tokens_eq (hl : l ∈ all) (h : l.tokens (spelled ts) = placed 0 ts) :
    l.StaysCode ts [] := by
  rintro p t r c rfl hc
  rw [placed_append, placed] at h
  have hrule := tokenRule_of_tokensFrom (unambiguous_of_mem hl) h
  rw [spelled_placed] at hrule
  dsimp only at hrule
  rw [Token.code?_eq_some_iff.mp hc] at hrule
  generalize t.text = text at hrule
  rw [List.append_nil]
  cases hrule with
  | code noLine noBlock _ noLiteral => exact ⟨not_or.mpr ⟨noLine, noBlock⟩, noLiteral⟩

/-- What opens a comment is read as one. -/
theorem exists_comment_of_opens (hl : l ∈ all) (h : l.OpensComment (a :: s)) (start : Nat) :
    ∃ u us, l.tokensFrom start (a :: s) = u :: us ∧ u.isComment = true ∧ u.start = start := by
  rw [tokensFrom]
  refine ⟨_, _, rfl, ?_, rfl⟩
  rw [Token.isComment]
  rcases h with hline | ⟨opener, closer, hb, hp⟩
  · rw [tokenAt_of_line hline]
    rfl
  · have noLine := (unambiguous_of_mem hl).not_line_of_block hb hp
    rw [tokenAt_of_block noLine hb hp]
    rfl

end Lexicon

namespace CommentRemoval
open Lexicon
variable {l : Lexicon} {content path : Text} {ms before after : List (Token × Bool)} {p r : List Token}
  {t : Token} {gone : Bool} {a : Char}

/-- A judged token among the tokens of the text: it holds a character and obeys the grammar. -/
theorem rule_of_verdicts (hl : l ∈ all) (h : verdicts l content = before ++ (t, gone) :: after) :
    l.tokens content = before.map (·.1) ++ t :: after.map (·.1) ∧ (∃ c s, t.text = c :: s) ∧
      l.TokenRule t.kind t.text (spelled (after.map (·.1))) := by
  have htokens : (verdicts l content).map (·.1) = l.tokens content := judge_tokens l [] _
  rw [h, List.map_append, List.map_cons] at htokens
  obtain ⟨c, s, -, -, -, htext⟩ := tokensFrom_eq_append_cons htokens.symm
  exact ⟨htokens.symm, ⟨c, _, htext⟩, tokenRule_of_tokensFrom (unambiguous_of_mem hl) htokens.symm⟩

theorem survivors_cons (h : isBlankCode t = false) (ms : List (Token × Bool)) :
    isDeleted ((t, false) :: ms) = false ∧ survivors ((t, false) :: ms) = t :: survivors ms := by
  have hstays : isDeleted ((t, false) :: ms) = false := by simp [isDeleted, h]
  exact ⟨hstays, by rw [survivors, hstays]; rfl⟩

private theorem exists_stays (h : survivors ms = p ++ t :: r) :
    ∃ before after, ms = before ++ (t, false) :: after ∧ isDeleted ((t, false) :: after) = false ∧
      survivors after = r := by
  induction ms generalizing p with
  | nil => simp [survivors] at h
  | cons m ms ih =>
    obtain ⟨u, gone⟩ := m
    rw [survivors] at h
    split at h
    · obtain ⟨before, after, rfl, hafter⟩ := ih h
      exact ⟨(u, gone) :: before, after, rfl, hafter⟩
    · next hstays =>
      cases p with
      | nil =>
        obtain ⟨rfl, hr⟩ := List.cons_eq_cons.mp h
        obtain rfl : gone = false := by
          cases gone with
          | true => exact absurd rfl hstays
          | false => rfl
        exact ⟨[], ms, rfl, Bool.not_eq_true _ ▸ hstays, hr⟩
      | cons v p =>
        obtain ⟨rfl, htail⟩ := List.cons_eq_cons.mp h
        obtain ⟨before, after, rfl, hafter⟩ := ih htail
        exact ⟨(u, gone) :: before, after, rfl, hafter⟩

/-- What stands on both sides of a survivor is what survives of the tokens before and behind it. -/
theorem exists_of_survivors (h : survivors ms = p ++ t :: r) :
    ∃ before after, ms = before ++ (t, false) :: after ∧ survivors before = p ∧ survivors after = r := by
  obtain ⟨before, after, rfl, hstays, rfl⟩ := exists_stays h
  refine ⟨before, after, rfl, ?_, rfl⟩
  rw [survivors_append before hstays, survivors, hstays] at h
  exact List.append_cancel_right h

/-- A comment that survives is a directive. -/
theorem isDirective_of_survivor (ht : t ∈ survivors (verdicts l content)) (hcomment : t.isComment = true) :
    l.isDirective t.text = true := by
  obtain ⟨p, r, hsplit⟩ := List.append_of_mem ht
  obtain ⟨before, after, hms, -, -⟩ := exists_of_survivors hsplit
  have hstays := judge_goes hms (Nat.zero_le _)
  rw [goes, hcomment] at hstays
  by_contra hdirective
  simp [hdirective] at hstays

/-- Where nothing stood nothing is left. -/
theorem spelled_survivors_nil (hl : l ∈ all) (h : verdicts l content = before ++ after)
    (hnil : spelled (after.map (·.1)) = []) : spelled (survivors after) = [] := by
  cases after with
  | nil => rfl
  | cons m after =>
    obtain ⟨-, ⟨c, s, htext⟩, -⟩ := rule_of_verdicts hl h
    rw [List.map_cons, spelled_cons, htext] at hnil
    cases hnil

section
variable (hl : l ∈ all) (hb : l.blockComment.isSome)
include hl hb

/-- Where there are block comments there are no docstrings, so just those comments go that are no
directives. -/
theorem goes_iff_of_blockComment (h : verdicts l content = before ++ (t, gone) :: after) :
    gone = true ↔ t.isComment = true ∧ ¬l.isDirective t.text = true := by
  obtain ⟨-, -, hrule⟩ := rule_of_verdicts hl h
  have hkind : t.kind ≠ .literal true := by
    intro hk
    rw [hk] at hrule
    generalize t.text = text at hrule
    cases hrule with
    | triple ht => exact absurd ht (by simp [tripleQuotes_of_blockComment hl hb])
  rw [judge_goes h (Nat.zero_le _), goes]
  simp [hkind]

/-- A token that starts with a newline or a single quote survives. -/
theorem exists_survivor_of_head (h : verdicts l content = before ++ after)
    (hhead : (spelled (after.map (·.1))).head? = some a) (ha : a ∈ ['\n', '\'']) :
    ∃ t gone after' s, after = (t, gone) :: after' ∧ t.text = a :: s ∧
      survivors after = t :: survivors after' := by
  cases after with
  | nil => simp at hhead
  | cons m after =>
    obtain ⟨t, gone⟩ := m
    obtain ⟨htokens, ⟨b, s, htext⟩, hrule⟩ := rule_of_verdicts hl h
    obtain rfl : b = a := by
      rw [List.map_cons, spelled_cons, htext] at hhead
      exact Option.some.inj hhead
    rw [htext] at hrule
    obtain ⟨hline, hblock⟩ := hrule.not_comment hl ha
    have hgone : gone = false := by
      rw [← Bool.not_eq_true, goes_iff_of_blockComment hl hb h, Token.isComment]
      simp [hline, hblock]
    have hblank : isBlankCode t = false := by
      rw [isBlankCode, Option.any_eq_false]
      intro c hc
      have ht : t ∈ l.tokens content := by simp [htokens]
      obtain rfl : b = c := by
        rw [text_of_code? ht hc] at htext
        exact (List.cons_eq_cons.mp htext).1.symm
      simp only [List.mem_cons, List.not_mem_nil, or_false] at ha
      rcases ha with rfl | rfl <;> decide
    rw [hgone]
    exact ⟨t, false, after, s, rfl, htext, (survivors_cons hblank after).2⟩

/-- What is left behind a token can stand in place of what stood there. -/
theorem replaces_survivors (h : verdicts l content = before ++ after) :
    Replaces (spelled (after.map (·.1))) (spelled (survivors after)) := by
  constructor
  · exact spelled_survivors_nil hl h
  · intro hline
    obtain ⟨t, _, after', s, -, htext, hsurvive⟩ := exists_survivor_of_head hl hb h hline (by simp)
    rw [hsurvive, spelled_cons, htext]
    rfl
  · intro s hs
    obtain ⟨t, gone, after', s', rfl, htext, hsurvive⟩ :=
      exists_survivor_of_head hl hb h (congrArg List.head? hs) (by simp)
    obtain ⟨htokens, -, -⟩ := rule_of_verdicts hl h
    -- The newline is a token of its own, so the quote begins the next one.
    have hnewline : t.text = ['\n'] := by
      obtain ⟨c, w, -, -, -, hread⟩ := tokensFrom_eq_append_cons htokens
      obtain rfl : c = '\n' := (List.cons_eq_cons.mp (hread.symm.trans htext)).1
      rw [hread, tokenAt_of_unmarked (unmarked_of_mem hl (by simp))]
      rfl
    have hquote : (spelled (after'.map (·.1))).head? = some '\'' := by
      rw [List.map_cons, spelled_cons, hnewline] at hs
      have htail : spelled (after'.map (·.1)) = '\'' :: s := (List.cons_eq_cons.mp hs).2
      rw [htail]
      rfl
    have h' : verdicts l content = (before ++ [(t, gone)]) ++ after' := by simp [h]
    obtain ⟨u, _, after'', v, -, hu, hsurvive'⟩ := exists_survivor_of_head hl hb h' hquote (by simp)
    rw [hsurvive, hsurvive', spelled_cons, spelled_cons, hnewline, hu]
    exact ⟨v ++ spelled (survivors after''), rfl⟩

/-- A survivor obeys the grammar in front of what is left behind it, unless it is code that opens
something now. -/
theorem rule_of_survivor (hsplit : survivors (verdicts l content) = p ++ t :: r)
    (hcode : ∀ c, t.code? = some c →
      ¬l.OpensComment (c :: spelled r) ∧ ∀ q, ¬l.OpensLiteral (c :: spelled r) q) :
    t.text ≠ [] ∧ l.TokenRule t.kind t.text (spelled r) := by
  obtain ⟨before, after, hms, -, rfl⟩ := exists_of_survivors hsplit
  obtain ⟨htokens, ⟨b, s, htext⟩, hrule⟩ := rule_of_verdicts hl hms
  refine ⟨by simp [htext], ?_⟩
  have hnoTriple := tripleQuotes_of_blockComment hl hb
  cases hc : t.code? with
  | none =>
    have hms' : verdicts l content = (before ++ [(t, false)]) ++ after := by simp [hms]
    refine hrule.replace (replaces_survivors hl hb hms') ?_ ?_
    · rintro - ⟨htriple, -⟩
      exact absurd htriple (by simp [hnoTriple])
    · intro c hkind
      rw [Token.code?_eq_some_iff.mpr hkind] at hc
      cases hc
  | some c =>
    obtain ⟨noComment, noLiteral⟩ := hcode c hc
    obtain ⟨noLine, noBlock⟩ := not_or.mp noComment
    have ht : t ∈ l.tokens content := by simp [htokens]
    rw [Token.code?_eq_some_iff.mp hc, text_of_code? ht hc]
    refine .code noLine noBlock ?_ noLiteral
    rintro ⟨htriple, -⟩
    exact absurd htriple (by simp [hnoTriple])

/-- Up to where code opens something, the tokens that stay are read again as what they were. -/
theorem tokens_survivors (hsplit : survivors (verdicts l content) = p ++ r) (h : l.StaysCode p r) :
    l.tokens (spelled (p ++ r)) = placed 0 p ++ l.tokensFrom (Text.byteSize (spelled p)) (spelled r) := by
  rw [spelled_append]
  apply tokens_placed hl
  rintro p' u r' rfl
  have hsplit' : survivors (verdicts l content) = p' ++ u :: (r' ++ r) := by simp [hsplit]
  have hrule := rule_of_survivor hl hb hsplit' fun c hc => h p' u r' c rfl hc
  rwa [spelled_append] at hrule

end

/-! Words on both sides of a comment that goes. -/

def isWord (t : Token) : Bool := t.code?.any fun c => CharClass.isAlphanumeric c || c = '_'

/-- A block comment that goes stands right before the second of two word characters, and between the first
and the comment stand only blanks and tokens that go. -/
def Divides (ms : List (Token × Bool)) (c d : Token) : Prop :=
  ∃ before between after comment goneC goneD,
    ms = before ++ (c, goneC) :: (between ++ (comment, true) :: (d, goneD) :: after) ∧
      isWord c = true ∧ isWord d = true ∧ comment.kind = .blockComment ∧
      ∀ m ∈ between, m.2 = true ∨ isBlankCode m.1 = true

theorem isWord_spec (h : isWord t = true) : t.isComment = false ∧ isBlankCode t = false := by
  obtain ⟨c, hc, hword⟩ := (Option.any_eq_true ..).mp h
  constructor
  · rw [Token.isComment, Token.code?_eq_some_iff.mp hc]
    rfl
  · rw [isBlankCode, hc, Option.any_some, ← Bool.not_eq_true, isSpaceOrTab_iff]
    rintro (rfl | rfl)
    · exact absurd hword (by decide)
    · exact absurd hword (by decide)

/-- Blanks and tokens that go are deleted all of them where the last one goes. -/
theorem survivors_of_gone {between : List (Token × Bool)}
    (h : ∀ m ∈ between, m.2 = true ∨ isBlankCode m.1 = true) (t : Token) (ms : List (Token × Bool)) :
    survivors (between ++ (t, true) :: ms) = survivors ms := by
  suffices hall : isDeleted (between ++ (t, true) :: ms) = true ∧
      survivors (between ++ (t, true) :: ms) = survivors ms from hall.2
  induction between with
  | nil => exact ⟨rfl, rfl⟩
  | cons m between ih =>
    obtain ⟨hdeleted, hsurvivors⟩ := ih fun m' hm' => h m' (List.mem_cons_of_mem _ hm')
    have hm : isDeleted (m :: (between ++ (t, true) :: ms)) = true := by
      rw [isDeleted, hdeleted, Bool.and_true, Bool.or_eq_true]
      exact h m List.mem_cons_self
    exact ⟨hm, by rw [List.cons_append, survivors, if_pos hm, hsurvivors]⟩

/-- Word characters that a comment divided stand side by side once it is gone. -/
theorem Divides.adjacent (hl : l ∈ all) (hb : l.blockComment.isSome) {c d : Token}
    (h : Divides (verdicts l content) c d) : [c, d] <:+: survivors (verdicts l content) := by
  obtain ⟨before, between, after, comment, goneC, goneD, hms, hc, hd, -, hbetween⟩ := h
  obtain ⟨hcomment, hblank⟩ := isWord_spec hc
  obtain ⟨hcomment', hblank'⟩ := isWord_spec hd
  have hgoneC : goneC = false := by
    rw [← Bool.not_eq_true, goes_iff_of_blockComment hl hb hms]
    simp [hcomment]
  have hms' : verdicts l content =
      (before ++ (c, goneC) :: (between ++ [(comment, true)])) ++ (d, goneD) :: after := by simp [hms]
  have hgoneD : goneD = false := by
    rw [← Bool.not_eq_true, goes_iff_of_blockComment hl hb hms']
    simp [hcomment']
  obtain ⟨hstays, hsurvivors⟩ := survivors_cons hblank (between ++ (comment, true) :: (d, goneD) :: after)
  rw [hms, hgoneC, survivors_append before hstays, hsurvivors, survivors_of_gone hbetween, hgoneD,
    (survivors_cons hblank' after).2]
  exact ⟨survivors before, survivors after, by simp⟩

/-- Under a lexicon with block comments, what is left reads as the tokens that stayed exactly when none of
its code characters opens a comment or a literal with what now stands behind it, and then no comment is read
but directives. If the first one that opens something opens a comment, that comment is read there. Word
characters with a comment between them, and perhaps blanks before it, are joined. -/
theorem removal_joins_iff (h : forPath? path = some l) (hb : l.blockComment.isSome) (content : Text) :
    let out := removeComments path content
    let kept := survivors (verdicts l content)
    out = spelled kept ∧ (l.tokens out = placed 0 kept ↔ l.StaysCode kept []) ∧
      (l.StaysCode kept [] → ∀ t ∈ l.tokens out, t.isComment = true → l.isDirective t.text = true) ∧
      (∀ p t r c, kept = p ++ t :: r → t.code? = some c → l.StaysCode p (t :: r) →
        l.OpensComment (c :: spelled r) → ∃ u us, l.tokens out = placed 0 p ++ u :: us ∧
          u.isComment = true ∧ u.start = Text.byteSize (spelled p)) ∧
      ∀ c d, Divides (verdicts l content) c d → [c, d] <:+: kept := by
  intro out kept
  have hl := mem_all_of_forPath? h
  have hout : out = spelled kept := by
    dsimp only [out]
    rw [removeComments, h]
    exact keep_eq hl (tracks_nil _) rfl
  have hread : l.StaysCode kept [] → l.tokens out = placed 0 kept := by
    intro hstays
    have hsplit : survivors (verdicts l content) = kept ++ [] := (List.append_nil _).symm
    have hall := tokens_survivors hl hb hsplit hstays
    rwa [List.append_nil, spelled_nil, tokensFrom_nil, List.append_nil, ← hout] at hall
  refine ⟨hout, ⟨?_, hread⟩, ?_, ?_, fun c d => Divides.adjacent hl hb⟩
  · intro htokens
    rw [hout] at htokens
    exact staysCode_of_tokens_eq hl htokens
  · intro hstays t ht hcomment
    rw [hread hstays] at ht
    obtain ⟨u, hu, hkind, htext⟩ := exists_of_mem_placed ht
    rw [htext]
    apply isDirective_of_survivor hu
    rwa [Token.isComment, ← hkind]
  · intro p t r c hsplit hc hstays hopens
    obtain ⟨u, us, hus, hcomment, hstart⟩ := exists_comment_of_opens hl hopens (Text.byteSize (spelled p))
    have ht : t.text = [c] := by
      obtain ⟨before, after, hms, -, -⟩ := exists_of_survivors hsplit
      obtain ⟨htokens, -, -⟩ := rule_of_verdicts hl hms
      have ht : t ∈ l.tokens content := by simp [htokens]
      exact text_of_code? ht hc
    have hall := tokens_survivors hl hb hsplit hstays
    rw [← hsplit, ← hout, spelled_cons, ht, List.singleton_append, hus] at hall
    exact ⟨u, us, hall, hcomment, hstart⟩

/-- A comment in front of a blank: what is left reads as the tokens that stayed, directive and all. -/
theorem spaced_removal_joins_iff :
    let content := "int /* a */ x = y /*b*/ / 2; // NOLINT\n".toList
    let out := removeComments "a.c".toList content
    let kept := survivors (verdicts cLike content)
    forPath? "a.c".toList = some cLike ∧ cLike.blockComment.isSome = true ∧ cLike.tokens out = placed 0 kept ∧
      out = spelled kept ∧ (cLike.tokens out = placed 0 kept ↔ cLike.StaysCode kept []) ∧
      (cLike.StaysCode kept [] →
        ∀ t ∈ cLike.tokens out, t.isComment = true → cLike.isDirective t.text = true) ∧
      (∀ p t r c, kept = p ++ t :: r → t.code? = some c → cLike.StaysCode p (t :: r) →
        cLike.OpensComment (c :: spelled r) → ∃ u us, cLike.tokens out = placed 0 p ++ u :: us ∧
          u.isComment = true ∧ u.start = Text.byteSize (spelled p)) ∧
      ∀ c d, Divides (verdicts cLike content) c d → [c, d] <:+: kept := by
  intro content out kept
  have h : forPath? "a.c".toList = some cLike := by decide +kernel
  have hread : cLike.tokens out = placed 0 kept := by decide +kernel
  exact ⟨h, rfl, hread, removal_joins_iff h rfl content⟩

/-- A division and a pointer become the opener of a comment that runs to the end, and two words become
one. -/
theorem divided_pointer_opens_comment :
    let out := removeComments "a.c".toList "x = a / /* d */*p;\ny = b;\n".toList
    out = "x = a /*p;\ny = b;\n".toList ∧
      (∃ t ∈ cLike.tokens out, t.isComment = true ∧ ¬cLike.isDirective t.text = true) ∧
      removeComments "a.c".toList "int /* c */x;\n".toList = "intx;\n".toList := by
  decide +kernel

end CommentRemoval
end CodeDigest
