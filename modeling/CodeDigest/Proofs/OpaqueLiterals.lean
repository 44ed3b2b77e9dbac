import CodeDigest.Emission.Block
import CodeDigest.Proofs.HeaderScan
import CodeDigest.Proofs.Rereading
import Mathlib.Data.Option.Basic

/-! The inside of a string has no effect outside of it: another inside leaves all other tokens as they are,
and moves no end of a signature or a body to another token. -/
namespace CodeDigest
variable {l : Lexicon} {start before after : Nat} {b b' s u v w x x' : Text} {p r ts ts' : List Token}
  {t t' : Token}

/-- A token behind a part of the text that had `before` bytes and now has `after` bytes. -/
def Token.moved (before after : Nat) (t : Token) : Token := { t with start := t.start + after - before }

namespace Lexicon

theorem tokensFrom_moved (l : Lexicon) (start before after : Nat) (s : Text) :
    (l.tokensFrom (start + before) s).map (Token.moved before after) = l.tokensFrom (start + after) s := by
  induction hn : s.length using Nat.strongRecOn generalizing start s with
  | ind n ih =>
    subst hn
    cases s with
    | nil => rw [tokensFrom_nil, tokensFrom_nil, List.map_nil]
    | cons c s =>
      rw [tokensFrom, tokensFrom, List.map_cons]
      have hlt : (s.drop (l.tokenAt c s).2).length < (c :: s).length := by
        rw [List.length_drop, List.length_cons]
        omega
      have htail := ih _ hlt (start + Text.byteSize (c :: s.take (l.tokenAt c s).2)) _ rfl
      rw [Nat.add_right_comm] at htail
      rw [htail, Nat.add_right_comm start after]
      have hstart : start + before + after - before = start + after := by omega
      simp only [Token.moved, hstart]

def quoted (s : Text) : Text := '"' :: (s ++ ['"'])

theorem byteSize_quoted (s : Text) : Text.byteSize (quoted s) = 2 + Text.byteSize s := by
  have hquote : '"'.utf8Size = 1 := rfl
  simp only [quoted, Text.byteSize_cons, Text.byteSize_append, Text.byteSize_nil, hquote]
  omega

/-- The inside of a string literal that does not end it early and does not look like another literal. -/
structure Inside (s : Text) : Prop where
  nonempty : s ≠ []
  plain : ∀ c ∈ s, c ≠ '"' ∧ c ≠ '\\' ∧ c ≠ '\n'
  head : s.head? ≠ some '\''

theorem literalLength_inside (hs : ∀ c ∈ s, c ≠ '"' ∧ c ≠ '\\' ∧ c ≠ '\n') (v : Text) :
    literalLength ⟨'"', false, true⟩ (s ++ ['"'] ++ v) = (s ++ ['"']).length := by
  induction s with
  | nil =>
    rw [List.nil_append, List.singleton_append, literalLength.eq_def]
    rfl
  | cons c s ih =>
    obtain ⟨hquote, hback, hnewline⟩ := hs c List.mem_cons_self
    have htail := ih fun a ha => hs a (List.mem_cons_of_mem c ha)
    rw [List.cons_append, List.cons_append, literalLength.eq_def]
    simp only [htail]
    simp [hquote, hback, hnewline]

theorem Inside.noTriple (h : Inside s) : ¬l.OpensTriple (quoted s ++ v) := by
  rintro ⟨-, delimiter, hd, hp⟩
  obtain ⟨a, s, rfl⟩ := List.exists_cons_of_ne_nil h.nonempty
  have ha := (h.plain a List.mem_cons_self).1
  rcases mem_tripleDelimiters.mp hd with rfl | rfl
  · obtain ⟨-, hp⟩ := List.cons_prefix_cons.mp hp
    exact ha (List.cons_prefix_cons.mp hp).1.symm
  · exact absurd (List.cons_prefix_cons.mp hp).1 (by decide)

/-- A string literal in which another text stands obeys the grammar. -/
theorem Inside.rule (h : Inside s) (hl : l.doubleQuote = true) (v : Text) :
    l.TokenRule (.literal false) (quoted s) v := by
  refine .literal (q := ⟨'"', false, true⟩) (.double hl) h.noTriple ?_
  apply (literalLength_eq_iff (by decide) (by decide)).mp
  exact literalLength_inside h.plain v

/-- Only a lexicon whose double quotes open literals reads a text in double quotes as one. -/
theorem doubleQuote_of_rule (h : l.TokenRule (.literal false) (quoted s) v) : l.doubleQuote = true := by
  generalize htext : quoted s = text at h
  cases h with
  | literal hopens =>
    obtain ⟨hquote, -⟩ := List.cons_eq_cons.mp htext
    rw [← quote?_eq_some_iff, ← hquote] at hopens
    by_contra hno
    simp [quote?, hno] at hopens

/-! What opens in front of a string does not depend on its inside. -/

/-- A marker without a quote that stands at the start of a text stands before the first quote in it. -/
theorem exists_before_quote {m : Text} (hm : '"' ∉ m) {after : Text} (h : w ++ '"' :: x = m ++ after) :
    ∃ y, w = m ++ y ∧ after = y ++ '"' :: x := by
  rcases List.append_eq_append_iff.mp h with ⟨y, hy, htail⟩ | h
  · cases y with
    | nil => exact ⟨[], by simpa using hy.symm, by simpa using htail.symm⟩
    | cons a y =>
      obtain ⟨rfl, -⟩ := List.cons_eq_cons.mp htail
      exact absurd (by simp [hy]) hm
  · exact h

theorem opensNoMore_before_quote (hl : l ∈ all) (hw : w ≠ []) (hne : x' ≠ [])
    (hdouble : x'.head? ≠ some '"') (hsingle : x'.head? ≠ some '\'') :
    OpensNoMore l (w ++ '"' :: x') (w ++ '"' :: x) := by
  have hmarkers : ∀ l ∈ all, (∀ m ∈ l.lineMarkers, '"' ∉ m.marker) ∧
      ∀ b ∈ l.blockComment.toList, '"' ∉ b.1 := by decide
  obtain ⟨hline, hblock⟩ := hmarkers l hl
  obtain ⟨c, w, rfl⟩ := List.exists_cons_of_ne_nil hw
  obtain ⟨a, x', rfl⟩ := List.exists_cons_of_ne_nil hne
  constructor
  · rintro ⟨m, hm, after, heq, unsuppressed⟩
    obtain ⟨y, hy, rfl⟩ := exists_before_quote (hline m hm) heq
    refine ⟨m, hm, y ++ '"' :: x, by rw [hy, List.append_assoc], ?_⟩
    cases y <;> exact unsuppressed
  · rintro ⟨opener, closer, hb, after, heq⟩
    obtain ⟨y, hy, rfl⟩ := exists_before_quote (hblock _ (Option.mem_toList.mpr hb)) heq.symm
    exact ⟨opener, closer, hb, y ++ '"' :: x, by rw [hy, List.append_assoc]⟩
  · rintro ⟨ht, delimiter, hd, hp⟩
    refine ⟨ht, delimiter, hd, ?_⟩
    obtain ⟨y, rfl, -, -⟩ := exists_of_mem_tripleDelimiters hd
    rcases w with _ | ⟨d, _ | ⟨e, w⟩⟩
    · simp only [List.cons_append, List.nil_append, List.cons_prefix_cons] at hp
      obtain ⟨-, hy, hya, -⟩ := hp
      exact absurd (congrArg some (hya.symm.trans hy)) hdouble
    · simpa [List.cons_prefix_cons] using hp
    · simpa [List.cons_prefix_cons] using hp
  · intro q hq
    refine hq.of_charLiteral ?_
    rcases w with _ | ⟨d, _ | ⟨e, w⟩⟩
    · intro hlooks
      simp [looksLikeCharLiteral, show a ≠ '\'' from fun ha => hsingle (congrArg some ha)] at hlooks
    · exact fun h => (looksLikeCharLiteral_congr ..).trans h
    · exact fun h => (looksLikeCharLiteral_congr ..).trans h

theorem replaces_before_quote (w x x' : Text) : Replaces (w ++ '"' :: x) (w ++ '"' :: x') := by
  constructor
  · simp
  · intro h
    cases w <;> exact h
  · intro s hs
    rcases w with _ | ⟨c, _ | ⟨d, w⟩⟩
    · exact absurd (List.cons_eq_cons.mp hs).1 (by decide)
    · obtain ⟨-, hs⟩ := List.cons_eq_cons.mp hs
      exact absurd (List.cons_eq_cons.mp hs).1 (by decide)
    · obtain ⟨hc, hs⟩ := List.cons_eq_cons.mp hs
      obtain ⟨hd, -⟩ := List.cons_eq_cons.mp hs
      exact ⟨w ++ '"' :: x', by rw [hc, hd]; rfl⟩

/-- With another inside in one string, all other tokens of a text stay, and those behind the string move by
the difference. -/
theorem tokensFrom_inside (hl : l ∈ all)
    (h : l.tokensFrom start (spelled p ++ quoted b ++ v) = p ++ t :: r)
    (hkind : t.kind = .literal false) (htext : t.text = quoted b) (hb : Inside b') :
    l.tokensFrom start (spelled p ++ quoted b' ++ v) = p ++ ⟨.literal false, t.start, quoted b'⟩ ::
      r.map (Token.moved (Text.byteSize b) (Text.byteSize b')) := by
  have hunambiguous := unambiguous_of_mem hl
  obtain ⟨c, s, rfl⟩ := List.exists_cons_of_ne_nil hb.nonempty
  have hc := (hb.plain c List.mem_cons_self).1
  have hrest : quoted b ++ v = spelled (t :: r) := by
    have hall := spelled_tokensFrom l start (spelled p ++ quoted b ++ v)
    rw [h, spelled_append, List.append_assoc] at hall
    exact (List.append_cancel_left hall).symm
  -- The tokens in front of the string are read again.
  have hlead : l.tokensFrom start (spelled p ++ (quoted (c :: s) ++ v)) =
      p ++ l.tokensFrom t.start (quoted (c :: s) ++ v) := by
    rw [tokensFrom_start h]
    apply tokensFrom_replace hunambiguous h
    · intro w
      rw [← hrest]
      exact replaces_before_quote _ _ _
    · intro w hw
      rw [← hrest]
      refine opensNoMore_before_quote hl hw (by simp) ?_ hb.head
      simpa using hc
  have hquote : l.doubleQuote = true := by
    have hrule := tokenRule_of_tokensFrom hunambiguous h
    rw [hkind, htext] at hrule
    exact doubleQuote_of_rule hrule
  have hread := (hb.rule hquote v).tokensFrom_eq hunambiguous (List.cons_ne_nil _ _) t.start
  have hr : r = l.tokensFrom (t.start + 2 + Text.byteSize b) v := by
    have hsplit : l.tokensFrom start (spelled p ++ quoted b ++ v) = (p ++ [t]) ++ r := by
      rw [h, List.append_assoc, List.singleton_append]
    obtain ⟨rest, hrest', hr⟩ := tokensFrom_eq_append hsplit
    have hrest : rest = v := by
      rw [spelled_append, spelled_cons, htext, spelled_nil, List.append_nil] at hrest'
      exact (List.append_cancel_left hrest').symm
    rw [hr, hrest, ← tokensFrom_stop h, Token.stop, htext, byteSize_quoted, Nat.add_assoc]
  rw [List.append_assoc, hlead, hread, hr, tokensFrom_moved, byteSize_quoted, Nat.add_assoc]

end Lexicon

namespace Emission
open Lexicon
variable {d : Dialect} {allowArrow : Bool} {C : Nat → Nat → Prop} {c : Char}

/-! Two scans over tokens of the same kinds at places that correspond. -/

def OneToOne (C : Nat → Nat → Prop) : Prop := ∀ x y x' y', C x y → C x' y' → (x = x' ↔ y = y')

structure Matches (C : Nat → Nat → Prop) (t t' : Token) : Prop where
  kind : t'.kind = t.kind
  start : C t.start t'.start
  stop : C t.stop t'.stop

theorem Matches.code? (h : Matches C t t') : t'.code? = t.code? := by
  rw [Token.code?, Token.code?, h.kind]

namespace HeaderScan
variable {h h' : HeaderScan}

/-- Two scans that know the same, but for the places. -/
structure Agrees (C : Nat → Nat → Prop) (h h' : HeaderScan) : Prop where
  depth : h'.depth = h.depth
  angle : h'.angle = h.angle
  codeEnd : C h.codeEnd h'.codeEnd
  lastCode : h'.lastCode = h.lastCode
  previous : Option.Rel (fun p p' => p'.1 = p.1 ∧ C p.2 p'.2) h.previous h'.previous
  pendingAssign : Option.Rel C h.pendingAssign h'.pendingAssign
  seenAssign : h'.seenAssign = h.seenAssign
  seenColon : h'.seenColon = h.seenColon

theorem Agrees.initial {x y : Nat} (h : C x y) : Agrees C (.start x) (.start y) :=
  ⟨rfl, rfl, h, rfl, .none, .none, rfl, rfl⟩

/-- Two scans stop at places that correspond, or both go on. -/
inductive StepsAlike (C : Nat → Nat → Prop) : HeaderStep → HeaderStep → Prop where
  | stop {o o' : Nat} (h : C o o') : StepsAlike C (.stop o) (.stop o')
  | go {h h' : HeaderScan} (ha : Agrees C h h') : StepsAlike C (.go h) (.go h')

theorem Agrees.adjacent? (hone : OneToOne C) (ha : Agrees C h h') {x y : Nat} (hxy : C x y) :
    h'.adjacent? y = h.adjacent? x := by
  have hprevious := ha.previous
  rw [HeaderScan.adjacent?, HeaderScan.adjacent?]
  generalize h.previous = p at hprevious ⊢
  generalize h'.previous = p' at hprevious ⊢
  cases hprevious with
  | none => rfl
  | some hp =>
    obtain ⟨hc, hend⟩ := hp
    simp only [Option.bind_some, hc, hone _ _ _ _ hend hxy]

/-- The verdicts on a character do not depend on places. -/
theorem Agrees.ends (ha : Agrees C h h') (d : Dialect) (allowArrow : Bool) (c : Char) (arrow : Bool) :
    h'.endsBefore d c = h.endsBefore d c ∧
      h'.endsBehind d allowArrow c arrow = h.endsBehind d allowArrow c arrow := by
  simp only [HeaderScan.endsBefore, HeaderScan.endsBehind, ha.depth, ha.angle, ha.lastCode,
    ha.seenAssign, ha.seenColon, and_self]

theorem Agrees.adjust (ha : Agrees C h h') (c : Char) (adjacent : Option Char) {x y : Nat} (hxy : C x y) :
    Agrees C (h.adjust d c adjacent x) (h'.adjust d c adjacent y) := by
  simp only [HeaderScan.adjust, ha.depth, ha.angle]
  split_ifs
  · exact ha
  · exact { ha with depth := rfl, angle := rfl }
  · exact ha
  · exact { ha with depth := rfl, angle := rfl }
  · exact { ha with depth := rfl, angle := rfl, pendingAssign := .some hxy }
  · exact { ha with depth := rfl, angle := rfl, seenColon := rfl }
  · exact { ha with depth := rfl, angle := rfl }
  · exact { ha with depth := rfl, angle := rfl }
  · exact { ha with depth := rfl, angle := rfl }
  · exact { ha with depth := rfl, angle := rfl }
  · exact ha

theorem takeCode_agrees (hone : OneToOne C) (ha : Agrees C h h') (c : Char) {x y x' y' : Nat}
    (hstart : C x y) (hstop : C x' y') :
    StepsAlike C (h.takeCode d allowArrow c x x') (h'.takeCode d allowArrow c y y') := by
  have hadjacent := ha.adjacent? hone hstart
  cases hblank : CharClass.isBlank c with
  | true =>
    simp only [HeaderScan.takeCode, hblank, if_true, ha.depth, ha.angle]
    split_ifs
    · exact .stop ha.codeEnd
    · exact .go { ha with depth := rfl, angle := rfl, previous := .some ⟨rfl, hstop⟩ }
  | false =>
    obtain ⟨g, hdepth, hangle, hend, hlast, hprevious, hpending, hcolon, hassign, htake⟩ :=
      takeCode_ink d allowArrow h x x' hblank
    obtain ⟨g', hdepth', hangle', hend', hlast', hprevious', hpending', hcolon', hassign', htake'⟩ :=
      takeCode_ink d allowArrow h' y y' hblank
    -- An assignment that ends where the arrow's character starts does so in both scans.
    have hsettled : g'.seenAssign = g.seenAssign := by
      have hpendings := ha.pendingAssign
      rw [Bool.eq_iff_iff, hassign, hassign', ha.seenAssign, hadjacent]
      generalize h.pendingAssign = s at hpendings ⊢
      generalize h'.pendingAssign = s' at hpendings ⊢
      cases hpendings with
      | none => simp
      | some hs => simp [hone _ _ _ _ hs hstart]
    have hg : Agrees C g g' := by
      refine ⟨?_, ?_, ?_, ?_, ?_, ?_, hsettled, ?_⟩
      · rw [hdepth, hdepth', ha.depth]
      · rw [hangle, hangle', ha.angle]
      · rw [hend, hend']
        exact ha.codeEnd
      · rw [hlast, hlast', ha.lastCode]
      · rw [hprevious, hprevious']
        exact .some ⟨rfl, hstop⟩
      · rw [hpending, hpending']
        exact .none
      · rw [hcolon, hcolon', ha.seenColon]
    obtain ⟨hbefore, hbehind⟩ := hg.ends d allowArrow c (c = '>' && h.adjacent? x = some '=')
    rw [htake, htake', hadjacent, hbefore, hbehind]
    split_ifs
    · exact .stop hg.codeEnd
    · exact .stop hstop
    · exact .go { hg.adjust c (h.adjacent? x) hstop with codeEnd := hstop, lastCode := rfl }

/-- One token further, two scans that know the same stop alike or know the same again. -/
theorem take_agrees (d : Dialect) (allowArrow : Bool) (hone : OneToOne C) (ha : Agrees C h h')
    (ht : Matches C t t') :
    StepsAlike C (h.take d allowArrow t) (h'.take d allowArrow t') := by
  rw [HeaderScan.take, HeaderScan.take, ht.kind]
  cases t.kind with
  | lineComment | blockComment => exact .go ha
  | literal triple => exact .go { ha with codeEnd := ht.stop, lastCode := rfl, previous := .none }
  | code c => exact takeCode_agrees hone ha c ht.start ht.stop

/-- Two scans that know the same end at places that correspond. -/
theorem run_agrees (hone : OneToOne C) (hts : List.Forall₂ (Matches C) ts ts') (ha : Agrees C h h') :
    C (h.run d allowArrow ts) (h'.run d allowArrow ts') := by
  induction hts generalizing h h' with
  | nil => exact ha.codeEnd
  | cons ht _ ih =>
    have hstep := take_agrees d allowArrow hone ha ht
    rw [HeaderScan.run, HeaderScan.run]
    generalize h.take d allowArrow _ = step at hstep ⊢
    generalize h'.take d allowArrow _ = step' at hstep ⊢
    cases hstep with
    | stop ho => exact ho
    | go ha' => exact ih ha'

end HeaderScan

/-- Two searches for the end of a body end at places that correspond, or both find none. -/
theorem closeOf?_agrees (openers : List Char) (hts : List.Forall₂ (Matches C) ts ts') (depth : Nat)
    (opened : Bool) : Option.Rel C (closeOf? openers depth opened ts) (closeOf? openers depth opened ts') := by
  induction hts generalizing depth opened with
  | nil => exact .none
  | cons ht _ ih =>
    rw [closeOf?, closeOf?, ht.code?]
    split
    · exact ih _ _
    · split_ifs
      · exact ih _ _
      · exact .some ht.start
      · exact ih _ _
      · exact ih _ _

/-! The places between tokens. -/

def SamePlace (start : Nat) (ts ts' : List Token) (x y : Nat) : Prop :=
  ∃ n, x = start + Text.byteSize (spelled (ts.take n)) ∧ y = start + Text.byteSize (spelled (ts'.take n))

theorem byteSize_take_inj {n m : Nat} (hts : ∀ t ∈ ts, t.text ≠ []) :
    Text.byteSize (spelled (ts.take n)) = Text.byteSize (spelled (ts.take m)) ↔
      min n ts.length = min m ts.length := by
  rw [← List.take_eq_take_iff]
  refine ⟨?_, fun h => by rw [h]⟩
  intro h
  wlog hle : n ≤ m generalizing n m
  · exact (this h.symm (Nat.le_of_not_le hle)).symm
  obtain ⟨w, hw⟩ := List.take_prefix_take_left (l := ts) hle
  rw [← hw, spelled_append, Text.byteSize_append] at h
  have hempty : spelled w = [] := Text.eq_nil_of_byteSize_eq_zero (by omega)
  cases w with
  | nil => rw [← hw, List.append_nil]
  | cons t w =>
    have ht : t ∈ ts.take m := by simp [← hw]
    rw [spelled_cons] at hempty
    exact absurd (List.append_eq_nil_iff.mp hempty).1 (hts t (List.mem_of_mem_take ht))

/-- Where two texts have tokens of the same kinds, each place of the one is one place of the other. -/
theorem oneToOne_samePlace (hlength : (l.tokensFrom start s).length = (l.tokensFrom start w).length) :
    OneToOne (SamePlace start (l.tokensFrom start s) (l.tokensFrom start w)) := by
  rintro _ _ _ _ ⟨n, rfl, rfl⟩ ⟨m, rfl, rfl⟩
  rw [Nat.add_left_cancel_iff, Nat.add_left_cancel_iff, byteSize_take_inj fun _ => text_ne_nil,
    byteSize_take_inj fun _ => text_ne_nil, hlength]

theorem forall₂_matches
    (hkinds : (l.tokensFrom start w).map (·.kind) = (l.tokensFrom start s).map (·.kind)) :
    List.Forall₂ (Matches (SamePlace start (l.tokensFrom start s) (l.tokensFrom start w)))
      (l.tokensFrom start s) (l.tokensFrom start w) := by
  have hsplit : ∀ s i, (hi : i < (l.tokensFrom start s).length) →
      l.tokensFrom start s = (l.tokensFrom start s).take i ++
        (l.tokensFrom start s)[i] :: (l.tokensFrom start s).drop (i + 1) := by
    intro s i hi
    rw [← List.drop_eq_getElem_cons hi, List.take_append_drop]
  have hlength : (l.tokensFrom start s).length = (l.tokensFrom start w).length := by
    simpa using (congrArg List.length hkinds).symm
  rw [List.forall₂_iff_get]
  refine ⟨hlength, ?_⟩
  intro i hi hi'
  rw [List.get_eq_getElem, List.get_eq_getElem]
  constructor
  · have hget := congrArg (·[i]?) hkinds
    simpa [List.getElem?_eq_getElem hi, List.getElem?_eq_getElem hi'] using hget
  · exact ⟨i, tokensFrom_start (hsplit s i hi), tokensFrom_start (hsplit w i hi')⟩
  · refine ⟨i + 1, ?_, ?_⟩
    · rw [tokensFrom_stop (hsplit s i hi), List.take_succ_eq_append_getElem hi]
    · rw [tokensFrom_stop (hsplit w i hi'), List.take_succ_eq_append_getElem hi']

/-- Another inside in a string leaves the tokens before it as they are and moves those behind it by the
difference. So in two ranges that differ in the inside of a string, signatures and bodies end at the same
place between the tokens. -/
theorem string_inside_opaque (hl : l ∈ all)
    (ht : ⟨.literal false, start + Text.byteSize u, quoted b⟩ ∈ l.tokensFrom start (u ++ quoted b ++ v))
    (hb : Inside b') :
    let old := l.tokensFrom start (u ++ quoted b ++ v)
    let new := l.tokensFrom start (u ++ quoted b' ++ v)
    (∃ p r, spelled p = u ∧ spelled r = v ∧
      old = p ++ ⟨.literal false, start + Text.byteSize u, quoted b⟩ :: r ∧
      new = p ++ ⟨.literal false, start + Text.byteSize u, quoted b'⟩ ::
        r.map (Token.moved (Text.byteSize b) (Text.byteSize b'))) ∧
    ∀ (d : Dialect) (s s' : Source) (stop stop' : Nat),
      s.slice? start stop = some (u ++ quoted b ++ v) →
      s'.slice? start stop' = some (u ++ quoted b' ++ v) →
      (∀ allowArrow, SamePlace start old new (cutSignature ⟨d, l⟩ s start stop allowArrow)
        (cutSignature ⟨d, l⟩ s' start stop' allowArrow)) ∧
      Option.Rel (SamePlace start old new) (matchingClose? ⟨d, l⟩ s start stop)
        (matchingClose? ⟨d, l⟩ s' start stop') := by
  intro old new
  obtain ⟨p, r, hold⟩ := List.append_of_mem ht
  have hspelled := spelled_tokensFrom l start (u ++ quoted b ++ v)
  rw [hold, spelled_append, spelled_cons, List.append_assoc] at hspelled
  have hstart : start + Text.byteSize u = start + Text.byteSize (spelled p) := tokensFrom_start hold
  obtain ⟨hu, hrest⟩ := Text.append_inj_of_byteSize_eq hspelled (by omega)
  have hv : spelled r = v := List.append_cancel_left hrest
  rw [← hu] at hold
  have hnew := tokensFrom_inside hl hold rfl rfl hb
  rw [hu] at hold hnew
  have hkinds : new.map (·.kind) = old.map (·.kind) := by
    dsimp only [old, new]
    rw [hold, hnew]
    simp [Token.moved, Function.comp_def]
  have hmatches := forall₂_matches hkinds
  have hone := oneToOne_samePlace hmatches.length_eq
  refine ⟨⟨p, r, hu, hv, hold, hnew⟩, ?_⟩
  intro d s s' stop stop' hs hs'
  constructor
  · intro allowArrow
    rw [cutSignature, cutSignature, hs, hs']
    apply HeaderScan.run_agrees hone hmatches
    exact .initial ⟨0, rfl, rfl⟩
  · rw [matchingClose?, matchingClose?, hs, hs']
    exact closeOf?_agrees _ hmatches 0 false

/-- Brackets, an arrow and a comment in the default value of a parameter. -/
theorem bracket_in_string_opaque :
    let u := "function f(a: string = ".toList
    let v := ") \x7b\n  return a;\n\x7d\n".toList
    let b := "x".toList
    let b' := "\x7d) => \x7b // ' \x7b".toList
    let s := Source.ofText (u ++ quoted b ++ v)
    let s' := Source.ofText (u ++ quoted b' ++ v)
    let old := Lexicon.javascript.tokensFrom 0 (u ++ quoted b ++ v)
    let new := Lexicon.javascript.tokensFrom 0 (u ++ quoted b' ++ v)
    let surface : Surface := ⟨.typescript, .javascript⟩
    Lexicon.javascript ∈ all ∧ ⟨.literal false, 0 + Text.byteSize u, quoted b⟩ ∈ old ∧ Inside b' ∧
    s.slice? 0 44 = some (u ++ quoted b ++ v) ∧ s'.slice? 0 57 = some (u ++ quoted b' ++ v) ∧
    cutSignature surface s 0 44 true = 27 ∧ cutSignature surface s' 0 57 true = 40 ∧
    (∃ p r, spelled p = u ∧ spelled r = v ∧
      old = p ++ ⟨.literal false, 0 + Text.byteSize u, quoted b⟩ :: r ∧
      new = p ++ ⟨.literal false, 0 + Text.byteSize u, quoted b'⟩ ::
        r.map (Token.moved (Text.byteSize b) (Text.byteSize b'))) ∧
    (∀ allowArrow, SamePlace 0 old new (cutSignature surface s 0 44 allowArrow)
      (cutSignature surface s' 0 57 allowArrow)) ∧
    Option.Rel (SamePlace 0 old new) (matchingClose? surface s 0 44) (matchingClose? surface s' 0 57) := by
  intro u v b b' s s' old new surface
  have hl : Lexicon.javascript ∈ all := by simp [all]
  have ht : ⟨.literal false, 0 + Text.byteSize u, quoted b⟩ ∈ old := by decide +kernel
  have hb : Inside b' := ⟨by decide, by simp [b'], by decide⟩
  have hs : s.slice? 0 44 = some (u ++ quoted b ++ v) := by decide +kernel
  have hs' : s'.slice? 0 57 = some (u ++ quoted b' ++ v) := by decide +kernel
  obtain ⟨htokens, hcuts⟩ := string_inside_opaque hl ht hb
  obtain ⟨hcut, hclose⟩ := hcuts .typescript s s' 44 57 hs hs'
  exact ⟨hl, ht, hb, hs, hs', by decide +kernel, by decide +kernel, htokens, hcut, hclose⟩

end Emission
end CodeDigest
