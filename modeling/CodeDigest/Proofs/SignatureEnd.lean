import CodeDigest.Proofs.HeaderScan
import CodeDigest.Proofs.Rereading

/-! Where a signature ends, in every dialect: behind a literal or behind code that shows, and outside all
brackets. -/
namespace CodeDigest.Emission
open Brackets Lexicon
variable {l : Lexicon} {d : Dialect} {allowArrow : Bool} {start limit : Nat} {region text rest : Text}
  {p ts r : List Token} {t : Token} {kind : Token.Kind} {c : Char}

namespace HeaderScan
variable {h h' : HeaderScan}

/-- Nothing stands behind the last mark, or nothing at all. -/
def EndsInMark (p : List Token) : Prop := ∀ t ∈ p.getLast?, (mark? t).isSome

/-- What a scan that started at an offset knows in every dialect: how many brackets are open, and where the
last code or literal ends. -/
structure Follows (start : Nat) (p : List Token) (h : HeaderScan) : Prop where
  depth : ∃ due, due? [] p = some due ∧ h.depth = due.length
  codeEnd : ∃ a b, p = a ++ b ∧ EndsInMark a ∧ (∀ t ∈ b, mark? t = none) ∧
    h.codeEnd = start + Text.byteSize (spelled a)

theorem Follows.initial (start : Nat) : Follows start [] (HeaderScan.start start) where
  depth := ⟨[], rfl, rfl⟩
  codeEnd := ⟨[], [], rfl, by simp [EndsInMark], by simp, rfl⟩

theorem not_ink_of_mark? (h : mark? t = none) : ¬IsInk t := by
  rintro ⟨c, hc, hblank⟩
  rw [mark?_of_code? hc hblank] at h
  cases h

theorem due?_of_no_mark {due : List Char} (h : ∀ t ∈ ts, mark? t = none) : due? due ts = some due := by
  induction ts with
  | nil => rfl
  | cons t ts ih =>
    have ht := take?_of_isPlain (isPlain_of_not_ink (not_ink_of_mark? (h t List.mem_cons_self))) due
    rw [due?_cons, ht, Option.bind_some]
    exact ih fun u hu => h u (List.mem_cons_of_mem t hu)

/-- An offset behind a nested first part of the tokens that ends in a mark, or is empty. -/
def EndsAt (start : Nat) (p : List Token) (stop : Nat) : Prop :=
  ∃ a b, p = a ++ b ∧ EndsInMark a ∧ Nested a ∧ stop = start + Text.byteSize (spelled a)

theorem EndsAt.append {stop : Nat} (h : EndsAt start p stop) (ts : List Token) :
    EndsAt start (p ++ ts) stop := by
  obtain ⟨a, b, rfl, hend⟩ := h
  exact ⟨a, b ++ ts, List.append_assoc a b ts, hend⟩

/-- Outside all brackets the code up to the last mark is nested. -/
theorem Follows.endsAt (hf : Follows start p h) (hdepth : h.depth = 0) : EndsAt start p h.codeEnd := by
  obtain ⟨due, hdue, hlength⟩ := hf.depth
  obtain ⟨a, b, rfl, hmark, hb, hend⟩ := hf.codeEnd
  refine ⟨a, b, rfl, hmark, ?_, hend⟩
  rw [hdepth, eq_comm, List.length_eq_zero_iff] at hlength
  rw [due?_append, Option.bind_eq_some_iff] at hdue
  obtain ⟨due', ha, hrest⟩ := hdue
  rw [due?_of_no_mark hb, hlength] at hrest
  rw [Nested, ha, hrest]

/-- A token without a mark leaves the scan as it was, but for what stands right behind it. -/
theorem Follows.snoc_of_no_mark (hf : Follows start p h) (ht : mark? t = none)
    (hdepth : h'.depth = h.depth) (hend : h'.codeEnd = h.codeEnd) : Follows start (p ++ [t]) h' := by
  obtain ⟨due, hdue, hlength⟩ := hf.depth
  obtain ⟨a, b, rfl, hmark, hb, hcode⟩ := hf.codeEnd
  constructor
  · refine ⟨due, ?_, hdepth.trans hlength⟩
    rw [due?_append, hdue, Option.bind_some]
    exact due?_of_no_mark fun u hu => List.mem_singleton.mp hu ▸ ht
  · refine ⟨a, b ++ [t], List.append_assoc a b [t], hmark, ?_, hend.trans hcode⟩
    intro u hu
    rcases List.mem_append.mp hu with hu | hu
    · exact hb u hu
    · exact List.mem_singleton.mp hu ▸ ht

/-- A token with a mark moves the end of the code behind it. -/
theorem Follows.snoc_of_mark (hts : l.tokensFrom start region = p ++ t :: r) (ht : (mark? t).isSome)
    {due : List Char} (hdue : due? [] (p ++ [t]) = some due) (hdepth : h'.depth = due.length)
    (hend : h'.codeEnd = t.stop) : Follows start (p ++ [t]) h' where
  depth := ⟨due, hdue, hdepth⟩
  codeEnd := by
    refine ⟨p ++ [t], [], (List.append_nil _).symm, ?_, by simp, hend.trans (tokensFrom_stop hts)⟩
    intro u hu
    rw [List.getLast?_concat] at hu
    cases hu
    exact ht

/-- The depth behind a character that opens or closes what it may. -/
private theorem depth_of_take? (hf : Follows start p h) (hc : t.code? = some c) {due : List Char}
    (hdue : due? [] (p ++ [t]) = some due) :
    due.length = if (closer? c).isSome then h.depth + 1 else if isCloser c then h.depth - 1 else h.depth := by
  obtain ⟨due₀, hp, hlength⟩ := hf.depth
  rw [due?_snoc, hp, Option.bind_some] at hdue
  rw [hlength]
  rcases take?_eq_some hdue with ⟨hplain, rfl⟩ | ⟨e, ⟨x, hx, he⟩, rfl⟩ | ⟨e, hx, he, rfl⟩
  · obtain ⟨hopen, hclose⟩ := hplain c hc
    simp [hopen, hclose]
  · obtain rfl := Option.some.inj (hc.symm.trans hx)
    simp [he]
  · obtain rfl := Option.some.inj (hc.symm.trans hx)
    simp [closer?_of_isCloser he, he]

/-- Where a character ends the header before it or behind it, no bracket is open. -/
private theorem depth_of_endsBefore (h : HeaderScan) (hends : h.endsBefore d c = true) : h.depth = 0 := by
  simp only [HeaderScan.endsBefore, Bool.or_eq_true, Bool.and_eq_true, decide_eq_true_eq] at hends
  rcases hends with hends | hends
  · exact hends.1.1.2.1
  · exact hends.1.2.1

private theorem depth_of_endsBehind (h : HeaderScan) {arrow : Bool}
    (hends : h.endsBehind d allowArrow c arrow = true) : h.depth = 0 ∧ (c = ';' ∨ c = '>') := by
  simp only [HeaderScan.endsBehind, Bool.or_eq_true, Bool.and_eq_true, decide_eq_true_eq] at hends
  rcases hends with hends | hends
  · exact ⟨hends.1.2, .inl hends.1.1⟩
  · exact ⟨hends.1.2, .inr hends.1.1.1.1.1⟩

/-- One token further, a scan stops behind a nested part that ends in a mark, or goes on. -/
inductive StepFollows (start : Nat) (p : List Token) : HeaderStep → Prop where
  | stop {o : Nat} (h : EndsAt start p o) : StepFollows start p (.stop o)
  | go {h : HeaderScan} (hf : Follows start p h) : StepFollows start p (.go h)

theorem takeCode_follows (d : Dialect) (allowArrow : Bool) (hf : Follows start p h)
    (hts : l.tokensFrom start region = p ++ t :: r) (hk : t.kind = .code c) {due : List Char}
    (hdue : due? [] (p ++ [t]) = some due) :
    StepFollows start (p ++ [t]) (h.takeCode d allowArrow c t.start t.stop) := by
  have hc : t.code? = some c := by simp [Token.code?, hk]
  cases hblank : CharClass.isBlank c with
  | true =>
    have hm : mark? t = none := by simp [mark?, hk, hblank]
    rw [HeaderScan.takeCode, if_pos hblank]
    split_ifs with hline
    · have hdepth : h.depth = 0 := by
        simp only [Bool.and_eq_true, decide_eq_true_eq] at hline
        exact hline.1.1.2
      exact .stop ((hf.endsAt hdepth).append [t])
    · exact .go (hf.snoc_of_no_mark hm rfl rfl)
  | false =>
    have hm : (mark? t).isSome := by simp [mark?_of_code? hc hblank]
    obtain ⟨h₀, hdepth, -, hend, -, -, -, -, -, hstep⟩ :=
      takeCode_ink d allowArrow h t.start t.stop hblank
    rw [hstep]
    split_ifs with hbefore hbehind
    · rw [hend]
      exact .stop ((hf.endsAt (hdepth ▸ depth_of_endsBefore h₀ hbefore)).append [t])
    · obtain ⟨hzero, hchar⟩ := depth_of_endsBehind h₀ hbehind
      have hlast : Follows start (p ++ [t]) { h with depth := due.length, codeEnd := t.stop } :=
        Follows.snoc_of_mark hts hm hdue rfl rfl
      refine .stop (hlast.endsAt ?_)
      rw [depth_of_take? hf hc hdue, ← hdepth, hzero]
      rcases hchar with rfl | rfl <;> rfl
    · refine .go (Follows.snoc_of_mark hts hm hdue ?_ rfl)
      rw [depth_of_take? hf hc hdue, ← hdepth]
      exact adjust_depth h₀ _ _

theorem take_follows (d : Dialect) (allowArrow : Bool) (hf : Follows start p h)
    (hts : l.tokensFrom start region = p ++ t :: r) {due : List Char}
    (hdue : due? [] (p ++ [t]) = some due) : StepFollows start (p ++ [t]) (h.take d allowArrow t) := by
  rw [HeaderScan.take]
  cases hk : t.kind with
  | lineComment | blockComment => exact .go (hf.snoc_of_no_mark (by simp [mark?, hk]) rfl rfl)
  | literal triple =>
    refine .go (Follows.snoc_of_mark hts (by simp [mark?, hk]) hdue ?_ rfl)
    have hplain : IsPlain t := fun c hc => by simp [Token.code?, hk] at hc
    obtain ⟨due₀, hp, hlength⟩ := hf.depth
    rw [due?_snoc, hp, Option.bind_some, take?_of_isPlain hplain, Option.some_inj] at hdue
    rw [← hdue]
    exact hlength
  | code c => exact takeCode_follows d allowArrow hf hts hk hdue

/-- A scan through nested tokens ends behind a nested part of them that ends in a mark. -/
theorem run_follows (d : Dialect) (allowArrow : Bool) (hf : Follows start p h)
    (hts : l.tokensFrom start region = p ++ ts) (hn : Nested (p ++ ts)) :
    EndsAt start (p ++ ts) (h.run d allowArrow ts) := by
  induction ts generalizing p h with
  | nil =>
    rw [List.append_nil] at hn ⊢
    obtain ⟨due, hdue, hlength⟩ := hf.depth
    rw [Nested, hdue, Option.some_inj] at hn
    apply hf.endsAt
    rw [hlength, hn, List.length_nil]
  | cons t ts ih =>
    have hsnoc : p ++ t :: ts = (p ++ [t]) ++ ts := by simp
    obtain ⟨due, hdue⟩ : ∃ due, due? [] (p ++ [t]) = some due := by
      rw [Nested, hsnoc, due?_append, Option.bind_eq_some_iff] at hn
      obtain ⟨due, hdue, -⟩ := hn
      exact ⟨due, hdue⟩
    have hstep := take_follows d allowArrow hf hts hdue
    rw [HeaderScan.run]
    generalize h.take d allowArrow t = step at hstep ⊢
    rw [hsnoc] at hts hn ⊢
    cases hstep with
    | stop hend => exact hend.append ts
    | go hf' => exact ih hf' hts hn

end HeaderScan

/-! The text up to the end of a signature is read as it was in front of the rest. -/

/-- The first part of a text can stand in place of the text, unless it is empty or a newline. -/
theorem replaces_lead {w : Text} (hw : w ≠ []) (hnewline : w ≠ ['\n']) (z : Text) :
    Replaces (w ++ z) w := by
  constructor
  · intro hnil
    exact absurd (List.append_eq_nil_iff.mp hnil).1 hw
  · intro hline
    rwa [List.head?_append_of_ne_nil _ hw] at hline
  · intro s hs
    rcases w with _ | ⟨a, _ | ⟨b, w⟩⟩
    · exact absurd rfl hw
    · obtain ⟨rfl, -⟩ := List.cons_eq_cons.mp hs
      exact absurd rfl hnewline
    · obtain ⟨rfl, htail⟩ := List.cons_eq_cons.mp hs
      obtain ⟨rfl, -⟩ := List.cons_eq_cons.mp htail
      exact ⟨w, rfl⟩

section
variable (hl : l ∈ all)
include hl

/-- What opens at the start of a text opens there too when more text follows. -/
theorem opensNoMore_append {w : Text} (hw : w ≠ []) (z : Text) :
    OpensNoMore l (c :: w) (c :: (w ++ z)) := by
  have hprefix : ∀ m : Text, m <+: c :: w → m <+: c :: (w ++ z) := by
    rintro m ⟨after, hm⟩
    exact ⟨after ++ z, by rw [← List.append_assoc, hm, List.cons_append]⟩
  constructor
  · -- Only a marker of one character may be suppressed by the character behind it.
    have hmarkers : ∀ l ∈ all, ∀ m ∈ l.lineMarkers, m.unlessNext = none ∨ m.marker.length = 1 := by decide
    rintro ⟨m, hm, after, heq, unsuppressed⟩
    refine ⟨m, hm, after ++ z, by rw [← List.append_assoc, ← heq, List.cons_append], ?_⟩
    rcases hmarkers l hl m hm with hnone | hone
    · exact .inl hnone
    · cases after with
      | nil =>
        have hlength := congrArg List.length heq
        have := List.length_pos_iff.mpr hw
        rw [List.append_nil, hone, List.length_cons] at hlength
        omega
      | cons a after => exact unsuppressed
  · rintro ⟨opener, closer, hb, hp⟩
    exact ⟨opener, closer, hb, hprefix opener hp⟩
  · rintro ⟨ht, delimiter, hd, hp⟩
    exact ⟨ht, delimiter, hd, hprefix delimiter hp⟩
  · intro q hq
    cases hq with
    | double h => exact .double h
    | single h => exact .single h
    | escapedChar h => exact .escapedChar h
    | char h hc => exact .char h hc
    | raw h => exact .raw h
    | template h => exact .template h

/-- Tokens are read again when the text ends behind the one that follows them, unless that is a newline. -/
theorem tokensFrom_lead (h : l.tokensFrom start region = p ++ t :: r) (ht : t.text.head? ≠ some '\n') :
    l.tokensFrom start (spelled p ++ t.text) = p ++ l.tokensFrom t.start t.text := by
  have htext : t.text ≠ [] := text_ne_nil (h ▸ List.mem_append_right p List.mem_cons_self)
  rw [tokensFrom_start h]
  apply tokensFrom_replace (unambiguous_of_mem hl) h
  · intro w
    rw [spelled_cons, ← List.append_assoc]
    apply replaces_lead (List.append_ne_nil_of_right_ne_nil w htext)
    intro heq
    rcases List.append_eq_singleton_iff.mp heq with ⟨-, hnewline⟩ | ⟨-, hnil⟩
    · exact ht (by rw [hnewline]; rfl)
    · exact htext hnil
  · intro w hw
    obtain ⟨c, w, rfl⟩ := List.exists_cons_of_ne_nil hw
    rw [spelled_cons, ← List.append_assoc]
    exact opensNoMore_append hl (List.append_ne_nil_of_right_ne_nil w htext) _

/-- A bracket opens nothing. -/
private theorem tokenAt_of_bracket (hc : (closer? c).isSome ∨ isCloser c = true) (s : Text) :
    l.tokenAt c s = (.code c, 0) := by
  apply tokenAt_of_unmarked
  have hopeners : ∀ l ∈ all, l.Unmarked '(' ∧ l.Unmarked '[' ∧ l.Unmarked '\x7b' := by decide
  have hclosers : ∀ l ∈ all, l.Unmarked ')' ∧ l.Unmarked ']' ∧ l.Unmarked '\x7d' := by decide
  obtain ⟨h1, h2, h3⟩ := hopeners l hl
  obtain ⟨h4, h5, h6⟩ := hclosers l hl
  rw [closer?_isSome, isCloser] at hc
  simp only [Bool.or_eq_true, decide_eq_true_eq] at hc
  rcases hc with ((rfl | rfl) | rfl) | (rfl | rfl) | rfl <;> assumption

/-- A code character in front of the end opens a bracket there, or closes one, as it does elsewhere. -/
theorem take?_tokenAt_nil (hkind : kind = (l.tokenAt c rest).1) (i j : Nat) (due : List Char) :
    take? due ⟨(l.tokenAt c []).1, i, [c]⟩ = take? due ⟨kind, j, [c]⟩ := by
  by_cases hbracket : (closer? c).isSome ∨ isCloser c = true
  · rw [tokenAt_of_bracket hl hbracket] at hkind ⊢
    rw [hkind]
    rfl
  · rw [not_or, Option.not_isSome_iff_eq_none, Bool.not_eq_true] at hbracket
    have hplain : ∀ i s, IsPlain ⟨(l.tokenAt c s).1, i, [c]⟩ := by
      intro i s a ha
      rw [Token.code?_eq_some_iff] at ha
      rwa [(tokenAt_code ha).1]
    rw [hkind, take?_of_isPlain (hplain i []), take?_of_isPlain (hplain j rest)]

/-- A token is read as one token when nothing follows it, and as a bracket when it was one. -/
theorem exists_tokensFrom_text (hts : l.tokensFrom start region = p ++ t :: r) :
    ∃ t', l.tokensFrom t.start t.text = [t'] ∧ ∀ due, take? due t' = take? due t := by
  have hrule := tokenRule_of_tokensFrom (unambiguous_of_mem hl) hts
  obtain ⟨c, w, -, hkind, -, hw⟩ := tokensFrom_eq_append_cons hts
  obtain ⟨kind, i, text⟩ := t
  obtain ⟨x, rfl⟩ : ∃ x, text = c :: x := ⟨_, hw⟩
  by_cases hx : x = []
  · subst hx
    exact ⟨⟨(l.tokenAt c []).1, i, [c]⟩, by simp [tokensFrom], take?_tokenAt_nil hl hkind i i⟩
  · refine ⟨⟨kind, i, c :: x⟩, ?_, fun _ => rfl⟩
    have hread := (hrule.alone hx).tokensFrom_eq (unambiguous_of_mem hl) (List.cons_ne_nil c x) i
    rwa [List.append_nil, tokensFrom_nil] at hread

theorem head?_ne_newline_of_mark (hts : l.tokensFrom start region = p ++ t :: r)
    (ht : (HeaderScan.mark? t).isSome) : t.text.head? ≠ some '\n' := by
  obtain ⟨c, w, -, hkind, -, htext⟩ := tokensFrom_eq_append_cons hts
  rw [htext, List.head?_cons]
  rintro ⟨⟩
  rw [tokenAt_of_unmarked (unmarked_of_mem hl (by simp))] at hkind
  have hblank : CharClass.isBlank '\n' = true := by decide
  simp [HeaderScan.mark?, hkind, hblank] at ht

/-- The code up to a mark has the same brackets when the text ends there. -/
theorem nested_lead {a b : List Token} (hts : l.tokensFrom start region = a ++ b)
    (hmark : HeaderScan.EndsInMark a) (hn : Nested a) : Nested (l.tokensFrom start (spelled a)) := by
  rcases List.eq_nil_or_concat' a with rfl | ⟨p, t, rfl⟩
  · rw [spelled_nil, tokensFrom_nil]
    rfl
  · have ht : (HeaderScan.mark? t).isSome := hmark t (List.getLast?_concat ..)
    rw [List.append_assoc, List.singleton_append] at hts
    obtain ⟨t', ht', htake⟩ := exists_tokensFrom_text hl hts
    have hline := head?_ne_newline_of_mark hl hts ht
    rw [spelled_append, spelled_cons, spelled_nil, List.append_nil, tokensFrom_lead hl hts hline, ht', Nested,
      due?_snoc]
    rw [Nested, due?_snoc] at hn
    simpa only [htake] using hn

end

variable {surface : Surface} {s : Source}

/-- In a range whose code brackets are nested, in any dialect, a signature ends behind some of the tokens:
inside the range, with nested brackets, and right behind a literal or a character that is no white space,
unless it is empty. -/
theorem cutSignature_wellFormed (hr : s.slice? start limit = some region)
    (hn : Nested (surface.lexicon.tokensFrom start region)) (allowArrow : Bool) :
    let stop := cutSignature surface s start limit allowArrow
    start ≤ stop ∧ stop ≤ limit ∧
      ∃ p r, surface.lexicon.tokensFrom start region = p ++ r ∧ s.slice? start stop = some (spelled p) ∧
        Nested p ∧ (surface.lexicon ∈ all → Nested (surface.lexicon.tokensFrom start (spelled p))) ∧
        (stop = start ∨ ∃ t ∈ p.getLast?, t.stop = stop ∧
          ((∃ triple, t.kind = .literal triple) ∨ ∃ c, t.kind = .code c ∧ CharClass.isBlank c = false)) := by
  intro stop
  have hstop : stop = (HeaderScan.start start).run surface.dialect allowArrow
      (surface.lexicon.tokensFrom start region) := by
    dsimp only [stop]
    rw [cutSignature, hr]
  obtain ⟨a, b, hab, hmark, hnested, hrun⟩ :=
    HeaderScan.run_follows surface.dialect allowArrow (.initial start) rfl hn
  rw [List.nil_append] at hab
  rw [← hstop] at hrun
  obtain ⟨before, after, hcontent, hbefore, hlimit⟩ := Text.slice?_eq_some_iff.mp hr
  have hregion : spelled a ++ spelled b = region := by
    rw [← spelled_append, ← hab, spelled_tokensFrom]
  refine ⟨by omega, ?_, a, b, hab, ?_, hnested, fun hl => nested_lead hl hab hmark hnested, ?_⟩
  · rw [hrun, ← hlimit, ← hbefore, ← hregion]
    simp only [Text.byteSize_append]
    omega
  · refine Text.slice?_eq_some_iff.mpr ⟨before, spelled b ++ after, ?_, hbefore, ?_⟩
    · rw [hcontent, ← hregion]
      simp
    · rw [Text.byteSize_append, hbefore, hrun]
  · rcases List.eq_nil_or_concat' a with rfl | ⟨p, t, rfl⟩
    · exact .inl hrun
    · right
      have hlast : t ∈ (p ++ [t]).getLast? := List.getLast?_concat ..
      refine ⟨t, hlast, ?_, ?_⟩
      · rw [List.append_assoc, List.singleton_append] at hab
        rw [tokensFrom_stop hab, hrun]
      · have ht := hmark t hlast
        rw [HeaderScan.mark?] at ht
        cases hk : t.kind with
        | code c =>
          cases hc : CharClass.isBlank c with
          | true => simp [hk, hc] at ht
          | false => exact .inr ⟨c, rfl, hc⟩
        | literal triple => exact .inl ⟨triple, rfl⟩
        | lineComment | blockComment => simp [hk] at ht

def arrowFunction : Text := "const f = (a: 'é'): \x7b x: number \x7d /* => */ => \x7b\n  return a;\n\x7d".toList

theorem arrowFunction_cut_wellFormed :
    (Source.ofText arrowFunction).slice? 0 62 = some arrowFunction ∧
      Nested (Lexicon.javascript.tokensFrom 0 arrowFunction) ∧
      let stop := cutSignature ⟨.typescript, .javascript⟩ (.ofText arrowFunction) 0 62 true
      stop = 46 ∧ 0 ≤ stop ∧ stop ≤ 62 ∧
        ∃ p r, Lexicon.javascript.tokensFrom 0 arrowFunction = p ++ r ∧
          (Source.ofText arrowFunction).slice? 0 stop = some (spelled p) ∧ Nested p ∧
          (Lexicon.javascript ∈ all → Nested (Lexicon.javascript.tokensFrom 0 (spelled p))) ∧
          (stop = 0 ∨ ∃ t ∈ p.getLast?, t.stop = stop ∧
            ((∃ triple, t.kind = .literal triple) ∨
              ∃ c, t.kind = .code c ∧ CharClass.isBlank c = false)) := by
  have hr : (Source.ofText arrowFunction).slice? 0 62 = some arrowFunction := by decide +kernel
  have hn : Nested (Lexicon.javascript.tokensFrom 0 arrowFunction) := by decide +kernel
  exact ⟨hr, hn, by decide +kernel, cutSignature_wellFormed hr hn true⟩

end CodeDigest.Emission
