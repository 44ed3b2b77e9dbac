import CodeDigest.Emission.Signature
import CodeDigest.Proofs.Brackets

/-! What a scan through a header remembers of the tokens behind it, and which token stops it. The
dialects are those whose bodies open with a brace. -/
namespace CodeDigest.Emission.HeaderScan
open Brackets Lexicon
variable {d : Dialect} {allowArrow : Bool} {start s : Nat} {p ts : List Token} {t : Token} {c : Char}

/-- A character that is no white space, and a quote for a literal. -/
def mark? (t : Token) : Option Char :=
  match t.kind with
  | .code c => if CharClass.isBlank c then none else some c
  | .literal _ => some '"'
  | _ => none

def lastMark? (p : List Token) : Option Char := (p.filterMap mark?).getLast?

def endChar? (p : List Token) : Option Char := p.getLast?.bind Token.code?

def IsTypeMark (c : Char) : Prop := c = ':' ∨ c = '|' ∨ c = '&'

def IsInk (t : Token) : Prop := ∃ c, t.code? = some c ∧ CharClass.isBlank c = false

def Assigns (p : List Token) (t : Token) : Prop :=
  Nested p ∧ t.code? = some '=' ∧
    ∀ c ∈ ['=', '!', '<', '>'], endChar? p ≠ some c

/-- An assignment that further code follows, which makes it no arrow. -/
def Assigned (p : List Token) : Prop :=
  ∃ a x b, p = a ++ x :: b ∧ Assigns a x ∧ (∃ y ∈ b, IsInk y) ∧
    ∀ y ∈ b.head?, y.code? ≠ some '>'

def AssignsLast (p : List Token) (s : Nat) : Prop :=
  ∃ a x b, p = a ++ x :: b ∧ Assigns a x ∧ (∀ y ∈ b, ¬IsInk y) ∧ s = x.stop

def HasColon (p : List Token) : Prop :=
  ∃ a x b, p = a ++ x :: b ∧ Nested a ∧ x.code? = some ':'

/-- A token that ends a header behind some tokens: a semicolon, a brace that opens no type, or an
arrow that opens a body. -/
def Delimits (d : Dialect) (allowArrow : Bool) (p : List Token) (t : Token) : Prop :=
  Nested p ∧
    (t.code? = some ';' ∨
      (t.code? = some '\x7b' ∧ ∀ c ∈ lastMark? p, ¬IsTypeMark c) ∨
      (t.code? = some '>' ∧ endChar? p = some '=' ∧ allowArrow = true ∧ d.arrowBodies = true ∧
        (Assigned (p ++ [t]) ∨ ¬HasColon p)))

/-- No opening angle bracket stands outside all brackets. -/
def NoAngle (p : List Token) : Prop := ∀ a t b, p = a ++ t :: b → Nested a → t.code? ≠ some '<'

structure Reads (start : Nat) (p : List Token) (h : HeaderScan) : Prop where
  depth : ∃ due, due? [] p = some due ∧ h.depth = due.length
  angle : h.angle = 0
  codeEnd_le : h.codeEnd ≤ start + Text.byteSize (spelled p)
  codeEnd : ∀ t ∈ p.getLast?, (mark? t).isSome → h.codeEnd = start + Text.byteSize (spelled p)
  lastCode : h.lastCode = lastMark? p
  previous_le : ∀ q ∈ h.previous, q.2 ≤ start + Text.byteSize (spelled p)
  adjacent : h.adjacent? (start + Text.byteSize (spelled p)) = endChar? p
  pendingAssign : ∀ s, h.pendingAssign = some s ↔ AssignsLast p s
  seenAssign : h.seenAssign = true ↔ Assigned p
  seenColon : h.seenColon = true ↔ HasColon p

theorem Reads.initial (start : Nat) : Reads start [] (HeaderScan.start start) where
  depth := ⟨[], rfl, rfl⟩
  angle := rfl
  codeEnd_le := Nat.le_refl _
  codeEnd := by simp
  lastCode := rfl
  previous_le := by simp [HeaderScan.start]
  adjacent := rfl
  pendingAssign := by simp [HeaderScan.start, AssignsLast]
  seenAssign := by simp [HeaderScan.start, Assigned]
  seenColon := by simp [HeaderScan.start, HasColon]

theorem Reads.nested_iff {h : HeaderScan} (hr : Reads start p h) : Nested p ↔ h.depth = 0 := by
  obtain ⟨due, hd, hl⟩ := hr.depth
  rw [Nested, hd, hl, List.length_eq_zero_iff, Option.some_inj]

/-! How the marks of a header change with one more token. -/

theorem lastMark?_snoc (p : List Token) (t : Token) :
    lastMark? (p ++ [t]) = (mark? t).or (lastMark? p) := by
  cases h : mark? t <;> simp [lastMark?, h]

@[simp] theorem endChar?_snoc (p : List Token) (t : Token) : endChar? (p ++ [t]) = t.code? := by
  simp [endChar?]

theorem hasColon_snoc : HasColon (p ++ [t]) ↔ HasColon p ∨ (Nested p ∧ t.code? = some ':') := by
  rw [HasColon, exists_split_snoc, or_comm]
  rfl

theorem assignsLast_snoc :
    AssignsLast (p ++ [t]) s ↔ (Assigns p t ∧ s = t.stop) ∨ (AssignsLast p s ∧ ¬IsInk t) := by
  rw [AssignsLast, exists_split_snoc]
  constructor
  · rintro (⟨h, -, hs⟩ | ⟨a, x, b, he, h, hb, hs⟩)
    · exact .inl ⟨h, hs⟩
    · exact .inr ⟨⟨a, x, b, he, h, fun y hy => hb y (by simp [hy]), hs⟩, hb t (by simp)⟩
  · rintro (⟨h, hs⟩ | ⟨⟨a, x, b, he, h, hb, hs⟩, ht⟩)
    · exact .inl ⟨h, by simp, hs⟩
    · refine .inr ⟨a, x, b, he, h, fun y hy => ?_, hs⟩
      obtain hy | hy := List.mem_append.mp hy
      · exact hb y hy
      · obtain rfl := List.mem_singleton.mp hy
        exact ht

section
variable {l : Lexicon} {region : Text} {r : List Token}

private theorem stop_eq_start_iff {a b : List Token} {x : Token}
    (h : l.tokensFrom start region = a ++ x :: (b ++ t :: r)) : x.stop = t.start ↔ b = [] := by
  have hx := tokensFrom_stop h
  rw [← List.singleton_append, ← List.append_assoc, ← List.append_assoc] at h
  have ht := tokensFrom_start h
  rw [hx, ht, spelled_append _ b, Text.byteSize_append]
  cases b with
  | nil => simp
  | cons y b =>
    have hy := byteSize_text_pos (p := a ++ [x]) (by simpa using h)
    simp only [spelled_cons, Text.byteSize_append, reduceCtorEq, iff_false]
    omega

theorem assigned_snoc (h : l.tokensFrom start region = p ++ t :: r) :
    Assigned (p ++ [t]) ↔ Assigned p ∨
      (IsInk t ∧ ∃ s, AssignsLast p s ∧ ¬(t.code? = some '>' ∧ s = t.start)) := by
  rw [Assigned, exists_split_snoc]
  constructor
  · rintro (⟨-, ⟨y, hy, -⟩, -⟩ | ⟨a, x, b, rfl, hx, hink, hhead⟩)
    · simp at hy
    · by_cases hb : ∃ y ∈ b, IsInk y
      · obtain ⟨y, hy, hi⟩ := hb
        cases b with
        | nil => simp at hy
        | cons z b => exact .inl ⟨a, x, z :: b, rfl, hx, ⟨y, hy, hi⟩, hhead⟩
      · right
        obtain ⟨y, hy, hi⟩ := hink
        obtain hy | hy := List.mem_append.mp hy
        · exact absurd ⟨y, hy, hi⟩ hb
        · obtain rfl := List.mem_singleton.mp hy
          refine ⟨hi, x.stop, ⟨a, x, b, rfl, hx, fun z hz hi => hb ⟨z, hz, hi⟩, rfl⟩, ?_⟩
          rintro ⟨hc, hs⟩
          rw [List.append_assoc, List.cons_append] at h
          obtain rfl := (stop_eq_start_iff h).mp hs
          exact hhead y rfl hc
  · rintro (⟨a, x, b, rfl, hx, ⟨y, hy, hi⟩, hhead⟩ | ⟨hi, s, ⟨a, x, b, rfl, hx, hb, rfl⟩, hs⟩)
    · cases b with
      | nil => simp at hy
      | cons z b =>
        exact .inr ⟨a, x, z :: b, rfl, hx, ⟨y, List.mem_append_left _ hy, hi⟩, hhead⟩
    · refine .inr ⟨a, x, b, rfl, hx, ⟨t, by simp, hi⟩, ?_⟩
      rw [List.append_assoc, List.cons_append] at h
      cases b with
      | nil =>
        rintro y ⟨⟩ hc
        exact hs ⟨hc, (stop_eq_start_iff h).mpr rfl⟩
      | cons z b =>
        rintro y ⟨⟩ hc
        exact hb z (by simp) ⟨'>', hc, by decide⟩

theorem AssignsLast.endChar?_eq (ha : AssignsLast p s) (h : l.tokensFrom start region = p ++ t :: r)
    (hs : s = t.start) : endChar? p = some '=' := by
  obtain ⟨a, x, b, rfl, hx, -, rfl⟩ := ha
  rw [List.append_assoc, List.cons_append] at h
  obtain rfl := (stop_eq_start_iff h).mp hs
  rw [endChar?_snoc]
  exact hx.2.1

end

/-! What a character that stops no scan does to it, outside all angle brackets. -/
section
variable {h : HeaderScan} {adj : Option Char} {stop : Nat}

theorem adjust_depth (h : HeaderScan) (adj : Option Char) (stop : Nat) :
    (h.adjust d c adj stop).depth = if (closer? c).isSome then h.depth + 1
      else if isCloser c then h.depth - 1 else h.depth := by
  rw [closer?_isSome, isCloser]
  grind [HeaderScan.adjust]

private theorem adjust_angle (ha : h.angle = 0) (hc : h.depth = 0 → c ≠ '<') :
    (h.adjust d c adj stop).angle = 0 := by
  grind [HeaderScan.adjust]

private theorem adjust_pendingAssign (h : HeaderScan) :
    (h.adjust d c adj stop).pendingAssign = if c = '=' && h.depth = 0
      && !(adj = some '=' || adj = some '!' || adj = some '<' || adj = some '>')
      then some stop else h.pendingAssign := by
  grind [HeaderScan.adjust]

private theorem adjust_seenColon (ha : h.angle = 0) :
    (h.adjust d c adj stop).seenColon = (h.seenColon || (c = ':' && h.depth = 0)) := by
  grind [HeaderScan.adjust]

private theorem adjust_seenAssign (h : HeaderScan) :
    (h.adjust d c adj stop).seenAssign = h.seenAssign := by
  grind [HeaderScan.adjust]

private theorem adjust_previous (h : HeaderScan) :
    (h.adjust d c adj stop).previous = h.previous := by
  grind [HeaderScan.adjust]

/-- A character that does not stop the scan leaves it with the assignment before it settled. -/
theorem takeCode_ink (d : Dialect) (allowArrow : Bool) (h : HeaderScan) (start stop : Nat)
    (hc : CharClass.isBlank c = false) :
    ∃ h' : HeaderScan, h'.depth = h.depth ∧ h'.angle = h.angle ∧ h'.codeEnd = h.codeEnd ∧
      h'.lastCode = h.lastCode ∧ h'.previous = some (c, stop) ∧ h'.pendingAssign = none ∧
      h'.seenColon = h.seenColon ∧
      (h'.seenAssign = true ↔ h.seenAssign = true ∨ ∃ s, h.pendingAssign = some s ∧
        ¬((c = '>' ∧ h.adjacent? start = some '=') ∧ s = start)) ∧
      h.takeCode d allowArrow c start stop =
        if h'.endsBefore d c then .stop h'.codeEnd
        else if h'.endsBehind d allowArrow c (c = '>' && h.adjacent? start = some '=') then .stop stop
        else .go { h'.adjust d c (h.adjacent? start) stop with codeEnd := stop, lastCode := some c } := by
  cases hp : h.pendingAssign with
  | none =>
    refine ⟨{ h with previous := some (c, stop) }, rfl, rfl, rfl, rfl, rfl, hp, rfl, by simp, ?_⟩
    simp [HeaderScan.takeCode, hc, hp]
  | some s =>
    refine ⟨{ h with
      previous := some (c, stop)
      pendingAssign := none
      seenAssign := h.seenAssign || !((c = '>' && h.adjacent? start = some '=') && s = start) },
      rfl, rfl, rfl, rfl, rfl, rfl, rfl, by simp [or_assoc, imp_iff_not_or], ?_⟩
    simp [HeaderScan.takeCode, hc, hp]

end

/-! One token further. -/
section
variable {l : Lexicon} {region : Text} {r : List Token} {h h' : HeaderScan}

theorem isPlain_of_not_ink (h : ¬IsInk t) : IsPlain t := by
  intro c hc
  have hb : CharClass.isBlank c ≠ false := fun hb => h ⟨c, hc, hb⟩
  refine ⟨?_, ?_⟩
  · cases ho : closer? c with
    | none => rfl
    | some d => exact absurd (isBlank_of_closer? ho) hb
  · cases hcl : isCloser c with
    | false => rfl
    | true => exact absurd (isBlank_of_isCloser hcl) hb

/-- A comment, a literal or white space changes no more than what stands right behind the scan. -/
private theorem Reads.snoc_of_not_ink (hr : Reads start p h)
    (hts : l.tokensFrom start region = p ++ t :: r) (hink : ¬IsInk t) {codeEnd : Nat}
    {lastCode : Option Char} {previous : Option (Char × Nat)}
    (hend : codeEnd = if (mark? t).isSome then t.stop else h.codeEnd)
    (hlast : lastCode = (mark? t).or h.lastCode)
    (hle : ∀ q ∈ previous, q.2 ≤ t.stop)
    (hadj : (previous.bind fun q => if q.2 = t.stop then some q.1 else none) = t.code?) :
    Reads start (p ++ [t]) { h with codeEnd, lastCode, previous } := by
  have hstart := tokensFrom_start hts
  have hstop := tokensFrom_stop hts
  have hplain := isPlain_of_not_ink hink
  have hlt : t.start ≤ t.stop := Nat.le_add_right _ _
  obtain ⟨due, hd, hl⟩ := hr.depth
  constructor
  · exact ⟨due, by rw [due?_snoc, hd]; exact take?_of_isPlain hplain due, hl⟩
  · exact hr.angle
  · have := hr.codeEnd_le
    show codeEnd ≤ _
    rw [← hstop, hend]
    split <;> omega
  · intro u hu hm
    rw [List.getLast?_concat] at hu
    cases hu
    rw [← hstop, hend, if_pos hm]
  · rw [lastMark?_snoc, hlast, hr.lastCode]
  · rwa [← hstop]
  · rw [endChar?_snoc, ← hadj, hstop]
    rfl
  · intro s
    rw [assignsLast_snoc, ← hr.pendingAssign s]
    have : ¬Assigns p t := fun ha => hink ⟨'=', ha.2.1, by decide⟩
    simp [this, hink]
  · rw [assigned_snoc hts, ← hr.seenAssign]
    simp [hink]
  · rw [hasColon_snoc, ← hr.seenColon]
    have : t.code? ≠ some ':' := fun hc => hink ⟨':', hc, by decide⟩
    simp [this]

/-- The scan stops at the next character just when the character ends the header. -/
private theorem ends_iff_delimits (allowArrow : Bool) (hbody : d.body = .brace) (hn : Nested p ↔ h.depth = 0)
    (hangle : h.angle = 0) (hlast : h.lastCode = lastMark? p)
    (hassign : h.seenAssign = true ↔ Assigned (p ++ [t])) (hcolon : h.seenColon = true ↔ HasColon p)
    (hc : t.code? = some c) :
    (h.endsBefore d c = true ∨
      h.endsBehind d allowArrow c (c = '>' && endChar? p = some '=') = true) ↔
        Delimits d allowArrow p t := by
  have hmark : (∀ x ∈ lastMark? p, ¬IsTypeMark x) ↔
      (h.lastCode = some ':' || h.lastCode = some '|' || h.lastCode = some '&') = false := by
    rw [hlast]
    cases lastMark? p <;> simp [IsTypeMark, and_assoc]
  rw [Delimits, hn, hmark, hc, ← hassign, ← hcolon]
  simp only [HeaderScan.endsBefore, HeaderScan.endsBehind, hangle, hbody]
  generalize (h.lastCode = some ':' || h.lastCode = some '|' || h.lastCode = some '&' : Bool) = m
  cases m <;> cases h.seenColon <;> simp <;> grind

theorem mark?_of_code? (hc : t.code? = some c) (hb : CharClass.isBlank c = false) :
    mark? t = some c := by
  simp [mark?, Token.code?_eq_some_iff.mp hc, hb]

/-- A character that the scan goes on behind, once the assignment before it is settled. -/
private theorem Reads.snoc_of_ink (hr : Reads start p h)
    (hts : l.tokensFrom start region = p ++ t :: r) (hc : t.code? = some c)
    (hb : CharClass.isBlank c = false) {due : List Char} (hdue : due? [] (p ++ [t]) = some due)
    (ha : Nested p → c ≠ '<') (hdepth : h'.depth = h.depth) (hangle : h'.angle = 0)
    (hprev : h'.previous = some (c, t.stop)) (hpend : h'.pendingAssign = none)
    (hcolon : h'.seenColon = h.seenColon) (hassign : h'.seenAssign = true ↔ Assigned (p ++ [t])) :
    Reads start (p ++ [t])
      { h'.adjust d c (endChar? p) t.stop with codeEnd := t.stop, lastCode := some c } := by
  have hstop := tokensFrom_stop hts
  have hn : Nested p ↔ h'.depth = 0 := hdepth ▸ hr.nested_iff
  constructor
  · obtain ⟨due₀, hd, hl⟩ := hr.depth
    rw [due?_snoc, hd, Option.bind_some] at hdue
    refine ⟨due, by rw [due?_snoc, hd]; exact hdue, ?_⟩
    show (h'.adjust d c (endChar? p) t.stop).depth = _
    rw [adjust_depth, hdepth, hl]
    obtain ⟨hp, rfl⟩ | ⟨e, ⟨_, hc', he⟩, rfl⟩ | ⟨e, hc', he, rfl⟩ := take?_eq_some hdue
    · simp [hp c hc]
    · obtain rfl := Option.some.inj (hc.symm.trans hc')
      simp [he]
    · obtain rfl := Option.some.inj (hc.symm.trans hc')
      simp [closer?_of_isCloser he, he]
  · exact adjust_angle hangle fun h => ha (hn.mpr h)
  · exact Nat.le_of_eq hstop
  · exact fun _ _ _ => hstop
  · rw [lastMark?_snoc, mark?_of_code? hc hb]
    rfl
  · intro q hq
    have hq : (h'.adjust d c (endChar? p) t.stop).previous = some q := hq
    rw [adjust_previous, hprev] at hq
    cases hq
    exact Nat.le_of_eq hstop
  · show (h'.adjust d c (endChar? p) t.stop).previous.bind _ = _
    rw [adjust_previous, hprev, endChar?_snoc, hc, ← hstop]
    simp
  · intro s
    show (h'.adjust d c (endChar? p) t.stop).pendingAssign = some s ↔ _
    have hink : IsInk t := ⟨c, hc, hb⟩
    have hcond : (c = '=' && h'.depth = 0 && !(endChar? p = some '=' || endChar? p = some '!'
        || endChar? p = some '<' || endChar? p = some '>') : Bool) = true ↔ Assigns p t := by
      rw [Assigns, hn, hc]
      generalize endChar? p = x
      simp only [Bool.and_eq_true, Bool.not_eq_true', Bool.or_eq_false_iff, decide_eq_true_eq,
        decide_eq_false_iff_not, List.forall_mem_cons, Option.some_inj]
      grind
    rw [adjust_pendingAssign, hpend, assignsLast_snoc]
    by_cases h : Assigns p t
    · rw [if_pos (hcond.mpr h)]
      simp [h, hink, eq_comm]
    · rw [if_neg (mt hcond.mp h)]
      simp [h, hink]
  · show (h'.adjust d c (endChar? p) t.stop).seenAssign = true ↔ _
    rw [adjust_seenAssign, hassign]
  · show (h'.adjust d c (endChar? p) t.stop).seenColon = true ↔ _
    rw [adjust_seenColon hangle, hcolon, hasColon_snoc, ← hr.seenColon, hn, hc]
    simp [and_comm]

theorem takeCode_reads (allowArrow : Bool) (hbody : d.body = .brace) (hr : Reads start p h)
    (hts : l.tokensFrom start region = p ++ t :: r) (hc : t.code? = some c)
    (hb : CharClass.isBlank c = false) {due : List Char} (hdue : due? [] (p ++ [t]) = some due)
    (ha : Nested p → c ≠ '<') :
    (∃ o, h.takeCode d allowArrow c t.start t.stop = .stop o ∧ Delimits d allowArrow p t ∧
      o ≤ t.stop ∧ (c = '\x7b' → o ≤ t.start)) ∨
    ∃ h', h.takeCode d allowArrow c t.start t.stop = .go h' ∧ ¬Delimits d allowArrow p t ∧
      Reads start (p ++ [t]) h' := by
  have hstart := tokensFrom_start hts
  have hstop := tokensFrom_stop hts
  have hadj : h.adjacent? t.start = endChar? p := hstart ▸ hr.adjacent
  have hle : h.codeEnd ≤ t.start := hstart ▸ hr.codeEnd_le
  have hlt : t.start ≤ t.stop := Nat.le_add_right _ _
  obtain ⟨h', hdepth, hangle, hend, hlast, hprev, hpend, hcolon, hassign, htake⟩ :=
    takeCode_ink d allowArrow h t.start t.stop hb
  have hn : Nested p ↔ h'.depth = 0 := hdepth ▸ hr.nested_iff
  replace hassign : h'.seenAssign = true ↔ Assigned (p ++ [t]) := by
    rw [hassign, hr.seenAssign, assigned_snoc hts, hadj, hc, Option.some_inj]
    refine or_congr_right ⟨?_, ?_⟩
    · rintro ⟨s, hs, hne⟩
      have hl := (hr.pendingAssign s).mp hs
      exact ⟨⟨c, hc, hb⟩, s, hl, fun he => hne ⟨⟨he.1, hl.endChar?_eq hts he.2⟩, he.2⟩⟩
    · rintro ⟨-, s, hl, hne⟩
      exact ⟨s, (hr.pendingAssign s).mpr hl, fun he => hne ⟨he.1.1, he.2⟩⟩
  have hends := ends_iff_delimits allowArrow hbody hn (hangle.trans hr.angle)
    (hlast.trans hr.lastCode) hassign (by rw [hcolon, hr.seenColon]) hc
  rw [htake, hadj]
  by_cases hstops : h'.endsBefore d c = true
  · rw [if_pos hstops]
    exact .inl ⟨_, rfl, hends.mp (.inl hstops), by omega, fun _ => by omega⟩
  · rw [if_neg hstops]
    by_cases hstops' : h'.endsBehind d allowArrow c (c = '>' && endChar? p = some '=') = true
    · rw [if_pos hstops']
      refine .inl ⟨_, rfl, hends.mp (.inr hstops'), Nat.le_refl _, ?_⟩
      rintro rfl
      simp [HeaderScan.endsBehind] at hstops'
    · rw [if_neg hstops']
      exact .inr ⟨_, rfl, fun h => (hends.mpr h).elim hstops hstops',
        hr.snoc_of_ink hts hc hb hdue ha hdepth (hangle.trans hr.angle) hprev hpend hcolon hassign⟩

/-- One token further: the scan stops at a token that ends the header, no further than behind it and
before a brace, or it goes on and knows of the token. -/
theorem take_reads (allowArrow : Bool) (hbody : d.body = .brace) (hr : Reads start p h)
    (hts : l.tokensFrom start region = p ++ t :: r) {due : List Char}
    (hdue : due? [] (p ++ [t]) = some due) (ha : Nested p → t.code? ≠ some '<') :
    (∃ o, h.take d allowArrow t = .stop o ∧ Delimits d allowArrow p t ∧ o ≤ t.stop ∧
      (t.code? = some '\x7b' → o ≤ t.start)) ∨
    ∃ h', h.take d allowArrow t = .go h' ∧ ¬Delimits d allowArrow p t ∧
      Reads start (p ++ [t]) h' := by
  have hstart := tokensFrom_start hts
  have hstop := tokensFrom_stop hts
  have hlt : t.start < t.stop := by
    have := byteSize_text_pos hts
    rw [Token.stop]
    omega
  have hnone : t.code? = none → ¬Delimits d allowArrow p t ∧ ¬IsInk t := fun hc =>
    ⟨by simp [Delimits, hc], by simp [IsInk, hc]⟩
  cases hk : t.kind with
  | lineComment | blockComment =>
    have hc : t.code? = none := by simp [Token.code?, hk]
    have hm : mark? t = none := by simp [mark?, hk]
    have hprev : ∀ q ∈ h.previous, q.2 ≤ t.start := hstart ▸ hr.previous_le
    refine .inr ⟨h, by simp [HeaderScan.take, hk], (hnone hc).1, ?_⟩
    apply hr.snoc_of_not_ink hts (hnone hc).2
    · simp [hm]
    · simp [hm]
    · exact fun q hq => Nat.le_of_lt (Nat.lt_of_le_of_lt (hprev q hq) hlt)
    · rw [hc]
      cases hq : h.previous with
      | none => rfl
      | some q =>
        have := hprev q hq
        exact if_neg (by omega)
  | literal triple =>
    have hc : t.code? = none := by simp [Token.code?, hk]
    have hm : mark? t = some '"' := by simp [mark?, hk]
    refine .inr ⟨{ h with codeEnd := t.stop, lastCode := some '"', previous := none },
      by simp only [HeaderScan.take, hk], (hnone hc).1, ?_⟩
    exact hr.snoc_of_not_ink hts (hnone hc).2 (by simp [hm]) (by simp [hm]) (by simp) hc.symm
  | code c =>
    have hc : t.code? = some c := by simp [Token.code?, hk]
    have htake : h.take d allowArrow t = h.takeCode d allowArrow c t.start t.stop := by
      simp only [HeaderScan.take, hk]
    rw [htake]
    cases hb : CharClass.isBlank c with
    | true =>
      have hink : ¬IsInk t := by simp [IsInk, hc, hb]
      have hm : mark? t = none := by simp [mark?, hk, hb]
      refine .inr ⟨{ h with previous := some (c, t.stop) }, ?_, ?_, ?_⟩
      · simp [HeaderScan.takeCode, hb, hbody]
      · rintro ⟨-, hd | ⟨hd, -⟩ | ⟨hd, -⟩⟩ <;> exact hink ⟨_, hd, by decide⟩
      · exact hr.snoc_of_not_ink hts hink (by simp [hm]) (by simp [hm]) (by simp) (by simp [hc])
    | false =>
      obtain ⟨o, hs, hd, hle, hbrace⟩ | ⟨h', hgo⟩ :=
        takeCode_reads allowArrow hbody hr hts hc hb hdue
          fun hn he => ha hn (he ▸ hc)
      · exact .inl ⟨o, hs, hd, hle, fun h => hbrace (Option.some.inj (hc.symm.trans h))⟩
      · exact .inr ⟨h', hgo⟩

/-- A scan through nested tokens stops at the first that ends the header, and else goes through. -/
theorem run_reads (allowArrow : Bool) (hbody : d.body = .brace) (hr : Reads start p h)
    (hts : l.tokensFrom start region = p ++ ts) {due : List Char} (hdue : due? [] (p ++ ts) = some due)
    (ha : NoAngle (p ++ ts)) :
    (∃ a t b, ts = a ++ t :: b ∧ Delimits d allowArrow (p ++ a) t ∧
      h.run d allowArrow ts ≤ t.stop ∧ (t.code? = some '\x7b' → h.run d allowArrow ts ≤ t.start)) ∨
    (∀ a t b, ts = a ++ t :: b → ¬Delimits d allowArrow (p ++ a) t) ∧
      ∃ h', Reads start (p ++ ts) h' ∧ h.run d allowArrow ts = h'.codeEnd := by
  induction ts generalizing p h with
  | nil =>
    refine .inr ⟨fun a t b he => by simp at he, h, ?_, rfl⟩
    rwa [List.append_nil]
  | cons t ts ih =>
    have hsnoc : p ++ t :: ts = p ++ [t] ++ ts := by simp
    obtain ⟨due', hdue'⟩ : ∃ due', due? [] (p ++ [t]) = some due' := by
      rw [hsnoc, due?_append, Option.bind_eq_some_iff] at hdue
      obtain ⟨due', h, -⟩ := hdue
      exact ⟨due', h⟩
    rw [HeaderScan.run]
    obtain ⟨o, hs, hd, hle, hbrace⟩ | ⟨h', hgo, hd, hr'⟩ :=
      take_reads allowArrow hbody hr hts hdue' (ha p t ts rfl)
    · rw [hs]
      exact .inl ⟨[], t, ts, rfl, by rwa [List.append_nil], hle, hbrace⟩
    · rw [hgo]
      rw [hsnoc] at hts hdue ha
      obtain ⟨a, x, b, rfl, hd', hle, hbrace⟩ | ⟨hno, h'', hr'', hrun⟩ := ih hr' hts hdue ha
      · exact .inl ⟨t :: a, x, b, rfl, by simpa using hd', hle, hbrace⟩
      · refine .inr ⟨fun a x b he => ?_, h'', by rwa [hsnoc], hrun⟩
        cases a with
        | nil =>
          obtain ⟨rfl, -⟩ := List.cons_eq_cons.mp he
          rwa [List.append_nil]
        | cons y a =>
          obtain ⟨rfl, he'⟩ := List.cons_eq_cons.mp he
          simpa using hno a x b he'

end
end CodeDigest.Emission.HeaderScan
