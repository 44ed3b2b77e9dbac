import CodeDigest.Emission.Signature
import CodeDigest.Proofs.Annotations
import CodeDigest.Proofs.Lookahead

/-! Signatures do not depend on bodies: sources that agree up to the character behind the delimiter
that ends a header give the same signature. -/
namespace CodeDigest.Emission
open Lexicon
open Text (PieceAt)
variable {d : Dialect} {l : Lexicon} {allowArrow : Bool} {start : Nat} {region : Text}
  {p ts : List Token} {t : Token}

namespace HeaderScan
variable {h h' : HeaderScan}

/-- The token that a scan stops at, if it stops before the tokens end. -/
def delimiter? (d : Dialect) (allowArrow : Bool) (h : HeaderScan) : List Token → Option Token
  | [] => none
  | t :: rest =>
    match h.take d allowArrow t with
    | .stop _ => some t
    | .go h' => h'.delimiter? d allowArrow rest

/-- A scan stops at a character that may end a header, and not behind it. -/
private theorem takeCode_stop {c : Char} {first last o : Nat}
    (hs : h.takeCode d allowArrow c first last = .stop o) (hle : h.codeEnd ≤ first)
    (hlt : first ≤ last) : c ∈ ['\x7b', ':', '\n', ';', '>'] ∧ o ≤ last := by
  unfold HeaderScan.takeCode at hs
  grind [HeaderScan.endsBefore, HeaderScan.endsBehind]

private theorem take_stop {o : Nat} (hs : h.take d allowArrow t = .stop o)
    (hle : h.codeEnd ≤ t.start) :
    (∃ c ∈ ['\x7b', ':', '\n', ';', '>'], t.code? = some c) ∧ o ≤ t.stop := by
  have hlt : t.start ≤ t.stop := Nat.le_add_right _ _
  cases hk : t.kind with
  | lineComment | blockComment | literal => simp [HeaderScan.take, hk] at hs
  | code c =>
    simp only [HeaderScan.take, hk] at hs
    obtain ⟨hc, ho⟩ := takeCode_stop hs hle hlt
    exact ⟨⟨c, hc, Token.code?_eq_some_iff.mpr hk⟩, ho⟩

private theorem take_go (hs : h.take d allowArrow t = .go h') (hle : h.codeEnd ≤ t.start) :
    h'.codeEnd ≤ t.stop := by
  have hlt : t.start ≤ t.stop := Nat.le_add_right _ _
  unfold HeaderScan.take HeaderScan.takeCode at hs
  grind

/-- The delimiter is code that may end a header. The scan ends behind it at the latest, and where it
ends does not depend on what follows. -/
theorem delimiter?_spec (hts : l.tokensFrom start region = p ++ ts)
    (hle : h.codeEnd ≤ start + Text.byteSize (spelled p))
    (hd : h.delimiter? d allowArrow ts = some t) :
    ∃ a r, ts = a ++ t :: r ∧ (∃ c ∈ ['\x7b', ':', '\n', ';', '>'], t.code? = some c) ∧
      h.run d allowArrow ts ≤ t.stop ∧
      ∀ r', h.run d allowArrow (a ++ t :: r') = h.run d allowArrow ts := by
  induction ts generalizing p h with
  | nil => cases hd
  | cons u ts ih =>
    have hstart := tokensFrom_start hts
    have hstop := tokensFrom_stop hts
    rw [← hstart] at hle
    rw [delimiter?] at hd
    cases hu : h.take d allowArrow u with
    | stop o =>
      rw [hu] at hd
      cases hd
      obtain ⟨hc, ho⟩ := take_stop hu hle
      exact ⟨[], ts, rfl, hc, by simpa [HeaderScan.run, hu] using ho,
        fun r' => by simp [HeaderScan.run, hu]⟩
    | go h' =>
      rw [hu] at hd
      have hts' : l.tokensFrom start region = (p ++ [u]) ++ ts := by simpa using hts
      obtain ⟨a, r, rfl, hc, hrun, hsame⟩ := ih hts' (hstop ▸ take_go hu hle) hd
      exact ⟨u :: a, r, rfl, hc, by simpa [HeaderScan.run, hu] using hrun,
        fun r' => by simpa [HeaderScan.run, hu] using hsame r'⟩

end HeaderScan

variable {surface : Surface} {c c₁ c₂ : Capture} {s s₁ s₂ : Source} {stop₁ stop₂ : Nat}
  {region₁ region₂ u r₁ r₂ : Text} {x : Char}

/-- The delimiter is the last character of what it ends. -/
private theorem exists_delimited (hd : (HeaderScan.start start).delimiter? surface.dialect allowArrow
      (surface.lexicon.tokensFrom start (u ++ x :: r₁)) = some t)
    (hu : t.stop = start + Text.byteSize u) :
    ∃ ts r, ∃ d ∈ ['\x7b', ':', '\n', ';', '>'], u = spelled ts ++ [d] ∧
      surface.lexicon.tokensFrom start (u ++ x :: r₁) = ts ++ t :: r ∧
      (HeaderScan.start start).run surface.dialect allowArrow (ts ++ t :: r) ≤ t.stop ∧
      ∀ r', (HeaderScan.start start).run surface.dialect allowArrow (ts ++ t :: r') =
        (HeaderScan.start start).run surface.dialect allowArrow (ts ++ t :: r) := by
  obtain ⟨ts, r, hts, ⟨d, hmem, hc⟩, hrun, hsame⟩ :=
    HeaderScan.delimiter?_spec (p := []) rfl (Nat.le_refl start) hd
  rw [hts] at hrun hsame
  refine ⟨ts, r, d, hmem, ?_, hts, hrun, hsame⟩
  have htext : t.text = [d] := text_of_code? (by rw [hts]; simp) hc
  have hspelled := spelled_tokensFrom surface.lexicon start (u ++ x :: r₁)
  have hstop := tokensFrom_stop hts
  rw [hts, ← List.singleton_append, ← List.append_assoc, spelled_append] at hspelled
  obtain ⟨hpre, -⟩ := Text.append_inj_of_byteSize_eq hspelled (by omega)
  rw [← hpre, spelled_append, spelled_cons, htext, spelled_nil, List.append_nil]

/-- The cut of two regions that agree up to the character behind the delimiter. -/
private theorem cutSignature_congr (hl : surface.lexicon ∈ Lexicon.all)
    (h₁ : s₁.slice? start stop₁ = some (u ++ x :: r₁))
    (h₂ : s₂.slice? start stop₂ = some (u ++ x :: r₂))
    (hd : (HeaderScan.start start).delimiter? surface.dialect allowArrow
      (surface.lexicon.tokensFrom start (u ++ x :: r₁)) = some t)
    (hu : t.stop = start + Text.byteSize u) :
    cutSignature surface s₁ start stop₁ allowArrow =
        cutSignature surface s₂ start stop₂ allowArrow ∧
      cutSignature surface s₁ start stop₁ allowArrow ≤ t.stop := by
  obtain ⟨ts, r, d, hmem, rfl, hts, hrun, hsame⟩ := exists_delimited hd hu
  have hts₁ := hts
  rw [List.append_assoc, List.singleton_append] at hts₁
  obtain ⟨-, r', hts₂⟩ := tokensFrom_congr (unmarked_of_mem hl hmem) hts₁ rfl r₂
  have hcut₁ : cutSignature surface s₁ start stop₁ allowArrow =
      (HeaderScan.start start).run surface.dialect allowArrow (ts ++ t :: r) := by
    rw [cutSignature, h₁, ← hts]
  have hcut₂ : cutSignature surface s₂ start stop₂ allowArrow =
      (HeaderScan.start start).run surface.dialect allowArrow (ts ++ t :: r') := by
    rw [cutSignature, h₂, ← hts₂, List.append_assoc, List.singleton_append]
  exact ⟨by rw [hcut₁, hcut₂, hsame r'], hcut₁ ▸ hrun⟩

structure StartsAt (c : Capture) (s : Source) (start o : Nat) (line lead : Text) : Prop where
  start_eq : c.start? s = some start
  line_eq : s.line? c.startRow = some line
  lead_eq : Text.takeBytes? line c.startColumn = some lead
  offset_eq : s.offset? c.startRow 0 = some o

theorem startsAt_of_pieceAt {content before k rest after : Text}
    (hp : PieceAt '\n' content c.startRow before (k ++ rest) after)
    (hk : Text.byteSize k = c.startColumn)
    (hle : c.startColumn ≤ Text.byteSize (Text.chopReturn (k ++ rest))) :
    StartsAt c (.ofText content) (Text.byteSize (before ++ k)) (Text.byteSize before)
      (Text.chopReturn (k ++ rest)) k := by
  constructor
  · rw [Capture.start?, Source.offset?_of_pieceAt hp, if_pos hle, Text.byteSize_append, hk]
  · exact Source.line?_of_pieceAt hp
  · obtain ⟨tail, ht⟩ := Text.chopReturn_isPrefix (k ++ rest)
    obtain ⟨m, hm, -⟩ := Text.exists_middle_of_byteSize_le ht.symm (hk ▸ hle)
    exact Text.takeBytes?_eq_some_iff.mpr ⟨m, hm, hk⟩
  · rw [Source.offset?_of_pieceAt hp, if_pos (Nat.zero_le _), Nat.add_zero]

theorem StartsAt.headerText?_eq {o : Nat} {line lead : Text} (h : StartsAt c s start o line lead)
    (surface : Surface) (allowArrow : Bool) : headerText? surface c s allowArrow =
      ((s.slice? (if isWordy lead then o else start)
        (max (cutSignature surface s start (c.stop s) allowArrow)
          (if isWordy lead then o else start))).map Text.trim).bind fun body =>
        if body.isEmpty then none
        else some (withAnnotations (leadingAnnotations surface s c.startRow).2 body,
          (leadingAnnotations surface s c.startRow).1) := by
  simp only [headerText?, h.start_eq, h.line_eq, h.lead_eq, h.offset_eq, Option.bind_eq_bind,
    Option.bind_some]
  split <;> rfl

/-! The owner of a declaration is read off the rows above it and the indentation of its own. -/

private theorem walkUp_congr {row : Nat} (h : s₁.rows.take row = s₂.rows.take row)
    (groupsOf : Text → Option (List Text)) {above : Nat} (hle : above ≤ row) (indent : Nat) :
    Owner.walkUp groupsOf s₁ above indent = Owner.walkUp groupsOf s₂ above indent := by
  induction above generalizing indent with
  | zero => rfl
  | succ above ih =>
    simp only [Owner.walkUp, Source.line?_congr h hle, ih (Nat.le_of_succ_le hle)]

private theorem enclosingOwner?_congr {row : Nat} {line₁ line₂ : Text}
    (h : s₁.rows.take row = s₂.rows.take row) (h₁ : s₁.line? row = some line₁)
    (h₂ : s₂.line? row = some line₂) (hi : Owner.indentation line₁ = Owner.indentation line₂) :
    d.enclosingOwner? s₁ row = d.enclosingOwner? s₂ row := by
  simp only [Dialect.enclosingOwner?, Owner.enclosing?, h₁, h₂, Option.bind_some, hi,
    walkUp_congr h _ (Nat.le_refl row)]

private theorem indentation_append_cons {a m : Text} {d : Char}
    (hd : CharClass.isBlank d = false) :
    Owner.indentation (a ++ d :: m) = Text.byteSize (a.takeWhile CharClass.isBlank) := by
  rw [Owner.indentation]
  congr 1
  induction a with
  | nil => simp [hd]
  | cons b a ih =>
    cases hb : CharClass.isBlank b with
    | true => simpa [hb] using ih
    | false => simp [hb]

/-- Behind a character that is no white space, the rest of a row has no effect on its indentation. -/
private theorem indentation_chopReturn {k p m : Text} {d : Char}
    (hd : CharClass.isBlank d = false) :
    Owner.indentation (Text.chopReturn (k ++ (p ++ [d] ++ m))) =
      Text.byteSize ((k ++ p).takeWhile CharClass.isBlank) := by
  have hr : d ≠ '\r' := by
    rintro rfl
    cases hd
  have hchop : ∃ m', Text.chopReturn (d :: m) = d :: m' := by
    cases m with
    | nil => exact ⟨[], by simp [Text.chopReturn, hr]⟩
    | cons x m => exact ⟨_, Text.chopReturn_append (List.cons_ne_nil x m) [d]⟩
  obtain ⟨m', hm⟩ := hchop
  have he : k ++ (p ++ [d] ++ m) = k ++ p ++ d :: m := by simp
  rw [he, Text.chopReturn_append (List.cons_ne_nil d m), hm, indentation_append_cons hd]

/-- Two captures that start at the same place of two texts. The header of the first ends at a
delimiter `t`, and the texts agree on all that `t` ends, `q`, and on one character more, which both
captures take. -/
structure SameHeader (surface : Surface) (allowArrow : Bool) (c₁ c₂ : Capture)
    (content₁ content₂ q : Text) (x : Char) (t : Token) : Prop where
  row_eq : c₂.startRow = c₁.startRow
  column_eq : c₂.startColumn = c₁.startColumn
  delimiter : ∃ start region, c₁.start? (.ofText content₁) = some start ∧
    captureText? c₁ (.ofText content₁) = some region ∧
    (HeaderScan.start start).delimiter? surface.dialect allowArrow
      (surface.lexicon.tokensFrom start region) = some t
  stop_eq : t.stop = Text.byteSize q
  agree₁ : q ++ [x] <+: content₁
  agree₂ : q ++ [x] <+: content₂
  reaches₁ : Text.byteSize (q ++ [x]) ≤ c₁.stop (.ofText content₁)
  reaches₂ : Text.byteSize (q ++ [x]) ≤ c₂.stop (.ofText content₂)
  captured₂ : (captureText? c₂ (.ofText content₂)).isSome

section
variable {content₁ content₂ q : Text}

/-- The two captures start at the same byte, on rows with the same lead and the same indentation
below the same rows, and their headers are cut at the same byte. -/
theorem SameHeader.exists_startsAt (hl : surface.lexicon ∈ Lexicon.all)
    (h : SameHeader surface allowArrow c₁ c₂ content₁ content₂ q x t) :
    ∃ start o lead line₁ line₂, StartsAt c₁ (.ofText content₁) start o line₁ lead ∧
      StartsAt c₂ (.ofText content₂) start o line₂ lead ∧
      (Source.ofText content₁).rows.take c₁.startRow =
        (Source.ofText content₂).rows.take c₁.startRow ∧
      Owner.indentation line₁ = Owner.indentation line₂ ∧
      cutSignature surface (.ofText content₁) start (c₁.stop (.ofText content₁)) allowArrow =
        cutSignature surface (.ofText content₂) start (c₂.stop (.ofText content₂)) allowArrow ∧
      cutSignature surface (.ofText content₁) start (c₁.stop (.ofText content₁)) allowArrow ≤
        Text.byteSize q ∧
      o ≤ start ∧ start ≤ Text.byteSize q := by
  obtain ⟨start, region₁, hs, h₁, hd⟩ := h.delimiter
  obtain ⟨region₂, h₂⟩ := Option.isSome_iff_exists.mp h.captured₂
  obtain ⟨w₁, hc₁⟩ := h.agree₁
  obtain ⟨w₂, hc₂⟩ := h.agree₂
  rw [captureText?, hs, Option.bind_some] at h₁
  obtain ⟨ts, r, hts, -, -, -⟩ :=
    HeaderScan.delimiter?_spec (p := []) rfl (Nat.le_refl start) hd
  have hstart : start ≤ Text.byteSize q := by
    rw [← h.stop_eq, tokensFrom_stop hts]
    exact Nat.le_add_right _ _
  obtain ⟨a, u, r₁, rfl, rfl, rfl⟩ := Text.slice?_eq_append h.agree₁ h₁ hstart h.reaches₁
  have hu : t.stop = Text.byteSize a + Text.byteSize u := by rw [h.stop_eq, Text.byteSize_append]
  obtain ⟨ts', -, d, hmem, hud, -⟩ := exists_delimited hd hu
  have hc₁' : content₁ = a ++ (u ++ x :: w₁) := by simpa using hc₁.symm
  have hc₂' : content₂ = a ++ (u ++ x :: w₂) := by simpa using hc₂.symm
  rw [hc₁'] at hs
  obtain ⟨before, k, rest₁, rest₂, after₁, after₂, rfl, hk, hp₁, hp₂, hle₁, hle₂, hrest⟩ :=
    Source.exists_shared_row (x :: w₂) (by rw [hud]; simp) hs
  rw [← hc₁'] at hp₁
  rw [← hc₂'] at hp₂
  have hat₁ := startsAt_of_pieceAt hp₁ hk hle₁
  have hat₂ := startsAt_of_pieceAt (c := c₂) (h.row_eq ▸ hp₂) (h.column_eq ▸ hk) (h.column_eq ▸ hle₂)
  rw [captureText?, hat₂.start_eq, Option.bind_some] at h₂
  obtain ⟨a', u', r₂, hau, ha, rfl⟩ := Text.slice?_eq_append h.agree₂ h₂ hstart h.reaches₂
  obtain ⟨-, rfl⟩ := Text.append_inj_of_byteSize_eq hau ha.symm
  obtain ⟨hcut, hle⟩ := cutSignature_congr hl h₁ h₂ hd hu
  refine ⟨_, _, _, _, _, hat₁, hat₂, ?_, ?_, hcut, h.stop_eq ▸ hle, by simp, by simp⟩
  · rw [Source.rows_take_of_pieceAt hp₁, Source.rows_take_of_pieceAt hp₂]
  · obtain rfl | ⟨m₁, m₂, rfl, rfl⟩ := hrest
    · rfl
    · have hnl : d ≠ '\n' := by
        rintro rfl
        exact hp₁.notMem (by rw [hud]; simp)
      have hd : CharClass.isBlank d = false := by
        simp only [List.mem_cons, List.not_mem_nil, or_false] at hmem
        obtain rfl | rfl | rfl | rfl | rfl := hmem <;> first | decide | exact absurd rfl hnl
      rw [hud, indentation_chopReturn hd, indentation_chopReturn hd]

theorem SameHeader.headerText?_eq (hl : surface.lexicon ∈ Lexicon.all)
    (h : SameHeader surface allowArrow c₁ c₂ content₁ content₂ q x t) :
    headerText? surface c₁ (.ofText content₁) allowArrow =
      headerText? surface c₂ (.ofText content₂) allowArrow := by
  obtain ⟨start, o, lead, line₁, line₂, hat₁, hat₂, hrows, -, hcut, hle, ho, hstart⟩ :=
    h.exists_startsAt hl
  have hslice : ∀ i j, j ≤ Text.byteSize q → (Source.ofText content₁).slice? i j =
      (Source.ofText content₂).slice? i j := by
    intro i j hj
    obtain ⟨w₁, hc₁⟩ := h.agree₁
    obtain ⟨w₂, hc₂⟩ := h.agree₂
    rw [← hc₁, ← hc₂, List.append_assoc, List.append_assoc]
    exact Text.slice?_append_congr hj _ _
  have hfrom : (if isWordy lead then o else start) ≤ Text.byteSize q := by
    split <;> omega
  rw [hat₁.headerText?_eq, hat₂.headerText?_eq, h.row_eq, leadingAnnotations_congr hrows, ← hcut,
    hslice _ _ (Nat.max_le.mpr ⟨hle, hfrom⟩)]

/-- A signature is the same whatever stands in the body: it shows nothing of a text behind the
delimiter that ends the header, if one character more is known. The same holds of the header of a
class. -/
theorem signature?_eq_of_sameHeader (hl : surface.lexicon ∈ Lexicon.all) (kind : SignatureKind) :
    (SameHeader surface (kind ≠ .header) c₁ c₂ content₁ content₂ q x t →
      signature? surface kind c₁ (.ofText content₁) =
        signature? surface kind c₂ (.ofText content₂)) ∧
    (SameHeader surface false c₁ c₂ content₁ content₂ q x t →
      header? surface c₁ (.ofText content₁) = header? surface c₂ (.ofText content₂)) := by
  constructor
  · intro h
    obtain ⟨_, _, _, line₁, line₂, hat₁, hat₂, hrows, hindent, -⟩ := h.exists_startsAt hl
    have howner : surface.dialect.enclosingOwner? (.ofText content₁) c₁.startRow =
        surface.dialect.enclosingOwner? (.ofText content₂) c₁.startRow :=
      enclosingOwner?_congr hrows hat₁.line_eq (h.row_eq ▸ hat₂.line_eq) hindent
    simp only [signature?, ownerOf, h.headerText?_eq hl, h.row_eq, howner]
  · intro h
    rw [header?, header?, h.headerText?_eq hl]

theorem one_line_function_signature_eq :
    signature? ⟨.rust, .rust⟩ .function ⟨"definition.function", 0, 0, 0, 12⟩
        (.ofText "fn f() \x7b 1 \x7d".toList) =
      signature? ⟨.rust, .rust⟩ .function ⟨"definition.function", 0, 0, 1, 1⟩
        (.ofText "fn f() \x7b g(';')\n\x7d".toList) := by
  have hl : (Surface.mk .rust .rust).lexicon ∈ Lexicon.all := by decide
  refine (signature?_eq_of_sameHeader (q := "fn f() \x7b".toList) (x := ' ')
    (t := ⟨.code '\x7b', 7, ['\x7b']⟩) hl .function).1 ?_
  exact {
    row_eq := rfl
    column_eq := rfl
    delimiter := ⟨0, "fn f() \x7b 1 \x7d".toList, by decide +kernel, by decide +kernel,
      by decide +kernel⟩
    stop_eq := by decide
    agree₁ := ⟨"1 \x7d".toList, by decide⟩
    agree₂ := ⟨"g(';')\n\x7d".toList, by decide⟩
    reaches₁ := by decide +kernel
    reaches₂ := by decide +kernel
    captured₂ := by decide +kernel }

end

end CodeDigest.Emission
