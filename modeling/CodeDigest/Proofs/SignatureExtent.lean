import CodeDigest.Proofs.Emissions
import CodeDigest.Proofs.HeaderScan
import CodeDigest.Proofs.Rows

/-! How far a signature reaches in a declaration that ends with a body in braces: not into the body,
unless a mark before the body makes it look like a type. -/
namespace CodeDigest.Emission
open Brackets HeaderScan Lexicon
variable {surface : Surface} {c : Capture} {s : Source} {start limit cut : Nat} {region : Text}
  {header inner : List Token} {o close : Token} {allowArrow : Bool} {e : Emission}

/-- An emission that quotes its declaration, or the row the declaration starts on, up to an offset,
trimmed and under the annotations. -/
def QuotesUpTo (surface : Surface) (c : Capture) (s : Source) (cut : Nat) (e : Emission) : Prop :=
  ∃ start lead m, c.start? s = some start ∧ lead ≤ start ∧ s.slice? lead (max cut lead) = some m ∧
    e.text = withAnnotations (leadingAnnotations surface s c.startRow).2 (Text.trim m)

theorem headerText?_quotesUpTo {text : Text} {row : Nat}
    (h : headerText? surface c s allowArrow = some (text, row)) (hs : c.start? s = some start)
    (he : e.text = text) :
    QuotesUpTo surface c s (cutSignature surface s start (c.stop s) allowArrow) e := by
  obtain ⟨start', lead, m, hs', hlead, hm, rfl, -⟩ := headerText?_eq_some h
  obtain rfl := Option.some.inj (hs.symm.trans hs')
  refine ⟨start, lead, m, hs, ?_, hm, he⟩
  obtain rfl | hlead := hlead
  · exact Nat.le_refl _
  · exact Source.le_of_offset? hlead hs

theorem signature?_quotesUpTo {kind : SignatureKind} (h : signature? surface kind c s = some e)
    (hs : c.start? s = some start) :
    QuotesUpTo surface c s (cutSignature surface s start (c.stop s) (kind ≠ .header)) e := by
  obtain ⟨⟨text, row⟩, ht, rfl⟩ := Option.map_eq_some_iff.mp h
  exact headerText?_quotesUpTo ht hs rfl

theorem header?_quotesUpTo (h : header? surface c s = some e) (hs : c.start? s = some start) :
    QuotesUpTo surface c s (cutSignature surface s start (c.stop s) false) e := by
  obtain ⟨⟨text, row⟩, ht, h⟩ := Option.bind_eq_some_iff.mp h
  obtain ⟨-, rfl⟩ := keyedByText?_eq_some h
  exact headerText?_quotesUpTo ht hs rfl

/-- In a dialect of braces, a declaration whose region ends with a brace keeps that brace's body out
of its signatures and headers exactly when no `:`, `|` or `&` is the last mark before the body, or
something else ends the header earlier. -/
theorem signature_excludes_body_iff (hbody : surface.dialect.body = .brace)
    (hs : c.start? s = some start) (hr : s.slice? start (c.stop s) = some region)
    (hn : Nested (surface.lexicon.tokensFrom start region))
    (ha : NoAngle (surface.lexicon.tokensFrom start region))
    (hl : (surface.lexicon.tokensFrom start region).getLast? = some close)
    (hc : close.code? = some '\x7d') :
    ∃ header o inner,
      surface.lexicon.tokensFrom start region = header ++ o :: (inner ++ [close]) ∧
      Nested header ∧ o.code? = some '\x7b' ∧ Nested inner ∧
      (∀ allowArrow, cutSignature surface s start (c.stop s) allowArrow ≤ o.start ↔
        (∀ x ∈ lastMark? header, ¬IsTypeMark x) ∨
          ∃ p t r, header = p ++ t :: r ∧ Delimits surface.dialect allowArrow p t) ∧
      (∀ kind e, signature? surface kind c s = some e →
        QuotesUpTo surface c s (cutSignature surface s start (c.stop s) (kind ≠ .header)) e) ∧
      ∀ e, header? surface c s = some e →
        QuotesUpTo surface c s (cutSignature surface s start (c.stop s) false) e := by
  obtain ⟨header, o, inner, hts, hheader, ho, hinner⟩ := exists_lastGroup hn hl hc (by decide)
  have hbrace : o.code? = some '\x7b' := by
    obtain ⟨x, hx, hd⟩ := ho
    rw [hx, closer?_eq_brace_iff.mp hd]
  refine ⟨header, o, inner, hts, hheader, hbrace, hinner, fun allowArrow => ?_,
    fun kind e h => signature?_quotesUpTo h hs, fun e h => header?_quotesUpTo h hs⟩
  have hcut : cutSignature surface s start (c.stop s) allowArrow =
      (HeaderScan.start start).run surface.dialect allowArrow
        (surface.lexicon.tokensFrom start region) := by
    rw [cutSignature, hr]
  have hopen : (∀ x ∈ lastMark? header, ¬IsTypeMark x) ↔
      Delimits surface.dialect allowArrow header o := by
    simp [Delimits, hheader, hbrace]
  have hscan := run_reads allowArrow (p := []) hbody (.initial start) rfl hn ha
  rw [hcut, hopen]
  obtain ⟨a, t, b, he, hd, hle, hbefore⟩ | ⟨hno, h', hreads, hrun⟩ := hscan
  · obtain ⟨b', hb'⟩ | ⟨rfl, rfl⟩ := outside_lastGroup ho hheader hinner (hts.symm.trans he) hd.1
    · refine iff_of_true (Nat.le_trans hle ?_) (.inr ⟨a, t, b', hb', hd⟩)
      rw [tokensFrom_start hts, tokensFrom_stop he, hb']
      simp
    · exact iff_of_true (hbefore hbrace) (.inl hd)
  · refine iff_of_false ?_ ?_
    · have hlast := hreads.codeEnd close (by simpa using hl)
        (by rw [mark?_of_code? hc (by decide)]; rfl)
      rw [hrun, hlast, tokensFrom_start hts, List.nil_append, hts]
      have := byteSize_text_pos hts
      simp only [spelled_append, spelled_cons, Text.byteSize_append]
      omega
    · rintro (hd | ⟨p, t, r, rfl, hd⟩)
      · exact hno header o _ hts hd
      · exact hno p t _ (by rw [hts, List.append_assoc]; rfl) hd

theorem noAngle_of_forall {ts : List Token} (h : ∀ t ∈ ts, t.code? ≠ some '<') : NoAngle ts := by
  rintro a t b rfl -
  exact h t (by simp)

def refQualified : Text := "int& get() & \x7b\n  return x;\n\x7d".toList

theorem refQualified_signature_excludes_body_iff :
    ∃ header o inner,
      Lexicon.cLike.tokensFrom 0 refQualified =
        header ++ o :: (inner ++ [⟨.code '\x7d', 27, ['\x7d']⟩]) ∧
      Nested header ∧ o.code? = some '\x7b' ∧ Nested inner ∧
      (∀ allowArrow,
        cutSignature ⟨.cpp, .cLike⟩ (.ofText refQualified) 0 28 allowArrow ≤ o.start ↔
          (∀ x ∈ lastMark? header, ¬IsTypeMark x) ∨
            ∃ p t r, header = p ++ t :: r ∧ Delimits .cpp allowArrow p t) ∧
      (∀ kind e, signature? ⟨.cpp, .cLike⟩ kind ⟨"definition.method", 0, 0, 2, 1⟩
          (.ofText refQualified) = some e →
        QuotesUpTo ⟨.cpp, .cLike⟩ ⟨"definition.method", 0, 0, 2, 1⟩ (.ofText refQualified)
          (cutSignature ⟨.cpp, .cLike⟩ (.ofText refQualified) 0 28 (kind ≠ .header)) e) ∧
      ∀ e, header? ⟨.cpp, .cLike⟩ ⟨"definition.method", 0, 0, 2, 1⟩ (.ofText refQualified) = some e →
        QuotesUpTo ⟨.cpp, .cLike⟩ ⟨"definition.method", 0, 0, 2, 1⟩ (.ofText refQualified)
          (cutSignature ⟨.cpp, .cLike⟩ (.ofText refQualified) 0 28 false) e := by
  have hstop : Capture.stop ⟨"definition.method", 0, 0, 2, 1⟩ (.ofText refQualified) = 28 := by
    decide +kernel
  have hs : Capture.start? ⟨"definition.method", 0, 0, 2, 1⟩ (.ofText refQualified) = some 0 := by
    decide +kernel
  have hr : Source.slice? (.ofText refQualified) 0
      (Capture.stop ⟨"definition.method", 0, 0, 2, 1⟩ (.ofText refQualified)) =
        some refQualified := by decide +kernel
  have hn : Nested (Lexicon.cLike.tokensFrom 0 refQualified) := by decide +kernel
  have ha : ∀ t ∈ Lexicon.cLike.tokensFrom 0 refQualified, t.code? ≠ some '<' := by decide +kernel
  have hl : (Lexicon.cLike.tokensFrom 0 refQualified).getLast? =
      some ⟨.code '\x7d', 27, ['\x7d']⟩ := by decide +kernel
  rw [← hstop]
  have hbody : (Surface.mk .cpp .cLike).dialect.body = .brace := rfl
  exact signature_excludes_body_iff hbody hs hr hn (noAngle_of_forall ha) hl rfl

/-- The qualifier before the body is taken for the mark of a type, and the body is shown. -/
theorem refQualified_signature_shows_body :
    ¬Capture.Inverted ⟨"definition.method", 0, 0, 2, 1⟩ ∧
      Capture.start? ⟨"definition.method", 0, 0, 2, 1⟩ (.ofText refQualified) = some 0 ∧
      Source.slice? (.ofText refQualified) 0
        (Capture.stop ⟨"definition.method", 0, 0, 2, 1⟩ (.ofText refQualified)) =
          some refQualified ∧
      Nested (Lexicon.cLike.tokensFrom 0 refQualified) ∧
      NoAngle (Lexicon.cLike.tokensFrom 0 refQualified) ∧
      (Lexicon.cLike.tokensFrom 0 refQualified).getLast? = some ⟨.code '\x7d', 27, ['\x7d']⟩ ∧
      (Lexicon.cLike.tokensFrom 0 refQualified)[13]? = some ⟨.code '\x7b', 13, ['\x7b']⟩ ∧
      Nested ((Lexicon.cLike.tokensFrom 0 refQualified).take 13) ∧
      cutSignature ⟨.cpp, .cLike⟩ (.ofText refQualified) 0 28 true = 28 ∧
      (signature? ⟨.cpp, .cLike⟩ .method ⟨"definition.method", 0, 0, 2, 1⟩
        (.ofText refQualified)).map (·.text) = some refQualified := by
  refine ⟨by decide, by decide +kernel, by decide +kernel, by decide +kernel,
    noAngle_of_forall (by decide +kernel), by decide +kernel, by decide +kernel, by decide +kernel,
    by decide +kernel, ?_⟩
  decide +kernel

end CodeDigest.Emission
