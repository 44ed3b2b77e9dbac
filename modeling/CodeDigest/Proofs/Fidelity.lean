import CodeDigest.Classification
import CodeDigest.Proofs.Renderings

/-! Fragments quote their source: line for line they are parts of consecutive rows. -/
namespace CodeDigest
open Text (OnRows PieceAt isBlank)
variable {content : Text} {c : Capture}

/-- A capture that starts at a character of the text that is no white space. -/
def Capture.StartsOnCode (c : Capture) (content : Text) : Prop :=
  ∃ before x after, content = before ++ x :: after ∧ CharClass.isBlank x = false ∧
    c.start? (.ofText content) = some (Text.byteSize before)

namespace Emission

/-- An emission whose lines are parts of the rows of a text from its own row on. -/
def Quotes (content : Text) (e : Emission) : Prop :=
  OnRows content e.row (Text.splitOn '\n' e.text)

/-- The row that a capture starts on, and where on it the first character stands. -/
structure StartRow (content : Text) (c : Capture) (before k : Text) (x : Char) (rest after : Text) :
    Prop where
  piece : PieceAt '\n' content c.startRow before (k ++ x :: rest) after
  notBlank : CharClass.isBlank x = false
  start_eq : c.start? (.ofText content) = some (Text.byteSize (before ++ k))

theorem exists_startRow (h : c.StartsOnCode content) :
    ∃ before k x rest after, StartRow content c before k x rest after := by
  obtain ⟨p, x, q, rfl, hx, hstart⟩ := h
  obtain ⟨before, k, rest, after, rfl, hq, hp, -, -⟩ := Source.exists_row_of_offset? hstart
  cases rest with
  | nil =>
    obtain h | ⟨b, h⟩ := hp.ends
    · simp [h] at hq
    · rw [List.nil_append, h] at hq
      obtain rfl := (List.cons_eq_cons.mp hq).1
      cases hx
  | cons y rest =>
    obtain ⟨rfl, rfl⟩ := List.cons_eq_cons.mp hq
    exact ⟨before, k, x, rest, after, hp, hx, hstart⟩

namespace StartRow
variable {before k rest after : Text} {x : Char} (h : StartRow content c before k x rest after)
include h

theorem notMem_lead : '\n' ∉ k := fun hm => h.piece.notMem (List.mem_append_left _ hm)

theorem text_eq : content = before ++ (k ++ x :: (rest ++ after)) := by
  rw [h.piece.text_eq]
  simp

theorem row_lt : c.startRow < (Source.ofText content).lineCount := by
  have hlt := (List.getElem?_eq_some_iff.mp h.piece.getElem?_eq).1
  rwa [Text.length_splitOn, ← Source.lineCount_ofText] at hlt

theorem firstLine_not_blank : isBlank (Text.chopReturn (k ++ x :: rest)) = false := by
  simp [h.notBlank]

/-- What is left of a slice that starts where the capture starts stands on the capture's rows. -/
theorem onRows_trim {a m b : Text} (he : content = a ++ m ++ b)
    (ha : Text.byteSize a = Text.byteSize before ∨ Text.byteSize a = Text.byteSize (before ++ k)) :
    OnRows content c.startRow (Text.splitOn '\n' (Text.trim m)) := by
  have hc := h.text_eq
  rw [List.append_assoc] at he
  obtain ha | ha := ha
  · obtain ⟨rfl, hm⟩ := Text.append_inj_of_byteSize_eq (he.symm.trans hc) ha
    have := Text.onRows_trim_of_isPrefix hc h.notMem_lead h.notBlank ⟨b, hm⟩
    rwa [h.piece.count_eq] at this
  · rw [← List.append_assoc] at hc
    obtain ⟨rfl, hm⟩ := Text.append_inj_of_byteSize_eq (he.symm.trans hc) ha
    have := Text.onRows_trim_of_isPrefix (k := []) hc (by simp) h.notBlank ⟨b, hm⟩
    rwa [List.count_append, h.piece.count_eq, List.count_eq_zero.mpr h.notMem_lead] at this

/-- What is left of the capture's whole rows stands on them, when only white space is cut off in
front. -/
theorem onRows_of_lines (last : Nat) {u m v : Text}
    (hs : Text.unlines ((Source.ofText content).lines c.startRow last) = u ++ m ++ v)
    (hu : isBlank u) : OnRows content c.startRow (Text.splitOn '\n' m) := by
  have hrows := Text.onRows_lines content c.startRow last
  have hget := Source.getElem?_lines (.ofText content) c.startRow last 0
  have hnl : ∀ m ∈ (Source.ofText content).lines c.startRow last, '\n' ∉ m :=
    fun m hm => Text.notMem_of_mem_lines hm
  generalize (Source.ofText content).lines c.startRow last = ls at hs hrows hget hnl
  cases ls with
  | nil =>
    obtain ⟨ha, -⟩ := List.append_eq_nil_iff.mp (hs.symm : _ = [])
    obtain ⟨-, rfl⟩ := List.append_eq_nil_iff.mp ha
    exact Text.onRows_singleton h.piece.getElem?_eq List.nil_infix
  | cons l ls =>
    have hsplit := Text.splitOn_unlines (List.cons_ne_nil l ls) hnl
    have hl : isBlank l = false := by
      rw [List.getElem?_cons_zero, Nat.add_zero, Source.line?_of_pieceAt h.piece] at hget
      split at hget
      · rw [Option.some.inj hget]
        exact h.firstLine_not_blank
      · cases hget
    rw [← hsplit] at hrows
    exact hrows.of_blank_part hs hu (by rw [hsplit]; rfl) hl

end StartRow

section
variable {surface : Surface} {e : Emission} (hc : c.StartsOnCode content)
include hc

theorem nodeLines?_quotes (h : nodeLines? c (.ofText content) = some e) : e.Quotes content := by
  obtain ⟨_, _, _, _, _, hrow⟩ := exists_startRow hc
  obtain ⟨-, rfl⟩ := keyedByText?_eq_some h
  obtain ⟨u, v, hs, hu, -⟩ := Text.trim_spec (Text.unlines ((Source.ofText content).lines _ _))
  exact hrow.onRows_of_lines _ hs hu

theorem firstLine?_quotes (h : firstLine? c (.ofText content) = some e) : e.Quotes content := by
  obtain ⟨_, k, x, rest, _, hrow⟩ := exists_startRow hc
  obtain ⟨line, hl, h⟩ := Option.bind_eq_some_iff.mp h
  obtain ⟨-, rfl⟩ := keyedByText?_eq_some h
  rw [Source.line?_of_pieceAt hrow.piece] at hl
  obtain rfl := Option.some.inj hl
  have hin : Text.trim (Text.chopReturn (k ++ x :: rest)) <:+: k ++ x :: rest :=
    (Text.trim_isInfix _).trans (Text.chopReturn_isPrefix _).isInfix
  have hnl := fun hm => hrow.piece.notMem (hin.subset hm)
  rw [Quotes, Text.splitOn_of_notMem hnl]
  exact Text.onRows_singleton hrow.piece.getElem?_eq hin

/-- A part of the capture's text, cut off at the end, quotes the source when it is trimmed. -/
private theorem onRows_trim_captureText {text m b : Text}
    (h : captureText? c (.ofText content) = some text) (hm : text = m ++ b) :
    OnRows content c.startRow (Text.splitOn '\n' (Text.trim m)) := by
  obtain ⟨_, _, _, _, _, hrow⟩ := exists_startRow hc
  obtain ⟨start, hs, h⟩ := Option.bind_eq_some_iff.mp h
  obtain ⟨a, b', he, ha, -⟩ := Text.slice?_eq_some_iff.mp h
  rw [hrow.start_eq] at hs
  have he' : content = a ++ m ++ (b ++ b') := by
    rw [show content = a ++ text ++ b' from he, hm]
    simp
  exact hrow.onRows_trim he' (.inr (ha.trans (Option.some.inj hs).symm))

theorem selector?_quotes (h : selector? c (.ofText content) = some e) : e.Quotes content := by
  obtain ⟨text, ht, h⟩ := Option.bind_eq_some_iff.mp h
  obtain ⟨-, rfl⟩ := keyedByText?_eq_some h
  exact onRows_trim_captureText hc ht List.takeWhile_append_dropWhile.symm

private theorem commentRun_quotes (l : Lexicon) :
    OnRows content c.startRow (Text.splitOn '\n' (commentRun l (.ofText content) c.startRow)) := by
  obtain ⟨_, _, _, _, _, hrow⟩ := exists_startRow hc
  rw [commentRun]
  generalize c.startRow + runLength l (.ofText content) _ _ = last
  have hrows := (Text.onRows_lines content c.startRow last).map Text.trim_isInfix
  have hnl : ∀ m ∈ ((Source.ofText content).lines c.startRow last).map Text.trim, '\n' ∉ m := by
    intro m hm
    obtain ⟨l, hl, rfl⟩ := List.mem_map.mp hm
    exact fun hm => Text.notMem_of_mem_lines hl ((Text.trim_isInfix l).subset hm)
  generalize ((Source.ofText content).lines c.startRow last).map Text.trim = ls at hrows hnl ⊢
  cases ls with
  | nil => exact Text.onRows_singleton hrow.piece.getElem?_eq List.nil_infix
  | cons l ls => rwa [Text.splitOn_unlines (List.cons_ne_nil l ls) hnl]

theorem comment?_quotes (h : comment? surface c (.ofText content) = some e) :
    e.Quotes content := by
  obtain ⟨raw, hr, h⟩ := Option.bind_eq_some_iff.mp h
  have htext := onRows_trim_captureText hc hr (List.append_nil raw).symm
  dsimp only at h
  split at h
  · cases h
  · split at h
    · cases h
      exact htext
    · split at h
      · obtain ⟨-, rfl⟩ := keyedByText?_eq_some h
        exact htext
      · split at h
        · cases h
        · obtain ⟨-, rfl⟩ := keyedByText?_eq_some h
          exact commentRun_quotes hc surface.lexicon

/-- A body on the capture's rows, under the annotations above them. -/
private theorem withAnnotations_onRows (surface : Surface) {body : Text}
    (h : OnRows content c.startRow (Text.splitOn '\n' body)) :
    OnRows content (leadingAnnotations surface (.ofText content) c.startRow).1 (Text.splitOn '\n'
      (withAnnotations (leadingAnnotations surface (.ofText content) c.startRow).2 body)) := by
  obtain ⟨_, _, _, _, _, hrow⟩ := exists_startRow hc
  have ha := leadingAnnotations_standsAbove surface hrow.row_lt
  rw [withAnnotations, Text.splitOn_unlines_append ha.notMem]
  exact Text.onRows_append ha.onRows (ha.length_eq.symm ▸ h)

theorem headerText?_quotes {allowArrow : Bool} {text : Text} {row : Nat}
    (h : headerText? surface c (.ofText content) allowArrow = some (text, row)) :
    OnRows content row (Text.splitOn '\n' text) := by
  obtain ⟨_, _, _, _, _, hrow⟩ := exists_startRow hc
  obtain ⟨start, lead, m, hs, hlead, hm, rfl, rfl, -⟩ := headerText?_eq_some h
  obtain ⟨a, b, he, ha, -⟩ := Text.slice?_eq_some_iff.mp hm
  refine withAnnotations_onRows hc surface (hrow.onRows_trim he ?_)
  rw [ha]
  obtain rfl | hlead := hlead
  · rw [hrow.start_eq] at hs
    exact .inr (Option.some.inj hs).symm
  · rw [Source.offset?_of_pieceAt hrow.piece, if_pos (Nat.zero_le _)] at hlead
    exact .inl (Option.some.inj hlead).symm

theorem header?_quotes (h : header? surface c (.ofText content) = some e) : e.Quotes content := by
  obtain ⟨⟨text, row⟩, ht, h⟩ := Option.bind_eq_some_iff.mp h
  obtain ⟨-, rfl⟩ := keyedByText?_eq_some h
  exact headerText?_quotes hc ht

theorem signature?_quotes {kind : SignatureKind}
    (h : signature? surface kind c (.ofText content) = some e) : e.Quotes content := by
  obtain ⟨⟨text, row⟩, ht, rfl⟩ := Option.map_eq_some_iff.mp h
  exact headerText?_quotes hc ht

theorem block?_quotes (h : block? surface c (.ofText content) = some e) : e.Quotes content := by
  obtain ⟨_, _, _, _, _, hrow⟩ := exists_startRow hc
  obtain ⟨last, hr, ht, -⟩ := block?_eq_some h
  rw [Quotes, hr, ht]
  have ha := leadingAnnotations_standsAbove surface hrow.row_lt
  have hbody : ∀ {u m v : Text}, _ = u ++ m ++ v → isBlank u →
      OnRows content c.startRow (Text.splitOn '\n' m) := hrow.onRows_of_lines last
  generalize Text.unlines ((Source.ofText content).lines c.startRow last) = body at hbody ⊢
  obtain ⟨u, v, hb, hu, -⟩ := Text.trim_spec body
  have hin := withAnnotations_onRows hc surface (hbody hb hu)
  generalize leadingAnnotations surface (.ofText content) c.startRow = above at ha hin ⊢
  obtain ⟨u', v', ht, hu', -⟩ := Text.trim_spec (withAnnotations above.2 (Text.trim body))
  cases hl : above.2 with
  | nil =>
    -- The body may be blank, so what the two trims cut off is taken together.
    have hrow : above.1 = c.startRow := by simpa [hl] using ha.length_eq
    rw [hl] at ht
    have hm : withAnnotations [] (Text.trim body) = Text.trim body := by
      simp [withAnnotations, Text.unlines, Text.joinWith]
    rw [hm] at ht ⊢
    have he : body = (u ++ u') ++ Text.trim (Text.trim body) ++ (v' ++ v) := by
      rw [ht] at hb
      simpa only [List.append_assoc] using hb
    rw [hrow]
    exact hbody he (by simp [hu, hu'])
  | cons l ls =>
    have hsplit := Text.splitOn_unlines_append ha.notMem (Text.trim body)
    rw [← withAnnotations, hl] at hsplit
    rw [hl] at ht hin
    exact hin.of_blank_part ht hu' (l := l) (by rw [hsplit]; rfl) (ha.head_not_blank l (by rw [hl]; rfl))

end
end Emission

section
open Emission
variable {surface : Surface} {e : Emission} (hc : c.StartsOnCode content)
include hc

theorem Declares.quotes (h : Declares surface c (.ofText content) e) : e.Quotes content := by
  cases h with
  | block h => exact block?_quotes hc h
  | header h => exact header?_quotes hc h
  | signature _ h => exact signature?_quotes hc h

theorem Rendered.quotes (h : Rendered surface c (.ofText content) e) : e.Quotes content := by
  cases h with
  | comment h => exact comment?_quotes hc h
  | nodeLines h => exact nodeLines?_quotes hc h
  | firstLine h => exact firstLine?_quotes hc h
  | wholeBinding h =>
    obtain ⟨e, he, rfl⟩ := Option.map_eq_some_iff.mp h
    exact (nodeLines?_quotes hc he :)
  | selector h => exact selector?_quotes hc h
  | declaration h => exact h.quotes hc

theorem Strategy.emit?_quotes {strategy : Strategy} {category : Category}
    (h : strategy.emit? surface category c (.ofText content) = some e) : e.Quotes content :=
  (emit?_rendered h).quotes hc

end

namespace Classification

/-- The lines of a fragment are parts of consecutive rows of the source, carriage returns
included, the first of them of the fragment's row. -/
theorem fragment_quotes_source {r : Reading} {k k' : Claims} {f : Fragment}
    (hc : c.StartsOnCode content)
    (h : step r (.ofText content) k c = (.ok (some f), k')) :
    OnRows content f.row (Text.splitOn '\n' f.text) := by
  simp only [step] at h
  split at h
  · cases h
  · split at h
    · cases h
    · split at h
      · cases h
      · next e he =>
        have hq : e.Quotes content := by
          simp only [emission?] at he
          split at he
          · cases he
          · exact Strategy.emit?_quotes hc he
        obtain ⟨hf, -⟩ := Prod.mk.inj h
        simp only [Claims.claim] at hf
        split at hf
        · cases hf
        · cases hf
          exact hq

theorem annotated_struct_quotes_source :
    OnRows "#[a]\n struct S \x7b\n  x: u8,\n\x7d\n".toList 0
      (Text.splitOn '\n' "#[a]\nstruct S \x7b\n  x: u8,\n\x7d".toList) := by
  have hc : Capture.StartsOnCode ⟨"definition.struct", 1, 1, 3, 1⟩
      "#[a]\n struct S \x7b\n  x: u8,\n\x7d\n".toList :=
    ⟨"#[a]\n ".toList, 's', "truct S \x7b\n  x: u8,\n\x7d\n".toList, by decide, by decide,
      by decide +kernel⟩
  have hstep : (step ⟨.default, .rust, .rust⟩ (.ofText "#[a]\n struct S \x7b\n  x: u8,\n\x7d\n".toList)
      .empty ⟨"definition.struct", 1, 1, 3, 1⟩).1 =
        .ok (some ⟨"#[a]\nstruct S \x7b\n  x: u8,\n\x7d".toList, 0⟩) := by decide +kernel
  exact fragment_quotes_source hc (Prod.ext hstep rfl)

end Classification
end CodeDigest
