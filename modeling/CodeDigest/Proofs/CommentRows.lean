import CodeDigest.Identifier
import CodeDigest.Proofs.Alignment
import CodeDigest.Proofs.Lines
import CodeDigest.Proofs.Renderings
import CodeDigest.Proofs.TokenGrammar

/-! Rows that start with a line comment, and what the capture of such a row emits: a directive alone,
nothing, or the row with the plain comments below it. -/
namespace CodeDigest

/-- Whether the source has a row, and its line a property. -/
def Source.rowHas (s : Source) (p : Text → Bool) (row : Nat) : Bool := (s.line? row).any p

theorem Source.rowHas_iff {s : Source} {p : Text → Bool} {row : Nat} :
    s.rowHas p row = true ↔ ∃ line, s.line? row = some line ∧ p line = true :=
  Option.any_eq_true p _

theorem Source.rowHas_of_line? {s : Source} {row : Nat} {line : Text} (h : s.line? row = some line)
    (p : Text → Bool) : s.rowHas p row = p line := by
  rw [rowHas, h, Option.any_some]

namespace Lexicon
variable {l : Lexicon} {t v line : Text}

def isCommentLine (l : Lexicon) (line : Text) : Bool := l.startsLineComment (Text.trimStart line)

/-- Whether a comment speaks to a tool when the white space at its end is cut off. -/
def isTrimmedDirective (l : Lexicon) (line : Text) : Bool := l.isDirective (Text.trim line)

private theorem markers_of_mem (hl : l ∈ all) : ∀ m ∈ l.lineMarkers,
    m.marker ≠ [] ∧ ∀ x ∈ m.marker, CharClass.isBlank x = false ∧ x ≠ 'd' := by
  have h : (all.all fun l => l.lineMarkers.all fun m => !m.marker.isEmpty &&
      m.marker.all fun x => !CharClass.isBlank x && x != 'd') = true := by decide
  intro m hm
  simpa using List.all_eq_true.mp (List.all_eq_true.mp h l hl) m hm

/-- A comment starts with a mark, which is no white space. -/
private theorem exists_head_of_comment (hl : l ∈ all) (h : l.startsLineComment t = true) :
    ∃ x rest, t = x :: rest ∧ CharClass.isBlank x = false ∧ x ≠ 'd' := by
  obtain ⟨m, hm, after, rfl, -⟩ := startsLineComment_iff.mp h
  obtain ⟨hne, hmarker⟩ := markers_of_mem hl m hm
  obtain ⟨x, rest, he⟩ := List.exists_cons_of_ne_nil hne
  rw [he] at hmarker
  refine ⟨x, rest ++ after, by rw [he, List.cons_append], hmarker x List.mem_cons_self⟩

/-- White space at the end makes no comment of what is none without it. -/
private theorem startsLineComment_of_append (hl : l ∈ all) (hv : Text.isBlank v = true)
    (h : l.startsLineComment (t ++ v) = true) : l.startsLineComment t = true := by
  obtain ⟨m, hm, after, he, hu⟩ := startsLineComment_iff.mp h
  obtain ⟨hne, hmarker⟩ := markers_of_mem hl m hm
  obtain ⟨w, ht, rfl⟩ : ∃ w, t = m.marker ++ w ∧ after = w ++ v := by
    obtain ⟨w, hw, hvw⟩ | ⟨w, hw, hvw⟩ := List.append_eq_append_iff.mp he
    · cases w with
      | nil => exact ⟨[], by simpa using hw.symm, by simpa using hvw.symm⟩
      | cons x w =>
        have hx := (hmarker x (by simp [hw])).1
        rw [hvw] at hv
        simp [hx] at hv
    · exact ⟨w, hw, hvw⟩
  refine startsLineComment_iff.mpr ⟨m, hm, w, ht, ?_⟩
  cases hn : m.unlessNext with
  | none => exact .inl hn
  | some x =>
    right
    cases w with
    | nil => simp [hn]
    | cons y w => exact hu.resolve_left (by simp [hn])

/-- A comment with the white space around it cut off is a comment. -/
private theorem startsLineComment_trim (hl : l ∈ all) (h : l.isCommentLine line = true) :
    l.startsLineComment (Text.trim line) = true := by
  obtain ⟨v, hv, hblank⟩ := Text.trimEnd_spec (Text.trimStart line)
  exact startsLineComment_of_append hl hblank (hv ▸ h)

theorem isDirective_of_trim (h : l.isTrimmedDirective line = true) : l.isDirective line = true := by
  rw [isTrimmedDirective, isDirective, List.any_eq_true] at h
  obtain ⟨d, hd, h⟩ := h
  have htrim : Text.trimStart (Text.trim line) = Text.trim line :=
    (Text.trim_eq_self_iff.mp (Text.trim_trim line)).1
  obtain ⟨v, hv, -⟩ := Text.trimEnd_spec (Text.trimStart line)
  rw [htrim, Text.startsWith_iff] at h
  rw [isDirective, List.any_eq_true]
  exact ⟨d, hd, Text.startsWith_iff.mpr (h.trans ⟨v, hv.symm⟩)⟩

end Lexicon

/-- A capture of what stands on a row, from the first character that is no white space to the end of
the row, or beyond it. -/
structure Capture.SpansRow (c : Capture) (s : Source) (row : Nat) : Prop where
  startRow : c.startRow = row
  endRow : c.endRow = row
  columns : ∀ line, s.line? row = some line →
    c.startColumn = Owner.indentation line ∧ Text.byteSize line ≤ c.endColumn

def Capture.ofRow (name : String) (s : Source) (row : Nat) : Capture :=
  let line := (s.line? row).getD []
  ⟨name, row, Owner.indentation line, row, Text.byteSize line⟩

theorem Capture.spansRow_ofRow (name : String) (s : Source) (row : Nat) :
    (Capture.ofRow name s row).SpansRow s row :=
  ⟨rfl, rfl, fun line hline => by simp [Capture.ofRow, hline]⟩

namespace Emission
open Lexicon
variable {surface : Surface} {l : Lexicon} {content line : Text} {s : Source} {c : Capture}
  {row first last : Nat}

theorem indentation_append (line : Text) : ∃ lead, line = lead ++ Text.trimStart line ∧
    Text.isBlank lead ∧ Text.byteSize lead = Owner.indentation line :=
  ⟨line.takeWhile CharClass.isBlank, List.takeWhile_append_dropWhile.symm, by simp [Text.isBlank], rfl⟩

/-- Such a capture holds the line but for the white space in front. -/
theorem captureText?_of_spansRow (hc : c.SpansRow (.ofText content) row)
    (hline : (Source.ofText content).line? row = some line) :
    captureText? c (.ofText content) = some (Text.trimStart line) := by
  obtain ⟨before, piece, after, hp, rfl⟩ := Source.exists_pieceAt_of_line? hline
  obtain ⟨hcolumn, hend⟩ := hc.columns _ hline
  obtain ⟨lead, hlead, -, hsize⟩ := indentation_append (Text.chopReturn piece)
  obtain ⟨tail, htail⟩ := Text.chopReturn_isPrefix piece
  have hle : Text.byteSize lead ≤ Text.byteSize (Text.chopReturn piece) := by
    rw [hlead]
    simp
  have hstart : c.start? (.ofText content) = some (Text.byteSize (before ++ lead)) := by
    rw [Capture.start?, hc.startRow, hcolumn, Source.offset?_of_pieceAt hp, ← hsize, if_pos hle,
      Text.byteSize_append]
  have hstop : c.stop (.ofText content) =
      Text.byteSize (before ++ lead ++ Text.trimStart (Text.chopReturn piece)) := by
    rw [List.append_assoc, ← hlead, Text.byteSize_append, Capture.stop, hc.endRow,
      Source.offset?_of_pieceAt hp, Source.lineEnd?, Source.rows_getElem?_of_pieceAt hp]
    split
    · next hcol =>
      have : c.endColumn = Text.byteSize (Text.chopReturn piece) := Nat.le_antisymm hcol hend
      simp [this]
    · simp
  rw [captureText?, hstart, Option.bind_some, hstop]
  refine Text.slice?_eq_some_iff.mpr ⟨before ++ lead, tail ++ after, ?_, rfl, rfl⟩
  rw [List.append_assoc before, ← hlead, List.append_assoc, ← List.append_assoc _ tail, htail,
    ← List.append_assoc]
  exact hp.text_eq

/-- The rows of a group as one emission, each of them trimmed. -/
def runEmission (s : Source) (first last : Nat) : Emission :=
  let text := Text.unlines ((s.lines first last).map Text.trim)
  ⟨text, first, [text], none⟩

def directiveEmission (row : Nat) (line : Text) : Emission :=
  ⟨Text.trim line, row, [directiveKey row (Owner.indentation line)], none⟩

private theorem commentRun_not_blank (hl : l ∈ Lexicon.all) (hline : s.line? row = some line)
    (hcomment : l.isCommentLine line = true) (hle : row ≤ last) :
    Text.isBlank (Text.unlines ((s.lines row last).map Text.trim)) = false := by
  obtain ⟨x, rest, he, hx, -⟩ := exists_head_of_comment hl hcomment
  have hb : Text.isBlank line = false := by
    obtain ⟨lead, hlead, -⟩ := indentation_append line
    rw [hlead, he]
    simp [hx]
  obtain ⟨more, hmore⟩ := Source.exists_lines_eq_cons hle hline
  rw [hmore, Text.isBlank_unlines, List.all_eq_false]
  exact ⟨_, List.mem_map_of_mem List.mem_cons_self, by simp [hb]⟩

/-- What the capture of a comment row emits. -/
theorem comment?_of_spansRow (hl : surface.lexicon ∈ Lexicon.all)
    (hc : c.SpansRow (.ofText content) row) (hline : (Source.ofText content).line? row = some line)
    (hcomment : surface.lexicon.isCommentLine line = true) :
    comment? surface c (.ofText content) =
      if surface.lexicon.isTrimmedDirective line then some (directiveEmission row line)
      else if 0 < row && plainRow surface.lexicon (.ofText content) (row - 1) then none
      else some (runEmission (.ofText content) row
        (row + runLength surface.lexicon (.ofText content) (Source.ofText content).lineCount
          (row + 1))) := by
  have htext := startsLineComment_trim hl hcomment
  have hne : (Text.trim line).isEmpty = false := by
    obtain ⟨x, rest, he, -⟩ := exists_head_of_comment hl htext
    rw [he]
    rfl
  have hcolumn := (hc.columns line hline).1
  have halone : isStandalone (.ofText content) row (Owner.indentation line) = true := by
    obtain ⟨lead, hlead, hb, hsize⟩ := indentation_append line
    have htake : Text.takeBytes? line (Owner.indentation line) = some lead :=
      Text.takeBytes?_eq_some_iff.mpr ⟨_, hlead, hsize⟩
    rw [isStandalone, hline, Option.bind_some, htake, Option.any_some, hb]
  have hrun : keyedByText? (commentRun surface.lexicon (.ofText content) row) row = _ :=
    keyedByText?_of_not_blank (commentRun_not_blank hl hline hcomment (Nat.le_add_right _ _))
  rw [comment?, captureText?_of_spansRow hc hline, Option.bind_some]
  simp only [Text.trim_trimStart, hne, htext, hc.startRow, hcolumn, halone, hrun]
  rfl

/-! What two emissions tell of the rows that they show. -/

private theorem splitOn_runEmission (hle : first ≤ last) (hlast : last < (Source.ofText content).lineCount) :
    Text.splitOn '\n' (runEmission (.ofText content) first last).text =
      ((Source.ofText content).lines first last).map Text.trim := by
  refine Text.splitOn_unlines ?_ fun m hm => ?_
  · have hlength := Source.length_lines hlast hle
    intro h
    rw [List.map_eq_nil_iff.mp h, List.length_nil] at hlength
    omega
  · obtain ⟨line, hline, rfl⟩ := List.mem_map.mp hm
    exact fun hm => Text.notMem_of_mem_lines hline ((Text.trim_isInfix line).subset hm)

/-- Groups that are shown alike from one row on end alike. -/
theorem eq_of_runEmission_eq {last' : Nat} (hle : first ≤ last)
    (hlast : last < (Source.ofText content).lineCount) (hle' : first ≤ last')
    (hlast' : last' < (Source.ofText content).lineCount)
    (h : runEmission (.ofText content) first last = runEmission (.ofText content) first last') :
    last = last' := by
  have hlines := congrArg (fun e => (Text.splitOn '\n' e.text).length) h
  simp only [splitOn_runEmission hle hlast, splitOn_runEmission hle' hlast', List.length_map,
    Source.length_lines hlast hle, Source.length_lines hlast' hle'] at hlines
  omega

/-- A run does not share the key of a directive, which starts with no mark of a comment. -/
theorem directiveEmission_ne_runEmission (hl : l ∈ Lexicon.all) (hline : s.line? row = some line)
    (hcomment : l.isCommentLine line = true) (hle : row ≤ last) (line' : Text) :
    directiveEmission row line' ≠ runEmission s row last := by
  intro h
  obtain ⟨x, rest, hx, -, hd⟩ := exists_head_of_comment hl (startsLineComment_trim hl hcomment)
  obtain ⟨more, hmore⟩ := Source.exists_lines_eq_cons hle hline
  have hkeys : directiveKey row (Owner.indentation line') =
      Text.unlines ((s.lines row last).map Text.trim) := by
    simpa [directiveEmission, runEmission] using congrArg Emission.keys h
  rw [hmore, List.map_cons, hx, show x :: rest = [x] ++ rest from rfl, Text.unlines_append_cons] at hkeys
  exact hd (List.cons_eq_cons.mp hkeys).1.symm

/-! Ordinary comments, and the run of them below a row. -/

/-- A row with a comment that is no directive, as `directive` judges its line. -/
def OrdinaryComment (l : Lexicon) (s : Source) (directive : Text → Bool) (row : Nat) : Prop :=
  s.rowHas l.isCommentLine row = true ∧ s.rowHas directive row = false

/-- A comment that is a directive only by the white space at its end. -/
def Ragged (l : Lexicon) (s : Source) (row : Nat) : Prop :=
  s.rowHas l.isCommentLine row = true ∧ s.rowHas l.isDirective row = true ∧
    s.rowHas l.isTrimmedDirective row = false

/-- The rows of a run are plain comments. The row behind it is none, when all rows were looked at. -/
theorem runLength_spec (l : Lexicon) (s : Source) (limit row : Nat) :
    (∀ i < runLength l s limit row, plainRow l s (row + i) = true) ∧
      (s.lineCount ≤ row + limit → plainRow l s (row + runLength l s limit row) = false) := by
  induction limit generalizing row with
  | zero =>
    refine ⟨fun i hi => by simp [runLength] at hi, fun hle => ?_⟩
    rw [Bool.eq_false_iff]
    intro h
    obtain ⟨line, hline, -⟩ := Source.rowHas_iff.mp h
    have := Source.lt_lineCount_of_line? hline
    simp only [runLength] at this
    omega
  | succ limit ih =>
    rw [runLength]
    split
    · next hp =>
      obtain ⟨hall, hbelow⟩ := ih (row + 1)
      constructor
      · intro i hi
        cases i with
        | zero => exact hp
        | succ i =>
          rw [Nat.add_comm i, ← Nat.add_assoc]
          exact hall i (by omega)
      · intro hle
        rw [Nat.add_comm _ 1, ← Nat.add_assoc]
        exact hbelow (by omega)
    · next hp => exact ⟨fun i hi => by omega, fun _ => Bool.eq_false_iff.mpr hp⟩

theorem plainRow_iff : plainRow l s row = true ↔ OrdinaryComment l s l.isDirective row := by
  have hplain : plainRow l s row = s.rowHas (isPlainLineComment l) row := rfl
  have htrim : ∀ line, l.isDirective (Text.trimStart line) = l.isDirective line := by
    intro line
    rw [Lexicon.isDirective, Lexicon.isDirective, show Text.trimStart (Text.trimStart line) =
      Text.trimStart line from List.dropWhile_idempotent _ _]
  rw [hplain, OrdinaryComment]
  cases hline : s.line? row with
  | none => simp [Source.rowHas, hline]
  | some line => simp [Source.rowHas_of_line? hline, isPlainLineComment, htrim, isCommentLine]

/-- A comment that stays ordinary whatever white space stands at its end. -/
theorem plainRow_iff_not_ragged :
    plainRow l s row = true ↔ OrdinaryComment l s l.isTrimmedDirective row ∧ ¬Ragged l s row := by
  rw [plainRow_iff, OrdinaryComment, OrdinaryComment, Ragged]
  cases hline : s.line? row with
  | none => simp [Source.rowHas, hline]
  | some line =>
    simp only [Source.rowHas_of_line? hline]
    have hdirective := @isDirective_of_trim l line
    cases hd : l.isDirective line <;> cases ht : l.isTrimmedDirective line <;> simp_all

def lastOfRun (l : Lexicon) (s : Source) (row : Nat) : Nat := row + runLength l s s.lineCount (row + 1)

theorem lastOfRun_spec (l : Lexicon) (s : Source) (row : Nat) :
    (∀ r, row < r → r ≤ lastOfRun l s row → plainRow l s r = true) ∧
      plainRow l s (lastOfRun l s row + 1) = false := by
  obtain ⟨hall, hbelow⟩ := runLength_spec l s s.lineCount (row + 1)
  rw [lastOfRun]
  constructor
  · intro r hr hle
    have := hall (r - (row + 1)) (by omega)
    rwa [Nat.add_sub_cancel' (by omega)] at this
  · rw [Nat.add_right_comm]
    exact hbelow (by omega)

theorem OrdinaryComment.lt_lineCount {directive : Text → Bool} (h : OrdinaryComment l s directive row) :
    row < s.lineCount := by
  obtain ⟨line, hline, -⟩ := Source.rowHas_iff.mp h.1
  exact Source.lt_lineCount_of_line? hline

theorem OrdinaryComment.of_le_lastOfRun (h : OrdinaryComment l s l.isTrimmedDirective row) {r : Nat}
    (hr : row ≤ r) (hle : r ≤ lastOfRun l s row) : OrdinaryComment l s l.isTrimmedDirective r := by
  obtain rfl | hlt := Nat.eq_or_lt_of_le hr
  · exact h
  · exact (plainRow_iff_not_ragged.mp ((lastOfRun_spec l s row).1 r hlt hle)).1

theorem le_lastOfRun (l : Lexicon) (s : Source) (row : Nat) : row ≤ lastOfRun l s row :=
  Nat.le_add_right _ _

end Emission
end CodeDigest
