import CodeDigest.Proofs.CommentRows

/-! Runs of line comments. Each row that starts with a comment is to be shown once: a directive alone,
other comments in the emission of their run. -/
namespace CodeDigest

/-- A stretch of rows with a property that no row with the property touches. -/
structure IsRun (p : Nat → Prop) (first last : Nat) : Prop where
  le : first ≤ last
  all : ∀ row, first ≤ row → row ≤ last → p row
  above : ∀ row, row + 1 = first → ¬p row
  below : ¬p (last + 1)

namespace Emission
open Lexicon
variable {surface : Surface} {l : Lexicon} {content : Text} {s : Source} {row : Nat} {e : Emission}

def commentRows (l : Lexicon) (s : Source) : List Nat :=
  (List.range s.lineCount).filter (s.rowHas l.isCommentLine)

theorem mem_commentRows : row ∈ commentRows l s ↔ s.rowHas l.isCommentLine row = true := by
  rw [commentRows, List.mem_filter, List.mem_range, and_iff_right_iff_imp]
  intro h
  obtain ⟨line, hline, -⟩ := Source.rowHas_iff.mp h
  exact Source.lt_lineCount_of_line? hline

/-- How a group of rows, first and last, is to be shown: a directive alone, verbatim and under a key
of its own place, and a run of other comments as one. -/
inductive ShowsGroup (l : Lexicon) (s : Source) (directive : Text → Bool) :
    Nat × Nat → Emission → Prop where
  | directive {row : Nat} {line : Text} (hline : s.line? row = some line)
      (hd : directive line = true) : ShowsGroup l s directive (row, row) (directiveEmission row line)
  | run {first last : Nat} (h : IsRun (OrdinaryComment l s directive) first last) :
      ShowsGroup l s directive (first, last) (runEmission s first last)

theorem ShowsGroup.directive_or_run {directive : Text → Bool} {g : Nat × Nat}
    (h : ShowsGroup l s directive g e) :
    (g.2 = g.1 ∧ ∃ line, s.line? g.1 = some line ∧ directive line = true ∧
      e = directiveEmission g.1 line) ∨
    (IsRun (OrdinaryComment l s directive) g.1 g.2 ∧ e = runEmission s g.1 g.2) := by
  cases h with
  | directive hline hd => exact .inl ⟨rfl, _, hline, hd, rfl⟩
  | run h => exact .inr ⟨h, rfl⟩

theorem ShowsGroup.row_eq {directive : Text → Bool} {g : Nat × Nat}
    (h : ShowsGroup l s directive g e) : e.row = g.1 := by
  cases h <;> rfl

theorem ShowsGroup.le {directive : Text → Bool} {g : Nat × Nat}
    (h : ShowsGroup l s directive g e) : g.1 ≤ g.2 := by
  cases h with
  | directive => exact Nat.le_refl _
  | run h => exact h.le

/-- No directive shows a group with an ordinary row. -/
theorem ShowsGroup.run_of_ordinary {directive : Text → Bool} {g : Nat × Nat}
    (h : ShowsGroup l s directive g e) (hfirst : g.1 ≤ row) (hlast : row ≤ g.2)
    (hrow : OrdinaryComment l s directive row) :
    IsRun (OrdinaryComment l s directive) g.1 g.2 ∧ e = runEmission s g.1 g.2 := by
  refine h.directive_or_run.resolve_left ?_
  rintro ⟨heq, line, hline, hd, -⟩
  obtain rfl : g.1 = row := by omega
  have hnot := hrow.2
  rw [Source.rowHas_of_line? hline, hd] at hnot
  cases hnot

/-- Where the same comments are ordinary either way, white space at the end does not matter. -/
theorem ShowsGroup.of_trim {g : Nat × Nat} (h : ShowsGroup l s l.isTrimmedDirective g e)
    (hj : OrdinaryComment l s l.isTrimmedDirective = OrdinaryComment l s l.isDirective) :
    ShowsGroup l s l.isDirective g e := by
  cases h with
  | directive hline hd => exact .directive hline (isDirective_of_trim hd)
  | run h => exact .run (hj ▸ h)

def groupRows (g : Nat × Nat) : List Nat := List.range' g.1 (g.2 + 1 - g.1)

private theorem groupRows_eq_cons {first last : Nat} (hle : first ≤ last) :
    groupRows (first, last) = first :: List.range' (first + 1) (last - first) := by
  rw [groupRows, Nat.succ_sub hle, List.range'_succ]

/-- The rows from one on are a group that starts there and the rows behind the group. -/
private theorem range'_eq_groupRows_append {first last n k : Nat} (hle : first ≤ last) (hlt : last < n)
    (hk : first + k = n) :
    List.range' first k = groupRows (first, last) ++ List.range' (last + 1) (n - (last + 1)) := by
  have happend : List.range' first (last + 1 - first) ++
      List.range' (first + (last + 1 - first)) (n - (last + 1)) = _ := List.range'_append_1
  rwa [Nat.add_sub_cancel' (by omega), show last + 1 - first + (n - (last + 1)) = k by omega,
    eq_comm] at happend

/-- Emissions that show groups of comment rows, which taken together are all the comment rows of a
source, each of them once. -/
def ShownOnce (l : Lexicon) (s : Source) (directive : Text → Bool) (emissions : List Emission) :
    Prop :=
  ∃ groups, groups.flatMap groupRows = commentRows l s ∧
    List.Forall₂ (ShowsGroup l s directive) groups emissions

/-- Two comments that are no directives stand next to each other, and only the white space at its end
keeps one of them from being a directive too. -/
def RaggedNeighbours (l : Lexicon) (s : Source) (row : Nat) : Prop :=
  OrdinaryComment l s l.isTrimmedDirective row ∧
    OrdinaryComment l s l.isTrimmedDirective (row + 1) ∧ (Ragged l s row ∨ Ragged l s (row + 1))

/-- What the captures of the comment rows emit, where `captures` has the capture of each row. -/
def commentEmissions (surface : Surface) (captures : Nat → Capture) (s : Source) : List Emission :=
  (commentRows surface.lexicon s).filterMap fun row => comment? surface (captures row) s

private theorem exists_of_forall₂_left {α β : Type} {r : α → β → Prop} {as : List α} {bs : List β}
    {a : α} (h : List.Forall₂ r as bs) (ha : a ∈ as) : ∃ b ∈ bs, r a b := by
  induction h with
  | nil => cases ha
  | cons hab _ ih =>
    obtain rfl | ha := List.mem_cons.mp ha
    · exact ⟨_, List.mem_cons_self, hab⟩
    · obtain ⟨b, hb, hr⟩ := ih ha
      exact ⟨b, List.mem_cons_of_mem _ hb, hr⟩

private theorem exists_of_forall₂_right {α β : Type} {r : α → β → Prop} {as : List α}
    {bs : List β} {b : β} (h : List.Forall₂ r as bs) (hb : b ∈ bs) : ∃ a ∈ as, r a b :=
  exists_of_forall₂_left h.flip hb

/-- Rows are taken from `row` on. Where a comment row comes up, a group starts that ends before the
next boundary, and no row of the group but the first emits something. -/
private theorem exists_groups {comment : Nat → Bool} {emit : Nat → Option Emission}
    {Shows : Nat × Nat → Emission → Prop} {n : Nat} (Boundary : Nat → Prop)
    (hn : ∀ row, comment row = true → row < n)
    (hskip : ∀ row, comment row = false → Boundary (row + 1))
    (htake : ∀ row, Boundary row → comment row = true → ∃ last e, row ≤ last ∧ emit row = some e ∧
      Shows (row, last) e ∧ (∀ r, row < r → r ≤ last → comment r = true ∧ emit r = none) ∧
      Boundary (last + 1))
    (row : Nat) (hrow : Boundary row) (k : Nat) (hk : row + k = n) :
    ∃ groups, groups.flatMap groupRows = (List.range' row k).filter comment ∧
      List.Forall₂ Shows groups (((List.range' row k).filter comment).filterMap emit) := by
  induction k using Nat.strongRecOn generalizing row with
  | _ k ih =>
    cases k with
    | zero => exact ⟨[], rfl, .nil⟩
    | succ k =>
      cases hc : comment row with
      | false =>
        obtain ⟨groups, hrows, hshow⟩ := ih k (by omega) (row + 1) (hskip row hc) (by omega)
        refine ⟨groups, ?_, ?_⟩
        · simpa [List.range'_succ, hc] using hrows
        · simpa [List.range'_succ, hc] using hshow
      | true =>
        obtain ⟨last, e, hle, he, hshow, hinside, hlast⟩ := htake row hrow hc
        have hlt : last < n := by
          obtain rfl | hgt := Nat.eq_or_lt_of_le hle
          · exact hn _ hc
          · exact hn _ (hinside last hgt (Nat.le_refl last)).1
        obtain ⟨groups, hrows, hshows⟩ :=
          ih (n - (last + 1)) (by omega) (last + 1) hlast (by omega)
        -- The first row of the group emits, and the rows inside it are silent.
        have hmem : ∀ r ∈ List.range' (row + 1) (last - row), comment r = true ∧ emit r = none := by
          intro r hr
          rw [List.mem_range'_1] at hr
          exact hinside r (by omega) (by omega)
        have hall : ∀ r ∈ groupRows (row, last), comment r = true := by
          rw [groupRows_eq_cons hle, List.forall_mem_cons]
          exact ⟨hc, fun r hr => (hmem r hr).1⟩
        have hsilent : (groupRows (row, last)).filterMap emit = [e] := by
          rw [groupRows_eq_cons hle, List.filterMap_cons_some he,
            List.filterMap_eq_nil_iff.mpr fun r hr => (hmem r hr).2]
        rw [range'_eq_groupRows_append hle hlt hk, List.filter_append, List.filter_eq_self.mpr hall, List.filterMap_append, hsilent]
        refine ⟨(row, last) :: groups, ?_, .cons hshow hshows⟩
        rw [List.flatMap_cons, hrows]

section
variable {captures : Nat → Capture} (hl : surface.lexicon ∈ Lexicon.all)
  (hc : ∀ row ∈ commentRows surface.lexicon (.ofText content),
    (captures row).SpansRow (.ofText content) row)
include hl hc

private theorem emits_directive
    (h : (Source.ofText content).rowHas surface.lexicon.isCommentLine row = true)
    (hd : (Source.ofText content).rowHas surface.lexicon.isTrimmedDirective row = true) :
    ∃ line, (Source.ofText content).line? row = some line ∧
      comment? surface (captures row) (.ofText content) = some (directiveEmission row line) := by
  obtain ⟨line, hline, hcomment⟩ := Source.rowHas_iff.mp h
  rw [Source.rowHas_of_line? hline] at hd
  refine ⟨line, hline, ?_⟩
  rw [comment?_of_spansRow hl (hc row (mem_commentRows.mpr h)) hline hcomment, if_pos hd]

private theorem emits_run
    (h : OrdinaryComment surface.lexicon (.ofText content) surface.lexicon.isTrimmedDirective row)
    (habove : ∀ r, r + 1 = row → plainRow surface.lexicon (.ofText content) r = false) :
    comment? surface (captures row) (.ofText content) =
      some (runEmission (.ofText content) row (lastOfRun surface.lexicon (.ofText content) row)) := by
  obtain ⟨line, hline, hcomment⟩ := Source.rowHas_iff.mp h.1
  have hd := h.2
  rw [Source.rowHas_of_line? hline] at hd
  rw [comment?_of_spansRow hl (hc row (mem_commentRows.mpr h.1)) hline hcomment,
    if_neg (Bool.eq_false_iff.mp hd), if_neg ?_]
  · rfl
  · cases row with
    | zero => simp
    | succ r => simp [habove r rfl]

private theorem emits_nothing
    (h : OrdinaryComment surface.lexicon (.ofText content) surface.lexicon.isTrimmedDirective (row + 1))
    (habove : plainRow surface.lexicon (.ofText content) row = true) :
    comment? surface (captures (row + 1)) (.ofText content) = none := by
  obtain ⟨line, hline, hcomment⟩ := Source.rowHas_iff.mp h.1
  have hd := h.2
  rw [Source.rowHas_of_line? hline] at hd
  rw [comment?_of_spansRow hl (hc _ (mem_commentRows.mpr h.1)) hline hcomment,
    if_neg (Bool.eq_false_iff.mp hd), if_pos]
  simp [habove]

/-- An ordinary comment that no ordinary one stands above heads a run, if no neighbours are ragged. -/
private theorem heads_run (h : ∀ r, ¬RaggedNeighbours surface.lexicon (.ofText content) r)
    (hrow : OrdinaryComment surface.lexicon (.ofText content) surface.lexicon.isTrimmedDirective row)
    (habove : ∀ r, r + 1 = row →
      ¬OrdinaryComment surface.lexicon (.ofText content) surface.lexicon.isTrimmedDirective r) :
    ∃ last, IsRun (OrdinaryComment surface.lexicon (.ofText content)
        surface.lexicon.isTrimmedDirective) row last ∧
      comment? surface (captures row) (.ofText content) =
        some (runEmission (.ofText content) row last) ∧
      ∀ r, row < r → r ≤ last → comment? surface (captures r) (.ofText content) = none := by
  have hle := le_lastOfRun surface.lexicon (.ofText content) row
  refine ⟨_, ⟨hle, fun _ => hrow.of_le_lastOfRun, habove, fun hnext => ?_⟩,
    emits_run hl hc hrow fun r hr => ?_, ?_⟩
  · have hbelow := (lastOfRun_spec surface.lexicon (.ofText content) row).2
    have hragged : Ragged surface.lexicon (.ofText content)
        (lastOfRun surface.lexicon (.ofText content) row + 1) := by
      by_contra hnot
      rw [plainRow_iff_not_ragged.mpr ⟨hnext, hnot⟩] at hbelow
      cases hbelow
    exact h _ ⟨hrow.of_le_lastOfRun hle (Nat.le_refl _), hnext, .inr hragged⟩
  · rw [Bool.eq_false_iff]
    exact fun hp => habove r hr (plainRow_iff_not_ragged.mp hp).1
  · intro r hlt hr
    obtain ⟨r, rfl⟩ : ∃ q, r = q + 1 := ⟨r - 1, by omega⟩
    have hfirst := hrow.of_le_lastOfRun (r := r) (by omega) (by omega)
    have hsecond := hrow.of_le_lastOfRun (r := r + 1) (by omega) hr
    exact emits_nothing hl hc hsecond
      (plainRow_iff_not_ragged.mpr ⟨hfirst, fun hragged => h r ⟨hfirst, hsecond, .inl hragged⟩⟩)

/-- The comment rows are shown once where no ragged comment stands next to an ordinary one. -/
private theorem shownOnce_of (h : ∀ r, ¬RaggedNeighbours surface.lexicon (.ofText content) r) :
    ShownOnce surface.lexicon (.ofText content) surface.lexicon.isTrimmedDirective
      (commentEmissions surface captures (.ofText content)) := by
  have hlt : ∀ r, (Source.ofText content).rowHas surface.lexicon.isCommentLine r = true →
      r < (Source.ofText content).lineCount := fun r hr =>
    List.mem_range.mp (List.mem_filter.mp (mem_commentRows.mpr hr)).1
  rw [ShownOnce, commentEmissions, commentRows, List.range_eq_range']
  refine exists_groups (fun r => ∀ q, q + 1 = r →
      OrdinaryComment surface.lexicon (.ofText content) surface.lexicon.isTrimmedDirective r →
      ¬OrdinaryComment surface.lexicon (.ofText content) surface.lexicon.isTrimmedDirective q)
    hlt ?skip ?take 0 (fun q hq => by omega) _ (Nat.zero_add _)
  case skip =>
    rintro r hr q hq - hordinary
    obtain rfl : q = r := by omega
    simp [hordinary.1] at hr
  case take =>
    intro r hboundary hcomment
    cases hd : (Source.ofText content).rowHas surface.lexicon.isTrimmedDirective r with
    | true =>
      obtain ⟨line, hline, he⟩ := emits_directive hl hc hcomment hd
      refine ⟨r, _, Nat.le_refl r, he, .directive hline ?_, fun q _ _ => by omega, ?_⟩
      · rwa [Source.rowHas_of_line? hline] at hd
      · rintro q hq - hordinary
        obtain rfl : q = r := by omega
        simp [hordinary.2] at hd
    | false =>
      obtain ⟨last, hrun, he, hsilent⟩ :=
        heads_run hl hc h ⟨hcomment, hd⟩ fun q hq => hboundary q hq ⟨hcomment, hd⟩
      refine ⟨last, _, hrun.le, he, .run hrun, fun q hq hle => ?_, fun q hq hnext => ?_⟩
      · exact ⟨(hrun.all q (by omega) hle).1, hsilent q hq hle⟩
      · obtain rfl : q = last := by omega
        exact absurd hnext hrun.below

omit hl in
/-- An emission shows its group from the row on that its capture stands on. -/
private theorem emits_of_shown {judge : Text → Bool} {g : Nat × Nat}
    (he : e ∈ commentEmissions surface captures (.ofText content))
    (hg : ShowsGroup surface.lexicon (.ofText content) judge g e) :
    comment? surface (captures g.1) (.ofText content) = some e := by
  obtain ⟨row, hrow, hemit⟩ := List.mem_filterMap.mp he
  have hplace : e.row = row := (comment?_spec hemit).2.trans (hc row hrow).startRow
  rwa [← hg.row_eq, hplace]

/-- What an ordinary comment emits, if anything, is the run of the plain comments below it. -/
private theorem eq_runEmission_of_emits
    (h : OrdinaryComment surface.lexicon (.ofText content) surface.lexicon.isTrimmedDirective row)
    (he : comment? surface (captures row) (.ofText content) = some e) :
    e = runEmission (.ofText content) row (lastOfRun surface.lexicon (.ofText content) row) := by
  by_cases habove : ∀ r, r + 1 = row → plainRow surface.lexicon (.ofText content) r = false
  · exact (Option.some.inj ((emits_run hl hc h habove).symm.trans he)).symm
  · push Not at habove
    obtain ⟨r, rfl, hplain⟩ := habove
    rw [emits_nothing hl hc h (by simpa using hplain)] at he
    cases he

omit hl hc in
/-- Where all rows are shown once, each comment row is in a group that an emission shows. -/
private theorem ShownOnce.exists_group {judge : Text → Bool} {emissions : List Emission}
    (h : ShownOnce l s judge emissions) (hrow : s.rowHas l.isCommentLine row = true) :
    ∃ g e, g.1 ≤ row ∧ row ≤ g.2 ∧ e ∈ emissions ∧ ShowsGroup l s judge g e := by
  obtain ⟨groups, hrows, hshow⟩ := h
  rw [← mem_commentRows, ← hrows, List.mem_flatMap] at hrow
  obtain ⟨g, hg, hrow⟩ := hrow
  rw [groupRows, List.mem_range'_1] at hrow
  obtain ⟨e, he, hge⟩ := exists_of_forall₂_left hshow hg
  exact ⟨g, e, hrow.1, by omega, he, hge⟩

omit hl hc in
private theorem ShownOnce.exists_of_mem {judge : Text → Bool} {emissions : List Emission}
    (h : ShownOnce l s judge emissions) (he : e ∈ emissions) : ∃ g, ShowsGroup l s judge g e := by
  obtain ⟨groups, -, hshow⟩ := h
  obtain ⟨g, -, hge⟩ := exists_of_forall₂_right hshow he
  exact ⟨g, hge⟩

/-- Below a ragged comment an ordinary one starts an emission of its own; it does not when the ragged
comment is the lower one, and then the emission above ends before it. -/
private theorem not_raggedNeighbours
    (h : ShownOnce surface.lexicon (.ofText content) surface.lexicon.isTrimmedDirective
      (commentEmissions surface captures (.ofText content))) (row : Nat) :
    ¬RaggedNeighbours surface.lexicon (.ofText content) row := by
  rintro ⟨hfirst, hsecond, hragged⟩
  cases hplain : plainRow surface.lexicon (.ofText content) row with
  | false =>
    have he := emits_run hl hc hsecond fun r hr => by rwa [Nat.succ.inj hr]
    have hmem : _ ∈ commentEmissions surface captures (.ofText content) :=
      List.mem_filterMap.mpr ⟨row + 1, mem_commentRows.mpr hsecond.1, he⟩
    obtain ⟨g, hg⟩ := h.exists_of_mem hmem
    have hrow : row + 1 = g.1 := hg.row_eq
    obtain ⟨hrun, -⟩ := hg.run_of_ordinary hrow.ge (hrow ▸ hg.le) hsecond
    exact hrun.above row hrow hfirst
  | true =>
    -- The lower comment is ragged, so the emission with its row ends in front of it.
    have hbelow : plainRow surface.lexicon (.ofText content) (row + 1) = false := by
      rw [Bool.eq_false_iff]
      intro hp
      exact hragged.elim (plainRow_iff_not_ragged.mp hplain).2 (plainRow_iff_not_ragged.mp hp).2
    obtain ⟨g, e, hle, hlast, he, hg⟩ := h.exists_group hsecond.1
    obtain ⟨hrun, rfl⟩ := hg.run_of_ordinary hle hlast hsecond
    have hemit := emits_of_shown hc he hg
    have hlt : g.1 ≠ row + 1 := by
      intro heq
      rw [heq, emits_nothing hl hc hsecond hplain] at hemit
      cases hemit
    have hhead := hrun.all g.1 (Nat.le_refl _) hrun.le
    have hends := eq_of_runEmission_eq hrun.le (hrun.all _ hrun.le (Nat.le_refl _)).lt_lineCount
      (le_lastOfRun _ _ _)
      (hhead.of_le_lastOfRun (le_lastOfRun _ _ _) (Nat.le_refl _)).lt_lineCount
      (eq_runEmission_of_emits hl hc hhead hemit)
    have hp := (lastOfRun_spec surface.lexicon (.ofText content) g.1).1 (row + 1) (by omega)
      (hends ▸ hlast)
    rw [hbelow] at hp
    cases hp

/-- A ragged comment emits what the text of its rows identifies, as no directive does. -/
private theorem not_ragged
    (h : ShownOnce surface.lexicon (.ofText content) surface.lexicon.isDirective
      (commentEmissions surface captures (.ofText content))) (row : Nat) :
    ¬Ragged surface.lexicon (.ofText content) row := by
  rintro ⟨hcomment, hd, htrim⟩
  obtain ⟨g, e, hle, hlast, he, hg⟩ := h.exists_group hcomment
  obtain ⟨heq, line, hline, -, rfl⟩ | ⟨hrun, -⟩ := hg.directive_or_run
  · obtain rfl : g.1 = row := by omega
    have hends := eq_runEmission_of_emits hl hc ⟨hcomment, htrim⟩ (emits_of_shown hc he hg)
    rw [Source.rowHas_of_line? hline] at hcomment
    exact directiveEmission_ne_runEmission hl hline hcomment (le_lastOfRun _ _ _) line hends
  · have hnot := (hrun.all row hle hlast).2
    rw [hd] at hnot
    cases hnot

/-- The captures of all comment rows show each row once exactly where no ragged comment has another
ordinary comment as its neighbour. When a ragged comment is taken for a directive, there may be
none. -/
theorem comments_shownOnce_iff :
    (ShownOnce surface.lexicon (.ofText content) surface.lexicon.isTrimmedDirective
        (commentEmissions surface captures (.ofText content)) ↔
      ∀ row, ¬RaggedNeighbours surface.lexicon (.ofText content) row) ∧
    (ShownOnce surface.lexicon (.ofText content) surface.lexicon.isDirective
        (commentEmissions surface captures (.ofText content)) ↔
      ∀ row, ¬Ragged surface.lexicon (.ofText content) row) := by
  refine ⟨⟨fun h => not_raggedNeighbours hl hc h, fun h => shownOnce_of hl hc h⟩,
    ⟨fun h => not_ragged hl hc h, fun h => ?_⟩⟩
  have hjudge : OrdinaryComment surface.lexicon (.ofText content) surface.lexicon.isTrimmedDirective =
      OrdinaryComment surface.lexicon (.ofText content) surface.lexicon.isDirective := by
    funext row
    rw [← plainRow_iff, plainRow_iff_not_ragged, and_iff_left (h row)]
  obtain ⟨groups, hrows, hshow⟩ := shownOnce_of hl hc fun row hrow => hrow.2.2.elim (h row) (h _)
  exact ⟨groups, hrows, hshow.imp fun _ _ hg => hg.of_trim hjudge⟩

end

def exportNotes : Text := "// a\n//export \n// b\n".toList

theorem exportNotes_shownOnce_iff :
    Lexicon.go ∈ Lexicon.all ∧
      (∀ row ∈ commentRows Lexicon.go (.ofText exportNotes),
        (Capture.ofRow "comment" (.ofText exportNotes) row).SpansRow (.ofText exportNotes) row) ∧
      (ShownOnce Lexicon.go (.ofText exportNotes) Lexicon.go.isTrimmedDirective
          (commentEmissions ⟨.go, .go⟩ (Capture.ofRow "comment" (.ofText exportNotes))
            (.ofText exportNotes)) ↔
        ∀ row, ¬RaggedNeighbours Lexicon.go (.ofText exportNotes) row) ∧
      (ShownOnce Lexicon.go (.ofText exportNotes) Lexicon.go.isDirective
          (commentEmissions ⟨.go, .go⟩ (Capture.ofRow "comment" (.ofText exportNotes))
            (.ofText exportNotes)) ↔
        ∀ row, ¬Ragged Lexicon.go (.ofText exportNotes) row) := by
  have hl : (⟨.go, .go⟩ : Surface).lexicon ∈ Lexicon.all := by decide
  have hc := fun row (_ : row ∈ commentRows Lexicon.go (.ofText exportNotes)) =>
    Capture.spansRow_ofRow "comment" (.ofText exportNotes) row
  exact ⟨hl, hc, comments_shownOnce_iff hl hc⟩

/-- The directive is in no emission: it does not start one, and the note above it ends its own run
before it. -/
theorem exportNotes_loses_row :
    ((Lexicon.go.tokens exportNotes).filter Token.isComment).map (·.text) =
        ["// a".toList, "//export ".toList, "// b".toList] ∧
      commentRows Lexicon.go (.ofText exportNotes) = [0, 1, 2] ∧
      commentEmissions ⟨.go, .go⟩ (Capture.ofRow "comment" (.ofText exportNotes))
          (.ofText exportNotes) =
        [⟨"// a".toList, 0, ["// a".toList], none⟩, ⟨"// b".toList, 2, ["// b".toList], none⟩] ∧
      ¬ShownOnce Lexicon.go (.ofText exportNotes) Lexicon.go.isTrimmedDirective
        (commentEmissions ⟨.go, .go⟩ (Capture.ofRow "comment" (.ofText exportNotes))
          (.ofText exportNotes)) ∧
      ¬ShownOnce Lexicon.go (.ofText exportNotes) Lexicon.go.isDirective
        (commentEmissions ⟨.go, .go⟩ (Capture.ofRow "comment" (.ofText exportNotes))
          (.ofText exportNotes)) := by
  have hl : (⟨.go, .go⟩ : Surface).lexicon ∈ Lexicon.all := by decide
  have hc := fun row (_ : row ∈ commentRows Lexicon.go (.ofText exportNotes)) =>
    Capture.spansRow_ofRow "comment" (.ofText exportNotes) row
  have hragged : Ragged Lexicon.go (.ofText exportNotes) 1 := by
    refine ⟨?_, ?_, ?_⟩ <;> decide +kernel
  have hneighbours : RaggedNeighbours Lexicon.go (.ofText exportNotes) 0 := by
    refine ⟨⟨?_, ?_⟩, ⟨hragged.1, hragged.2.2⟩, .inr hragged⟩ <;> decide +kernel
  refine ⟨by decide +kernel, by decide +kernel, by decide +kernel, fun h => ?_, fun h => ?_⟩
  · exact not_raggedNeighbours hl hc h 0 hneighbours
  · exact not_ragged hl hc h 1 hragged

end Emission
end CodeDigest
