import CodeDigest.Identifier
import CodeDigest.Proofs.Rows
import Mathlib.Data.Nat.Find

/-! The owner of a declaration is read off its ancestors: the nearest row above that is indented less, the
nearest such row above that one, and so on. What stands between them has no part in it. -/
namespace CodeDigest.Owner
variable {s s' : Source} {groupsOf : Text → Option (List Text)} {row above bound indent i : Nat}
  {line l : Text} {chain : List Nat} {ls ms : List Text}

/-- A line that may own what is indented by `indent`: it is no noise and is indented less. -/
def Encloses (indent : Nat) (l : Text) : Prop := isNoise l = false ∧ indentation l < indent

instance (indent : Nat) (l : Text) : Decidable (Encloses indent l) := inferInstanceAs (Decidable (_ ∧ _))

theorem not_encloses_iff : ¬Encloses indent l ↔ isNoise l = true ∨ indent ≤ indentation l := by
  rw [Encloses, Decidable.not_and_iff_or_not, Bool.not_eq_false, Nat.not_lt]

/-- The nearest row above that is no noise and is indented less. -/
structure Parent (s : Source) (row above : Nat) : Prop where
  lt : above < row
  encloses : ∃ line outer, s.line? row = some line ∧ s.line? above = some outer ∧
    Encloses (indentation line) outer
  nearest : ∀ between line l, above < between → between < row → s.line? row = some line →
    s.line? between = some l → ¬Encloses (indentation line) l

/-- The parent of a row, the parent's parent, and so on up to a row that has none. -/
inductive Ancestors (s : Source) : (row : Nat) → List Nat → Prop where
  | top {row : Nat} (h : ∀ above, ¬Parent s row above) : Ancestors s row []
  | parent {row above : Nat} {chain : List Nat} (h : Parent s row above)
      (rest : Ancestors s above chain) : Ancestors s row (above :: chain)

theorem exists_ancestors (s : Source) (row : Nat) : ∃ chain, Ancestors s row chain := by
  induction row using Nat.strongRecOn with
  | ind row ih =>
    by_cases h : ∃ above, Parent s row above
    · obtain ⟨above, hp⟩ := h
      obtain ⟨chain, hchain⟩ := ih above hp.lt
      exact ⟨above :: chain, .parent hp hchain⟩
    · exact ⟨[], .top (not_exists.mp h)⟩

/-- Of the rows above that may own a row, the nearest is its parent. -/
theorem exists_parent (hline : s.line? row = some line) (hlt : above < row)
    (habove : s.line? above = some l) (h : Encloses (indentation line) l) : ∃ p, Parent s row p := by
  classical
  let P r := ∃ l, s.line? r = some l ∧ Encloses (indentation line) l
  have hle : above ≤ row - 1 := by omega
  obtain ⟨outer, houter, hencloses⟩ : P (Nat.findGreatest P (row - 1)) :=
    Nat.findGreatest_spec hle ⟨l, habove, h⟩
  have hbound := Nat.findGreatest_le (P := P) (row - 1)
  refine ⟨Nat.findGreatest P (row - 1), by omega, ⟨line, outer, hline, houter, hencloses⟩, ?_⟩
  intro between line' l hbetween hrow hline' hl hencloses
  obtain rfl := Option.some.inj (hline.symm.trans hline')
  exact Nat.findGreatest_is_greatest hbetween (by omega) ⟨l, hl, hencloses⟩

/-! One row of the walk -/

@[simp] theorem walkUp_zero (groupsOf : Text → Option (List Text)) (s : Source) (row : Nat) :
    walkUp groupsOf s row 0 = none := by
  cases row <;> simp [walkUp]

theorem walkUp_of_not_encloses (hline : s.line? row = some l) (h : ¬Encloses indent l) :
    walkUp groupsOf s (row + 1) indent = walkUp groupsOf s row indent := by
  by_cases hzero : indent = 0
  · simp [hzero]
  · rw [not_encloses_iff] at h
    rw [walkUp, if_neg hzero, hline]
    exact if_pos (by simpa using h)

/-- A row that may own is asked. If it does not match, only rows indented less than it are. -/
theorem walkUp_of_encloses (hline : s.line? row = some l) (h : Encloses indent l) :
    walkUp groupsOf s (row + 1) indent =
      match groupsOf l with
      | some groups => firstNamed? groups
      | none => walkUp groupsOf s row (indentation l) := by
  obtain ⟨hnoise, hlt⟩ := h
  rw [walkUp, if_neg (by omega), hline]
  exact if_neg (by simp [hnoise, hlt])

/-! The walk from ancestor to ancestor -/

/-- Rows that cannot own are passed over. -/
theorem walkUp_skip (hle : above ≤ bound) (hbound : bound ≤ s.lineCount)
    (h : ∀ r l, above ≤ r → r < bound → s.line? r = some l → ¬Encloses indent l) :
    walkUp groupsOf s bound indent = walkUp groupsOf s above indent := by
  induction bound, hle using Nat.le_induction with
  | base => rfl
  | succ bound hle ih =>
    obtain ⟨l, hline⟩ := Source.exists_line? hbound
    rw [walkUp_of_not_encloses hline (h bound l hle (Nat.lt_succ_self bound) hline)]
    exact ih (Nat.le_of_succ_le hbound) fun r l hr hlt => h r l hr (Nat.lt_succ_of_lt hlt)

theorem enclosing?_of_no_parent (h : ∀ above, ¬Parent s row above) :
    enclosing? groupsOf s row = none := by
  cases hline : s.line? row with
  | none => rw [enclosing?, hline, Option.bind_none]
  | some line =>
    have hrow := Nat.le_of_lt (Source.lt_lineCount_of_line? hline)
    rw [enclosing?, hline, Option.bind_some, walkUp_skip (Nat.zero_le row) hrow, walkUp]
    intro r l _ hlt hr hencloses
    obtain ⟨p, hp⟩ := exists_parent hline hlt hr hencloses
    exact h p hp

/-- A parent that matches names the owner, and any other has the owner that its child has. -/
theorem Parent.enclosing?_eq (h : Parent s row above) :
    enclosing? groupsOf s row =
      match (s.line? above).bind groupsOf with
      | some groups => firstNamed? groups
      | none => enclosing? groupsOf s above := by
  obtain ⟨line, outer, hline, houter, hencloses⟩ := h.encloses
  have hrow := Nat.le_of_lt (Source.lt_lineCount_of_line? hline)
  calc enclosing? groupsOf s row
      = walkUp groupsOf s row (indentation line) := by rw [enclosing?, hline, Option.bind_some]
    _ = walkUp groupsOf s (above + 1) (indentation line) :=
        walkUp_skip h.lt hrow fun r l hr hlt => h.nearest r line l hr hlt hline
    _ = match groupsOf outer with
        | some groups => firstNamed? groups
        | none => walkUp groupsOf s above (indentation outer) := walkUp_of_encloses houter hencloses
    _ = _ := by rw [enclosing?, houter, Option.bind_some, Option.bind_some]

/-- The first ancestor that matches names the owner. -/
theorem Ancestors.enclosing?_eq (h : Ancestors s row chain) :
    enclosing? groupsOf s row =
      (chain.findSome? fun r => (s.line? r).bind groupsOf).bind firstNamed? := by
  induction h with
  | top h => exact enclosing?_of_no_parent h
  | @parent row above chain hp _ ih =>
    rw [hp.enclosing?_eq, List.findSome?_cons]
    cases (s.line? above).bind groupsOf with
    | some groups => rfl
    | none => exact ih

/-! Lines put in between -/

/-- Some lines with more lines put in anywhere, each of which is noise or indented by `indent` at least. -/
inductive Inserted (indent : Nat) : List Text → List Text → Prop where
  | nil : Inserted indent [] []
  | keep {ls ms : List Text} (h : Inserted indent ls ms) (l : Text) :
      Inserted indent (ls ++ [l]) (ms ++ [l])
  | insert {ls ms : List Text} {l : Text} (h : Inserted indent ls ms) (hnewline : '\n' ∉ l)
      (hdeep : isNoise l = true ∨ indent ≤ indentation l) : Inserted indent ls (ms ++ [l])

theorem Inserted.newline_notMem (h : Inserted indent ls ms) (hls : ∀ l ∈ ls, '\n' ∉ l) :
    ∀ l ∈ ms, '\n' ∉ l := by
  induction h with
  | nil => exact hls
  | keep _ l ih =>
    rw [List.forall_mem_append] at hls ⊢
    exact ⟨ih hls.1, hls.2⟩
  | insert _ hnewline _ ih =>
    rw [List.forall_mem_append, List.forall_mem_singleton]
    exact ⟨ih hls, hnewline⟩

theorem indentation_append_right (h : Text.isBlank l = false) (m : Text) :
    indentation (l ++ m) = indentation l := by
  have hne : (l.takeWhile CharClass.isBlank).length ≠ l.length := by
    intro hlen
    have hself := (List.takeWhile_prefix CharClass.isBlank).eq_of_length hlen
    rw [List.takeWhile_eq_self_iff] at hself
    rw [Text.isBlank, List.all_eq_true.mpr hself] at h
    cases h
  rw [indentation, List.takeWhile_append, if_neg hne, indentation]

/-- A line that cannot own does not own without the carriage return at its end either. -/
theorem not_encloses_chopReturn (h : ¬Encloses indent l) : ¬Encloses indent (Text.chopReturn l) := by
  have hreturn : CharClass.isBlank '\r' = true := by decide
  obtain hl | hl := Text.chopReturn_spec l
  · rwa [← hl]
  · rintro ⟨hnoise, hlt⟩
    have hblank : Text.isBlank (Text.chopReturn l) = false := by
      by_contra hblank
      rw [isNoise, Text.trim_eq_nil (by simpa using hblank)] at hnoise
      cases hnoise
    rw [hl] at h
    refine h ⟨?_, ?_⟩
    · rwa [isNoise, Text.trim_concat hreturn]
    · rwa [indentation_append_right hblank]

private theorem line?_of_isPrefix {x : Text} (h : ls ++ [x] <+: s.rows.map (·.text)) :
    s.line? ls.length = some x := by
  obtain ⟨rest, h⟩ := h
  rw [Source.line?, ← List.getElem?_map, ← h]
  simp

/-- The walk goes past the lines put in: as it climbs it looks for less and less indentation, and they have
more. -/
theorem Inserted.walkUp_eq (h : Inserted indent ls ms)
    (hs : ls.map Text.chopReturn <+: s.rows.map (·.text))
    (hs' : ms.map Text.chopReturn <+: s'.rows.map (·.text)) (hi : i ≤ indent) :
    walkUp groupsOf s' ms.length i = walkUp groupsOf s ls.length i := by
  induction h generalizing i with
  | nil => rfl
  | keep h l ih =>
    rw [List.map_append, List.map_singleton] at hs hs'
    have hline := line?_of_isPrefix hs
    have hline' := line?_of_isPrefix hs'
    rw [List.length_map] at hline hline'
    have ih := fun {j : Nat} (hj : j ≤ indent) =>
      ih ((List.prefix_append _ _).trans hs) ((List.prefix_append _ _).trans hs') hj
    rw [List.length_append, List.length_append, List.length_singleton]
    by_cases hencloses : Encloses i (Text.chopReturn l)
    · have hlt := hencloses.2
      rw [walkUp_of_encloses hline hencloses, walkUp_of_encloses hline' hencloses, ih (by omega)]
    · rw [walkUp_of_not_encloses hline hencloses, walkUp_of_not_encloses hline' hencloses, ih hi]
  | @insert ls ms l h hnewline hdeep ih =>
    rw [List.map_append, List.map_singleton] at hs'
    have hline' := line?_of_isPrefix hs'
    rw [List.length_map] at hline'
    have hskip : ¬Encloses i l := not_encloses_iff.mpr (hdeep.imp_right hi.trans)
    rw [List.length_append, List.length_singleton,
      walkUp_of_not_encloses hline' (not_encloses_chopReturn hskip),
      ih hs ((List.prefix_append _ _).trans hs') hi]

private theorem rowTexts_ofText (content : Text) :
    (Source.ofText content).rows.map (·.text) = (Text.splitOn '\n' content).map Text.chopReturn :=
  Source.map_text_rowsFrom 0 _

/-- Lines put in above a row that are noise or indented as much as the row at least leave its owner as it
was. -/
theorem enclosing?_inserted {content : Text} {above : List Text}
    (hline : (Source.ofText content).line? row = some line)
    (h : Inserted (indentation line) ((Text.splitOn '\n' content).take row) above) :
    enclosing? groupsOf (.ofText (Text.unlines (above ++ (Text.splitOn '\n' content).drop row)))
      above.length = enclosing? groupsOf (.ofText content) row := by
  have hnewline : ∀ p ∈ Text.splitOn '\n' content, '\n' ∉ p := fun _ => Text.notMem_of_mem_splitOn
  obtain ⟨piece, hpiece, rfl⟩ := Option.map_eq_some_iff.mp ((Source.line?_ofText content row).symm.trans hline)
  have hrow := (List.getElem?_eq_some_iff.mp hpiece).1
  have hlength : ((Text.splitOn '\n' content).take row).length = row := List.length_take_of_le hrow.le
  have hpieces : Text.splitOn '\n' (Text.unlines (above ++ (Text.splitOn '\n' content).drop row)) =
      above ++ (Text.splitOn '\n' content).drop row := by
    apply Text.splitOn_unlines
    · simpa using fun _ => hrow
    · rw [List.forall_mem_append]
      exact ⟨h.newline_notMem fun p hp => hnewline p (List.mem_of_mem_take hp),
        fun p hp => hnewline p (List.mem_of_mem_drop hp)⟩
  generalize Text.unlines (above ++ (Text.splitOn '\n' content).drop row) = longer at hpieces ⊢
  have hline' : (Source.ofText longer).line? above.length = some (Text.chopReturn piece) := by
    rw [Source.line?_ofText, hpieces, List.getElem?_append_right (Nat.le_refl _), Nat.sub_self,
      List.getElem?_drop, Nat.add_zero, hpiece, Option.map_some]
  have hrows : ((Text.splitOn '\n' content).take row).map Text.chopReturn <+:
      (Source.ofText content).rows.map (·.text) := by
    rw [rowTexts_ofText]
    exact (List.take_prefix row _).map _
  have hrows' : above.map Text.chopReturn <+: (Source.ofText longer).rows.map (·.text) := by
    rw [rowTexts_ofText, hpieces, List.map_append]
    exact List.prefix_append _ _
  have hwalk : walkUp groupsOf (.ofText longer) above.length (indentation (Text.chopReturn piece)) =
      walkUp groupsOf (.ofText content) row (indentation (Text.chopReturn piece)) := by
    rw [h.walkUp_eq hrows hrows' (Nat.le_refl _), hlength]
  rw [enclosing?, hline', enclosing?, hline, Option.bind_some, Option.bind_some, hwalk]

/-- A dialect without an owner pattern has no line that matches. -/
theorem enclosingOwner?_eq (d : Dialect) (s : Source) (row : Nat) :
    d.enclosingOwner? s row = enclosing? d.ownerGroups? s row := by
  rw [Dialect.enclosingOwner?]
  split
  · next hnone =>
    have hgroups : ∀ r, (s.line? r).bind d.ownerGroups? = none := by
      intro r
      rw [Option.bind_eq_none_iff]
      intro l _
      rw [Dialect.ownerGroups?, Option.isNone_iff_eq_none.mp hnone]
      rfl
    obtain ⟨chain, hchain⟩ := exists_ancestors s row
    rw [hchain.enclosing?_eq, List.findSome?_eq_none_iff.mpr fun r _ => hgroups r]
    rfl
  · rfl

/-- The owner of a declaration depends on nothing but its ancestors, whatever lines match and whatever they
name: it is the first name, trimmed and not blank, on the first ancestor that matches, and there is none if
that ancestor has no such name or no ancestor matches. So lines that are put in above the row, each noise or
indented as much as the row at least, leave its owner as it was. The owner pattern of a dialect is one way to
match lines. -/
theorem owner_of_ancestors (groupsOf : Text → Option (List Text)) (content : Text) (row : Nat) :
    let s := Source.ofText content
    let pieces := Text.splitOn '\n' content
    (∃ chain, Ancestors s row chain) ∧
      (∀ chain, Ancestors s row chain →
        enclosing? groupsOf s row = (chain.findSome? fun r => (s.line? r).bind groupsOf).bind
          fun groups => (groups.map Text.trim).find? fun g => !g.isEmpty) ∧
      (∀ line above, s.line? row = some line → Inserted (indentation line) (pieces.take row) above →
        enclosing? groupsOf (.ofText (Text.unlines (above ++ pieces.drop row))) above.length =
          enclosing? groupsOf s row) ∧
      ∀ d : Dialect, d.enclosingOwner? s row = enclosing? d.ownerGroups? s row :=
  ⟨exists_ancestors _ row, fun _ => Ancestors.enclosing?_eq, fun _ _ => enclosing?_inserted,
    fun d => enclosingOwner?_eq d _ row⟩

def guardedMethod : Text := "class A:\n    if x:\n# note\n        def f(self):\n".toList

/-- The condition is the method's parent and matches no owner, the class is the condition's. A statement
indented more than the method and a comment change nothing. -/
theorem guardedMethod_owner_of_ancestors :
    let s := Source.ofText guardedMethod
    let line := "        def f(self):".toList
    let above := ["class A:", "    if x:", "            y()", "# note", "# more"].map String.toList
    let longer := "class A:\n    if x:\n            y()\n# note\n# more\n        def f(self):\n".toList
    Ancestors s 3 [1, 0] ∧ s.line? 3 = some line ∧
      Inserted (indentation line) ((Text.splitOn '\n' guardedMethod).take 3) above ∧
      Text.unlines (above ++ (Text.splitOn '\n' guardedMethod).drop 3) = longer ∧
      Dialect.python.enclosingOwner? s 3 = some ['A'] ∧
      enclosing? Dialect.python.ownerGroups? (.ofText longer) 5 = some ['A'] := by
  intro s line above longer
  have hcondition : Parent s 3 1 := by
    refine ⟨by decide, ⟨_, _, rfl, rfl, by decide⟩, ?_⟩
    intro between line l hlt hlt' hline hl
    obtain rfl : between = 2 := by omega
    cases hline
    cases hl
    decide
  have hclass : Parent s 1 0 := by
    refine ⟨by decide, ⟨_, _, rfl, rfl, by decide⟩, ?_⟩
    intro between line l hlt hlt'
    omega
  have hchain : Ancestors s 3 [1, 0] :=
    .parent hcondition (.parent hclass (.top fun above h => absurd h.lt (Nat.not_lt_zero above)))
  have hline : s.line? 3 = some line := by decide +kernel
  have hinserted : Inserted (indentation line) ((Text.splitOn '\n' guardedMethod).take 3) above :=
    ((((Inserted.nil.keep "class A:".toList).keep "    if x:".toList).insert (by decide)
      (.inr (by decide))).keep "# note".toList).insert (by decide) (.inl (by decide))
  have htext : Text.unlines (above ++ (Text.splitOn '\n' guardedMethod).drop 3) = longer := by
    decide +kernel
  obtain ⟨-, howner, hlonger, hdialect⟩ :=
    owner_of_ancestors Dialect.python.ownerGroups? guardedMethod 3
  have hname : enclosing? Dialect.python.ownerGroups? s 3 = some ['A'] :=
    (howner [1, 0] hchain).trans (by decide +kernel)
  have hafter := hlonger line above hline hinserted
  rw [htext] at hafter
  exact ⟨hchain, hline, hinserted, htext, (hdialect _).trans hname, hafter.trans hname⟩

end CodeDigest.Owner
