import CodeDigest.Text.Lines
import Mathlib.Data.List.DropRight
import Mathlib.Data.List.TakeWhile

/-! What trimming a text leaves: the text but for white space at its ends. -/
namespace CodeDigest.Text

@[simp] theorem isBlank_nil : isBlank [] = true := rfl

@[simp] theorem isBlank_cons (c : Char) (s : Text) :
    isBlank (c :: s) = (CharClass.isBlank c && isBlank s) := rfl

@[simp] theorem isBlank_append (a b : Text) : isBlank (a ++ b) = (isBlank a && isBlank b) :=
  List.all_append

theorem trimStart_spec (s : Text) : ∃ u, s = u ++ trimStart s ∧ isBlank u := by
  refine ⟨s.takeWhile CharClass.isBlank, List.takeWhile_append_dropWhile.symm, ?_⟩
  simp [isBlank]

theorem trimEnd_spec (s : Text) : ∃ v, s = trimEnd s ++ v ∧ isBlank v := by
  obtain ⟨u, hu, hb⟩ := trimStart_spec s.reverse
  refine ⟨u.reverse, ?_, by simpa [isBlank] using hb⟩
  have h := congrArg List.reverse hu
  rwa [List.reverse_reverse, List.reverse_append] at h

theorem trim_spec (s : Text) : ∃ u v, s = u ++ trim s ++ v ∧ isBlank u ∧ isBlank v := by
  obtain ⟨u, hu, hbu⟩ := trimStart_spec s
  obtain ⟨v, hv, hbv⟩ := trimEnd_spec (trimStart s)
  refine ⟨u, v, ?_, hbu, hbv⟩
  rw [List.append_assoc]
  exact hu.trans (congrArg (u ++ ·) hv)

@[simp] theorem isBlank_trimEnd (s : Text) : isBlank (trimEnd s) = isBlank s := by
  obtain ⟨v, hs, hv⟩ := trimEnd_spec s
  simpa [hv] using (congrArg isBlank hs).symm

@[simp] theorem isBlank_trim (s : Text) : isBlank (trim s) = isBlank s := by
  obtain ⟨u, v, hs, hu, hv⟩ := trim_spec s
  simpa [hu, hv] using (congrArg isBlank hs).symm

theorem trim_eq_nil {s : Text} (h : isBlank s) : trim s = [] := by
  have hs : trimStart s = [] := List.dropWhile_eq_nil_iff.mpr (List.all_eq_true.mp h)
  exact congrArg (trimEndBy CharClass.isBlank) hs

theorem trim_isInfix (s : Text) : trim s <:+: s := by
  obtain ⟨u, v, hs, -, -⟩ := trim_spec s
  exact ⟨u, v, hs.symm⟩

theorem mem_trim {x : Char} {s : Text} (hx : CharClass.isBlank x = false) (h : x ∈ s) :
    x ∈ trim s := by
  obtain ⟨u, v, hs, hu, hv⟩ := trim_spec s
  have hout : ∀ w, isBlank w = true → x ∉ w := by
    intro w hw hm
    exact Bool.false_ne_true (hx.symm.trans (List.all_eq_true.mp hw x hm))
  rw [hs, List.append_assoc, List.mem_append, List.mem_append] at h
  exact (h.resolve_left (hout u hu)).resolve_right (hout v hv)

theorem trimStart_eq_self_iff {s : Text} :
    trimStart s = s ↔ ∀ x, s.head? = some x → CharClass.isBlank x = false := by
  cases s with
  | nil => simp [trimStart, trimStartBy]
  | cons x s =>
    rw [trimStart, trimStartBy, List.dropWhile_cons]
    cases hx : CharClass.isBlank x with
    | true =>
      have hlen := (List.dropWhile_suffix (l := s) CharClass.isBlank).length_le
      have hne : s.dropWhile CharClass.isBlank ≠ x :: s := by
        intro h
        rw [h, List.length_cons] at hlen
        omega
      simp [hx, hne]
    | false => simp [hx]

theorem trimEnd_eq_self_iff {s : Text} :
    trimEnd s = s ↔ ∀ x, s.getLast? = some x → CharClass.isBlank x = false := by
  rw [← List.head?_reverse, ← trimStart_eq_self_iff, ← List.reverse_inj, trimEnd, trimEndBy,
    List.reverse_reverse]
  rfl

theorem trim_eq_self_iff {s : Text} : trim s = s ↔ trimStart s = s ∧ trimEnd s = s := by
  constructor
  · intro h
    obtain ⟨u, hu, -⟩ := trimStart_spec s
    obtain ⟨v, hv, -⟩ := trimEnd_spec (trimStart s)
    have htrim : trimEnd (trimStart s) = s := h
    have hlen := congrArg List.length hu
    have hlen' := congrArg List.length hv
    rw [htrim, List.length_append] at hlen'
    rw [List.length_append] at hlen
    obtain rfl : u = [] := List.length_eq_zero_iff.mp (by omega)
    have hs : trimStart s = s := hu.symm
    exact ⟨hs, by rwa [hs] at htrim⟩
  · rintro ⟨hs, he⟩
    exact (congrArg trimEnd hs).trans he

theorem trim_trimStart (s : Text) : trim (trimStart s) = trim s :=
  congrArg trimEnd (List.dropWhile_idempotent _ _)

theorem trimEnd_cons {c : Char} (hc : CharClass.isBlank c = false) (s : Text) :
    trimEnd (c :: s) = c :: trimEnd s := by
  have hlast : [c].dropWhile CharClass.isBlank = [c] := by simp [hc]
  rw [trimEnd, trimEndBy, trimEnd, trimEndBy, List.reverse_cons, List.dropWhile_append, hlast]
  split
  · next hnil => simp [List.isEmpty_iff.mp hnil]
  · simp

theorem trim_cons (c : Char) (s : Text) :
    trim (c :: s) = if CharClass.isBlank c then trim s else c :: trimEnd s := by
  split
  · next hc => exact congrArg trimEnd (List.dropWhile_cons_of_pos hc)
  · next hc =>
    have hstart : trimStart (c :: s) = c :: s := List.dropWhile_cons_of_neg hc
    exact (congrArg trimEnd hstart).trans (trimEnd_cons (Bool.not_eq_true _ ▸ hc) s)

theorem trimEnd_concat {c : Char} (hc : CharClass.isBlank c = true) (s : Text) :
    trimEnd (s ++ [c]) = trimEnd s := List.rdropWhile_concat_pos _ _ _ hc

theorem trim_concat {c : Char} (hc : CharClass.isBlank c = true) (s : Text) : trim (s ++ [c]) = trim s := by
  induction s with
  | nil => rw [List.nil_append, trim_cons, if_pos hc]
  | cons a s ih => rw [List.cons_append, trim_cons, trim_cons, ih, trimEnd_concat hc]

@[simp] theorem trim_trim (s : Text) : trim (trim s) = trim s := by
  have hs : trimStart (trimStart s) = trimStart s := List.dropWhile_idempotent _ _
  have he : trimEnd (trim s) = trim s := List.rdropWhile_idempotent _ _
  refine trim_eq_self_iff.mpr ⟨?_, he⟩
  rw [trimStart_eq_self_iff] at hs ⊢
  intro x hx
  obtain ⟨v, hv, -⟩ := trimEnd_spec (trimStart s)
  apply hs x
  rw [hv, List.head?_append]
  exact congrArg (·.or v.head?) hx

private theorem isInfix_dropWhile {m s : Text} (h : m <:+: s) (hm : trimStart m = m) :
    m <:+: trimStart s := by
  obtain ⟨a, b, rfl⟩ := h
  cases m with
  | nil => exact List.nil_infix
  | cons x m =>
    have hb : trimStart (x :: m ++ b) = x :: m ++ b := by
      rw [trimStart_eq_self_iff] at hm ⊢
      exact hm
    rw [trimStart, trimStartBy] at hb ⊢
    rw [List.append_assoc, List.dropWhile_append, hb]
    split
    · exact ⟨[], b, rfl⟩
    · exact List.infix_append' _ _ _

/-- A part of a text is left when the text is trimmed, unless trimming shortens the part too. -/
theorem isInfix_trim {m s : Text} (h : m <:+: s) (hm : trim m = m) : m <:+: trim s := by
  obtain ⟨hstart, hend⟩ := trim_eq_self_iff.mp hm
  have hs := isInfix_dropWhile h hstart
  have hr : trimStart m.reverse = m.reverse := by
    rw [trimStart_eq_self_iff, List.head?_reverse, ← trimEnd_eq_self_iff]
    exact hend
  have he := isInfix_dropWhile (List.reverse_infix.mpr hs) hr
  rw [← List.reverse_infix, List.reverse_reverse] at he
  exact he

@[simp] theorem isBlank_unlines (ls : List Text) : isBlank (unlines ls) = ls.all isBlank := by
  induction ls with
  | nil => rfl
  | cons l ls ih =>
    cases ls with
    | nil => simp [unlines, joinWith]
    | cons m ls =>
      have hn : CharClass.isBlank '\n' = true := by decide
      simp only [unlines, joinWith, List.intercalate_cons_cons] at ih ⊢
      simp [hn, ih]

theorem chopReturn_spec (s : Text) : s = chopReturn s ∨ s = chopReturn s ++ ['\r'] := by
  unfold chopReturn
  split
  · next h =>
    obtain ⟨a, ha⟩ := List.getLast?_eq_some_iff.mp h
    exact .inr (by simp [ha])
  · exact .inl rfl

theorem chopReturn_isPrefix (s : Text) : chopReturn s <+: s := by
  obtain h | h := chopReturn_spec s
  · exact ⟨[], by rw [List.append_nil, ← h]⟩
  · exact ⟨['\r'], h.symm⟩

theorem chopReturn_append {b : Text} (h : b ≠ []) (a : Text) :
    chopReturn (a ++ b) = a ++ chopReturn b := by
  unfold chopReturn
  rw [List.getLast?_append, List.getLast?_eq_some_getLast h, Option.some_or,
    List.dropLast_append_of_ne_nil h]
  split <;> rfl

@[simp] theorem isBlank_chopReturn (s : Text) : isBlank (chopReturn s) = isBlank s := by
  obtain h | h := chopReturn_spec s
  · rw [← h]
  · have hr : CharClass.isBlank '\r' = true := by decide
    simpa [hr] using (congrArg isBlank h).symm

end CodeDigest.Text
