import CodeDigest.Text.Basic

/-! Byte offsets name the places between characters, and a slice is what stands between two. -/
namespace CodeDigest.Text

@[simp] theorem byteSize_nil : byteSize [] = 0 := rfl

@[simp] theorem byteSize_cons (c : Char) (s : Text) :
    byteSize (c :: s) = c.utf8Size + byteSize s := rfl

@[simp] theorem byteSize_append (a b : Text) : byteSize (a ++ b) = byteSize a + byteSize b := by
  induction a with
  | nil => simp
  | cons c a ih => simp [ih, Nat.add_assoc]

theorem byteSize_le_of_isPrefix {a b : Text} (h : a <+: b) : byteSize a ≤ byteSize b := by
  obtain ⟨t, rfl⟩ := h
  simp

theorem eq_nil_of_byteSize_eq_zero {s : Text} (h : byteSize s = 0) : s = [] := by
  cases s with
  | nil => rfl
  | cons c s =>
    have := c.utf8Size_pos
    simp only [byteSize_cons] at h
    omega

/-- Of two ways to cut a text, the one with fewer bytes in front cuts the other's front. -/
theorem exists_middle_of_byteSize_le {a b a' b' : Text} (h : a ++ b = a' ++ b')
    (hle : byteSize a ≤ byteSize a') : ∃ m, a' = a ++ m ∧ b = m ++ b' := by
  obtain ⟨m, ha, hb⟩ | ⟨m, ha, hb⟩ := List.append_eq_append_iff.mp h
  · exact ⟨m, ha, hb⟩
  · have hm : m = [] := by
      apply eq_nil_of_byteSize_eq_zero
      rw [ha, byteSize_append] at hle
      omega
    subst hm
    exact ⟨[], by simpa using ha.symm, by simpa using hb.symm⟩

/-- A byte offset cuts a text in one way only. -/
theorem append_inj_of_byteSize_eq {a b a' b' : Text} (h : a ++ b = a' ++ b')
    (hs : byteSize a = byteSize a') : a = a' ∧ b = b' := by
  obtain ⟨m, ha, hb⟩ := exists_middle_of_byteSize_le h (Nat.le_of_eq hs)
  have hm : m = [] := eq_nil_of_byteSize_eq_zero (by rw [ha, byteSize_append] at hs; omega)
  subst hm
  exact ⟨by simpa using ha.symm, by simpa using hb⟩

/-- A text is cut in front of the character that an offset lies on, or at its end. -/
theorem exists_boundary (s : Text) (o : Nat) :
    ∃ a b, s = a ++ b ∧ byteSize a ≤ o ∧ ∀ c ∈ b.head?, o < byteSize a + c.utf8Size := by
  induction s generalizing o with
  | nil => exact ⟨[], [], rfl, Nat.zero_le o, by simp⟩
  | cons c s ih =>
    by_cases hc : o < c.utf8Size
    · refine ⟨[], c :: s, rfl, Nat.zero_le o, ?_⟩
      rintro _ ⟨⟩
      simpa using hc
    · obtain ⟨a, b, rfl, hle, hlt⟩ := ih (o - c.utf8Size)
      refine ⟨c :: a, b, rfl, ?_, ?_⟩
      · rw [byteSize_cons]
        omega
      · intro x hx
        have := hlt x hx
        rw [byteSize_cons]
        omega

theorem dropBytes?_eq_some_iff {s rest : Text} {n : Nat} :
    dropBytes? s n = some rest ↔ ∃ lead, s = lead ++ rest ∧ byteSize lead = n := by
  fun_induction dropBytes? s n with
  | case1 s =>
    constructor
    · rintro ⟨⟩
      exact ⟨[], rfl, rfl⟩
    · rintro ⟨lead, rfl, h⟩
      rw [eq_nil_of_byteSize_eq_zero h, List.nil_append]
  | case2 n =>
    constructor
    · rintro ⟨⟩
    · rintro ⟨lead, h, hs⟩
      obtain ⟨rfl, rfl⟩ := List.append_eq_nil_iff.mp h.symm
      simp at hs
  | case3 c s n hle ih =>
    rw [ih]
    constructor
    · rintro ⟨lead, hs, hn⟩
      refine ⟨c :: lead, by rw [hs, List.cons_append], ?_⟩
      rw [byteSize_cons, hn]
      omega
    · rintro ⟨lead, h, hs⟩
      cases lead with
      | nil => simp at hs
      | cons c' lead =>
        obtain ⟨rfl, rfl⟩ := List.cons_eq_cons.mp h
        exact ⟨lead, rfl, by rw [byteSize_cons] at hs; omega⟩
  | case4 c s n hle =>
    constructor
    · rintro ⟨⟩
    · rintro ⟨lead, h, hs⟩
      cases lead with
      | nil => simp at hs
      | cons c' lead =>
        obtain ⟨rfl, rfl⟩ := List.cons_eq_cons.mp h
        rw [byteSize_cons] at hs
        omega

theorem takeBytes?_eq_some_iff {s lead : Text} {n : Nat} :
    takeBytes? s n = some lead ↔ ∃ rest, s = lead ++ rest ∧ byteSize lead = n := by
  fun_induction takeBytes? s n generalizing lead with
  | case1 s =>
    constructor
    · rintro ⟨⟩
      exact ⟨s, rfl, rfl⟩
    · rintro ⟨rest, -, h⟩
      rw [eq_nil_of_byteSize_eq_zero h]
  | case2 n =>
    constructor
    · rintro ⟨⟩
    · rintro ⟨rest, h, hs⟩
      obtain ⟨rfl, rfl⟩ := List.append_eq_nil_iff.mp h.symm
      simp at hs
  | case3 c s n hle ih =>
    rw [Option.map_eq_some_iff]
    constructor
    · rintro ⟨lead, h, rfl⟩
      obtain ⟨rest, rfl, hs⟩ := ih.mp h
      exact ⟨rest, rfl, by rw [byteSize_cons]; omega⟩
    · rintro ⟨rest, h, hs⟩
      cases lead with
      | nil => simp at hs
      | cons c' lead =>
        obtain ⟨rfl, rfl⟩ := List.cons_eq_cons.mp h
        exact ⟨lead, ih.mpr ⟨rest, rfl, by rw [byteSize_cons] at hs; omega⟩, rfl⟩
  | case4 c s n hle =>
    constructor
    · rintro ⟨⟩
    · rintro ⟨rest, h, hs⟩
      cases lead with
      | nil => simp at hs
      | cons c' lead =>
        obtain ⟨rfl, rfl⟩ := List.cons_eq_cons.mp h
        rw [byteSize_cons] at hs
        omega

/-- A slice is the part of a text between two places, named by the bytes before them. -/
theorem slice?_eq_some_iff {s m : Text} {start stop : Nat} :
    slice? s start stop = some m ↔
      ∃ a b, s = a ++ m ++ b ∧ byteSize a = start ∧ byteSize (a ++ m) = stop := by
  constructor
  · intro h
    by_cases hle : start ≤ stop
    · rw [slice?, if_pos hle, Option.bind_eq_some_iff] at h
      obtain ⟨rest, hd, ht⟩ := h
      obtain ⟨a, rfl, ha⟩ := dropBytes?_eq_some_iff.mp hd
      obtain ⟨b, rfl, hm⟩ := takeBytes?_eq_some_iff.mp ht
      exact ⟨a, b, by rw [List.append_assoc], ha, by rw [byteSize_append]; omega⟩
    · simp [slice?, hle] at h
  · rintro ⟨a, b, rfl, rfl, rfl⟩
    rw [slice?, if_pos (by simp), Option.bind_eq_some_iff]
    exact ⟨m ++ b, dropBytes?_eq_some_iff.mpr ⟨a, by rw [List.append_assoc], rfl⟩,
      takeBytes?_eq_some_iff.mpr ⟨b, rfl, by simp⟩⟩

/-- A slice shows nothing of what stands behind it. -/
theorem slice?_append_congr {q : Text} {start stop : Nat} (h : stop ≤ byteSize q) (v w : Text) :
    slice? (q ++ v) start stop = slice? (q ++ w) start stop := by
  have hpart : ∀ v w m, slice? (q ++ v) start stop = some m → slice? (q ++ w) start stop = some m := by
    intro v w m hm
    obtain ⟨a, b, hq, rfl, rfl⟩ := slice?_eq_some_iff.mp hm
    obtain ⟨t, rfl, -⟩ := exists_middle_of_byteSize_le hq.symm h
    exact slice?_eq_some_iff.mpr ⟨a, t ++ w, by simp, rfl, rfl⟩
  ext m
  exact ⟨hpart v w m, hpart w v m⟩

/-- A slice that takes a character starts with what stands before the character. -/
theorem slice?_eq_append {s q m : Text} {x : Char} {start stop : Nat} (hq : q ++ [x] <+: s)
    (h : slice? s start stop = some m) (hstart : start ≤ byteSize q)
    (hstop : byteSize (q ++ [x]) ≤ stop) :
    ∃ a u r, q = a ++ u ∧ byteSize a = start ∧ m = u ++ x :: r := by
  obtain ⟨w, rfl⟩ := hq
  obtain ⟨a, b, hq, rfl, rfl⟩ := slice?_eq_some_iff.mp h
  rw [List.append_assoc, List.append_assoc] at hq
  obtain ⟨u, rfl, hu⟩ := exists_middle_of_byteSize_le hq.symm hstart
  have hx : u ++ [x] ++ w = m ++ b := by simpa using hu.symm
  obtain ⟨r, rfl, -⟩ := exists_middle_of_byteSize_le hx
    (by simp only [byteSize_append] at hstop ⊢; omega)
  exact ⟨a, u, r, rfl, rfl, by simp⟩

end CodeDigest.Text
