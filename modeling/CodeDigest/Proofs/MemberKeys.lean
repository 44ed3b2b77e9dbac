import CodeDigest.Proofs.PatternGroups
import CodeDigest.Proofs.Runs

/-! The keys of methods, and when two methods share one. -/
namespace CodeDigest

/-! What patterns find in a line: names and owners without a character that no group takes. -/

variable {d : Dialect} {s : Source} {x : Char} {row : Nat} {line text : Text}

namespace Identifier
variable {i : Identifier}

private theorem exists_match_of_inLine? (h : inLine? d line = some i) :
    ∃ p ∈ d.functionNames, ∃ m ∈ Pattern.allMatches p line, ofMatch? d.keywords m line = some i := by
  obtain ⟨p, hp, h⟩ := List.exists_of_findSome?_eq_some h
  obtain ⟨m, hm, h⟩ := List.exists_of_findSome?_eq_some h
  exact ⟨p, hp, m, hm, h⟩

/-- A name, and an owner if there is one, are groups of a match of one of the dialect's patterns. -/
theorem ofSignature?_fits (h : ofSignature? d text = some i) : ∃ p ∈ d.functionNames,
    (∃ span, p.Fits span ∧ i.name = span.text) ∧
    ∀ o, i.owner = some o → ∃ span, p.Fits span ∧ span.name = "owner" ∧ o = span.text := by
  obtain ⟨line, -, h⟩ := List.exists_of_findSome?_eq_some h
  obtain ⟨p, hp, m, hm, h⟩ := exists_match_of_inLine? h
  have hfits := Pattern.allMatches_groups hm
  obtain ⟨name, hname, h⟩ := Option.bind_eq_some_iff.mp h
  split at h
  · cases h
  · cases h
    refine ⟨p, hp, ⟨name, hfits name (List.mem_of_find?_eq_some hname), rfl⟩, fun o ho => ?_⟩
    obtain ⟨span, hspan, rfl⟩ := Option.map_eq_some_iff.mp ho
    exact ⟨span, hfits span (List.mem_of_find?_eq_some hspan), by simpa using List.find?_some hspan, rfl⟩

end Identifier

/-- An enclosing scope's name is a group of the owner pattern, trimmed. -/
theorem Owner.mem_walkUp {groupsOf : Text → Option (List Text)} {indent : Nat} {o : Text}
    (h : walkUp groupsOf s row indent = some o) :
    ∃ line groups, groupsOf line = some groups ∧ ∃ g ∈ groups, o = Text.trim g := by
  induction row generalizing indent with
  | zero => cases h
  | succ row ih =>
    rw [walkUp] at h
    split at h
    · cases h
    · split at h
      · cases h
      · next line hline =>
        split at h
        · exact ih h
        · split at h
          · next groups hgroups =>
            obtain ⟨g, hg, rfl⟩ := List.mem_map.mp (List.mem_of_find?_eq_some h)
            exact ⟨line, groups, hgroups, g, hg, rfl⟩
          · exact ih h

theorem Dialect.notMem_enclosingOwner? {o : Text} (h : d.enclosingOwner? s row = some o)
    (hd : d.ownerPattern.all (·.groupsAvoid x)) : x ∉ o := by
  rw [enclosingOwner?] at h
  split at h
  · cases h
  · obtain ⟨start, -, h⟩ := Option.bind_eq_some_iff.mp h
    obtain ⟨line, groups, hgroups, g, hg, rfl⟩ := Owner.mem_walkUp h
    obtain ⟨m, hm, rfl⟩ := Option.map_eq_some_iff.mp hgroups
    obtain ⟨p, hp, hm⟩ := Option.bind_eq_some_iff.mp hm
    obtain ⟨span, hspan, rfl⟩ := List.mem_map.mp hg
    rw [List.mem_mergeSort] at hspan
    have hx := (Pattern.firstMatch?_groups hm span hspan).notMem (by simpa [hp] using hd)
    exact fun hmem => hx ((Text.trim_isInfix _).subset hmem)

namespace Emission

/-! Keys hold separators, which owners and names do not. -/

/-- What stands before and behind the first separator can be read off. -/
private theorem append_cons_inj {sep : Char} {a b v w : Text} (ha : sep ∉ a) (hb : sep ∉ b)
    (h : a ++ sep :: v = b ++ sep :: w) : a = b ∧ v = w := by
  have htake : ∀ {a v : Text}, sep ∉ a → (a ++ sep :: v).takeWhile (· ≠ sep) = a := by
    intro a v ha
    have hne : ∀ x ∈ a, decide (x ≠ sep) = true := fun x hx => by
      simpa using ne_of_mem_of_not_mem hx ha
    exact (Text.takeWhile_append_stop hne (by simp)).1
  obtain rfl : a = b := by
    rw [← htake (v := v) ha, h, htake hb]
  exact ⟨rfl, (List.cons_eq_cons.mp (List.append_cancel_left h)).2⟩

private def methodWord : Text := "method".toList

private theorem scopedKey_some (o text : Text) : scopedKey (some o) text = o ++ ':' :: ':' :: text := by
  have h : "::".toList = [':', ':'] := by decide
  rw [scopedKey, h, List.append_assoc]
  rfl

private theorem methodWord_colon : "method:".toList = methodWord ++ [':'] := by decide +kernel

private theorem colon_notMem_methodWord : ':' ∉ methodWord := by decide +kernel

private theorem nameKey_none (n : Text) : nameKey .method none n = methodWord ++ ':' :: n := by
  change "method:".toList ++ n = _
  rw [methodWord_colon, List.append_assoc, List.singleton_append]

private theorem nameKey_some (o n : Text) :
    nameKey .method (some o) n = methodWord ++ ':' :: (o ++ '.' :: n) := by
  change "method:".toList ++ o ++ ['.'] ++ n = _
  rw [methodWord_colon, List.append_assoc, List.append_assoc, List.append_assoc,
    List.singleton_append, List.singleton_append]

/-- A method as its keys tell it from others: the scope that its row is found in, its name and its
text. -/
structure Member where
  scope : Option Text
  name : Option Text
  text : Text

namespace Member
variable {a b : Member}

def nameKey? (m : Member) : Option Text := m.name.map (nameKey .method m.scope)

def keys (m : Member) : List Text := scopedKey m.scope m.text :: m.nameKey?.toList

/-- The scope and the name hold none of the separators of keys. -/
structure Plain (m : Member) : Prop where
  scope : ∀ o, m.scope = some o → ':' ∉ o ∧ '.' ∉ o
  name : ∀ n, m.name = some n → ':' ∉ n ∧ '.' ∉ n

/-- Two methods in one scope with one text or one name, or a method outside all scopes whose text is
spelled like a key of the other. -/
def Clash (a b : Member) : Prop :=
  (a.scope = b.scope ∧ (a.text = b.text ∨ ∃ n, a.name = some n ∧ b.name = some n)) ∨
    (a.scope = none ∧ a.text ∈ b.keys) ∨ (b.scope = none ∧ b.text ∈ a.keys)

theorem mem_keys {key : Text} :
    key ∈ a.keys ↔ key = scopedKey a.scope a.text ∨ a.nameKey? = some key := by
  rw [keys, List.mem_cons, Option.mem_toList]

/-- Texts under scopes are one key only in one scope. -/
private theorem eq_of_scopedKey_eq (ha : a.Plain) (hb : b.Plain) {o o' : Text} (hs : a.scope = some o)
    (hs' : b.scope = some o') (h : scopedKey a.scope a.text = scopedKey b.scope b.text) :
    a.scope = b.scope ∧ a.text = b.text := by
  rw [hs, hs', scopedKey_some, scopedKey_some] at h
  obtain ⟨rfl, hrest⟩ := append_cons_inj (ha.scope o hs).1 (hb.scope o' hs').1 h
  exact ⟨hs.trans hs'.symm, (List.cons_eq_cons.mp hrest).2⟩

/-- Behind the first colon of a name's key there is no other, as there is in a scoped text. -/
private theorem scopedKey_ne_nameKey (ha : a.Plain) (hb : b.Plain) {o : Text}
    (hs : a.scope = some o) : b.nameKey? ≠ some (scopedKey a.scope a.text) := by
  intro h
  obtain ⟨n, hn, h⟩ := Option.map_eq_some_iff.mp h
  have hword := colon_notMem_methodWord
  have hcolon : ':' ∈ ':' :: a.text := List.mem_cons_self
  rw [hs, scopedKey_some] at h
  cases hs' : b.scope with
  | none =>
    rw [hs', nameKey_none] at h
    obtain ⟨-, rfl⟩ := append_cons_inj hword (ha.scope o hs).1 h
    exact (hb.name _ hn).1 hcolon
  | some o' =>
    rw [hs', nameKey_some] at h
    obtain ⟨-, hrest⟩ := append_cons_inj hword (ha.scope o hs).1 h
    have hmem : ':' ∈ o' ++ '.' :: n := hrest ▸ hcolon
    obtain hmem | hmem := List.mem_append.mp hmem
    · exact (hb.scope _ hs').1 hmem
    · exact (hb.name _ hn).1 ((List.mem_cons.mp hmem).resolve_left (by decide))

private theorem eq_of_nameKey?_eq (ha : a.Plain) (hb : b.Plain) {key : Text}
    (h : a.nameKey? = some key) (h' : b.nameKey? = some key) :
    a.scope = b.scope ∧ ∃ n, a.name = some n ∧ b.name = some n := by
  obtain ⟨n, hn, rfl⟩ := Option.map_eq_some_iff.mp h
  obtain ⟨n', hn', h'⟩ := Option.map_eq_some_iff.mp h'
  have hword := colon_notMem_methodWord
  cases hs : a.scope with
  | none =>
    cases hs' : b.scope with
    | none =>
      rw [hs, hs', nameKey_none, nameKey_none] at h'
      obtain ⟨-, rfl⟩ := append_cons_inj hword hword h'
      exact ⟨rfl, n', hn, hn'⟩
    | some o' =>
      rw [hs, hs', nameKey_none, nameKey_some] at h'
      obtain ⟨-, rfl⟩ := append_cons_inj hword hword h'
      exact absurd (by simp) (ha.name _ hn).2
  | some o =>
    cases hs' : b.scope with
    | none =>
      rw [hs, hs', nameKey_none, nameKey_some] at h'
      obtain ⟨-, rfl⟩ := append_cons_inj hword hword h'
      exact absurd (by simp) (hb.name _ hn').2
    | some o' =>
      rw [hs, hs', nameKey_some, nameKey_some] at h'
      obtain ⟨-, h'⟩ := append_cons_inj hword hword h'
      obtain ⟨rfl, rfl⟩ := append_cons_inj (hb.scope _ hs').2 (ha.scope _ hs).2 h'
      exact ⟨rfl, n', hn, hn'⟩

theorem Clash.symm (h : a.Clash b) : b.Clash a := by
  obtain ⟨hscope, htext | ⟨n, hn, hn'⟩⟩ | h | h := h
  · exact .inl ⟨hscope.symm, .inl htext.symm⟩
  · exact .inl ⟨hscope.symm, .inr ⟨n, hn', hn⟩⟩
  · exact .inr (.inr h)
  · exact .inr (.inl h)

private theorem clash_of_scopedKey_mem (ha : a.Plain) (hb : b.Plain)
    (h : scopedKey a.scope a.text ∈ b.keys) : a.Clash b := by
  cases hs : a.scope with
  | none =>
    rw [hs, scopedKey] at h
    exact .inr (.inl ⟨hs, h⟩)
  | some o =>
    obtain heq | hname := mem_keys.mp h
    · cases hs' : b.scope with
      | none =>
        rw [hs', scopedKey] at heq
        exact .inr (.inr ⟨hs', mem_keys.mpr (.inl heq.symm)⟩)
      | some o' =>
        obtain ⟨hscope, htext⟩ := eq_of_scopedKey_eq ha hb hs hs' heq
        exact .inl ⟨hscope, .inl htext⟩
    · exact absurd hname (scopedKey_ne_nameKey ha hb hs)

/-- Two methods share a key exactly when they clash. -/
theorem disjoint_keys_iff (ha : a.Plain) (hb : b.Plain) : a.keys.Disjoint b.keys ↔ ¬a.Clash b := by
  constructor
  · rintro hdisjoint (⟨hscope, htext | ⟨n, hn, hn'⟩⟩ | ⟨hscope, htext⟩ | ⟨hscope, htext⟩)
    · refine hdisjoint (mem_keys.mpr (.inl rfl)) (mem_keys.mpr (.inl ?_))
      rw [hscope, htext]
    · refine hdisjoint (a := nameKey .method a.scope n) (mem_keys.mpr (.inr ?_)) (mem_keys.mpr (.inr ?_))
      · rw [nameKey?, hn, Option.map_some]
      · rw [nameKey?, hn', Option.map_some, hscope]
    · refine hdisjoint (mem_keys.mpr (.inl ?_)) htext
      rw [hscope, scopedKey]
    · refine hdisjoint htext (mem_keys.mpr (.inl ?_))
      rw [hscope, scopedKey]
  · intro hclash key hka hkb
    apply hclash
    obtain rfl | hna := mem_keys.mp hka
    · exact clash_of_scopedKey_mem ha hb hkb
    · obtain rfl | hnb := mem_keys.mp hkb
      · exact (clash_of_scopedKey_mem hb ha hka).symm
      · obtain ⟨hscope, hname⟩ := eq_of_nameKey?_eq ha hb hna hnb
        exact .inl ⟨hscope, .inr hname⟩

end Member

/-- The method that an emission shows, as the text and the rows around it tell. -/
def memberOf (s : Source) (c : Capture) (e : Emission) : Member :=
  ⟨Dialect.typescript.enclosingOwner? s c.startRow,
    (Identifier.ofSignature? Dialect.typescript e.text).map (·.name), e.text⟩

private theorem typescript_names_avoid : ∀ p ∈ Dialect.typescript.functionNames,
    p.groupsAvoid ':' = true ∧ p.groupsAvoid '.' = true ∧
      ∀ b ∈ p.groupBodies, b.1 ≠ "owner" := by
  decide +kernel

private theorem typescript_owner_avoids :
    Dialect.typescript.ownerPattern.all (·.groupsAvoid ':') = true ∧
      Dialect.typescript.ownerPattern.all (·.groupsAvoid '.') = true := by
  decide +kernel

theorem plain_memberOf (s : Source) (c : Capture) (e : Emission) : (memberOf s c e).Plain := by
  refine ⟨fun o ho => ?_, fun n hn => ?_⟩
  · change Dialect.typescript.enclosingOwner? s c.startRow = some o at ho
    exact ⟨Dialect.notMem_enclosingOwner? ho typescript_owner_avoids.1,
      Dialect.notMem_enclosingOwner? ho typescript_owner_avoids.2⟩
  · obtain ⟨i, hi, rfl⟩ := Option.map_eq_some_iff.mp hn
    obtain ⟨p, hp, ⟨span, hfits, heq⟩, -⟩ := Identifier.ofSignature?_fits hi
    obtain ⟨hcolon, hdot, -⟩ := typescript_names_avoid p hp
    rw [heq]
    exact ⟨hfits.notMem hcolon, hfits.notMem hdot⟩

/-- No pattern of the dialect names an owner. -/
private theorem owner_eq_none {text : Text} {i : Identifier}
    (h : Identifier.ofSignature? Dialect.typescript text = some i) : i.owner = none := by
  cases ho : i.owner with
  | none => rfl
  | some o =>
    obtain ⟨p, hp, -, howner⟩ := Identifier.ofSignature?_fits h
    obtain ⟨span, ⟨body, hbody, -⟩, hname, -⟩ := howner o ho
    exact absurd hname ((typescript_names_avoid p hp).2.2 _ hbody)

theorem keys_of_method {l : Lexicon} {s : Source} {c : Capture} {e : Emission}
    (h : signature? ⟨.typescript, l⟩ .method c s = some e) : e.keys = (memberOf s c e).keys := by
  obtain ⟨⟨text, row⟩, -, rfl⟩ := Option.map_eq_some_iff.mp h
  have howner : ownerOf Dialect.typescript s c.startRow
      (Identifier.ofSignature? Dialect.typescript text) =
        Dialect.typescript.enclosingOwner? s c.startRow := by
    cases hi : Identifier.ofSignature? Dialect.typescript text with
    | none => rfl
    | some i => rw [ownerOf, Option.bind_some, owner_eq_none hi, Option.none_or]
  simp only [howner, signatureKeys, memberOf, Member.keys, Member.nameKey?, Option.map_map]
  rfl

end Emission

/-- How TypeScript is read, under any lexicon. -/
def Reading.typescript (l : Lexicon) : Reading := ⟨.typescript, ⟨.typescript, l⟩⟩

namespace Classification
open Emission

/-- A capture yields nothing, and a key of its emission is one of `claimed`'s. -/
def RefusedFor (r : Reading) (s : Source) (k : Claims) (c : Capture) (claimed : Emission) : Prop :=
  (step r s k c).1 = .ok none ∧
    ∃ e, emission? r s c = some e ∧ ∃ key ∈ e.keys, key ∈ claimed.keys

variable {l : Lexicon} {s : Source} {before : List Capture} {first second c : Capture}
  {e e' : Emission}

theorem emission?_method (hc : CaptureKind.ofLabel c.label = ⟨.method, false⟩)
    (h : emission? (.typescript l) s c = some e) :
    signature? ⟨.typescript, l⟩ .method c s = some e := by
  simp only [emission?, hc] at h
  split at h
  · cases h
  · exact h

/-- In any run a method is refused for the keys of another that was accepted before exactly when the
two clash: when the same scope is found around both and they have the same text or name, or when no
scope is found around one and its text is spelled like a key of the other. -/
theorem method_refusedFor_iff (hfirst : CaptureKind.ofLabel first.label = ⟨.method, false⟩)
    (hsecond : CaptureKind.ofLabel second.label = ⟨.method, false⟩)
    (ha : accepted? (.typescript l) s (claimsAfter (.typescript l) s .empty before) first = some e)
    (he : emission? (.typescript l) s second = some e') (between : List Capture) :
    RefusedFor (.typescript l) s
        (claimsAfter (.typescript l) s .empty (before ++ first :: between)) second e ↔
      ¬second.Inverted ∧ (memberOf s first e).Clash (memberOf s second e') := by
  obtain ⟨-, -, hemission, -⟩ := accepted?_eq_some ha
  have hdisjoint := Member.disjoint_keys_iff (plain_memberOf s first e) (plain_memberOf s second e')
  rw [← keys_of_method (emission?_method hfirst hemission),
    ← keys_of_method (emission?_method hsecond he)] at hdisjoint
  constructor
  · rintro ⟨hstep, e₂, he₂, key, hkey, hclaimed⟩
    obtain rfl := Option.some.inj (he₂.symm.trans he)
    refine ⟨fun hinv => ?_, ?_⟩
    · rw [step, if_pos hinv] at hstep
      cases hstep
    · by_contra hclash
      exact hdisjoint.mpr hclash hclaimed hkey
  · rintro ⟨hinv, hclash⟩
    obtain ⟨key, hclaimed, hkey⟩ : ∃ key ∈ e.keys, key ∈ e'.keys := by
      by_contra hnone
      push Not at hnone
      exact hdisjoint.mp (fun key h h' => hnone key h h') hclash
    have hk := ((records_run _).mem_keys key).mpr ⟨e, mem_emissions ha between, hclaimed⟩
    obtain hstep | ⟨hinv', -⟩ := accepted?_eq_none (accepted?_eq_none_of_mem_keys he hkey hk)
    · exact ⟨congrArg Prod.fst hstep, e', he, key, hkey, hclaimed⟩
    · exact absurd hinv' hinv

def twoObjects : Text :=
  "const a = \x7b\n  run(x) \x7b\n  \x7d,\n\x7d;\nconst b = \x7b\n  run() \x7b\n  \x7d,\n\x7d;\n".toList

def objectA : Capture := ⟨"definition.variable", 0, 0, 3, 2⟩

def runOfA : Capture := ⟨"definition.method", 1, 2, 2, 3⟩

def objectB : Capture := ⟨"definition.variable", 4, 0, 7, 2⟩

def runOfB : Capture := ⟨"definition.method", 5, 2, 6, 3⟩

/-- All that is evaluated, at once: reading the patterns is most of the work. -/
private theorem twoObjects_evaluated :
    accepted? (.typescript .javascript) (.ofText twoObjects)
        (claimsAfter (.typescript .javascript) (.ofText twoObjects) .empty [objectA]) runOfA =
      some ⟨"run(x)".toList, 1, ["run(x)".toList, "method:run".toList], none⟩ ∧
    emission? (.typescript .javascript) (.ofText twoObjects) runOfB =
      some ⟨"run()".toList, 5, ["run()".toList, "method:run".toList], none⟩ ∧
    emission? (.typescript .javascript) (.ofText twoObjects) objectA =
      header? ⟨.typescript, .javascript⟩ objectA (.ofText twoObjects) ∧
    emission? (.typescript .javascript) (.ofText twoObjects) objectB =
      header? ⟨.typescript, .javascript⟩ objectB (.ofText twoObjects) ∧
    run (.typescript .javascript) (.ofText twoObjects) .empty [objectA, runOfA, objectB, runOfB] =
      .ok [⟨"const a =".toList, 0⟩, ⟨"run(x)".toList, 1⟩, ⟨"const b =".toList, 4⟩] ∧
    (step (.typescript .javascript) (.ofText twoObjects) (claimsAfter (.typescript .javascript)
      (.ofText twoObjects) .empty [objectA, runOfA, objectB]) runOfB).1 = .ok none := by
  decide +kernel

theorem twoObjects_refusedFor_iff :
    CaptureKind.ofLabel runOfA.label = ⟨.method, false⟩ ∧
      CaptureKind.ofLabel runOfB.label = ⟨.method, false⟩ ∧
      ∃ e e', accepted? (.typescript .javascript) (.ofText twoObjects)
          (claimsAfter (.typescript .javascript) (.ofText twoObjects) .empty [objectA]) runOfA =
            some e ∧
        emission? (.typescript .javascript) (.ofText twoObjects) runOfB = some e' ∧
        (RefusedFor (.typescript .javascript) (.ofText twoObjects)
            (claimsAfter (.typescript .javascript) (.ofText twoObjects) .empty
              ([objectA] ++ runOfA :: [objectB])) runOfB e ↔
          ¬runOfB.Inverted ∧
            (memberOf (.ofText twoObjects) runOfA e).Clash (memberOf (.ofText twoObjects) runOfB e')) := by
  have hfirst : CaptureKind.ofLabel runOfA.label = ⟨.method, false⟩ := by decide +kernel
  have hsecond : CaptureKind.ofLabel runOfB.label = ⟨.method, false⟩ := by decide +kernel
  obtain ⟨ha, he, -⟩ := twoObjects_evaluated
  exact ⟨hfirst, hsecond, _, _, ha, he, method_refusedFor_iff hfirst hsecond ha he [objectB]⟩

/-- Both objects are shown by their headers, and yet the method of the second is refused for the name
of the first one's, with another text. -/
theorem twoObjects_refuse_method :
    [objectA, runOfA, objectB, runOfB].Pairwise (fun a b => a.startsBefore b) ∧
      emission? (.typescript .javascript) (.ofText twoObjects) objectA =
        header? ⟨.typescript, .javascript⟩ objectA (.ofText twoObjects) ∧
      emission? (.typescript .javascript) (.ofText twoObjects) objectB =
        header? ⟨.typescript, .javascript⟩ objectB (.ofText twoObjects) ∧
      run (.typescript .javascript) (.ofText twoObjects) .empty [objectA, runOfA, objectB, runOfB] =
        .ok [⟨"const a =".toList, 0⟩, ⟨"run(x)".toList, 1⟩, ⟨"const b =".toList, 4⟩] ∧
      RefusedFor (.typescript .javascript) (.ofText twoObjects)
        (claimsAfter (.typescript .javascript) (.ofText twoObjects) .empty [objectA, runOfA, objectB])
        runOfB ⟨"run(x)".toList, 1, ["run(x)".toList, "method:run".toList], none⟩ := by
  obtain ⟨-, he, ha, hb, hrun, hstep⟩ := twoObjects_evaluated
  refine ⟨by decide, ha, hb, hrun, hstep, _, he, "method:run".toList, ?_, ?_⟩
  · exact List.mem_cons_of_mem _ List.mem_cons_self
  · exact List.mem_cons_of_mem _ List.mem_cons_self

end Classification
end CodeDigest
