import Vibapp.Lib.Json

/-!
# Members sorted under two orders of their keys

**Main results.** `sortByKey_eq_iff`: two lists of members with the same keys, each sorted by an
order of its own, come out equal exactly when the two orders agree on the keys and the lists
were equal. `le_iff_utf16Le_iff`: for texts, the order of code points and the order of UTF-16
code units agree unless the texts first differ in a character from U+E000 to U+FFFF against one
above U+FFFF (`Astray`), because a surrogate is smaller than the former and stands for the
latter. `Json.sortedBy_eq_iff` takes both to JSON values.
-/

namespace Vibapp

universe u v

/-! ## Sorting by key -/

section Sorting

variable {κ : Type u} {α : Type v} (r s : κ → κ → Prop) [DecidableRel r] [DecidableRel s]

/-- Members sorted by key. Members of one key keep their order. -/
def sortByKey (l : List (κ × α)) : List (κ × α) := l.insertionSort fun p q => r p.1 q.1

theorem map_fst_sortByKey (l : List (κ × α)) :
    (sortByKey r l).map Prod.fst = (l.map Prod.fst).insertionSort r :=
  List.map_insertionSort _ r Prod.fst l fun _ _ _ _ => Iff.rfl

/-- Sorting asks the order about the keys only. -/
theorem map_sortByKey {β : Type v} (f : κ × α → κ × β) (hf : ∀ p, (f p).1 = p.1)
    (l : List (κ × α)) : (sortByKey r l).map f = sortByKey r (l.map f) :=
  List.map_insertionSort _ _ f l fun p _ q _ => by rw [hf, hf]

variable {r s}

theorem perm_sortByKey (l : List (κ × α)) : (sortByKey r l).Perm l :=
  List.perm_insertionSort _ l

theorem sortByKey_sortByKey [Std.Total r] [IsTrans κ r] (l : List (κ × α)) :
    sortByKey r (sortByKey r l) = sortByKey r l := by
  have htotal : Std.Total fun p q : κ × α => r p.1 q.1 := ⟨fun p q => Std.Total.total p.1 q.1⟩
  have htrans : IsTrans (κ × α) fun p q => r p.1 q.1 :=
    ⟨fun p q t => IsTrans.trans p.1 q.1 t.1⟩
  exact List.Pairwise.insertionSort_eq (List.pairwise_insertionSort _ l)

/-- Members of distinct keys have one sorted list. -/
theorem sortByKey_eq_iff_perm [Std.Total r] [IsTrans κ r] [Std.Antisymm r] {l m : List (κ × α)}
    (hnodup : (l.map Prod.fst).Nodup) : sortByKey r l = sortByKey r m ↔ l.Perm m := by
  constructor
  · intro h
    have hl := perm_sortByKey (r := r) l
    rw [h] at hl
    exact hl.symm.trans (perm_sortByKey m)
  · intro hperm
    have htotal : Std.Total fun p q : κ × α => r p.1 q.1 := ⟨fun p q => Std.Total.total p.1 q.1⟩
    have htrans : IsTrans (κ × α) fun p q => r p.1 q.1 :=
      ⟨fun p q t => IsTrans.trans p.1 q.1 t.1⟩
    have hsorted : ∀ n : List (κ × α), (sortByKey r n).Pairwise fun p q => r p.1 q.1 :=
      fun n => List.pairwise_insertionSort _ n
    refine List.Perm.eq_of_pairwise ?_ (hsorted l) (hsorted m)
      ((perm_sortByKey l).trans (hperm.trans (perm_sortByKey m).symm))
    intro p q hp hq hpq hqp
    have hkey : p.1 = q.1 := Std.Antisymm.antisymm _ _ hpq hqp
    have hp' : p ∈ l := (perm_sortByKey l).subset hp
    have hq' : q ∈ l := hperm.symm.subset ((perm_sortByKey m).subset hq)
    exact List.inj_on_of_nodup_map hnodup hp' hq' hkey

theorem insertionSort_congr {l : List κ} (h : ∀ a ∈ l, ∀ b ∈ l, r a b ↔ s a b) :
    l.insertionSort r = l.insertionSort s := by
  have hmap := List.map_insertionSort r s id l h
  rwa [List.map_id, List.map_id] at hmap

theorem sortByKey_congr {l : List (κ × α)}
    (h : ∀ a ∈ l.map Prod.fst, ∀ b ∈ l.map Prod.fst, r a b ↔ s a b) :
    sortByKey r l = sortByKey s l :=
  insertionSort_congr fun p hp q hq => h p.1 (List.mem_map_of_mem hp) q.1 (List.mem_map_of_mem hq)

/-- A list sorted by two orders at once shows that they agree on its members. -/
theorem agree_of_insertionSort_eq [Std.Total r] [IsTrans κ r] [Std.Antisymm r] [Std.Total s]
    [IsTrans κ s] [Std.Antisymm s] {l : List κ} (h : l.insertionSort r = l.insertionSort s) :
    ∀ a ∈ l, ∀ b ∈ l, r a b ↔ s a b := by
  have hr := List.pairwise_insertionSort r l
  have hs := List.pairwise_insertionSort s l
  rw [← h] at hs
  have hboth := (hr.and hs).imp (S := fun a b => (r a b ∧ s a b) ∨ (r b a ∧ s b a)) Or.inl
  intro a ha b hb
  rw [← List.mem_insertionSort r] at ha hb
  have hab : (r a b ∧ s a b) ∨ (r b a ∧ s b a) := by
    refine hboth.forall_of_forall_of_flip (fun c _ => ?_) (hboth.imp Or.symm) ha hb
    exact Or.inl ⟨(Std.Total.total c c).elim id id, (Std.Total.total c c).elim id id⟩
  rcases hab with ⟨h₁, h₂⟩ | ⟨h₁, h₂⟩
  · exact ⟨fun _ => h₂, fun _ => h₁⟩
  · constructor
    · intro h
      cases Std.Antisymm.antisymm a b h h₁
      exact h₂
    · intro h
      cases Std.Antisymm.antisymm a b h h₂
      exact h₁

theorem orderedInsert_inj {k : κ} {x y : α} {l m : List (κ × α)}
    (hkeys : l.map Prod.fst = m.map Prod.fst)
    (h : l.orderedInsert (fun p q => r p.1 q.1) (k, x) =
      m.orderedInsert (fun p q => r p.1 q.1) (k, y)) : x = y ∧ l = m := by
  induction l generalizing m with
  | nil =>
    obtain rfl : m = [] := List.map_eq_nil_iff.1 hkeys.symm
    simpa using h
  | cons p l ih =>
    cases m with
    | nil => simp at hkeys
    | cons q m =>
      simp only [List.map_cons, List.cons.injEq] at hkeys
      rw [List.orderedInsert_cons, List.orderedInsert_cons] at h
      by_cases hp : r k p.1
      · rw [if_pos hp, if_pos (hkeys.1 ▸ hp)] at h
        simpa using h
      · rw [if_neg hp, if_neg (hkeys.1 ▸ hp)] at h
        obtain ⟨hx, hl⟩ := ih hkeys.2 (List.cons.inj h).2
        exact ⟨hx, by rw [(List.cons.inj h).1, hl]⟩

/-- The sorted members and the order of the keys determine the members. -/
theorem sortByKey_inj {l m : List (κ × α)} (hkeys : l.map Prod.fst = m.map Prod.fst)
    (h : sortByKey r l = sortByKey r m) : l = m := by
  induction l generalizing m with
  | nil => exact (List.map_eq_nil_iff.1 hkeys.symm).symm
  | cons p l ih =>
    cases m with
    | nil => simp at hkeys
    | cons q m =>
      obtain ⟨k, x⟩ := p
      obtain ⟨k', y⟩ := q
      simp only [List.map_cons, List.cons.injEq] at hkeys
      obtain ⟨rfl, hkeys⟩ := hkeys
      have hsorted : (sortByKey r l).map Prod.fst = (sortByKey r m).map Prod.fst := by
        rw [map_fst_sortByKey, map_fst_sortByKey, hkeys]
      obtain ⟨rfl, hlm⟩ := orderedInsert_inj hsorted h
      rw [ih hkeys hlm]

/-- **Two sorts of two lists.** -/
theorem sortByKey_eq_iff [Std.Total r] [IsTrans κ r] [Std.Antisymm r] [Std.Total s] [IsTrans κ s]
    [Std.Antisymm s] {l m : List (κ × α)} (hkeys : l.map Prod.fst = m.map Prod.fst) :
    sortByKey r l = sortByKey s m ↔
      (∀ a ∈ l.map Prod.fst, ∀ b ∈ l.map Prod.fst, r a b ↔ s a b) ∧ l = m := by
  constructor
  · intro h
    have hagree : ∀ a ∈ l.map Prod.fst, ∀ b ∈ l.map Prod.fst, r a b ↔ s a b := by
      apply agree_of_insertionSort_eq
      rw [← map_fst_sortByKey, h, map_fst_sortByKey, hkeys]
    refine ⟨hagree, sortByKey_inj (r := s) hkeys ?_⟩
    rw [← h, sortByKey_congr hagree]
  · rintro ⟨hagree, rfl⟩
    exact sortByKey_congr hagree

end Sorting

/-! ## Ranges of sorted texts -/

/-- A text is no smaller than its prefixes. -/
theorem not_lt_of_isPrefix {p k : List Char} (h : p <+: k) : ¬ k < p := by
  obtain ⟨rest, rfl⟩ := h
  induction p with
  | nil => exact List.not_lt_nil _
  | cons c p ih =>
    rw [List.cons_append, List.cons_lt_cons_iff]
    rintro (hc | ⟨-, h⟩)
    · exact absurd hc (lt_irrefl _)
    · exact ih h

/-- What lies between a text and one it is a prefix of has it as a prefix. -/
theorem isPrefix_of_between : ∀ {p k l : List Char}, ¬ k < p → ¬ l < k → p <+: l → p <+: k
  | [], k, l, _, _, _ => List.nil_prefix
  | c :: p, [], l, hpk, _, _ => absurd (List.nil_lt_cons _ _) hpk
  | c :: p, d :: k, [], _, _, hpl => absurd hpl (by simp)
  | c :: p, d :: k, e :: l, hpk, hkl, hpl => by
    rw [List.cons_prefix_cons] at hpl ⊢
    obtain ⟨rfl, hpl⟩ := hpl
    rw [List.cons_lt_cons_iff, not_or, not_and] at hpk hkl
    obtain rfl : c = d := le_antisymm (not_lt.1 hpk.1) (not_lt.1 hkl.1)
    exact ⟨rfl, isPrefix_of_between (hpk.2 rfl) (hkl.2 rfl) hpl⟩

/-- A stretch of a sorted list: past the items below it, up to the first item beyond it. -/
theorem takeWhile_dropWhile_eq_filter {α : Type u} {R : α → α → Prop} {below inside : α → Bool}
    (hbelow : ∀ a, below a = true → inside a = false)
    (hup : ∀ a b, below a = false → R a b → below b = false)
    (hout : ∀ a b, below a = false → inside a = false → R a b → inside b = false) :
    ∀ {l : List α}, l.Pairwise R → (l.dropWhile below).takeWhile inside = l.filter inside
  | [], _ => rfl
  | a :: l, h => by
    obtain ⟨ha, hl⟩ := List.pairwise_cons.1 h
    cases hb : below a with
    | true =>
      rw [List.dropWhile_cons_of_pos hb, List.filter_cons_of_neg (by simp [hbelow a hb])]
      exact takeWhile_dropWhile_eq_filter hbelow hup hout hl
    | false =>
      rw [List.dropWhile_cons_of_neg (by simp [hb])]
      cases hi : inside a with
      | true =>
        have hdrop : l.dropWhile below = l := by
          cases l with
          | nil => rfl
          | cons b l =>
            exact List.dropWhile_cons_of_neg (by simp [hup a b hb (ha b List.mem_cons_self)])
        rw [List.takeWhile_cons_of_pos hi, List.filter_cons_of_pos hi,
          ← takeWhile_dropWhile_eq_filter hbelow hup hout hl, hdrop]
      | false =>
        rw [List.takeWhile_cons_of_neg (by simp [hi]), List.filter_cons_of_neg (by simp [hi])]
        exact (List.filter_eq_nil_iff.2 fun b hmem => by simp [hout a b hb hi (ha b hmem)]).symm

theorem pairwise_sortByKey {α : Type v} (l : List (String × α)) :
    (sortByKey (· ≤ ·) l).Pairwise fun p q => p.1 ≤ q.1 := by
  have htotal : Std.Total fun p q : String × α => p.1 ≤ q.1 := ⟨fun p q => le_total p.1 q.1⟩
  have htrans : IsTrans (String × α) fun p q => p.1 ≤ q.1 := ⟨fun p q t => le_trans⟩
  exact List.pairwise_insertionSort _ l

/-- **A range of keys with one prefix.** -/
theorem range_eq_filter {α : Type v} (l : List (String × α)) (start : String) :
    (((sortByKey (· ≤ ·) l).dropWhile fun p => p.1 < start).takeWhile fun p =>
        start.toList.isPrefixOf p.1.toList) =
      (sortByKey (· ≤ ·) l).filter fun p => start.toList.isPrefixOf p.1.toList := by
  apply takeWhile_dropWhile_eq_filter (R := fun p q => p.1 ≤ q.1) ?_ ?_ ?_ (pairwise_sortByKey l)
  · intro p hp
    rw [decide_eq_true_eq, String.lt_iff_toList_lt] at hp
    rw [Bool.eq_false_iff]
    intro hstarts
    exact not_lt_of_isPrefix (List.isPrefixOf_iff_prefix.1 hstarts) hp
  · intro p q hp hpq
    rw [decide_eq_false_iff_not, not_lt] at hp ⊢
    exact le_trans hp hpq
  · intro p q hp hout hpq
    rw [decide_eq_false_iff_not, String.lt_iff_toList_lt] at hp
    rw [← not_lt, String.lt_iff_toList_lt] at hpq
    rw [Bool.eq_false_iff] at hout ⊢
    intro hstarts
    exact hout (List.isPrefixOf_iff_prefix.2
      (isPrefix_of_between hp hpq (List.isPrefixOf_iff_prefix.1 hstarts)))

/-! ## Code units against code points -/

/-- The UTF-16 code units of a character: itself, or a surrogate pair. -/
def utf16Units (c : Char) : List Nat :=
  if c.toNat < 0x10000 then [c.toNat]
  else [0xD800 + (c.toNat - 0x10000) / 0x400, 0xDC00 + (c.toNat - 0x10000) % 0x400]

/-- The UTF-16 code units of a text. -/
def encodeUtf16 (cs : List Char) : List Nat := cs.flatMap utf16Units

/-- Lexicographic order of code units. -/
def utf16Le (a b : List Char) : Prop := (compare (encodeUtf16 a) (encodeUtf16 b)).isLE = true

instance (a b : List Char) : Decidable (utf16Le a b) := inferInstanceAs (Decidable (_ = true))

/-- The characters of which a surrogate pair is smaller in code units and larger in code
points. -/
def Crossed (c d : Char) : Prop := 0xE000 ≤ c.toNat ∧ c.toNat < 0x10000 ∧ 0x10000 ≤ d.toNat

/-- Two texts that first differ in a crossed pair of characters. -/
def Astray (a b : List Char) : Prop :=
  ∃ p c d x y, a = p ++ c :: x ∧ b = p ++ d :: y ∧ (Crossed c d ∨ Crossed d c)

theorem utf16Units_ne_nil (c : Char) : utf16Units c ≠ [] := by
  unfold utf16Units
  split <;> simp

theorem toNat_valid (c : Char) : c.toNat < 0xD800 ∨ 0xDFFF < c.toNat ∧ c.toNat < 0x110000 :=
  c.valid

/-- Units of different characters compare as the characters do, unless the two are crossed. -/
theorem compare_utf16Units {c d : Char} (hne : c ≠ d) (x y : List Nat) :
    ((compare (utf16Units c ++ x) (utf16Units d ++ y)).isLE = true ↔ c < d) ↔
      ¬ (Crossed c d ∨ Crossed d c) := by
  have hlt : c < d ↔ c.toNat < d.toNat := Iff.rfl
  have hnat : c.toNat ≠ d.toNat := fun h => hne (Char.toNat_inj.1 h)
  have hc := toNat_valid c
  have hd := toNat_valid d
  rw [hlt]
  simp only [Crossed, utf16Units]
  by_cases h₁ : c.toNat < 0x10000
  · by_cases h₂ : d.toNat < 0x10000
    · have hfst : ¬ c.toNat = d.toNat := hnat
      simp only [if_pos h₁, if_pos h₂, List.cons_append, List.compare_eq_compareLex,
        List.compareLex_cons_cons, Ordering.isLE_then_iff_or, Nat.compare_eq_lt,
        Nat.compare_eq_eq, hfst, false_and, or_false, true_iff]
      omega
    · have hfst : ¬ c.toNat = 0xD800 + (d.toNat - 0x10000) / 0x400 := by omega
      simp only [if_pos h₁, if_neg h₂, List.cons_append, List.compare_eq_compareLex,
        List.compareLex_cons_cons, Ordering.isLE_then_iff_or, Nat.compare_eq_lt,
        Nat.compare_eq_eq, hfst, false_and, or_false]
      constructor <;> intro h <;> omega
  · by_cases h₂ : d.toNat < 0x10000
    · have hfst : ¬ 0xD800 + (c.toNat - 0x10000) / 0x400 = d.toNat := by omega
      simp only [if_neg h₁, if_pos h₂, List.cons_append, List.compare_eq_compareLex,
        List.compareLex_cons_cons, Ordering.isLE_then_iff_or, Nat.compare_eq_lt,
        Nat.compare_eq_eq, hfst, false_and, or_false]
      constructor <;> intro h <;> omega
    · simp only [if_neg h₁, if_neg h₂, List.cons_append, List.compare_eq_compareLex,
        List.compareLex_cons_cons, Ordering.isLE_then_iff_or, Nat.compare_eq_lt,
        Nat.compare_eq_eq]
      constructor <;> intro h <;> omega

theorem compare_append_left (l x y : List Nat) : compare (l ++ x) (l ++ y) = compare x y := by
  induction l with
  | nil => rfl
  | cons n l ih =>
    rw [List.cons_append, List.cons_append, List.compare_eq_compareLex,
      List.compareLex_cons_cons, Nat.compare_eq_eq.2 rfl, Ordering.eq_then,
      ← List.compare_eq_compareLex, ih]

theorem not_astray_nil (b : List Char) : ¬ Astray [] b := by
  rintro ⟨p, c, d, x, y, ha, -, -⟩
  simp at ha

theorem not_astray_nil_right (a : List Char) : ¬ Astray a [] := by
  rintro ⟨p, c, d, x, y, -, hb, -⟩
  simp at hb

theorem astray_cons_cons (c : Char) (a b : List Char) :
    Astray (c :: a) (c :: b) ↔ Astray a b := by
  constructor
  · rintro ⟨p, e, f, x, y, ha, hb, hx⟩
    cases p with
    | nil =>
      obtain rfl := (List.cons.inj ha).1
      obtain rfl := (List.cons.inj hb).1
      unfold Crossed at hx
      omega
    | cons g p => exact ⟨p, e, f, x, y, (List.cons.inj ha).2, (List.cons.inj hb).2, hx⟩
  · rintro ⟨p, e, f, x, y, rfl, rfl, hx⟩
    exact ⟨c :: p, e, f, x, y, rfl, rfl, hx⟩

theorem astray_of_ne {c d : Char} (hne : c ≠ d) (a b : List Char) :
    Astray (c :: a) (d :: b) ↔ Crossed c d ∨ Crossed d c := by
  constructor
  · rintro ⟨p, e, f, x, y, ha, hb, hx⟩
    cases p with
    | nil =>
      obtain rfl := (List.cons.inj ha).1
      obtain rfl := (List.cons.inj hb).1
      exact hx
    | cons g p => exact absurd ((List.cons.inj ha).1.trans (List.cons.inj hb).1.symm) hne
  · intro hx
    exact ⟨[], c, d, a, b, rfl, rfl, hx⟩

/-- **Code points and code units order two texts alike unless they go astray.** -/
theorem le_iff_utf16Le_iff (a b : List Char) : (¬ b < a ↔ utf16Le a b) ↔ ¬ Astray a b := by
  induction a generalizing b with
  | nil =>
    have hle : utf16Le [] b := by
      unfold utf16Le
      cases encodeUtf16 b <;> rfl
    simp [hle, not_astray_nil]
  | cons c a ih =>
    cases b with
    | nil =>
      have hle : ¬ utf16Le (c :: a) [] := by
        obtain ⟨u, us, hu⟩ := List.exists_cons_of_ne_nil (utf16Units_ne_nil c)
        rw [utf16Le, encodeUtf16, List.flatMap_cons, hu]
        simp [encodeUtf16]
      simp [hle, not_astray_nil_right]
    | cons d b =>
      by_cases hcd : c = d
      · subst hcd
        have hunits : utf16Le (c :: a) (c :: b) ↔ utf16Le a b := by
          simp only [utf16Le, encodeUtf16, List.flatMap_cons, compare_append_left]
        rw [astray_cons_cons, ← ih b, hunits, List.cons_lt_cons_iff]
        simp
      · rw [astray_of_ne hcd, ← compare_utf16Units hcd (encodeUtf16 a) (encodeUtf16 b),
          List.cons_lt_cons_iff]
        have hlt : ¬ (d < c ∨ d = c ∧ b < a) ↔ c < d := by
          have hdc : ¬ d = c := fun h => hcd h.symm
          simp only [hdc, false_and, or_false, not_lt]
          exact ⟨fun h => lt_of_le_of_ne h hcd, le_of_lt⟩
        rw [hlt, utf16Le, iff_comm (a := c < d)]
        rfl

/-- The code units tell all texts apart. -/
theorem encodeUtf16_injective : Function.Injective encodeUtf16 := by
  intro a
  induction a with
  | nil =>
    intro b h
    cases b with
    | nil => rfl
    | cons d b =>
      rw [encodeUtf16, encodeUtf16, List.flatMap_nil, List.flatMap_cons] at h
      exact absurd (List.append_eq_nil_iff.1 h.symm).1 (utf16Units_ne_nil d)
  | cons c a ih =>
    intro b h
    cases b with
    | nil =>
      rw [encodeUtf16, encodeUtf16, List.flatMap_nil, List.flatMap_cons] at h
      exact absurd (List.append_eq_nil_iff.1 h).1 (utf16Units_ne_nil c)
    | cons d b =>
      rw [encodeUtf16, encodeUtf16, List.flatMap_cons, List.flatMap_cons] at h
      by_cases hcd : c = d
      · subst hcd
        rw [ih (List.append_cancel_left h)]
      · -- equal units compare as equal both ways, different characters do not
        have hle := compare_utf16Units hcd (encodeUtf16 a) (encodeUtf16 b)
        have hge := compare_utf16Units (Ne.symm hcd) (encodeUtf16 b) (encodeUtf16 a)
        have hself : ∀ u : List Nat, (compare u u).isLE = true := fun u => by
          rw [show compare u u = .eq from Std.ReflCmp.compare_self]
          rfl
        rw [encodeUtf16, encodeUtf16, h] at hle hge
        rw [iff_true_left (hself _)] at hle
        rw [iff_true_left (hself _), or_comm] at hge
        have hiff : c < d ↔ d < c := hle.trans hge.symm
        rcases lt_trichotomy c d with hlt | heq | hgt
        · exact absurd (hiff.1 hlt) (lt_asymm hlt)
        · exact absurd heq hcd
        · exact absurd (hiff.2 hgt) (lt_asymm hgt)

instance : Std.Total utf16Le where
  total a b := by
    have hswap : compare (encodeUtf16 b) (encodeUtf16 a) =
        (compare (encodeUtf16 a) (encodeUtf16 b)).swap := Std.OrientedCmp.eq_swap
    unfold utf16Le
    rw [hswap]
    cases compare (encodeUtf16 a) (encodeUtf16 b) <;> simp

instance : IsTrans (List Char) utf16Le where
  trans _ _ _ hab hbc := Std.TransCmp.isLE_trans hab hbc

instance : Std.Antisymm utf16Le where
  antisymm _ _ hab hba :=
    encodeUtf16_injective
      (Std.LawfulEqCmp.eq_of_compare (Std.OrientedCmp.isLE_antisymm hab hba))

/-! ## JSON values under an order of keys -/

namespace Json

section SortedBy

variable (r s : String → String → Prop) [DecidableRel r] [DecidableRel s]

mutual

/-- The value with the members of every object sorted by `r`. -/
def sortedBy : Json → Json
  | null => null
  | bool b => bool b
  | int n => int n
  | float x => float x
  | str t => str t
  | arr xs => arr (sortedByItems xs)
  | obj ms => obj (sortByKey r (sortedByMembers ms))

/-- `sortedBy` of each item. -/
def sortedByItems : List Json → List Json
  | [] => []
  | x :: rest => sortedBy x :: sortedByItems rest

/-- `sortedBy` of each member's value. -/
def sortedByMembers : List (String × Json) → List (String × Json)
  | [] => []
  | (k, x) :: rest => (k, sortedBy x) :: sortedByMembers rest

end

mutual

/-- `P` of every two keys of one object, in every object of the value. -/
def AllKeys (P : String → String → Prop) : Json → Prop
  | null | bool _ | int _ | float _ | str _ => True
  | arr xs => AllKeysItems P xs
  | obj ms =>
    (∀ k ∈ ms.map Prod.fst, ∀ l ∈ ms.map Prod.fst, P k l) ∧ AllKeysMembers P ms

def AllKeysItems (P : String → String → Prop) : List Json → Prop
  | [] => True
  | x :: rest => AllKeys P x ∧ AllKeysItems P rest

def AllKeysMembers (P : String → String → Prop) : List (String × Json) → Prop
  | [] => True
  | (_, x) :: rest => AllKeys P x ∧ AllKeysMembers P rest

end

theorem map_fst_sortedByMembers (ms : List (String × Json)) :
    (sortedByMembers r ms).map Prod.fst = ms.map Prod.fst := by
  induction ms with
  | nil => rfl
  | cons p ms ih =>
    obtain ⟨k, x⟩ := p
    rw [sortedByMembers, List.map_cons, ih, List.map_cons]

mutual

/-- `sortKeys` sorts by code points. -/
theorem sortKeys_eq_sortedBy : ∀ v : Json, sortKeys v = sortedBy (· ≤ ·) v
  | null | bool _ | int _ | float _ | str _ => by simp [sortKeys, sortedBy]
  | arr xs => by rw [sortKeys, sortedBy, sortItems_eq_sortedByItems xs]
  | obj ms => by
    rw [sortKeys, sortedBy, sortMembers_eq_sortedByMembers ms]
    rfl

theorem sortItems_eq_sortedByItems : ∀ xs : List Json, sortItems xs = sortedByItems (· ≤ ·) xs
  | [] => rfl
  | x :: xs => by
    rw [sortItems, sortedByItems, sortKeys_eq_sortedBy x, sortItems_eq_sortedByItems xs]

theorem sortMembers_eq_sortedByMembers :
    ∀ ms : List (String × Json), sortMembers ms = sortedByMembers (· ≤ ·) ms
  | [] => rfl
  | (k, x) :: ms => by
    rw [sortMembers, sortedByMembers, sortKeys_eq_sortedBy x, sortMembers_eq_sortedByMembers ms]

end

theorem sortedByMembers_eq_map (ms : List (String × Json)) :
    sortedByMembers r ms = ms.map fun p => (p.1, sortedBy r p.2) := by
  induction ms with
  | nil => rfl
  | cons p ms ih => rw [sortedByMembers, ih, List.map_cons]

section Idempotent

variable [Std.Total r] [IsTrans String r]

-- the instances are used inside the mutual induction, where the linter does not see them
set_option linter.unusedSectionVars false

mutual

/-- A sorted value stays as it is. -/
theorem sortedBy_sortedBy : ∀ v : Json, sortedBy r (sortedBy r v) = sortedBy r v
  | null | bool _ | int _ | float _ | str _ => by simp only [sortedBy]
  | arr xs => by rw [sortedBy, sortedBy, sortedByItems_sortedByItems xs]
  | obj ms => by
    rw [sortedBy, sortedBy, sortedByMembers_eq_map r (sortByKey r _),
      map_sortByKey r (fun p => (p.1, sortedBy r p.2)) (fun _ => rfl), ← sortedByMembers_eq_map r (sortedByMembers r ms),
      sortedByMembers_sortedByMembers ms, sortByKey_sortByKey]

theorem sortedByItems_sortedByItems : ∀ xs : List Json,
    sortedByItems r (sortedByItems r xs) = sortedByItems r xs
  | [] => rfl
  | x :: xs => by
    rw [sortedByItems, sortedByItems, sortedBy_sortedBy x, sortedByItems_sortedByItems xs]

theorem sortedByMembers_sortedByMembers : ∀ ms : List (String × Json),
    sortedByMembers r (sortedByMembers r ms) = sortedByMembers r ms
  | [] => rfl
  | (k, x) :: ms => by
    rw [sortedByMembers, sortedByMembers, sortedBy_sortedBy x, sortedByMembers_sortedByMembers ms]

end

end Idempotent

variable [Std.Total r] [IsTrans String r] [Std.Antisymm r] [Std.Total s] [IsTrans String s]
  [Std.Antisymm s]

-- the instances are used inside the mutual induction, where the linter does not see them
set_option linter.unusedSectionVars false

mutual

/-- **Two canonical forms.** A value sorted by two orders comes out the same exactly when the
orders agree on the keys of each of its objects. -/
theorem sortedBy_eq_iff : ∀ v : Json,
    sortedBy r v = sortedBy s v ↔ AllKeys (fun k l => r k l ↔ s k l) v
  | null | bool _ | int _ | float _ | str _ => by simp [sortedBy, AllKeys]
  | arr xs => by
    rw [sortedBy, sortedBy, AllKeys, ← sortedByItems_eq_iff xs, arr.injEq]
  | obj ms => by
    have hkeys : (sortedByMembers r ms).map Prod.fst = (sortedByMembers s ms).map Prod.fst := by
      rw [map_fst_sortedByMembers, map_fst_sortedByMembers]
    rw [sortedBy, sortedBy, AllKeys, obj.injEq, sortByKey_eq_iff hkeys,
      map_fst_sortedByMembers, sortedByMembers_eq_iff ms]

theorem sortedByItems_eq_iff : ∀ xs : List Json,
    sortedByItems r xs = sortedByItems s xs ↔ AllKeysItems (fun k l => r k l ↔ s k l) xs
  | [] => by simp [sortedByItems, AllKeysItems]
  | x :: xs => by
    rw [sortedByItems, sortedByItems, AllKeysItems, List.cons.injEq, sortedBy_eq_iff x,
      sortedByItems_eq_iff xs]

theorem sortedByMembers_eq_iff : ∀ ms : List (String × Json),
    sortedByMembers r ms = sortedByMembers s ms ↔ AllKeysMembers (fun k l => r k l ↔ s k l) ms
  | [] => by simp [sortedByMembers, AllKeysMembers]
  | (k, x) :: ms => by
    rw [sortedByMembers, sortedByMembers, AllKeysMembers, List.cons.injEq, Prod.mk.injEq,
      sortedBy_eq_iff x, sortedByMembers_eq_iff ms]
    simp

end

end SortedBy

end Json

end Vibapp
