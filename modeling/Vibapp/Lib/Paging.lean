import Mathlib.Data.Finset.Card
import Mathlib.Order.Basic

/-!
# Reading a table page by page

A reader asks for at most `n` keys behind the last one that it has, until a page says that there is
no more; the table may change from page to page. **Results.** The pages together are sorted
(`Pages.sorted`). When the last one says that there is no more, they have every key that was in the
table at each of them (`Pages.complete`). Pages that all say that there is more have `n` keys each
(`Pages.length_eq`), so that only finitely many of them fit into a table (`Pages.count_le`).
-/

namespace Vibapp

universe u

variable {κ : Type u} [LinearOrder κ] {n : Nat} {after : Option κ} {keys : List κ} {more : Bool}

/-- The key is behind the cursor, if there is one. -/
def Behind (after : Option κ) (k : κ) : Prop := ∀ a ∈ after, a < k

/-- The first `n` keys of the table behind the cursor, and whether there are more. -/
structure IsPage (n : Nat) (table : Set κ) (after : Option κ) (keys : List κ) (more : Bool) :
    Prop where
  sorted : keys.Pairwise (· < ·)
  listed : ∀ k ∈ keys, k ∈ table ∧ Behind after k
  full : more = true → keys.length = n
  missed : ∀ k ∈ table, Behind after k → k ∈ keys ∨ more = true ∧ ∀ l ∈ keys, l < k

/-- The first `n` of a sorted list of the keys behind the cursor. -/
theorem IsPage.of_sorted {table : Set κ} {all : List κ} (hsorted : all.Pairwise (· < ·))
    (hmem : ∀ k, k ∈ all ↔ k ∈ table ∧ Behind after k) :
    IsPage n table after (all.take n) (decide (n < all.length)) where
  sorted := hsorted.sublist (List.take_sublist ..)
  listed k hk := (hmem k).1 (List.mem_of_mem_take hk)
  full hmore := by
    rw [decide_eq_true_eq] at hmore
    rw [List.length_take, min_eq_left hmore.le]
  missed k hk hbehind := by
    have hall := (hmem k).2 ⟨hk, hbehind⟩
    rw [← List.take_append_drop n all] at hall hsorted
    rcases List.mem_append.1 hall with htake | hdrop
    · exact .inl htake
    · refine .inr ⟨?_, fun l hl => (List.pairwise_append.1 hsorted).2.2 l hl k hdrop⟩
      have hpos := List.length_pos_of_mem hdrop
      rw [List.length_drop] at hpos
      rw [decide_eq_true_eq]
      omega

/-- A page, and the table at the time. -/
structure TablePage (κ : Type u) where
  table : Set κ
  keys : List κ
  more : Bool

/-- Pages that each go on behind the last key of the one before. -/
inductive Pages (n : Nat) : Option κ → List (TablePage κ) → Prop
  | last {after : Option κ} {p : TablePage κ} (page : IsPage n p.table after p.keys p.more) :
    Pages n after [p]
  | next {after : Option κ} {p : TablePage κ} {a : κ} {ps : List (TablePage κ)}
    (page : IsPage n p.table after p.keys p.more) (more : p.more = true)
    (cursor : p.keys.getLast? = some a) (rest : Pages n (some a) ps) : Pages n after (p :: ps)

namespace Pages

variable {ps : List (TablePage κ)}

theorem behind (h : Pages n after ps) : ∀ k ∈ ps.flatMap TablePage.keys, Behind after k := by
  induction h with
  | last page =>
    intro k hk
    rw [List.flatMap_singleton] at hk
    exact (page.listed k hk).2
  | next page _ cursor _ ih =>
    intro k hk
    rw [List.flatMap_cons] at hk
    rcases List.mem_append.1 hk with hk | hk
    · exact (page.listed k hk).2
    · intro b hb
      exact lt_trans ((page.listed _ (List.mem_of_getLast? cursor)).2 b hb) (ih k hk _ rfl)

theorem listed (h : Pages n after ps) : ∀ p ∈ ps, ∀ k ∈ p.keys, k ∈ p.table := by
  induction h with
  | last page =>
    intro p hp k hk
    rw [List.mem_singleton.1 hp] at hk ⊢
    exact (page.listed k hk).1
  | next page _ _ _ ih =>
    intro p hp k hk
    rcases List.mem_cons.1 hp with rfl | hp
    · exact (page.listed k hk).1
    · exact ih p hp k hk

/-- **The pages are sorted**, each and all together. -/
theorem sorted (h : Pages n after ps) : (ps.flatMap TablePage.keys).Pairwise (· < ·) := by
  induction h with
  | last page =>
    rw [List.flatMap_singleton]
    exact page.sorted
  | @next after p a ps page _ cursor rest ih =>
    rw [List.flatMap_cons]
    refine List.pairwise_append.2 ⟨page.sorted, ih, ?_⟩
    intro k hk l hl
    have hle : k ≤ a := by
      obtain ⟨front, hfront⟩ := List.getLast?_eq_some_iff.1 cursor
      have hsorted := page.sorted
      rw [hfront] at hsorted hk
      rcases List.mem_append.1 hk with hk | hk
      · exact ((List.pairwise_append.1 hsorted).2.2 k hk a (List.mem_singleton_self a)).le
      · exact (List.mem_singleton.1 hk).le
    exact lt_of_le_of_lt hle (rest.behind l hl a rfl)

/-- **No key of every table is missed.** -/
theorem complete (h : Pages n after ps) (hend : ∀ p ∈ ps.getLast?, p.more = false) {k : κ}
    (hk : ∀ p ∈ ps, k ∈ p.table) (hbehind : Behind after k) :
    k ∈ ps.flatMap TablePage.keys := by
  induction h with
  | @last after p page =>
    rw [List.flatMap_singleton]
    rcases page.missed k (hk p (List.mem_singleton_self p)) hbehind with hmem | ⟨hmore, -⟩
    · exact hmem
    · rw [hend p rfl] at hmore
      cases hmore
  | @next after p a ps page _ cursor rest ih =>
    rw [List.flatMap_cons, List.mem_append]
    rcases page.missed k (hk p List.mem_cons_self) hbehind with hmem | ⟨-, habove⟩
    · exact .inl hmem
    · right
      refine ih ?_ (fun q hq => hk q (List.mem_cons_of_mem p hq)) ?_
      · intro q hq
        refine hend q ?_
        cases rest with
        | last => exact hq
        | next => exact hq
      · rintro b ⟨⟩
        exact habove _ (List.mem_of_getLast? cursor)

/-- Pages with more behind them are full. -/
theorem length_eq (h : Pages n after ps) (hmore : ∀ p ∈ ps, p.more = true) :
    (ps.flatMap TablePage.keys).length = ps.length * n := by
  induction h with
  | @last after p page =>
    rw [List.flatMap_singleton, page.full (hmore p (List.mem_singleton_self p))]
    simp
  | @next after p a ps page more _ _ ih =>
    rw [List.flatMap_cons, List.length_append, page.full more,
      ih fun q hq => hmore q (List.mem_cons_of_mem p hq), List.length_cons, Nat.succ_mul,
      Nat.add_comm]

/-- **Only finitely many pages have more behind them**, while no keys come in. -/
theorem count_le (h : Pages n after ps) (hmore : ∀ p ∈ ps, p.more = true) {all : Finset κ}
    (hall : ∀ p ∈ ps, p.table ⊆ all) : ps.length * n ≤ all.card := by
  have hnodup : (ps.flatMap TablePage.keys).Nodup := h.sorted.imp ne_of_lt
  have hsubset : (ps.flatMap TablePage.keys).toFinset ⊆ all := by
    intro k hk
    obtain ⟨p, hp, hkp⟩ := List.mem_flatMap.1 (List.mem_toFinset.1 hk)
    exact Finset.mem_coe.1 (hall p hp (h.listed p hp k hkp))
  rw [← h.length_eq hmore, ← List.toFinset_card_of_nodup hnodup]
  exact Finset.card_le_card hsubset

end Pages

end Vibapp
