import Vibapp.Lib.Paging
import Vibapp.Lib.Related
import Vibapp.AppStore.CatalogLaws

/-!
# Listing the catalog page by page

A reader calls `list` again and again with the `next_cursor` of the page before, and in between other
calls ingest and withdraw. **Main result** (`paging_laws`): the pages are sorted by app, version and
digest, list no release twice, and list every release once that was to be listed at each page; while no
release comes in, the pages end.
-/

namespace Vibapp.AppStore

open Prog
open Daemon (field asStr)
open Json (sorted setMember)

variable {library : Library} {env : Env} {s t : Disk}

/-! ## What a call of `list` gives -/

/-- The row of a cursor, as a value. -/
def Disk.cursorKey (d : Disk) : Option Json → Py (Option (List String))
  | none => .ok none
  | some cursor => do
    let cursor ← digest cursor "cursor"
    match d.rows.get? cursor with
    | none => fail "not-found" "list cursor is not in the local AppStore"
    | some row => return some row.sortKey

/-- The page of a call, as a value. -/
def Disk.page (library : Library) (d : Disk) (includeWithdrawn : Bool) (limit : Int)
    (cursor : Option Json) : Py (List (List (String × Json)) × Option String) := do
  raiseIf (¬ (1 ≤ limit ∧ limit ≤ 100)) "resource-limit" "list limit must be between 1 and 100"
  let after ← d.cursorKey cursor
  let rows := (d.listed includeWithdrawn after).take (limit.toNat + 1)
  let page := rows.take limit.toNat
  let items ← page.mapM (rowRecord library)
  return (items, if limit.toNat < rows.length then page.getLast?.map Row.packageDigest else none)

theorem gives_cursorKey (cursor : Option Json) :
    ∃ n, Gives env s n (s.cursorKey cursor) (cursorKey cursor)
      fun after after' t => after = after' ∧ t.rows = s.rows := by
  cases cursor with
  | none => exact ⟨0, gives_pure ⟨rfl, rfl⟩⟩
  | some cursor =>
    refine ⟨0 + (1 + 0), ?_⟩
    unfold cursorKey Disk.cursorKey
    refine gives_check.bind fun digest digest' t _ ht => ?_
    obtain ⟨rfl, rfl⟩ := ht
    refine gives_touch.after fun _ u hu => ?_
    subst hu
    refine gives_read_bind.2 ?_
    have hrows : t.later.rows = t.rows := rfl
    rw [hrows]
    cases t.rows.get? digest with
    | none => exact gives_refuse
    | some row => exact gives_pure ⟨rfl, hrows⟩

/-- **The spec of `list`.** -/
theorem gives_listReleases (includeWithdrawn : Bool) (limit : Int) (cursor : Option Json) :
    ∃ n, Gives env s n (s.page library includeWithdrawn limit cursor)
      (listReleases library includeWithdrawn limit cursor) fun page page' _ => page = page' := by
  obtain ⟨n, hcursor⟩ := @gives_cursorKey env s cursor
  refine ⟨0 + (n + (1 + (0 + 0))), ?_⟩
  unfold listReleases Disk.page
  refine gives_refuseIf.bind fun _ _ t _ ht => ?_
  obtain rfl : s = t := ht.symm
  refine hcursor.bind fun after after' t _ hM => ?_
  obtain ⟨rfl, hrows⟩ := hM
  refine gives_touch.after fun _ u hu => ?_
  subst hu
  refine gives_read_bind.2 ?_
  have hlisted : t.later.listed includeWithdrawn after = s.listed includeWithdrawn after := by
    unfold Disk.listed
    rw [show t.later.rows = t.rows from rfl, hrows]
  rw [hlisted]
  refine gives_check.bind fun items items' v _ hv => ?_
  obtain ⟨rfl, rfl⟩ := hv
  exact gives_pure rfl

/-- What a call of `list` returns. -/
theorem page_of_done {includeWithdrawn : Bool} {limit : Int} {cursor : Option Json}
    {page : List (List (String × Json)) × Option String}
    (h : listReleases library includeWithdrawn limit cursor env s = (.done page, t)) :
    s.page library includeWithdrawn limit cursor = .ok page ∧ Same s t := by
  obtain ⟨n, hgives⟩ := @gives_listReleases library env s includeWithdrawn limit cursor
  obtain ⟨hout, -, -, page', hpage, rfl⟩ := wp.done hgives h
  exact ⟨hpage, hout.toSame⟩

/-! ## Keys -/

/-- What a record says of its app, its version and its digest. -/
def listedKey (record : List (String × Json)) : List String :=
  [((inner (field record "app") "id").bind asStr).getD "",
    ((inner (field record "app") "version").bind asStr).getD "",
    ((inner (field record "digests") "package_sha256").bind asStr).getD ""]

/-- The digest of a record. -/
def listedDigest (record : List (String × Json)) : String :=
  ((inner (field record "digests") "package_sha256").bind asStr).getD ""

theorem field_shown (r : Release) (withdrawal : Option (String × String)) {key : String}
    (hne : key ≠ "presentation") :
    field (r.shown withdrawal) key = field (sorted (r.membersAs withdrawal)) key := by
  unfold Release.shown
  rw [field, Json.lookup_setMember _ (r.mem_keys _ (by decide)), if_neg hne]
  rfl

/-- A release is listed under the key of its row. -/
theorem listedKey_shown (r : Release) (withdrawal : Option (String × String)) :
    listedKey (r.shown withdrawal) = (r.rowAs withdrawal).sortKey ∧
      listedDigest (r.shown withdrawal) = r.packageSha256 := by
  have hbound := r.boundTo_rowAs withdrawal
  unfold boundTo at hbound
  simp only [Bool.and_eq_true, decide_eq_true_eq] at hbound
  obtain ⟨⟨⟨⟨⟨-, hid⟩, hversion⟩, hdigest⟩, -⟩, -⟩ := hbound
  unfold listedKey listedDigest
  rw [field_shown r withdrawal (by decide), field_shown r withdrawal (by decide), hid, hversion,
    hdigest]
  exact ⟨rfl, rfl⟩

/-- The row is in the list, by its state. -/
def Row.Matches (includeWithdrawn : Bool) (row : Row) : Prop :=
  includeWithdrawn = true ∨ row.state = "private"

/-- The keys of the rows that are to be listed. -/
def Disk.table (d : Disk) (includeWithdrawn : Bool) : Set (List String) :=
  {key | ∃ digest row, d.rows.get? digest = some row ∧ row.Matches includeWithdrawn ∧
    row.sortKey = key}

theorem Sound.digest_eq (hsound : Sound library s) {digest : String} {row : Row}
    (hrow : s.rows.get? digest = some row) : row.packageDigest = digest := by
  obtain ⟨r, w, tree, hbacked⟩ := hsound.rows digest row hrow
  rw [hbacked.row]
  exact hbacked.named

/-- Rows have digests of their own, and so keys. -/
theorem nodup_sortKey (hsound : Sound library s) : (s.rows.values.map Row.sortKey).Nodup := by
  have hdigests : s.rows.values.map Row.packageDigest = s.rows.entries.map Prod.fst := by
    rw [Dict.values, List.map_map]
    refine List.map_congr_left ?_
    intro p hp
    exact hsound.digest_eq (Dict.mem_entries_iff.1 hp)
  refine List.Nodup.of_map (fun key => key[2]?) ?_
  rw [List.map_map]
  change (s.rows.values.map fun row => some row.packageDigest).Nodup
  rw [← Function.comp_def, ← List.map_map, hdigests]
  exact s.rows.nodup.map (Option.some_injective _)

theorem listed_sorted (hsound : Sound library s) (includeWithdrawn : Bool)
    (after : Option (List String)) :
    ((s.listed includeWithdrawn after).map Row.sortKey).Pairwise (· < ·) := by
  have htotal : Std.Total fun a b : Row => a.sortKey ≤ b.sortKey :=
    ⟨fun a b => le_total a.sortKey b.sortKey⟩
  have htrans : IsTrans Row fun a b => a.sortKey ≤ b.sortKey := ⟨fun _ _ _ => le_trans⟩
  have hle : ((s.listed includeWithdrawn after).map Row.sortKey).Pairwise (· ≤ ·) :=
    List.pairwise_map.2 (List.pairwise_insertionSort _ _)
  have hne : ((s.listed includeWithdrawn after).map Row.sortKey).Pairwise (· ≠ ·) := by
    have hperm := (List.perm_insertionSort (fun a b : Row => a.sortKey ≤ b.sortKey)
      (s.rows.values.filter fun row => (includeWithdrawn || row.state = "private") &&
        after.all (· < row.sortKey))).map Row.sortKey
    exact hperm.nodup_iff.2 ((nodup_sortKey hsound).sublist (List.filter_sublist.map _))
  exact hle.imp₂ (fun _ _ => lt_of_le_of_ne) hne

theorem mem_listed_row {includeWithdrawn : Bool} {after : Option (List String)} {row : Row} :
    row ∈ s.listed includeWithdrawn after ↔
      (∃ digest, s.rows.get? digest = some row) ∧ row.Matches includeWithdrawn ∧
        Behind after row.sortKey := by
  unfold Disk.listed Row.Matches Behind
  rw [List.mem_insertionSort, List.mem_filter, Dict.mem_values_iff]
  cases after <;> simp

theorem mem_listed {includeWithdrawn : Bool} {after : Option (List String)} (key : List String) :
    key ∈ (s.listed includeWithdrawn after).map Row.sortKey ↔
      key ∈ s.table includeWithdrawn ∧ Behind after key := by
  rw [List.mem_map]
  constructor
  · rintro ⟨row, hrow, rfl⟩
    obtain ⟨⟨digest, hget⟩, hmatches, hbehind⟩ := mem_listed_row.1 hrow
    exact ⟨⟨digest, row, hget, hmatches, rfl⟩, hbehind⟩
  · rintro ⟨⟨digest, row, hget, hmatches, rfl⟩, hbehind⟩
    exact ⟨row, mem_listed_row.2 ⟨⟨digest, hget⟩, hmatches, hbehind⟩, rfl⟩

/-- The records of a page are those of its rows. -/
theorem map_listedKey (hsound : Sound library s) {rows : List Row}
    {items : List (List (String × Json))} (hrows : ∀ row ∈ rows, row ∈ s.rows.values)
    (h : rows.mapM (rowRecord library) = .ok items) :
    items.map listedKey = rows.map Row.sortKey ∧
      items.map listedDigest = rows.map Row.packageDigest := by
  have hforall := mapM_eq_ok.1 h
  induction hforall with
  | nil => exact ⟨rfl, rfl⟩
  | @cons row item rows items hitem hrest ih =>
    rw [List.forall_mem_cons] at hrows
    obtain ⟨digest, hget⟩ := Dict.mem_values_iff.1 hrows.1
    obtain ⟨r, w, tree, hbacked⟩ := hsound.rows digest row hget
    rw [hbacked.read] at hitem
    cases hitem
    obtain ⟨hkeys, hdigests⟩ := ih hrows.2 (mapM_eq_ok.2 hrest)
    obtain ⟨hkey, hdigest⟩ := listedKey_shown r w
    rw [List.map_cons, List.map_cons, List.map_cons, List.map_cons, hkeys, hdigests, hkey, hdigest,
      hbacked.row]
    exact ⟨rfl, rfl⟩

/-- Rows of a sound disk are read back. -/
theorem mapM_rowRecord (hsound : Sound library s) {rows : List Row}
    (hrows : ∀ row ∈ rows, row ∈ s.rows.values) : ∃ items, rows.mapM (rowRecord library) = .ok items := by
  induction rows with
  | nil => exact ⟨[], rfl⟩
  | cons row rows ih =>
    rw [List.forall_mem_cons] at hrows
    obtain ⟨digest, hget⟩ := Dict.mem_values_iff.1 hrows.1
    obtain ⟨r, w, tree, hbacked⟩ := hsound.rows digest row hget
    obtain ⟨items, hitems⟩ := ih hrows.2
    exact ⟨r.shown w :: items, by rw [List.mapM_cons, hbacked.read, ok_bind, hitems]; rfl⟩

/-! ## One page -/

/-- What a page lists, and where it says to go on. -/
structure Listed (library : Library) (d : Disk) (includeWithdrawn : Bool) (limit : Int)
    (after : Option (List String)) (items : List (List (String × Json))) (next : Option String) :
    Prop where
  bounds : 1 ≤ limit ∧ limit ≤ 100
  page : IsPage limit.toNat (d.table includeWithdrawn) after (items.map listedKey) next.isSome
  rows : ∀ record ∈ items, ∃ row, d.rows.get? (listedDigest record) = some row ∧
    row.Matches includeWithdrawn ∧ row.sortKey = listedKey record
  cursor : ∀ digest ∈ next, ∃ row, d.rows.get? digest = some row ∧
    (items.map listedKey).getLast? = some row.sortKey

theorem Disk.page_eq_ok {includeWithdrawn : Bool} {limit : Int} {cursor : Option Json}
    {items : List (List (String × Json))} {next : Option String} :
    s.page library includeWithdrawn limit cursor = .ok (items, next) ↔
      (1 ≤ limit ∧ limit ≤ 100) ∧ ∃ after, s.cursorKey cursor = .ok after ∧
        ((s.listed includeWithdrawn after).take limit.toNat).mapM (rowRecord library) = .ok items ∧
          next = if limit.toNat < (s.listed includeWithdrawn after).length then
            ((s.listed includeWithdrawn after).take limit.toNat).getLast?.map Row.packageDigest
          else none := by
  have htake : ∀ rows : List Row,
      (rows.take (limit.toNat + 1)).take limit.toNat = rows.take limit.toNat := by
    intro rows
    rw [List.take_take, min_eq_left (Nat.le_succ _)]
  have hlength : ∀ rows : List Row,
      limit.toNat < (rows.take (limit.toNat + 1)).length ↔ limit.toNat < rows.length := by
    intro rows
    rw [List.length_take]
    omega
  have hlimit : raiseIf (¬ (1 ≤ limit ∧ limit ≤ 100)) "resource-limit"
      "list limit must be between 1 and 100" = .ok () ↔ 1 ≤ limit ∧ limit ≤ 100 := by
    rw [raiseIf_eq_ok, not_not]
  unfold Disk.page
  simp only [bind_eq_ok, htake, hlength]
  constructor
  · rintro ⟨_, hraise, after, hafter, items', hitems, hpage⟩
    cases hpage
    exact ⟨hlimit.1 hraise, after, hafter, hitems, rfl⟩
  · rintro ⟨hbounds, after, hafter, hitems, rfl⟩
    exact ⟨(), hlimit.2 hbounds, after, hafter, items, hitems, rfl⟩

/-- A page of a sound disk. -/
theorem listed_of_page (hsound : Sound library s) {includeWithdrawn : Bool} {limit : Int}
    {cursor : Option Json} {items : List (List (String × Json))} {next : Option String}
    (h : s.page library includeWithdrawn limit cursor = .ok (items, next)) :
    ∃ after, s.cursorKey cursor = .ok after ∧
      Listed library s includeWithdrawn limit after items next := by
  obtain ⟨hbounds, after, hafter, hitems, hnext⟩ := Disk.page_eq_ok.1 h
  have hrows : ∀ row ∈ (s.listed includeWithdrawn after).take limit.toNat,
      ∃ digest, s.rows.get? digest = some row :=
    fun row hrow => (mem_listed_row.1 (List.mem_of_mem_take hrow)).1
  obtain ⟨hkeys, hdigests⟩ := map_listedKey hsound
    (fun row hrow => Dict.mem_values_iff.2 (hrows row hrow)) hitems
  have hmore : next.isSome = decide (limit.toNat <
      ((s.listed includeWithdrawn after).map Row.sortKey).length) := by
    rw [hnext, List.length_map]
    split
    · rename_i hlt
      have hne : (s.listed includeWithdrawn after).take limit.toNat ≠ [] := by
        intro hnil
        have := congrArg List.length hnil
        rw [List.length_take, List.length_nil] at this
        omega
      rw [List.getLast?_eq_some_getLast hne, decide_eq_true hlt]
      rfl
    · rename_i hge
      rw [decide_eq_false hge]
      rfl
  refine ⟨after, hafter, hbounds, ?_, ?_, ?_⟩
  · rw [hkeys, hmore, List.map_take]
    exact .of_sorted (listed_sorted hsound includeWithdrawn after) mem_listed
  · intro record hrecord
    obtain ⟨row, hrow, hkey, hdigest⟩ : ∃ row ∈ (s.listed includeWithdrawn after).take limit.toNat,
        row.sortKey = listedKey record ∧ row.packageDigest = listedDigest record := by
      obtain ⟨row, hrow, hread⟩ := exists_of_mem_mapM hitems hrecord
      obtain ⟨digest, hget⟩ := hrows row hrow
      obtain ⟨r, w, tree, hbacked⟩ := hsound.rows digest row hget
      rw [hbacked.read] at hread
      cases hread
      obtain ⟨hkey, hdigest⟩ := listedKey_shown r w
      exact ⟨row, hrow, by rw [hkey, hbacked.row], by rw [hdigest, hbacked.row]; rfl⟩
    obtain ⟨⟨digest, hget⟩, hmatches, -⟩ := mem_listed_row.1 (List.mem_of_mem_take hrow)
    rw [← hdigest, hsound.digest_eq hget]
    exact ⟨row, hget, hmatches, hkey⟩
  · intro digest hdigest
    rw [hnext] at hdigest
    split at hdigest
    · obtain ⟨row, hlast, rfl⟩ := Option.map_eq_some_iff.1 hdigest
      obtain ⟨digest, hget⟩ := hrows row (List.mem_of_getLast? hlast)
      refine ⟨row, by rw [hsound.digest_eq hget]; exact hget, ?_⟩
      rw [hkeys, List.getLast?_map, hlast]
      rfl
    · cases hdigest

/-! ## Reading page after page -/

/-- A call of `list` that returned: the disk it found and left, the records and `next_cursor`. -/
structure Page where
  disk : Disk
  left : Disk
  items : List (List (String × Json))
  next : Option String

/-- A reader calls `list`, and again with the cursor of the page before after any other calls. -/
inductive Paging (library : Library) (includeWithdrawn : Bool) (limit : Int) :
    Disk → Option String → List Page → Prop
  | last {d t : Disk} {cursor : Option String} {env : Env} {items : List (List (String × Json))}
    {next : Option String}
    (call : listReleases library includeWithdrawn limit (cursor.map .str) env d.ready =
      (.done (items, next), t)) :
    Paging library includeWithdrawn limit d cursor [⟨d, t, items, next⟩]
  | next {d t e : Disk} {cursor : Option String} {env : Env} {items : List (List (String × Json))}
    {digest : String} {calls : List (Env × Call)} {pages : List Page}
    (call : listReleases library includeWithdrawn limit (cursor.map .str) env d.ready =
      (.done (items, some digest), t))
    (others : Steps (CallStep library) calls t e)
    (rest : Paging library includeWithdrawn limit e (some digest) pages) :
    Paging library includeWithdrawn limit d cursor (⟨d, t, items, some digest⟩ :: pages)

/-- Rows stay, and keep their keys. -/
def Kept (s t : Disk) : Prop :=
  ∀ digest row, s.rows.get? digest = some row →
    ∃ row', t.rows.get? digest = some row' ∧ row'.sortKey = row.sortKey

theorem Kept.trans {u : Disk} (h₁ : Kept s t) (h₂ : Kept t u) : Kept s u := by
  intro digest row hrow
  obtain ⟨row', hrow', hkey'⟩ := h₁ digest row hrow
  obtain ⟨row'', hrow'', hkey''⟩ := h₂ digest row' hrow'
  exact ⟨row'', hrow'', hkey''.trans hkey'⟩

theorem kept_of_steps {calls : List (Env × Call)} (h : Steps (CallStep library) calls s t)
    (hsound : Sound library s) : Kept s t := by
  intro digest row hrow
  obtain ⟨r, w, tree, hbacked⟩ := hsound.rows digest row hrow
  have hread := hbacked.row
  subst hread
  obtain ⟨w', hrow', -, -⟩ := keeps_of_runs h hsound digest r w tree hrow hbacked
  exact ⟨r.rowAs w', hrow', rfl⟩

theorem sound_of_steps {calls : List (Env × Call)} (h : Steps (CallStep library) calls s t)
    (hsound : Sound library s) : Sound library t :=
  h.invariant hsound fun _ hstep hsound =>
    hstep.2 ▸ hsound.effects (effects_after hsound hstep.1 _)

/-- A row's digest is a cursor. -/
theorem cursorKey_of_row (hsound : Sound library s) {digest : String} {row : Row}
    (hrow : s.rows.get? digest = some row) :
    s.cursorKey (some (.str digest)) = .ok (some row.sortKey) := by
  obtain ⟨r, w, tree, hbacked⟩ := hsound.rows digest row hrow
  have hsha := isSha256_of_made hbacked.made
  rw [hbacked.named] at hsha
  have hdigest : AppStore.digest (.str digest) "cursor" = .ok digest := if_pos hsha
  rw [Disk.cursorKey, hdigest, ok_bind, hrow]
  rfl

/-- The page as one of a table of keys. -/
def Page.tablePage (includeWithdrawn : Bool) (p : Page) : TablePage (List String) :=
  ⟨p.disk.table includeWithdrawn, p.items.map listedKey, p.next.isSome⟩

/-- What is known of a call that returned. -/
structure Page.Known (library : Library) (includeWithdrawn : Bool) (limit : Int) (p : Page) :
    Prop where
  bounds : 1 ≤ limit ∧ limit ≤ 100
  disk : Sound library p.disk
  left : Sound library p.left
  rows : ∀ record ∈ p.items, ∃ row, p.disk.rows.get? (listedDigest record) = some row ∧
    row.Matches includeWithdrawn ∧ row.sortKey = listedKey record
  cursor : ∀ digest ∈ p.next, ∃ row, p.left.rows.get? digest = some row

/-- The rows that the pages found are still there at the end, under their keys. -/
structure Traced (library : Library) (includeWithdrawn : Bool) (limit : Int) (d : Disk)
    (pages : List Page) (z : Disk) : Prop where
  start : Kept d z
  kept : ∀ p ∈ pages, Kept p.disk z
  known : ∀ p ∈ pages, p.Known library includeWithdrawn limit

/-- One call. -/
theorem listed_of_done (hsound : Sound library s) {includeWithdrawn : Bool} {limit : Int}
    {cursor : Option Json} {items : List (List (String × Json))} {next : Option String}
    {after : Option (List String)} (hafter : s.cursorKey cursor = .ok after)
    (h : listReleases library includeWithdrawn limit cursor env s.ready = (.done (items, next), t)) :
    Listed library s includeWithdrawn limit after items next ∧ Same s t := by
  have hready : Sound library s.ready := hsound.effects (.same (same_ready s))
  obtain ⟨hpage, hsame⟩ := page_of_done h
  obtain ⟨after', hafter', hlisted⟩ := listed_of_page hready hpage
  have hcursor : s.ready.cursorKey cursor = s.cursorKey cursor := by
    cases cursor <;> rfl
  rw [hcursor, hafter] at hafter'
  cases hafter'
  exact ⟨⟨hlisted.bounds, hlisted.page, hlisted.rows, hlisted.cursor⟩, (same_ready s).trans hsame⟩

theorem Listed.known {includeWithdrawn : Bool} {limit : Int} {after : Option (List String)}
    {items : List (List (String × Json))} {next : Option String}
    (h : Listed library s includeWithdrawn limit after items next) (hsound : Sound library s)
    (hsame : Same s t) : (Page.mk s t items next).Known library includeWithdrawn limit where
  bounds := h.bounds
  disk := hsound
  left := hsound.effects (.same hsame)
  rows := h.rows
  cursor digest hdigest := by
    obtain ⟨row, hrow, -⟩ := h.cursor digest hdigest
    exact ⟨row, by rw [hsame.rows]; exact hrow⟩

theorem Kept.refl (s : Disk) : Kept s s := fun _ row hrow => ⟨row, hrow, rfl⟩

theorem Same.kept (h : Same s t) : Kept s t := fun _ row hrow => ⟨row, by rw [h.rows]; exact hrow, rfl⟩

/-- **Run lemma.** The pages of a reader are pages of the tables of keys. -/
theorem pages_of_paging {includeWithdrawn : Bool} {limit : Int} {d : Disk} {cursor : Option String}
    {pages : List Page} (h : Paging library includeWithdrawn limit d cursor pages)
    (hsound : Sound library d) {after : Option (List String)}
    (hafter : d.cursorKey (cursor.map .str) = .ok after) :
    Pages limit.toNat after (pages.map (Page.tablePage includeWithdrawn)) ∧
      ∃ z, Traced library includeWithdrawn limit d pages z := by
  induction h generalizing after with
  | @last d t cursor env items next call =>
    obtain ⟨hlisted, hsame⟩ := listed_of_done hsound hafter call
    refine ⟨.last hlisted.page, d, .refl d, ?_, ?_⟩
    · exact List.forall_mem_singleton.2 (.refl d)
    · exact List.forall_mem_singleton.2 (hlisted.known hsound hsame)
  | @next d t e cursor env items digest calls pages call others rest ih =>
    obtain ⟨hlisted, hsame⟩ := listed_of_done hsound hafter call
    have hsoundt := hsound.effects (.same hsame)
    have hsounde := sound_of_steps others hsoundt
    have hkept := hsame.kept.trans (kept_of_steps others hsoundt)
    -- the row of the cursor may be withdrawn by now, but its key is as before
    obtain ⟨row, hrow, hlast⟩ := hlisted.cursor digest rfl
    obtain ⟨row', hrow', hkey⟩ := hkept digest row hrow
    have hcursor := cursorKey_of_row hsounde hrow'
    rw [hkey] at hcursor
    obtain ⟨hpages, z, htraced⟩ := ih hsounde hcursor
    have hstart := hkept.trans htraced.start
    refine ⟨.next hlisted.page rfl hlast hpages, z, hstart, ?_, ?_⟩
    · exact List.forall_mem_cons.2 ⟨hstart, htraced.kept⟩
    · exact List.forall_mem_cons.2 ⟨hlisted.known hsound hsame, htraced.known⟩

namespace Traced

variable {includeWithdrawn : Bool} {limit : Int} {d z : Disk} {pages : List Page}

/-- The key of a digest is the same at all times. -/
theorem key_eq {u v : Disk} (hu : Kept u z) (hv : Kept v z) {digest : String} {row row' : Row}
    (hrow : u.rows.get? digest = some row) (hrow' : v.rows.get? digest = some row') :
    row.sortKey = row'.sortKey := by
  obtain ⟨last, hlast, hkey⟩ := hu digest row hrow
  obtain ⟨last', hlast', hkey'⟩ := hv digest row' hrow'
  rw [hlast] at hlast'
  cases hlast'
  rw [← hkey, hkey']

theorem mem_table (h : Traced library includeWithdrawn limit d pages z) {digest : String} {row : Row}
    {p : Page} (hp : p ∈ pages) (hrow : p.disk.rows.get? digest = some row)
    (hmatched : ∀ p ∈ pages, ∃ row, p.disk.rows.get? digest = some row ∧
      row.Matches includeWithdrawn) : ∀ q ∈ pages, row.sortKey ∈ q.disk.table includeWithdrawn := by
  intro q hq
  obtain ⟨row', hrow', hmatches⟩ := hmatched q hq
  exact ⟨digest, row', hrow', hmatches, key_eq (h.kept q hq) (h.kept p hp) hrow' hrow⟩

end Traced

/-- The digest of a record is the last part of its key. -/
theorem listedDigest_eq {record : List (String × Json)} {row : Row}
    (h : listedKey record = row.sortKey) : listedDigest record = row.packageDigest := by
  have hthird := congrArg (fun key : List String => key[2]?) h
  exact Option.some.inj hthird

theorem flatMap_keys (includeWithdrawn : Bool) (pages : List Page) :
    (pages.map (Page.tablePage includeWithdrawn)).flatMap TablePage.keys =
      (pages.flatMap Page.items).map listedKey := by
  rw [List.flatMap_map, List.map_flatMap]
  rfl

theorem Paging.mem_first {includeWithdrawn : Bool} {limit : Int} {d : Disk} {cursor : Option String}
    {pages : List Page} (h : Paging library includeWithdrawn limit d cursor pages) :
    ∃ p, p ∈ pages := by
  cases h with
  | last => exact ⟨_, List.mem_cons_self⟩
  | next => exact ⟨_, List.mem_cons_self⟩

namespace Traced

variable {includeWithdrawn : Bool} {limit : Int} {d z : Disk} {pages : List Page}

/-- Records with keys of their own have digests of their own. -/
theorem once (h : Traced library includeWithdrawn limit d pages z)
    (hsorted : ((pages.flatMap Page.items).map listedKey).Pairwise (· < ·)) :
    ((pages.flatMap Page.items).map listedDigest).Nodup := by
  refine List.pairwise_map.2 ((List.pairwise_map.1 hsorted).imp_of_mem ?_)
  intro a b ha hb hlt heq
  obtain ⟨p, hp, hap⟩ := List.mem_flatMap.1 ha
  obtain ⟨q, hq, hbq⟩ := List.mem_flatMap.1 hb
  obtain ⟨row, hrow, -, hkey⟩ := (h.known p hp).rows a hap
  obtain ⟨row', hrow', -, hkey'⟩ := (h.known q hq).rows b hbq
  rw [heq] at hrow
  refine hlt.ne ?_
  rw [← hkey, ← hkey', key_eq (h.kept p hp) (h.kept q hq) hrow hrow']

theorem complete (h : Traced library includeWithdrawn limit d pages z)
    (hpages : Pages limit.toNat none (pages.map (Page.tablePage includeWithdrawn)))
    (hfirst : ∃ p, p ∈ pages) (hend : ∀ p ∈ pages.getLast?, p.next = none)
    (hone : ((pages.flatMap Page.items).map listedDigest).Nodup) {digest : String}
    (hmatched : ∀ p ∈ pages, ∃ row, p.disk.rows.get? digest = some row ∧
      row.Matches includeWithdrawn) :
    ((pages.flatMap Page.items).map listedDigest).count digest = 1 := by
  obtain ⟨p, hp⟩ := hfirst
  obtain ⟨row, hrow, -⟩ := hmatched p hp
  have hmem : row.sortKey ∈ (pages.flatMap Page.items).map listedKey := by
    rw [← flatMap_keys includeWithdrawn]
    refine hpages.complete ?_ ?_ (fun _ hnone => (by cases hnone))
    · intro q hq
      rw [List.getLast?_map] at hq
      obtain ⟨last, hlast, rfl⟩ := Option.map_eq_some_iff.1 hq
      exact Option.isSome_eq_false_iff.2 (Option.isNone_iff_eq_none.2 (hend last hlast))
    · intro q hq
      obtain ⟨page, hpage, rfl⟩ := List.mem_map.1 hq
      exact h.mem_table hp hrow hmatched page hpage
  obtain ⟨record, hrecord, hkey⟩ := List.mem_map.1 hmem
  refine List.count_eq_one_of_mem hone (List.mem_map.2 ⟨record, hrecord, ?_⟩)
  rw [listedDigest_eq hkey, (h.known p hp).disk.digest_eq hrow]

theorem ends (h : Traced library includeWithdrawn limit d pages z)
    (hpages : Pages limit.toNat none (pages.map (Page.tablePage includeWithdrawn)))
    (hfirst : ∃ p, p ∈ pages)
    (hadded : ∀ p ∈ pages, ∀ digest row, p.disk.rows.get? digest = some row →
      ∃ row', d.rows.get? digest = some row')
    (hmore : ∀ p ∈ pages, p.next.isSome) : pages.length ≤ d.rows.values.length := by
  have htables : ∀ q ∈ pages.map (Page.tablePage includeWithdrawn),
      q.table ⊆ ((d.rows.values.map Row.sortKey).toFinset : Set (List String)) := by
    intro q hq key hkey
    obtain ⟨p, hp, rfl⟩ := List.mem_map.1 hq
    obtain ⟨digest, row, hrow, -, rfl⟩ := hkey
    obtain ⟨row', hrow'⟩ := hadded p hp digest row hrow
    rw [key_eq (h.kept p hp) h.start hrow hrow']
    exact Finset.mem_coe.2 (List.mem_toFinset.2
      (List.mem_map_of_mem (Dict.mem_values_iff.2 ⟨digest, hrow'⟩)))
  have hcount := hpages.count_le (List.forall_mem_map.2 hmore) htables
  have hcard := (d.rows.values.map Row.sortKey).toFinset_card_le
  rw [List.length_map] at hcount hcard
  obtain ⟨p, hp⟩ := hfirst
  have hlimit : 1 ≤ limit.toNat := by
    have := (h.known p hp).bounds
    omega
  calc pages.length ≤ pages.length * limit.toNat := Nat.le_mul_of_pos_right _ hlimit
    _ ≤ (d.rows.values.map Row.sortKey).toFinset.card := hcount
    _ ≤ d.rows.values.length := hcard

end Traced

/-! ## The laws -/

/-- What holds of the pages of a reader who starts without a cursor. -/
structure PagingLaws (library : Library) (includeWithdrawn : Bool) (limit : Int) (d : Disk)
    (pages : List Page) : Prop where
  /-- All pages together are in the order of the keys. -/
  sorted : ((pages.flatMap Page.items).map listedKey).Pairwise (· < ·)
  /-- No release is listed twice. -/
  once : ((pages.flatMap Page.items).map listedDigest).Nodup
  /-- A record is that of a row of the disk at the time, which is to be listed. -/
  matched : ∀ p ∈ pages, ∀ record ∈ p.items, ∃ row,
    p.disk.rows.get? (listedDigest record) = some row ∧ row.Matches includeWithdrawn ∧
      row.sortKey = listedKey record
  /-- When the last page has no cursor, no row is missed that was to be listed at each page. -/
  complete : (∀ p ∈ pages.getLast?, p.next = none) → ∀ digest,
    (∀ p ∈ pages, ∃ row, p.disk.rows.get? digest = some row ∧ row.Matches includeWithdrawn) →
      ((pages.flatMap Page.items).map listedDigest).count digest = 1
  /-- While no row comes in, there is an end of pages with a cursor. -/
  ends : (∀ p ∈ pages, ∀ digest row, p.disk.rows.get? digest = some row →
      ∃ row', d.rows.get? digest = some row') → (∀ p ∈ pages, p.next.isSome) →
    pages.length ≤ d.rows.values.length
  /-- A cursor is answered, after any other calls. -/
  answered : ∀ p ∈ pages, ∀ digest ∈ p.next, ∀ calls e, Steps (CallStep library) calls p.left e →
    ∀ env : Env, env.Quiet → ∃ page t,
      listReleases library includeWithdrawn limit (some (.str digest)) env e.ready = (.done page, t)

/-- A cursor that has a key is answered, and so is no cursor. -/
theorem answered_of_key (hsound : Sound library s) {cursor : Option Json}
    {after : Option (List String)} (hafter : s.cursorKey cursor = .ok after)
    {includeWithdrawn : Bool} {limit : Int} (hbounds : 1 ≤ limit ∧ limit ≤ 100)
    (hquiet : env.Quiet) : ∃ page t,
      listReleases library includeWithdrawn limit cursor env s = (.done page, t) := by
  have hrows : ∀ row ∈ (s.listed includeWithdrawn after).take limit.toNat, row ∈ s.rows.values :=
    fun row hrow => Dict.mem_values_iff.2 (mem_listed_row.1 (List.mem_of_mem_take hrow)).1
  obtain ⟨items, hitems⟩ := mapM_rowRecord hsound hrows
  have hpage : s.page library includeWithdrawn limit cursor = .ok (items, _) :=
    Disk.page_eq_ok.2 ⟨hbounds, after, hafter, hitems, rfl⟩
  obtain ⟨n, hgives⟩ := @gives_listReleases library env s includeWithdrawn limit cursor
  rw [hpage] at hgives
  obtain ⟨page, t, hdone, -, -⟩ := hgives.quiet hquiet
  exact ⟨page, t, hdone⟩

/-- **Main result.** Paging is sorted, lists nothing twice, misses nothing and ends. -/
theorem paging_laws (library : Library) {calls : List (Env × Call)} {d : Disk}
    (h : Steps (CallStep library) calls .empty d) {includeWithdrawn : Bool} {limit : Int}
    {pages : List Page} (hrun : Paging library includeWithdrawn limit d none pages) :
    PagingLaws library includeWithdrawn limit d pages := by
  obtain ⟨hpages, z, htraced⟩ := pages_of_paging hrun (sound_of_runs h) rfl
  have hsorted := hpages.sorted
  rw [flatMap_keys] at hsorted
  exact {
    sorted := hsorted
    once := htraced.once hsorted
    matched := fun p hp => (htraced.known p hp).rows
    complete := fun hend digest hmatched =>
      htraced.complete hpages hrun.mem_first hend (htraced.once hsorted) hmatched
    ends := htraced.ends hpages hrun.mem_first
    answered := fun p hp digest hdigest calls e hsteps env hquiet => by
      have hknown := htraced.known p hp
      obtain ⟨row, hrow⟩ := hknown.cursor digest hdigest
      obtain ⟨row', hrow', -⟩ := kept_of_steps hsteps hknown.left digest row hrow
      have hsound := (sound_of_steps hsteps hknown.left).effects (.same (same_ready e))
      exact answered_of_key hsound (cursorKey_of_row hsound hrow') hknown.bounds hquiet }

/-- The store with one release, listed in pages of one. -/
theorem paging_laws_sample : ∃ page,
    Paging sampleLibrary false 1 sampleDisk none [page] ∧
      sampleDisk.rows.get? samplePackageDigest = some (sampleRelease sampleNow).row ∧
        PagingLaws sampleLibrary false 1 sampleDisk [page] := by
  have hready : Sound sampleLibrary sampleDisk.ready :=
    (sound_of_runs steps_sampleDisk).effects (.same (same_ready sampleDisk))
  obtain ⟨⟨items, next⟩, t, hcall⟩ := @answered_of_key sampleLibrary (calm sampleNow) _ hready none
    none rfl false 1 (by decide) (quiet_calm sampleNow)
  exact ⟨_, .last hcall, row_sampleDisk, paging_laws sampleLibrary steps_sampleDisk (.last hcall)⟩

end Vibapp.AppStore
