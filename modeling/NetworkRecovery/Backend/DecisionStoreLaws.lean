import NetworkRecovery.Backend.DecisionStore

/-!
# Where the two stores agree

Both stores hold the same records. A listing of the one agrees with the same
listing of the other one, page by page, exactly when the file can be read, the
bounds mean the same to a comparison of texts and of instants, and no two of the
listed records have one time: among those the file is read with the greater id
first, and the table with the smaller one (`listsAgree_iff`, `stores_agree_iff`).
-/

namespace DecisionIntelligence

open Python Platform Toolkit Paging
open Audit (File)

/-! ## Stored records -/

section Listings

variable {α : Type} (k : Kind α) (pg : Postgres)

/-- Records with distinct ids, and times in one format: the database reads each of
them, and back as it prints it, and the texts are in the order of the instants. -/
structure Stored (rows : List α) : Prop where
  wf : ∀ a ∈ rows, (Value.dict (k.modelDump a)).WF
  ids : ∀ a ∈ rows, ∀ b ∈ rows, k.id a = k.id b → a = b
  nodup : rows.Nodup
  instant : ∀ a ∈ rows, (pg.instant (k.time a)).isSome
  printed : ∀ a ∈ rows, ∀ t, pg.instant (k.time a) = some t → pg.instant (pg.isoformat t) = some t
  order : ∀ a ∈ rows, ∀ b ∈ rows, ∀ s t, pg.instant (k.time a) = some s →
    pg.instant (k.time b) = some t → (k.time a ≤ k.time b ↔ s ≤ t)

/-- The same item: in everything but `created_at`, which the file does not keep, and
the form of the time. -/
def SameItem (a b : Recorded α) : Prop :=
  k.retime a.row "" = k.retime b.row "" ∧ pg.instant (k.time a.row) = pg.instant (k.time b.row)

/-- The instant of a stored record. -/
def instantOf (a : α) : Int := (pg.instant (k.time a)).getD 0

/-- Its row in the table. -/
def tableRow (a : α) : TableRow α := ⟨a, instantOf k pg a, pg.createdAt (k.id a)⟩

variable {k pg} {rows : List α}

theorem Stored.instant_eq (h : Stored k pg rows) {a : α} (ha : a ∈ rows) :
    pg.instant (k.time a) = some (instantOf k pg a) := by
  unfold instantOf
  obtain ⟨t, ht⟩ := Option.isSome_iff_exists.mp (h.instant a ha)
  rw [ht]
  rfl

theorem Stored.tableOf_eq (h : Stored k pg rows) : tableOf k pg rows = rows.map (tableRow k pg) := by
  unfold tableOf
  rw [← List.filterMap_eq_map]
  refine List.filterMap_congr fun a ha => ?_
  rw [h.instant_eq ha]
  rfl

theorem mapM_map_some {β γ δ : Type} {f : γ → Option δ} {g : β → γ} {out : β → δ}
    (h : ∀ x, f (g x) = some (out x)) (l : List β) : (l.map g).mapM f = some (l.map out) := by
  induction l with
  | nil => rfl
  | cons x l ih =>
    rw [List.map_cons, List.mapM_cons, h, ih]
    rfl

/-- The file is read as it was written, or not at all. -/
theorem Stored.readRecords (h : Stored k pg rows) (sep : Linesep) :
    ((∀ a ∈ rows, SeparatorFree (k.modelDump a)) →
      readRecords k (jsonlFile k sep rows) = some (rows.map fun a => ⟨a, none⟩)) ∧
    ((readRecords k (jsonlFile k sep rows)).isSome →
      ∀ a ∈ rows, SeparatorFree (k.modelDump a)) := by
  have hwf : ∀ row ∈ rows.map k.modelDump, (Value.dict row).WF := by
    intro row hrow
    obtain ⟨a, ha, rfl⟩ := List.mem_map.mp hrow
    exact h.wf a ha
  obtain ⟨hread, hsome⟩ := allOfText_rowsText hwf
  unfold DecisionIntelligence.readRecords jsonlFile
  cases hfile : appendAll sep (rows.map k.modelDump) with
  | none =>
    obtain rfl := List.map_eq_nil_iff.mp (rows_of_appendAll_none hfile)
    exact ⟨fun _ => rfl, fun _ a ha => absurd ha List.not_mem_nil⟩
  | some b =>
    have htext := readText_appendAll sep (rows.map k.modelDump)
    rw [hfile] at htext
    have htext : readText b = some (rowsText (rows.map k.modelDump)) := htext
    dsimp only
    rw [htext, Option.bind_some]
    constructor
    · intro hfree
      have hfree' : ∀ row ∈ rows.map k.modelDump, SeparatorFree row := by
        intro row hrow
        obtain ⟨a, ha, rfl⟩ := List.mem_map.mp hrow
        exact hfree a ha
      rw [hread hfree', Option.bind_some, List.map_map]
      refine mapM_map_some (fun a => ?_) rows
      show (k.modelValidate (k.modelDump a)).map _ = _
      rw [k.modelValidate_dump]
      rfl
    · intro hall a ha
      obtain ⟨rs, hrs⟩ := Option.isSome_iff_exists.mp hall
      obtain ⟨values, hvalues, -⟩ := Option.bind_eq_some_iff.mp hrs
      exact hsome (by rw [hvalues]; rfl) _ (List.mem_map_of_mem ha)

/-! ## One listing -/

section Agreement

variable {keep : α → Bool} {filter : List (Recorded α) → List (Recorded α)}
  {c : Option (TableRow α → Bool)}

/-- The records that match, in the order of the file's listing. -/
def inFile (k : Kind α) (keep : α → Bool) (rows : List α) : List α :=
  latestPairFirst k.time k.id (rows.filter keep)

/-- And in the order of the table's. -/
def inTable (k : Kind α) (pg : Postgres) (p : TableRow α → Bool) (rows : List α) : List α :=
  latestFirst (instantOf k pg) k.id (rows.filter fun a => p (tableRow k pg a))

theorem inFile_perm : (inFile k keep rows).Perm (rows.filter keep) := latestPairFirst_perm _

theorem inTable_perm {p : TableRow α → Bool} :
    (inTable k pg p rows).Perm (rows.filter fun a => p (tableRow k pg a)) := latestFirst_perm _

theorem mem_inFile {a : α} : a ∈ inFile k keep rows ↔ a ∈ rows ∧ keep a = true := by
  rw [inFile_perm.mem_iff, List.mem_filter]

theorem mem_inTable {p : TableRow α → Bool} {a : α} :
    a ∈ inTable k pg p rows ↔ a ∈ rows ∧ p (tableRow k pg a) = true := by
  rw [inTable_perm.mem_iff, List.mem_filter]

/-- A page of the file's listing. -/
theorem jsonlList_eq (h : Stored k pg rows) (sep : Linesep)
    (hfilter : ∀ rs, filter rs = rs.filter fun r => keep r.row)
    (hfree : ∀ a ∈ rows, SeparatorFree (k.modelDump a)) (number pageSize : Nat) :
    jsonlList k filter (jsonlFile k sep rows) number pageSize =
      some (paginate ((inFile k keep rows).map fun a => ⟨a, none⟩) number pageSize) := by
  have hkept : (rows.map fun a => (⟨a, none⟩ : Recorded α)).filter (fun r => keep r.row) =
      (rows.filter keep).map fun a => ⟨a, none⟩ := by
    rw [List.filter_map]
    rfl
  have hsort : latestPairFirst (fun r : Recorded α => k.time r.row) (fun r => k.id r.row)
      ((rows.filter keep).map fun a => ⟨a, none⟩) =
        (inFile k keep rows).map fun a => ⟨a, none⟩ :=
    (map_latestPairFirst (fun a => (⟨a, none⟩ : Recorded α)) _).symm
  unfold jsonlList
  rw [(h.readRecords sep).1 hfree, Option.map_some, hfilter, hkept, hsort]

/-- A page of the table's listing. -/
theorem sqlList_eq (h : Stored k pg rows) (p : TableRow α → Bool) (number pageSize : Nat) :
    sqlList k pg (some p) (tableOf k pg rows) number pageSize =
      some (paginate ((inTable k pg p rows).map fun a => (tableRow k pg a).record k pg) number
        pageSize) := by
  have hselected : (rows.map (tableRow k pg)).filter p =
      (rows.filter fun a => p (tableRow k pg a)).map (tableRow k pg) := by
    rw [List.filter_map]
    rfl
  have hsort : latestFirst TableRow.at_ (fun r => k.id r.row)
      ((rows.filter fun a => p (tableRow k pg a)).map (tableRow k pg)) =
        (inTable k pg p rows).map (tableRow k pg) :=
    (map_latestFirst (tableRow k pg) _).symm
  have hlength : ((inTable k pg p rows).map (tableRow k pg)).length =
      (rows.filter fun a => p (tableRow k pg a)).length := by
    rw [List.length_map, inTable_perm.length_eq]
  have hmore := page_more_iff ((inTable k pg p rows).map (tableRow k pg)) number pageSize
  unfold page at hmore
  rw [List.length_map] at hmore
  unfold sqlList paginate
  rw [h.tableOf_eq, Option.map_some]
  dsimp only
  rw [hselected, hsort, List.length_map, ← hlength]
  simp only [hmore, page, List.length_map, List.map_drop, List.map_take, List.map_map,
    Function.comp_def]

/-- Only a record itself is the same item. -/
theorem sameItem_iff (h : Stored k pg rows) {a b : α} (ha : a ∈ rows) (hb : b ∈ rows) :
    SameItem k pg ⟨a, none⟩ ((tableRow k pg b).record k pg) ↔ a = b := by
  constructor
  · rintro ⟨hrow, -⟩
    have hid := congrArg k.id hrow
    simp only [TableRow.record, tableRow, k.id_retime] at hid
    exact h.ids a ha b hb hid
  · rintro rfl
    refine ⟨(k.retime_retime a _ "").symm, ?_⟩
    show pg.instant (k.time a) = pg.instant (k.time (k.retime a (pg.isoformat (instantOf k pg a))))
    rw [k.time_retime, h.instant_eq ha, h.printed a ha _ (h.instant_eq ha)]

theorem sameItems_iff (h : Stored k pg rows) {as bs : List α} (has : as ⊆ rows) (hbs : bs ⊆ rows) :
    List.Forall₂ (SameItem k pg) (as.map fun a => ⟨a, none⟩)
      (bs.map fun b => (tableRow k pg b).record k pg) ↔ as = bs := by
  induction as generalizing bs with
  | nil => cases bs <;> simp
  | cons a as ih =>
    cases bs with
    | nil => simp
    | cons b bs =>
      have ha : a ∈ rows := has List.mem_cons_self
      have hb : b ∈ rows := hbs List.mem_cons_self
      rw [List.map_cons, List.map_cons, List.forall₂_cons, sameItem_iff h ha hb,
        ih (List.subset_of_cons_subset has) (List.subset_of_cons_subset hbs), List.cons.injEq]

/-- The responses to the first requests, if there is one to each. -/
def pages {β : Type} (list : Nat → Nat → Option (PaginatedResponse β)) (n pageSize : Nat) :
    Option (List (PaginatedResponse β)) :=
  (List.range n).mapM fun i => list (i + 1) pageSize

/-- Two listings of the same records agree: every page has the same items in the same
order and the same word on whether there are more, and all pages together hold
each record that matches, once. -/
structure ListsAgree (k : Kind α) (pg : Postgres)
    (file table : Nat → Nat → Option (PaginatedResponse (Recorded α))) (full : List α) : Prop where
  page : ∀ number pageSize, 1 ≤ number → 1 ≤ pageSize →
    ∃ a b, file number pageSize = some a ∧ table number pageSize = some b ∧
      List.Forall₂ (SameItem k pg) a.items b.items ∧ a.hasMore = b.hasMore
  file : ∀ n pageSize, full.length ≤ n * pageSize → ∃ responses,
    pages file n pageSize = some responses ∧
      ((responses.flatMap fun r => r.items).map fun r => k.id r.row).Perm (full.map k.id)
  table : ∀ n pageSize, full.length ≤ n * pageSize → ∃ responses,
    pages table n pageSize = some responses ∧
      ((responses.flatMap fun r => r.items).map fun r => k.id r.row).Perm (full.map k.id)

theorem pages_paginate {β : Type} {list : Nat → Nat → Option (PaginatedResponse β)} {items : List β}
    (h : ∀ number pageSize, list number pageSize = some (paginate items number pageSize))
    {n pageSize : Nat} (hall : items.length ≤ n * pageSize) :
    ∃ responses, pages list n pageSize = some responses ∧
      (responses.flatMap fun r => r.items) = items := by
  refine ⟨(List.range n).map fun i => paginate items (i + 1) pageSize, ?_, ?_⟩
  · unfold pages
    simp only [h]
    exact List.mapM_pure
  · rw [List.flatMap_map]
    exact flatMap_page_all items hall

/-- The two orders are one exactly where the filter and the condition keep the same records,
and no two of these have one time. -/
theorem listings_eq_iff (h : Stored k pg rows) (p : TableRow α → Bool) :
    inFile k keep rows = inTable k pg p rows ↔
      (∀ a ∈ rows, keep a = p (tableRow k pg a)) ∧
      ∀ a ∈ rows, ∀ b ∈ rows, keep a = true → keep b = true → k.time a = k.time b → a = b := by
  have hids : ∀ a ∈ rows.filter keep, ∀ b ∈ rows.filter keep, k.id a = k.id b → a = b :=
    fun a ha b hb => h.ids a (List.mem_of_mem_filter ha) b (List.mem_of_mem_filter hb)
  have horder : ∀ a ∈ rows.filter keep, ∀ b ∈ rows.filter keep,
      k.time a ≤ k.time b ↔ instantOf k pg a ≤ instantOf k pg b := by
    intro a ha b hb
    have ha := List.mem_of_mem_filter ha
    have hb := List.mem_of_mem_filter hb
    exact h.order a ha b hb _ _ (h.instant_eq ha) (h.instant_eq hb)
  have hsorted := latestFirst_eq_iff hids horder
  have hapart : (∀ a ∈ rows.filter keep, ∀ b ∈ rows.filter keep, k.time a = k.time b → a = b) ↔
      ∀ a ∈ rows, ∀ b ∈ rows, keep a = true → keep b = true → k.time a = k.time b → a = b := by
    simp only [List.mem_filter, and_imp]
    exact ⟨fun h a ha b hb hka hkb => h a ha hka b hb hkb,
      fun h a ha hka b hb hkb => h a ha b hb hka hkb⟩
  have hmatch : (∀ a ∈ rows, keep a = p (tableRow k pg a)) →
      (rows.filter fun a => p (tableRow k pg a)) = rows.filter keep :=
    fun hkeep => (List.filter_congr fun a ha => hkeep a ha).symm
  constructor
  · intro heq
    have hkeep : ∀ a ∈ rows, keep a = p (tableRow k pg a) := by
      intro a ha
      have hmem : a ∈ inFile k keep rows ↔ a ∈ inTable k pg p rows := by rw [heq]
      rw [mem_inFile, mem_inTable] at hmem
      exact Bool.eq_iff_iff.mpr ((and_congr_right_iff.mp hmem) ha)
    refine ⟨hkeep, hapart.mp (hsorted.mp ?_)⟩
    unfold inFile inTable at heq
    rwa [hmatch hkeep] at heq
  · rintro ⟨hkeep, htimes⟩
    unfold inFile inTable
    rw [hmatch hkeep]
    exact hsorted.mpr (hapart.mpr htimes)

/-- One page that has all records tells the whole listings apart. -/
theorem listings_eq_of_page (h : Stored k pg rows) (sep : Linesep)
    (hfilter : ∀ rs, filter rs = rs.filter fun r => keep r.row)
    {a b : PaginatedResponse (Recorded α)}
    (hjsonl : jsonlList k filter (jsonlFile k sep rows) 1 (rows.length + 1) = some a)
    (hsql : sqlList k pg c (tableOf k pg rows) 1 (rows.length + 1) = some b)
    (hsame : List.Forall₂ (SameItem k pg) a.items b.items) :
    (∀ a ∈ rows, SeparatorFree (k.modelDump a)) ∧
      ∃ p, c = some p ∧ inFile k keep rows = inTable k pg p rows := by
  have hread : (readRecords k (jsonlFile k sep rows)).isSome := by
    unfold jsonlList at hjsonl
    obtain ⟨rs, hrs, -⟩ := Option.map_eq_some_iff.mp hjsonl
    rw [hrs]
    rfl
  have hfree := (h.readRecords sep).2 hread
  obtain ⟨p, rfl⟩ : ∃ p, c = some p := by
    unfold sqlList at hsql
    obtain ⟨p, hp, -⟩ := Option.map_eq_some_iff.mp hsql
    exact ⟨p, hp⟩
  refine ⟨hfree, p, rfl, ?_⟩
  have hone : ∀ {β : Type} (l : List β), l.length ≤ rows.length →
      page l 1 (rows.length + 1) = l :=
    fun l hl => page_one_of_le l (hl.trans (Nat.le_succ _))
  have hlength : (inFile k keep rows).length ≤ rows.length ∧
      (inTable k pg p rows).length ≤ rows.length := by
    rw [inFile_perm.length_eq, inTable_perm.length_eq]
    exact ⟨List.length_filter_le _ _, List.length_filter_le _ _⟩
  rw [jsonlList_eq h sep hfilter hfree] at hjsonl
  rw [sqlList_eq h p] at hsql
  obtain rfl := Option.some.inj hjsonl
  obtain rfl := Option.some.inj hsql
  simp only [paginate] at hsame
  rw [hone _ (by rw [List.length_map]; exact hlength.1),
    hone _ (by rw [List.length_map]; exact hlength.2)] at hsame
  exact (sameItems_iff h (fun a ha => (mem_inFile.mp ha).1) fun a ha => (mem_inTable.mp ha).1).mp
    hsame

/-- Where the whole listings are one, so is every page of theirs. -/
theorem listsAgree_of_eq (h : Stored k pg rows) (sep : Linesep)
    (hfilter : ∀ rs, filter rs = rs.filter fun r => keep r.row)
    (hfree : ∀ a ∈ rows, SeparatorFree (k.modelDump a)) {p : TableRow α → Bool}
    (heq : inFile k keep rows = inTable k pg p rows) :
    ListsAgree k pg (jsonlList k filter (jsonlFile k sep rows))
      (sqlList k pg (some p) (tableOf k pg rows)) (rows.filter keep) := by
  have hjsonl := jsonlList_eq h sep hfilter hfree
  have hsql := sqlList_eq h p
  rw [← heq] at hsql
  have hperm : (inFile k keep rows).Perm (rows.filter keep) := inFile_perm
  have hfile : inFile k keep rows ⊆ rows := fun a ha => (mem_inFile.mp ha).1
  have hsame := (sameItems_iff h hfile hfile).mpr rfl
  constructor
  · intro number pageSize _ _
    refine ⟨_, _, hjsonl number pageSize, hsql number pageSize, ?_, ?_⟩
    · exact List.forall₂_take _ (List.forall₂_drop _ hsame)
    · simp [paginate]
  · intro n pageSize hall
    obtain ⟨responses, hpages, hitems⟩ := pages_paginate hjsonl
      (show _ ≤ n * pageSize by rwa [List.length_map, hperm.length_eq])
    refine ⟨responses, hpages, ?_⟩
    rw [hitems, List.map_map]
    exact hperm.map k.id
  · intro n pageSize hall
    obtain ⟨responses, hpages, hitems⟩ := pages_paginate hsql
      (show _ ≤ n * pageSize by rwa [List.length_map, hperm.length_eq])
    refine ⟨responses, hpages, ?_⟩
    rw [hitems, List.map_map]
    have hid : ∀ a, k.id ((tableRow k pg a).record k pg).row = k.id a := fun a => k.id_retime a _
    simp only [Function.comp_def, hid]
    exact hperm.map k.id

/-- Two listings agree exactly when the file can be read, the condition holds of the
records the filter keeps, and no two of these have one time. -/
theorem listsAgree_iff (h : Stored k pg rows) (sep : Linesep)
    (hfilter : ∀ rs, filter rs = rs.filter fun r => keep r.row) :
    ListsAgree k pg (jsonlList k filter (jsonlFile k sep rows))
        (sqlList k pg c (tableOf k pg rows)) (rows.filter keep) ↔
      (∀ a ∈ rows, SeparatorFree (k.modelDump a)) ∧
      (∃ p, c = some p ∧ ∀ a ∈ rows, keep a = p (tableRow k pg a)) ∧
      ∀ a ∈ rows, ∀ b ∈ rows, keep a = true → keep b = true → k.time a = k.time b → a = b := by
  constructor
  · intro hagree
    obtain ⟨a, b, hjsonl, hsql, hsame, -⟩ :=
      hagree.page 1 (rows.length + 1) (Nat.le_refl 1) (Nat.le_add_left 1 _)
    obtain ⟨hfree, p, hp, heq⟩ := listings_eq_of_page h sep hfilter hjsonl hsql hsame
    obtain ⟨hkeep, htimes⟩ := (listings_eq_iff h p).mp heq
    exact ⟨hfree, ⟨p, hp, hkeep⟩, htimes⟩
  · rintro ⟨hfree, ⟨p, rfl, hkeep⟩, htimes⟩
    exact listsAgree_of_eq h sep hfilter hfree ((listings_eq_iff h p).mpr ⟨hkeep, htimes⟩)

end Agreement

end Listings

/-! ## The listings of the API -/

theorem narrow_eq {α β : Type} (value : Option β) (p : β → α → Bool) (rows : List α) :
    narrow value p rows = rows.filter fun r => clause value fun v => p v r := by
  cases value with
  | none => exact (List.filter_eq_self.mpr fun _ _ => rfl).symm
  | some v => rfl

/-- The clauses on the texts of an event. -/
def EventFilters.names (filters : EventFilters) (e : EventCreate) : Bool :=
  clause (given filters.domain) (fun v => e.domain = v) &&
    clause (given filters.category) (fun v => e.category = v) &&
    clause (given filters.eventId) (fun v => e.eventId = v)

/-- The events a filter keeps. -/
def EventFilters.keeps (filters : EventFilters) (e : EventCreate) : Bool :=
  filters.names e && (clause (given filters.since) (fun v => v ≤ e.timestampUtc) &&
    clause (given filters.until_) fun v => e.timestampUtc ≤ v)

def DecisionFilters.keeps (filters : DecisionFilters) (d : DecisionCreate) : Bool :=
  clause (given filters.domain) (fun v => d.domain = v) &&
    clause (given filters.decisionId) (fun v => d.decisionId = v) &&
    clause (given filters.policyStatus) (fun v => d.policyStatus = v) &&
    clause filters.minConfidence fun v => floatLe v.val d.confidence.val

def OutcomeFilters.keeps (filters : OutcomeFilters) (o : OutcomeCreate) : Bool :=
  clause (given filters.decisionId) (fun v => o.decisionId = v) &&
    clause filters.success fun v => o.success = v

theorem filterEvents_eq (filters : EventFilters) (rs : List EventRecord) :
    filterEvents filters rs = rs.filter fun r => filters.keeps r.row := by
  unfold filterEvents EventFilters.keeps EventFilters.names
  simp only [narrow_eq, List.filter_filter]
  refine List.filter_congr fun r _ => ?_
  ac_rfl

theorem filterDecisions_eq (filters : DecisionFilters) (rs : List DecisionRecord) :
    filterDecisions filters rs = rs.filter fun r => filters.keeps r.row := by
  unfold filterDecisions DecisionFilters.keeps
  simp only [narrow_eq, List.filter_filter]
  refine List.filter_congr fun r _ => ?_
  ac_rfl

theorem filterOutcomes_eq (filters : OutcomeFilters) (rs : List OutcomeRecord) :
    filterOutcomes filters rs = rs.filter fun r => filters.keeps r.row := by
  unfold filterOutcomes OutcomeFilters.keeps
  simp only [narrow_eq, List.filter_filter]
  refine List.filter_congr fun r _ => ?_
  ac_rfl

/-- The bounds are instants, and an event that the other clauses let through is
within them as a text exactly when it is as an instant. -/
def BoundsAgree (pg : Postgres) (filters : EventFilters) (events : List EventCreate) : Prop :=
  ∃ since until_, bound pg filters.since = some since ∧ bound pg filters.until_ = some until_ ∧
    ∀ e ∈ events, filters.names e = true →
      (clause (given filters.since) (fun v => v ≤ e.timestampUtc) &&
        clause (given filters.until_) fun v => e.timestampUtc ≤ v) =
      (clause since (fun v => v ≤ instantOf eventKind pg e) &&
        clause until_ fun v => instantOf eventKind pg e ≤ v)

/-- Without bounds there is nothing to agree on. -/
theorem boundsAgree_of_none {pg : Postgres} {filters : EventFilters} (events : List EventCreate)
    (hsince : given filters.since = none) (huntil : given filters.until_ = none) :
    BoundsAgree pg filters events := by
  refine ⟨none, none, ?_, ?_, fun e _ _ => ?_⟩
  · simp [bound, hsince]
  · simp [bound, huntil]
  · rw [hsince, huntil]
    rfl

/-- What the condition says of a stored event. -/
theorem eventsWhere_eq {pg : Postgres} {filters : EventFilters} {since until_ : Option Int}
    (hsince : bound pg filters.since = some since) (huntil : bound pg filters.until_ = some until_) :
    ∃ p, eventsWhere pg filters = some p ∧ ∀ e, p (tableRow eventKind pg e) =
      (filters.names e && (clause since (fun v => v ≤ instantOf eventKind pg e) &&
        clause until_ fun v => instantOf eventKind pg e ≤ v)) := by
  unfold eventsWhere
  rw [hsince, huntil]
  refine ⟨_, rfl, fun e => ?_⟩
  unfold EventFilters.names tableRow
  rw [← Bool.and_assoc]

theorem boundsAgree_iff {pg : Postgres} {filters : EventFilters} {events : List EventCreate} :
    (∃ p, eventsWhere pg filters = some p ∧
      ∀ e ∈ events, filters.keeps e = p (tableRow eventKind pg e)) ↔
      BoundsAgree pg filters events := by
  constructor
  · rintro ⟨p, hp, hkeeps⟩
    obtain ⟨since, hsince, hrest⟩ := Option.bind_eq_some_iff.mp hp
    obtain ⟨until_, huntil, -⟩ := Option.bind_eq_some_iff.mp hrest
    obtain ⟨q, hq, hmeans⟩ := eventsWhere_eq hsince huntil
    obtain rfl := Option.some.inj (hp.symm.trans hq)
    refine ⟨since, until_, hsince, huntil, fun e he hnames => ?_⟩
    have hevent := (hkeeps e he).trans (hmeans e)
    rwa [EventFilters.keeps, hnames, Bool.true_and, Bool.true_and] at hevent
  · rintro ⟨since, until_, hsince, huntil, hbounds⟩
    obtain ⟨p, hp, hmeans⟩ := eventsWhere_eq hsince huntil
    refine ⟨p, hp, fun e he => ?_⟩
    rw [hmeans, EventFilters.keeps]
    cases hnames : filters.names e with
    | false => rfl
    | true => rw [hbounds e he hnames]

/-- No two of the records that a filter keeps have one time. -/
def NoTies {α : Type} (k : Kind α) (keep : α → Bool) (rows : List α) : Prop :=
  ∀ a ∈ rows, ∀ b ∈ rows, keep a = true → keep b = true → k.time a = k.time b → a = b

/-- `list_all_outcomes` of both stores lists every stored outcome. -/
def AllListed (pg : Postgres) (file : File) (table : List (TableRow OutcomeCreate))
    (outcomes : List OutcomeCreate) : Prop :=
  (∃ rs, JsonlStore.listAllOutcomes file = some rs ∧ ∀ o ∈ outcomes, ∃ r ∈ rs, r.row = o) ∧
    ∃ rs, PostgresStore.listAllOutcomes pg table = some rs ∧
      ∀ o ∈ outcomes, ∃ r ∈ rs, SameItem outcomeKind pg ⟨o, none⟩ r

theorem allListed_iff {pg : Postgres} {outcomes : List OutcomeCreate}
    (h : Stored outcomeKind pg outcomes) (sep : Linesep) :
    AllListed pg (jsonlFile outcomeKind sep outcomes) (tableOf outcomeKind pg outcomes) outcomes ↔
      (∀ o ∈ outcomes, SeparatorFree o.modelDump) ∧ outcomes.length ≤ 10000 := by
  have hpage : PostgresStore.listAllOutcomes pg (tableOf outcomeKind pg outcomes) =
      some ((page (inTable outcomeKind pg (fun _ => true) outcomes) 1 10000).map fun o =>
        (tableRow outcomeKind pg o).record outcomeKind pg) := by
    have hwhere : outcomesWhere {} = some fun _ => true := rfl
    unfold PostgresStore.listAllOutcomes PostgresStore.listOutcomes
    rw [hwhere, sqlList_eq h (fun _ => true) 1 10000, Option.map_some, paginate, page, page,
      List.map_take, List.map_drop]
  have hperm : (inTable outcomeKind pg (fun _ => true) outcomes).Perm outcomes := by
    have hfilter : (outcomes.filter fun _ => true) = outcomes :=
      List.filter_eq_self.mpr fun _ _ => rfl
    have hselected : (inTable outcomeKind pg (fun _ => true) outcomes).Perm
        (outcomes.filter fun _ => true) := inTable_perm
    rwa [hfilter] at hselected
  constructor
  · rintro ⟨⟨rs, hrs, -⟩, ⟨ts, hts, hlisted⟩⟩
    refine ⟨(h.readRecords sep).2 (by rw [show readRecords _ _ = some rs from hrs]; rfl), ?_⟩
    obtain rfl := Option.some.inj (hpage.symm.trans hts)
    have hsub : outcomes ⊆ page (inTable outcomeKind pg (fun _ => true) outcomes) 1 10000 := by
      intro o ho
      obtain ⟨r, hr, hsame⟩ := hlisted o ho
      obtain ⟨b, hb, rfl⟩ := List.mem_map.mp hr
      have hbmem : b ∈ outcomes :=
        hperm.mem_iff.mp (List.mem_of_mem_drop (List.mem_of_mem_take hb))
      rwa [(sameItem_iff h ho hbmem).mp hsame]
    have hle := (List.subperm_of_subset h.nodup hsub).length_le
    rw [length_page] at hle
    omega
  · rintro ⟨hfree, hlength⟩
    refine ⟨⟨_, (h.readRecords sep).1 hfree, fun o ho => ?_⟩, ⟨_, hpage, fun o ho => ?_⟩⟩
    · exact ⟨⟨o, none⟩, List.mem_map_of_mem ho, rfl⟩
    · rw [page_one_of_le _ (by rwa [hperm.length_eq])]
      exact ⟨_, List.mem_map_of_mem (hperm.mem_iff.mpr ho), (sameItem_iff h ho ho).mpr rfl⟩

/-- The two stores, with the same records in them and under the same filters, agree in
every listing exactly when: no string of a record has a separator that ends a
line; the bounds on the events mean the same to both; no two records of one
listing have one time; and there are at most ten thousand outcomes. -/
theorem stores_agree_iff (pg : Postgres) (sep : Linesep) {events : List EventCreate}
    {decisions : List DecisionCreate} {outcomes : List OutcomeCreate}
    (hevents : Stored eventKind pg events) (hdecisions : Stored decisionKind pg decisions)
    (houtcomes : Stored outcomeKind pg outcomes) (byEvent : EventFilters)
    (byDecision : DecisionFilters) (byOutcome : OutcomeFilters) :
    (ListsAgree eventKind pg (JsonlStore.listEvents (jsonlFile eventKind sep events) byEvent)
        (PostgresStore.listEvents pg (tableOf eventKind pg events) byEvent)
        (events.filter byEvent.keeps) ∧
      ListsAgree decisionKind pg
        (JsonlStore.listDecisions (jsonlFile decisionKind sep decisions) byDecision)
        (PostgresStore.listDecisions pg (tableOf decisionKind pg decisions) byDecision)
        (decisions.filter byDecision.keeps) ∧
      ListsAgree outcomeKind pg
        (JsonlStore.listOutcomes (jsonlFile outcomeKind sep outcomes) byOutcome)
        (PostgresStore.listOutcomes pg (tableOf outcomeKind pg outcomes) byOutcome)
        (outcomes.filter byOutcome.keeps) ∧
      AllListed pg (jsonlFile outcomeKind sep outcomes) (tableOf outcomeKind pg outcomes)
        outcomes) ↔
      ((∀ e ∈ events, SeparatorFree e.modelDump) ∧ BoundsAgree pg byEvent events ∧
        NoTies eventKind byEvent.keeps events) ∧
      ((∀ d ∈ decisions, SeparatorFree d.modelDump) ∧
        NoTies decisionKind byDecision.keeps decisions) ∧
      ((∀ o ∈ outcomes, SeparatorFree o.modelDump) ∧
        NoTies outcomeKind byOutcome.keeps outcomes) ∧
      outcomes.length ≤ 10000 := by
  have hdecided : ∃ p, decisionsWhere byDecision = some p ∧
      ∀ d ∈ decisions, byDecision.keeps d = p (tableRow decisionKind pg d) :=
    ⟨_, rfl, fun _ _ => rfl⟩
  have hresolved : ∃ p, outcomesWhere byOutcome = some p ∧
      ∀ o ∈ outcomes, byOutcome.keeps o = p (tableRow outcomeKind pg o) :=
    ⟨_, rfl, fun _ _ => rfl⟩
  have hE := listsAgree_iff hevents sep (filterEvents_eq byEvent) (c := eventsWhere pg byEvent)
  have hD := listsAgree_iff hdecisions sep (filterDecisions_eq byDecision)
    (c := decisionsWhere byDecision)
  have hO := listsAgree_iff houtcomes sep (filterOutcomes_eq byOutcome)
    (c := outcomesWhere byOutcome)
  rw [boundsAgree_iff] at hE
  simp only [hdecided, true_and] at hD
  simp only [hresolved, true_and] at hO
  refine (and_congr hE (and_congr hD (and_congr hO (allListed_iff houtcomes sep)))).trans ?_
  constructor
  · rintro ⟨hevent, hdecision, houtcome, -, hlength⟩
    exact ⟨hevent, hdecision, houtcome, hlength⟩
  · rintro ⟨hevent, hdecision, houtcome, hlength⟩
    exact ⟨hevent, hdecision, houtcome, houtcome.1, hlength⟩

/-- Two seconds of a day, in the format of the events. -/
def secondText (later : Bool) : String :=
  if later then "2026-01-01T00:00:01Z" else "2026-01-01T00:00:00Z"

/-- A database that is asked about these two, in microseconds. -/
def samplePostgres : Postgres where
  instant := fun s =>
    if s = "2026-01-01T00:00:00Z" ∨ s = "2026-01-01T00:00:00+00:00" then some 1767225600000000
    else if s = "2026-01-01T00:00:01Z" ∨ s = "2026-01-01T00:00:01+00:00" then
      some 1767225601000000
    else none
  isoformat := fun t =>
    if t = 1767225600000000 then "2026-01-01T00:00:00+00:00" else "2026-01-01T00:00:01+00:00"
  createdAt := fun _ => "2026-01-01T00:00:05+00:00"

def sampleEvent (eventId : String) (later : Bool) : EventCreate :=
  { eventId := eventId, title := "proxy changed", timestampUtc := secondText later }

theorem instant_secondText (later : Bool) : samplePostgres.instant (secondText later) =
    some (if later then 1767225601000000 else 1767225600000000) := by
  cases later <;> decide

theorem stored_pair (x y : Bool) :
    Stored eventKind samplePostgres [sampleEvent "a" x, sampleEvent "b" y] := by
  have hmem : ∀ e ∈ [sampleEvent "a" x, sampleEvent "b" y], ∃ eventId later,
      e = sampleEvent eventId later := by
    intro e he
    rcases List.mem_pair.mp he with rfl | rfl
    · exact ⟨"a", x, rfl⟩
    · exact ⟨"b", y, rfl⟩
  have hinstant : ∀ eventId later, samplePostgres.instant (eventKind.time (sampleEvent eventId later)) =
      some (if later then 1767225601000000 else 1767225600000000) :=
    fun _ later => instant_secondText later
  have hne : sampleEvent "a" x ≠ sampleEvent "b" y := fun h =>
    absurd (congrArg EventCreate.eventId h) (show "a" ≠ "b" by decide)
  refine ⟨fun e he => ?_, fun a ha b hb hid => ?_, ?_, fun e he => ?_, fun e he t ht => ?_,
    fun a ha b hb s t hs ht => ?_⟩
  · obtain ⟨eventId, later, rfl⟩ := hmem e he
    refine ⟨?_, trivial, trivial, trivial, trivial, trivial, emptyDict_wf, trivial⟩
    show ["event_id", "domain", "title", "category", "timestamp_utc", "payload"].Nodup
    decide
  · rcases List.mem_pair.mp ha with rfl | rfl <;> rcases List.mem_pair.mp hb with rfl | rfl
    · rfl
    · exact absurd hid (show "a" ≠ "b" by decide)
    · exact absurd hid (show "b" ≠ "a" by decide)
    · rfl
  · simp [hne]
  · obtain ⟨eventId, later, rfl⟩ := hmem e he
    rw [hinstant]
    rfl
  · obtain ⟨eventId, later, rfl⟩ := hmem e he
    rw [hinstant] at ht
    obtain rfl := Option.some.inj ht
    cases later <;> decide
  · obtain ⟨_, later, rfl⟩ := hmem a ha
    obtain ⟨_, later', rfl⟩ := hmem b hb
    rw [hinstant] at hs ht
    obtain rfl := Option.some.inj hs
    obtain rfl := Option.some.inj ht
    show secondText later ≤ secondText later' ↔ _
    cases later <;> cases later' <;> decide

theorem stored_nil {α : Type} (k : Kind α) (pg : Postgres) : Stored k pg [] := by
  constructor <;> simp

theorem separatorFree_sampleEvent :
    SeparatorFree (sampleEvent "a" false).modelDump ∧
      SeparatorFree (sampleEvent "b" true).modelDump :=
  ⟨forall_mem_of_all (by decide), forall_mem_of_all (by decide)⟩

/-- Two events of two seconds, and nothing else. -/
theorem stores_agree_twoSeconds :
    ListsAgree eventKind samplePostgres
      (JsonlStore.listEvents
        (jsonlFile eventKind .lf [sampleEvent "a" false, sampleEvent "b" true]) {})
      (PostgresStore.listEvents samplePostgres
        (tableOf eventKind samplePostgres [sampleEvent "a" false, sampleEvent "b" true]) {})
      ([sampleEvent "a" false, sampleEvent "b" true].filter (EventFilters.keeps {})) := by
  refine ((stores_agree_iff samplePostgres .lf (stored_pair false true)
    (stored_nil decisionKind samplePostgres) (stored_nil outcomeKind samplePostgres) {} {} {}).mpr
      ⟨⟨?_, boundsAgree_of_none _ rfl rfl, ?_⟩, ⟨by simp, by simp [NoTies]⟩,
        ⟨by simp, by simp [NoTies]⟩, Nat.zero_le _⟩).1
  · intro e he
    rcases List.mem_pair.mp he with rfl | rfl
    · exact separatorFree_sampleEvent.1
    · exact separatorFree_sampleEvent.2
  · intro a ha b hb _ _ htime
    rcases List.mem_pair.mp ha with rfl | rfl <;> rcases List.mem_pair.mp hb with rfl | rfl
    · rfl
    · exact absurd htime (by decide)
    · exact absurd htime (by decide)
    · rfl

/-- Two events of one second. -/
theorem tied_events_disagree :
    ¬ ListsAgree eventKind samplePostgres
      (JsonlStore.listEvents
        (jsonlFile eventKind .lf [sampleEvent "a" false, sampleEvent "b" false]) {})
      (PostgresStore.listEvents samplePostgres
        (tableOf eventKind samplePostgres [sampleEvent "a" false, sampleEvent "b" false]) {})
      ([sampleEvent "a" false, sampleEvent "b" false].filter (EventFilters.keeps {})) := by
  intro hagree
  obtain ⟨-, -, hties⟩ := (listsAgree_iff (stored_pair false false) .lf (filterEvents_eq {})
    (c := eventsWhere samplePostgres {})).mp hagree
  have hsame := hties (sampleEvent "a" false) (by simp) (sampleEvent "b" false) (by simp) rfl rfl rfl
  exact absurd (congrArg EventCreate.eventId hsame) (by decide)

end DecisionIntelligence
