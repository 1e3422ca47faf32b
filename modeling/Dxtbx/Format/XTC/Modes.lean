import Dxtbx.Format.XTC.Index

/-!
# idx mode against smd mode

Without a hits file both modes index the same selected events of each run, in a different
order: idx mode takes the runs in the order of the data source, smd mode in increasing run
number (`sorted(self.run_mapping)`).  So smd mode indexes a data source exactly as idx mode
indexes it with its runs sorted, and the two agree image for image exactly when the data source
lists the runs that have selected events in increasing order; runs without any may stand
anywhere.  The converse rests on the image run numbers determining the listing, as a run-length
code with distinct keys does.  In either mode, `get_run_from_index(i)` names the run of the event
`_get_event(i)` reads.
-/

namespace Dxtbx.Format.XTC

variable {T D : Type}

/-- The run number of `get_run_from_index(index)`: `r.run()` of the psana run of idx mode, the
number itself in smd mode. -/
def runNumberFromIndex (x : FormatXTC T D) (index : Int) : Except PyError Int :=
  match x.populated.runMapping with
  | .idx m => (getRunFromIndex (m.items.map Prod.snd) index).map Run.run
  | .smd m => getRunFromIndex (m.items.map (·.2.toSpan)) index

/-! ## Runs of a data source -/

section Runs

variable (ps : Psana D) (f : FilterParams)

theorem images_eq_flatMap {R α : Type} (sel : R → List α) (spans : List (Span R)) :
    images sel spans = (spans.map Span.run).flatMap fun r ↦ (sel r).map (r, ·) := by
  rw [List.flatMap_map]; rfl

theorem flatMap_filter_of_nil {α β : Type} (l : List α) (p : α → Bool) (g : α → List β)
    (h : ∀ a, p a = false → g a = []) : (l.filter p).flatMap g = l.flatMap g := by
  induction l with
  | nil => rfl
  | cons a l ih =>
      by_cases hp : p a
      · simp [List.filter_cons, hp, ih]
      · simp [List.filter_cons, hp, ih, h a (by simpa using hp)]

theorem run_of_mem_events {ds : DataSource T D} {e : Event D} (he : e ∈ ds.events) :
    ∃ r ∈ ds.runs, r.times ≠ [] ∧ e.run = r.run := by
  simp only [DataSource.events, List.mem_flatMap, List.mem_map] at he
  obtain ⟨r, hr, t, ht, rfl⟩ := he
  exact ⟨r, hr, List.ne_nil_of_mem ht, rfl⟩

theorem exists_event_iff (ds : DataSource T D) (k : Int) :
    (∃ e ∈ ds.events, e.run = k) ↔ ∃ r ∈ ds.runs, r.times ≠ [] ∧ r.run = k := by
  constructor
  · rintro ⟨e, he, rfl⟩
    obtain ⟨r, hr, hne, hrun⟩ := run_of_mem_events he
    exact ⟨r, hr, hne, hrun.symm⟩
  · rintro ⟨r, hr, hne, rfl⟩
    obtain ⟨t, ht⟩ := List.exists_mem_of_ne_nil _ hne
    exact ⟨r.event t, List.mem_flatMap.2 ⟨r, hr, List.mem_map_of_mem _ ht⟩, rfl⟩

/-- With distinct run numbers, the events of the stream with a run's number are that run's. -/
theorem filter_events_run {ds : DataSource T D} (hnodup : (ds.runs.map Run.run).Nodup)
    {r : Run T D} (hr : r ∈ ds.runs) :
    ds.events.filter (·.run = r.run) = r.times.map r.event := by
  obtain ⟨runs⟩ := ds
  induction runs with
  | nil => simp at hr
  | cons r' rest ih =>
      simp only [List.map_cons, List.nodup_cons] at hnodup
      have hother : ∀ q ∈ rest, q.run ≠ r'.run := fun q hq e ↦
        hnodup.1 (e ▸ List.mem_map_of_mem _ hq)
      simp only [DataSource.events, List.flatMap_cons, List.filter_append] at ih ⊢
      rcases List.mem_cons.1 hr with rfl | hr
      · rw [List.filter_eq_self.2 (by simp), List.filter_eq_nil_iff.2, List.append_nil]
        intro e he
        obtain ⟨q, hq, t, -, rfl⟩ : ∃ q ∈ rest, ∃ t ∈ q.times, q.event t = e := by
          simpa using he
        simpa using hother q hq
      · rw [List.filter_eq_nil_iff.2, List.nil_append, ih hnodup.2 hr]
        intro e he
        obtain ⟨t, -, rfl⟩ := List.mem_map.1 he
        simpa using (hother r hr).symm

/-- With distinct run numbers, smd mode selects for a run's number the events idx mode selects
for the run without a hits file. -/
theorem selectedEvents_run {ds : DataSource T D} (hnodup : (ds.runs.map Run.run).Nodup)
    {r : Run T D} (hr : r ∈ ds.runs) :
    selectedEvents ps f ds r.run = selectedRunEvents ps f none r := by
  simp only [selectedEvents, selectedRunEvents, selectedTimes, preFilterTimes,
    filter_events_run hnodup hr]
  split <;> simp [List.filter_map, Function.comp_def]

/-- With distinct run numbers, sorting by run number orders the runs strictly. -/
theorem pairwise_sortedBy_run {runs : List (Run T D)} (hnodup : (runs.map Run.run).Nodup) :
    (sortedBy Run.run runs).Pairwise fun a b ↦ a.run < b.run := by
  have hne := List.pairwise_map.1 (((sortedBy_perm Run.run runs).map Run.run).nodup_iff.2 hnodup)
  exact (sortedBy_sorted Run.run runs).imp₂ (fun a b hab hne ↦ lt_of_le_of_ne hab hne) hne

end Runs

/-! ## The two indexes -/

section Indexes

variable (ps : Psana D)

/-- idx mode without a hits file indexes the runs of a data source with distinct run numbers in
the data source's order. -/
theorem populateEvents_idx_runs {p : Params} (hp : p.mode = .idx) (ds : DataSource T D)
    (hnodup : (ds.runs.map Run.run).Nodup) :
    ∃ pop m, populateEvents ps p ds none = .ok pop ∧ pop.runMapping = .idx m ∧
      IndexesSelection ps ⟨p, pop⟩ (m.items.map Prod.snd) (selectedRunEvents ps p.filter none)
        (.indexError "Index is not within bounds") ∧
      (m.items.map Prod.snd).map Span.run = ds.runs := by
  obtain ⟨m, hpop, hlay, hruns⟩ :=
    populateEvents_idx ps hp ds none fun _ _ h hh ↦ by cases hh
  refine ⟨_, m, hpop, rfl, indexesSelection_of_idx ps rfl _ hlay rfl (by simp), ?_⟩
  have hitems : (getPsanaRuns ds).items = ds.runs.map fun r ↦ (r.run, r) :=
    PyDict.items_ofList_of_nodup (by simpa [Function.comp_def] using hnodup)
  simpa [hitems, hasHits, Function.comp_def] using hruns

/-- smd mode indexes a data source with distinct run numbers as its runs sorted by run number
would be indexed, each run with its number. -/
theorem populateEvents_smd_runs {p : Params} (hp : p.mode = .smd) (ds : DataSource T D)
    (hnodup : (ds.runs.map Run.run).Nodup) :
    ∃ pop m, populateEvents ps p ds none = .ok pop ∧ pop.runMapping = .smd m ∧
      IndexesSelection ps ⟨p, pop⟩ (m.items.map (·.2.toSpan)) (selectedEvents ps p.filter ds)
        (.unboundLocal "evt") ∧
      images (selectedEvents ps p.filter ds) (m.items.map (·.2.toSpan)) =
        (sortedBy Run.run ds.runs).flatMap fun r ↦ (selectedRunEvents ps p.filter none r).map (r.run, ·) := by
  obtain ⟨m, hpop, hlay, hev, hsorted, hkeys⟩ := populateEvents_smd ps hp ds none
  refine ⟨_, m, hpop, rfl,
    indexesSelection_of_smd ps rfl _ hlay (fun q hq ↦ (hev q hq).1) rfl, ?_⟩
  set runs := sortedBy Run.run ds.runs
  have hperm : List.Perm runs ds.runs := sortedBy_perm Run.run ds.runs
  have hruns : (runs.map Run.run).Pairwise (· < ·) :=
    List.pairwise_map.2 (pairwise_sortedBy_run hnodup)
  have hfilter : ((runs.filter (fun r ↦ !r.times.isEmpty)).map Run.run).Pairwise (· < ·) :=
    hruns.sublist ((List.filter_sublist _).map _)
  have hkeys' : m.keys = (runs.filter (fun r ↦ !r.times.isEmpty)).map Run.run := by
    refine List.eq_of_perm_of_sorted ((List.perm_ext_iff_of_nodup hsorted.nodup hfilter.nodup).2
      fun k ↦ ?_) hsorted hfilter
    rw [hkeys, exists_event_iff]
    simp [hperm.mem_iff, and_assoc]
  have hspans : (m.items.map (·.2.toSpan)).map Span.run = m.keys := by
    simp only [List.map_map, PyDict.keys]
    exact List.map_congr_left fun q hq ↦ (hev q hq).2.symm
  rw [images_eq_flatMap, hspans, hkeys', List.flatMap_map]
  rw [List.flatMap_congr fun r hr ↦ by
    rw [selectedEvents_run ps p.filter hnodup (hperm.subset (List.mem_filter.1 hr).1)]]
  refine flatMap_filter_of_nil _ _ _ fun r hr ↦ ?_
  have : r.times = [] := by simpa using hr
  simp [selectedRunEvents, selectedTimes, preFilterTimes, this]

end Indexes

/-! ## Agreement -/

section Agreement

variable (ps : Psana D)

theorem imageAt_isSome {β : Type} {l : List β} {i : Int} (h0 : 0 ≤ i) (h : i < l.length) :
    ∃ b, imageAt l i = some b :=
  ⟨l.get ⟨i.toNat, by omega⟩, by simp [imageAt, h0]⟩

/-- An idx instance and an smd instance whose indexes hold the same events, the smd one naming
each run by the number of the idx one's run, agree on `n_images` and on every lookup in
`[0, n_images)`. -/
theorem lookups_agree {pI pS : Params} {popI popS : Populated T D}
    {mI : PyDict Int (Span (Run T D))} {mS : PyDict Int (SmdSpan D)}
    {selI : Run T D → List (Event D)} {selS : Int → List (Event D)} {errI errS : PyError}
    (hmapI : popI.runMapping = .idx mI) (hmapS : popS.runMapping = .smd mS)
    (hI : IndexesSelection ps ⟨pI, popI⟩ (mI.items.map Prod.snd) selI errI)
    (hS : IndexesSelection ps ⟨pS, popS⟩ (mS.items.map (·.2.toSpan)) selS errS)
    (hfilter : pI.filter = pS.filter)
    (himg : images selS (mS.items.map (·.2.toSpan)) =
      (images selI (mI.items.map Prod.snd)).map fun q ↦ (q.1.run, q.2)) :
    popI.nImages = popS.nImages ∧
      ∀ i : Int, 0 ≤ i → i < popI.nImages →
        resultValue (getEvent ps ⟨pI, popI⟩ i {}) = resultValue (getEvent ps ⟨pS, popS⟩ i {}) ∧
        runNumberFromIndex ⟨pI, popI⟩ i = runNumberFromIndex ⟨pS, popS⟩ i := by
  have hnI := hI.getNumImages_eq
  have hnS := hS.getNumImages_eq
  simp only [getNumImages, himg, List.length_map] at hnI hnS
  refine ⟨hnI.trans hnS.symm, fun i h0 hi ↦ ?_⟩
  obtain ⟨q, hq⟩ := imageAt_isSome h0 (hnI ▸ hi)
  have hqS : imageAt (images selS (mS.items.map (·.2.toSpan))) i = some (q.1.run, q.2) := by
    rw [himg, imageAt_map, hq]; rfl
  refine ⟨?_, ?_⟩
  · rw [hI.getEvent_eq, hS.getEvent_eq, hq, hqS]
    simp [hfilter]
  · simp only [runNumberFromIndex, hmapI, hmapS, hI.getRunFromIndex_eq, hS.getRunFromIndex_eq, hq,
      hqS]
    rfl

/-- smd mode indexes a data source with distinct run numbers, image for image, as idx mode
indexes it with its runs sorted by run number; idx mode on the data source as it is has the same
`n_images`. -/
theorem smd_refines_sorted_idx (p : Params) (ds : DataSource T D)
    (hnodup : (ds.runs.map Run.run).Nodup) :
    ∃ popU popI popS,
      populateEvents ps { p with mode := .idx } ds none = .ok popU ∧
      populateEvents ps { p with mode := .idx } ⟨sortedBy Run.run ds.runs⟩ none = .ok popI ∧
      populateEvents ps { p with mode := .smd } ds none = .ok popS ∧
      popU.nImages = popS.nImages ∧ popI.nImages = popS.nImages ∧
      ∀ i : Int, 0 ≤ i → i < popI.nImages →
        resultValue (getEvent ps ⟨{ p with mode := .idx }, popI⟩ i {}) =
          resultValue (getEvent ps ⟨{ p with mode := .smd }, popS⟩ i {}) ∧
        runNumberFromIndex ⟨{ p with mode := .idx }, popI⟩ i =
          runNumberFromIndex ⟨{ p with mode := .smd }, popS⟩ i := by
  have hperm := sortedBy_perm Run.run ds.runs
  have hidx : ({ p with mode := .idx } : Params).mode = .idx := rfl
  obtain ⟨popU, mU, hpopU, -, hU, hrunsU⟩ := populateEvents_idx_runs ps hidx ds hnodup
  obtain ⟨popI, mI, hpopI, hmapI, hI, hrunsI⟩ :=
    populateEvents_idx_runs ps hidx ⟨sortedBy Run.run ds.runs⟩
      ((hperm.map Run.run).nodup_iff.2 hnodup)
  obtain ⟨popS, mS, hpopS, hmapS, hS, himgS⟩ :=
    populateEvents_smd_runs ps (show ({ p with mode := .smd } : Params).mode = .smd from rfl) ds
      hnodup
  have hagree := lookups_agree ps hmapI hmapS hI hS rfl (by
    rw [himgS, images_eq_flatMap, hrunsI, List.map_flatMap]
    simp [Function.comp_def])
  have hlen : popU.nImages = popI.nImages := by
    have hnU := hU.getNumImages_eq
    have hnI := hI.getNumImages_eq
    simp only [getNumImages, images_eq_flatMap, hrunsU, hrunsI] at hnU hnI
    rw [hnU, hnI, (hperm.flatMap_right _).length_eq]
  exact ⟨popU, popI, popS, hpopU, hpopI, hpopS, hlen.trans hagree.1, hagree⟩

/-- Runs listed against their run numbers: run 2, then run 1. -/
def descendingRuns : DataSource Nat Nat := ⟨[⟨2, [0], (· + 20)⟩, ⟨1, [0], (· + 10)⟩]⟩

theorem smd_refines_sorted_idx_descending :
    (descendingRuns.runs.map Run.run).Nodup ∧
    ∃ popU popI popS,
      populateEvents Psana.plain { mode := .idx } descendingRuns none = .ok popU ∧
      populateEvents Psana.plain { mode := .idx } ⟨sortedBy Run.run descendingRuns.runs⟩ none =
        .ok popI ∧
      populateEvents Psana.plain { mode := .smd } descendingRuns none = .ok popS ∧
      popU.nImages = popS.nImages ∧ popI.nImages = popS.nImages ∧
      ∀ i : Int, 0 ≤ i → i < popI.nImages →
        resultValue (getEvent Psana.plain ⟨{ mode := .idx }, popI⟩ i {}) =
          resultValue (getEvent Psana.plain ⟨{ mode := .smd }, popS⟩ i {}) ∧
        runNumberFromIndex ⟨{ mode := .idx }, popI⟩ i =
          runNumberFromIndex ⟨{ mode := .smd }, popS⟩ i :=
  ⟨by decide, smd_refines_sorted_idx Psana.plain {} descendingRuns (by decide)⟩

theorem runNumberFromIndex_of_idx {x : FormatXTC T D} {m : PyDict Int (Span (Run T D))}
    {sel : Run T D → List (Event D)} {err : PyError} (hmap : x.populated.runMapping = .idx m)
    (hx : IndexesSelection ps x (m.items.map Prod.snd) sel err) (i : Int) :
    runNumberFromIndex x i = (imageAt (images sel (m.items.map Prod.snd)) i).elim
      (.error (.indexError "Index is not within bounds")) fun q ↦ .ok q.1.run := by
  simp only [runNumberFromIndex, hmap, hx.getRunFromIndex_eq]
  cases imageAt (images sel (m.items.map Prod.snd)) i <;> rfl

theorem runNumberFromIndex_of_smd {x : FormatXTC T D} {m : PyDict Int (SmdSpan D)}
    {sel : Int → List (Event D)} {err : PyError} (hmap : x.populated.runMapping = .smd m)
    (hx : IndexesSelection ps x (m.items.map (·.2.toSpan)) sel err) (i : Int) :
    runNumberFromIndex x i = (imageAt (images sel (m.items.map (·.2.toSpan))) i).elim
      (.error (.indexError "Index is not within bounds")) fun q ↦ .ok q.1 := by
  simp only [runNumberFromIndex, hmap, hx.getRunFromIndex_eq]

/-- Conversely, an idx and an smd instance with the same `n_images` whose `get_run_from_index`
agree on `[0, n_images)` number their images with the same runs. -/
theorem image_runs_eq_of_agree {pI pS : Params} {popI popS : Populated T D}
    {mI : PyDict Int (Span (Run T D))} {mS : PyDict Int (SmdSpan D)}
    {selI : Run T D → List (Event D)} {selS : Int → List (Event D)} {errI errS : PyError}
    (hmapI : popI.runMapping = .idx mI) (hmapS : popS.runMapping = .smd mS)
    (hI : IndexesSelection ps ⟨pI, popI⟩ (mI.items.map Prod.snd) selI errI)
    (hS : IndexesSelection ps ⟨pS, popS⟩ (mS.items.map (·.2.toSpan)) selS errS)
    (hn : popI.nImages = popS.nImages)
    (hagree : ∀ i : Int, 0 ≤ i → i < popI.nImages →
      runNumberFromIndex ⟨pI, popI⟩ i = runNumberFromIndex ⟨pS, popS⟩ i) :
    (images selI (mI.items.map Prod.snd)).map (·.1.run) =
      (images selS (mS.items.map (·.2.toSpan))).map Prod.fst := by
  have hlenI : (images selI (mI.items.map Prod.snd)).length = popI.nImages :=
    hI.getNumImages_eq.symm
  have hlenS : (images selS (mS.items.map (·.2.toSpan))).length = popS.nImages :=
    hS.getNumImages_eq.symm
  refine List.ext_getElem (by simp only [List.length_map, hlenI, hlenS, hn]) fun n h₁ h₂ ↦ ?_
  rw [List.length_map] at h₁ h₂
  have h := hagree n (Int.natCast_nonneg n) (by omega)
  rw [runNumberFromIndex_of_idx ps hmapI hI, runNumberFromIndex_of_smd ps hmapS hS,
    imageAt_natCast, imageAt_natCast, List.getElem?_eq_getElem h₁,
    List.getElem?_eq_getElem h₂] at h
  simpa using h

/-- A list of keys with positive counts and distinct keys is determined by the sequence that
repeats each key its count of times. -/
theorem eq_of_flatMap_replicate {α : Type} [DecidableEq α] {l₁ l₂ : List (α × Nat)}
    (hn₁ : (l₁.map Prod.fst).Nodup) (hn₂ : (l₂.map Prod.fst).Nodup)
    (hp₁ : ∀ q ∈ l₁, 0 < q.2) (hp₂ : ∀ q ∈ l₂, 0 < q.2)
    (h : l₁.flatMap (fun q ↦ List.replicate q.2 q.1) = l₂.flatMap fun q ↦ List.replicate q.2 q.1) :
    l₁ = l₂ := by
  have hcount : ∀ {q : α × Nat} {t : List (α × Nat)}, q.1 ∉ t.map Prod.fst →
      (t.flatMap fun q ↦ List.replicate q.2 q.1).count q.1 = 0 := fun hq ↦
    List.count_eq_zero.2 fun hmem ↦ hq <| by
      obtain ⟨q', hq', hmem⟩ := List.mem_flatMap.1 hmem
      exact (List.eq_of_mem_replicate hmem) ▸ List.mem_map_of_mem _ hq'
  induction l₁ generalizing l₂ with
  | nil =>
      cases l₂ with
      | nil => rfl
      | cons q₂ t₂ =>
          have := hp₂ q₂ (List.mem_cons_self _ _)
          simp at h
          omega
  | cons q₁ t₁ ih =>
      cases l₂ with
      | nil =>
          have := hp₁ q₁ (List.mem_cons_self _ _)
          simp at h
          omega
      | cons q₂ t₂ =>
          simp only [List.map_cons, List.nodup_cons] at hn₁ hn₂
          simp only [List.flatMap_cons] at h
          have hhead : q₁.1 = q₂.1 := by
            have := congrArg List.head? h
            rw [List.head?_append, List.head?_append, List.head?_replicate, List.head?_replicate,
              if_neg (hp₁ q₁ (List.mem_cons_self _ _)).ne',
              if_neg (hp₂ q₂ (List.mem_cons_self _ _)).ne'] at this
            simpa using this
          have hcnt : q₁.2 = q₂.2 := by
            have := congrArg (List.count q₁.1) h
            rw [List.count_append, List.count_append, hcount hn₁.1, hhead, hcount hn₂.1,
              List.count_replicate_self, List.count_replicate_self] at this
            simpa using this
          obtain rfl : q₁ = q₂ := Prod.ext hhead hcnt
          rw [ih hn₁.2 hn₂.2 (fun q hq ↦ hp₁ q (List.mem_cons_of_mem _ hq))
            (fun q hq ↦ hp₂ q (List.mem_cons_of_mem _ hq)) (List.append_cancel_left h)]

/-- Two listings of runs with distinct numbers, each run with a nonempty selection, whose images
carry the same sequence of run numbers list the same run numbers. -/
theorem map_run_eq_of_image_runs {sel : Run T D → List (Event D)} {L S : List (Run T D)}
    (hL : (L.map Run.run).Nodup) (hS : (S.map Run.run).Nodup)
    (hLsel : ∀ r ∈ L, sel r ≠ []) (hSsel : ∀ r ∈ S, sel r ≠ [])
    (h : (L.flatMap fun r ↦ (sel r).map (r.run, ·)).map Prod.fst =
      (S.flatMap fun r ↦ (sel r).map (r.run, ·)).map Prod.fst) :
    L.map Run.run = S.map Run.run := by
  have hblocks : ∀ l : List (Run T D), (l.flatMap fun r ↦ (sel r).map (r.run, ·)).map Prod.fst =
      (l.map fun r ↦ (r.run, (sel r).length)).flatMap fun q ↦ List.replicate q.2 q.1 := fun l ↦ by
    simp [List.map_flatMap, List.flatMap_map, Function.comp_def]
  have key := eq_of_flatMap_replicate (by simpa [Function.comp_def] using hL)
    (by simpa [Function.comp_def] using hS)
    (by simpa using fun r hr ↦ List.length_pos.2 (hLsel r hr))
    (by simpa using fun r hr ↦ List.length_pos.2 (hSsel r hr))
    ((hblocks L).symm.trans (h.trans (hblocks S)))
  simpa [Function.comp_def] using congrArg (List.map Prod.fst) key

/-- Without a hits file, on a data source with distinct run numbers, idx and smd mode have the
same `n_images`; and they index the same images, the same event from `_get_event(i)` and the
same run number from `get_run_from_index(i)` for every `i` in `[0, n_images)`, exactly when the
data source lists the runs that have selected events in increasing run number. -/
theorem idx_smd_agree_iff_ordered (p : Params) (ds : DataSource T D)
    (hnodup : (ds.runs.map Run.run).Nodup) :
    ∃ popI popS,
      populateEvents ps { p with mode := .idx } ds none = .ok popI ∧
      populateEvents ps { p with mode := .smd } ds none = .ok popS ∧
      popI.nImages = popS.nImages ∧
      ((∀ i : Int, 0 ≤ i → i < popI.nImages →
        resultValue (getEvent ps ⟨{ p with mode := .idx }, popI⟩ i {}) =
          resultValue (getEvent ps ⟨{ p with mode := .smd }, popS⟩ i {}) ∧
        runNumberFromIndex ⟨{ p with mode := .idx }, popI⟩ i =
          runNumberFromIndex ⟨{ p with mode := .smd }, popS⟩ i) ↔
        ((ds.runs.filter fun r ↦ !(selectedRunEvents ps p.filter none r).isEmpty).map
          Run.run).Pairwise (· < ·)) := by
  set sel := selectedRunEvents ps p.filter none
  set keep : Run T D → Bool := fun r ↦ !(sel r).isEmpty
  set K : Run T D → List (Int × Event D) := fun r ↦ (sel r).map (r.run, ·)
  have hK : ∀ r, keep r = false → K r = [] := fun r hr ↦ by simpa [keep, K] using hr
  have hkeep : ∀ {l : List (Run T D)}, ∀ r ∈ l.filter keep, sel r ≠ [] := fun r hr ↦ by
    simpa [keep] using (List.mem_filter.1 hr).2
  have hperm := sortedBy_perm Run.run ds.runs
  have hsorted : ((sortedBy Run.run ds.runs).filter keep).Pairwise fun a b ↦ a.run < b.run :=
    (pairwise_sortedBy_run hnodup).sublist (List.filter_sublist _)
  obtain ⟨popI, mI, hpopI, hmapI, hI, hrunsI⟩ :=
    populateEvents_idx_runs ps (show ({ p with mode := .idx } : Params).mode = .idx from rfl) ds
      hnodup
  obtain ⟨popS, mS, hpopS, hmapS, hS, himgS⟩ :=
    populateEvents_smd_runs ps (show ({ p with mode := .smd } : Params).mode = .smd from rfl) ds
      hnodup
  have himgI : (images sel (mI.items.map Prod.snd)).map (fun q ↦ (q.1.run, q.2)) =
      (ds.runs.filter keep).flatMap K := by
    rw [flatMap_filter_of_nil _ _ _ hK, images_eq_flatMap, hrunsI, List.map_flatMap]
    simp [K, Function.comp_def]
  have himgS' : images (selectedEvents ps p.filter ds) (mS.items.map (·.2.toSpan)) =
      ((sortedBy Run.run ds.runs).filter keep).flatMap K := by
    rw [flatMap_filter_of_nil _ _ _ hK, himgS]
  have hn : popI.nImages = popS.nImages :=
    calc popI.nImages = ((ds.runs.filter keep).flatMap K).length := by
          rw [← himgI, List.length_map]; exact hI.getNumImages_eq
      _ = (((sortedBy Run.run ds.runs).filter keep).flatMap K).length :=
          ((hperm.filter keep).flatMap_right K).length_eq.symm
      _ = popS.nImages := by rw [← himgS']; exact hS.getNumImages_eq.symm
  refine ⟨popI, popS, hpopI, hpopS, hn, fun hagree ↦ ?_, fun hordered ↦ ?_⟩
  · have hnum : ((ds.runs.filter keep).flatMap K).map Prod.fst =
        (((sortedBy Run.run ds.runs).filter keep).flatMap K).map Prod.fst := by
      rw [← himgI, ← himgS', List.map_map]
      exact image_runs_eq_of_agree ps hmapI hmapS hI hS hn fun i h0 hi ↦ (hagree i h0 hi).2
    rw [map_run_eq_of_image_runs (hnodup.sublist ((List.filter_sublist _).map _))
      ((List.pairwise_map.2 hsorted).imp ne_of_lt) hkeep hkeep hnum]
    exact List.pairwise_map.2 hsorted
  · haveI : IsAntisymm (Run T D) fun a b ↦ a.run < b.run :=
      ⟨fun a b h h' ↦ absurd (h.trans h') (lt_irrefl _)⟩
    have hsame : (sortedBy Run.run ds.runs).filter keep = ds.runs.filter keep :=
      List.eq_of_perm_of_sorted (hperm.filter keep) hsorted (List.pairwise_map.1 hordered)
    exact (lookups_agree ps hmapI hmapS hI hS rfl (by rw [himgS', hsame, himgI])).2

theorem idx_smd_agree_iff_ordered_two_runs :
    (twoRuns.runs.map Run.run).Nodup ∧
    ∃ popI popS,
      populateEvents Psana.plain { mode := .idx } twoRuns none = .ok popI ∧
      populateEvents Psana.plain { mode := .smd } twoRuns none = .ok popS ∧
      popI.nImages = popS.nImages ∧
      ((∀ i : Int, 0 ≤ i → i < popI.nImages →
        resultValue (getEvent Psana.plain ⟨{ mode := .idx }, popI⟩ i {}) =
          resultValue (getEvent Psana.plain ⟨{ mode := .smd }, popS⟩ i {}) ∧
        runNumberFromIndex ⟨{ mode := .idx }, popI⟩ i =
          runNumberFromIndex ⟨{ mode := .smd }, popS⟩ i) ↔
        ((twoRuns.runs.filter fun r ↦ !(selectedRunEvents Psana.plain {} none r).isEmpty).map
          Run.run).Pairwise (· < ·)) :=
  ⟨by decide, idx_smd_agree_iff_ordered Psana.plain {} twoRuns (by decide)⟩

/-- On runs listed as run 2 then run 1, image 0 is the event of run 2 in idx mode and the event
of run 1 in smd mode. -/
theorem idx_smd_differ_on_descending_runs :
    ∃ popI popS, populateEvents Psana.plain {} descendingRuns none = .ok popI ∧
      populateEvents Psana.plain { mode := .smd } descendingRuns none = .ok popS ∧
      popI.nImages = 2 ∧ popS.nImages = 2 ∧
      resultValue (getEvent Psana.plain ⟨{}, popI⟩ 0 {}) = .ok (some ⟨2, 20⟩) ∧
      resultValue (getEvent Psana.plain ⟨{ mode := .smd }, popS⟩ 0 {}) = .ok (some ⟨1, 10⟩) ∧
      runNumberFromIndex ⟨{}, popI⟩ 0 = .ok 2 ∧
      runNumberFromIndex ⟨{ mode := .smd }, popS⟩ 0 = .ok 1 := by
  have hkeys : sortedBy id (groupEvents Psana.plain ({ mode := .smd } : Params).filter
      descendingRuns.events PyDict.empty).keys = [1, 2] := by
    rw [show (groupEvents Psana.plain ({ mode := .smd } : Params).filter descendingRuns.events
      PyDict.empty).keys = [2, 1] from rfl]
    simp [sortedBy, List.mergeSort]
  refine ⟨_, _, rfl, rfl, rfl, ?_, rfl, ?_, rfl, ?_⟩ <;> simp only [hkeys] <;> rfl

end Agreement

/-! ## The run of an image -/

section RunOfImage

variable (ps : Psana D)

/-- Over an index whose selection gives each run only events with the run's number,
`get_run_from_index(i)` returns, for every image `i`, the run whose number the event
`_get_event(i)` reads carries. -/
theorem runOfImage_of_indexesSelection {R : Type} {x : FormatXTC T D} {spans : List (Span R)}
    {sel : R → List (Event D)} {err : PyError} (hx : IndexesSelection ps x spans sel err)
    (num : R → Int) (hnum : ∀ r, ∀ e ∈ sel r, e.run = num r) {i : Int} (h0 : 0 ≤ i)
    (hi : i < getNumImages x) :
    ∃ r e, getRunFromIndex spans i = .ok r ∧ e.run = num r ∧
      resultValue (getEvent ps x i {}) = .ok (lazyFilter ps x.params.filter e) := by
  obtain ⟨q, hq⟩ := imageAt_isSome h0 (hx.getNumImages_eq ▸ hi)
  obtain ⟨n, -, hn⟩ := imageAt_eq_some_iff.1 hq
  obtain ⟨s, -, hs⟩ := List.mem_flatMap.1 (List.getElem?_mem hn)
  obtain ⟨e, he, rfl⟩ := List.mem_map.1 hs
  exact ⟨s.run, e, by rw [hx.getRunFromIndex_eq, hq]; rfl, hnum _ e he,
    by rw [hx.getEvent_eq, hq]; rfl⟩

/-- `get_run_from_index(i)` names the run of the event `_get_event(i)` reads.  On every instance
`populate_events` builds, in either mode and for every hits mapping in range, for every `i` in
`[0, n_images)` the lookup of `i` reads an event whose `run()` is the number of the run
`get_run_from_index(i)` returns. -/
theorem runFromIndex_of_event (p : Params) (ds : DataSource T D)
    (hitInds : Option (PyDict Int (List Int)))
    (hrange : p.mode = .idx → ∀ r ∈ ds.runs, HitsInRange hitInds r) :
    ∃ pop, populateEvents ps p ds hitInds = .ok pop ∧
      ∀ i : Int, 0 ≤ i → i < pop.nImages → ∃ e,
        resultValue (getEvent ps ⟨p, pop⟩ i {}) = .ok (lazyFilter ps p.filter e) ∧
        runNumberFromIndex ⟨p, pop⟩ i = .ok e.run := by
  cases hp : p.mode with
  | idx =>
      obtain ⟨pop, m, hpop, hmap, hx, -⟩ := indexesSelection_idx ps hp ds hitInds (hrange hp)
      refine ⟨pop, hpop, fun i h0 hi ↦ ?_⟩
      obtain ⟨r, e, hr, he, hev⟩ := runOfImage_of_indexesSelection ps hx Run.run
        (fun r e he ↦ by obtain ⟨t, -, rfl⟩ := List.mem_map.1 he; rfl) h0 hi
      exact ⟨e, hev, by simp only [runNumberFromIndex, hmap, hr, he]; rfl⟩
  | smd =>
      obtain ⟨pop, m, hpop, hmap, hx, -⟩ := indexesSelection_smd ps hp ds hitInds
      refine ⟨pop, hpop, fun i h0 hi ↦ ?_⟩
      obtain ⟨k, e, hk, he, hev⟩ := runOfImage_of_indexesSelection ps hx id
        (fun k e he ↦ of_decide_eq_true (List.mem_filter.1 (List.mem_filter.1 he).1).2) h0 hi
      exact ⟨e, hev, by simp only [runNumberFromIndex, hmap, hk, he]; rfl⟩

theorem runFromIndex_of_event_two_runs :
    (({} : Params).mode = .idx → ∀ r ∈ twoRuns.runs, HitsInRange none r) ∧
    ∃ pop, populateEvents Psana.plain {} twoRuns none = .ok pop ∧
      ∀ i : Int, 0 ≤ i → i < pop.nImages → ∃ e,
        resultValue (getEvent Psana.plain ⟨{}, pop⟩ i {}) = .ok (lazyFilter Psana.plain {} e) ∧
        runNumberFromIndex ⟨{}, pop⟩ i = .ok e.run :=
  have hrange : ({} : Params).mode = .idx → ∀ r ∈ twoRuns.runs, HitsInRange none r :=
    fun _ _ _ _ h ↦ nomatch h
  ⟨hrange, runFromIndex_of_event Psana.plain {} twoRuns none hrange⟩

end RunOfImage

end Dxtbx.Format.XTC
