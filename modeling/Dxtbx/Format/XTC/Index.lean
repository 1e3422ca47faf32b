import Dxtbx.Format.XTC.Reader

/-!
# The image index and its lookups

`populate_events` followed by lookups from a fresh instance, in either mode: the slices of
`run_mapping` number the selected events of its runs one after the other from 0 to `n_images`,
and `get_run_from_index(i)` and `_get_event(i)` read the `i`-th of them for every integer `i` in
`[0, n_images)` and raise for every other one.
-/

namespace Dxtbx.Format.XTC

variable {T D : Type} (ps : Psana D)

/-- A populated instance `x` indexes the selection `sel` of each run's events through the slices
`spans` of its `run_mapping`: the slices follow each other from 0 to `n_images`, each as long as
its run's selection, `n_images` counts the selected events, and from a fresh instance
`get_run_from_index(i)` and `_get_event(i)` read image `i`, and raise (`_get_event` with `err`)
when there is none. -/
structure IndexesSelection {R : Type} (x : FormatXTC T D) (spans : List (Span R))
    (sel : R → List (Event D)) (err : PyError) : Prop where
  consecutive : Consecutive spans 0 (getNumImages x)
  stop_eq : ∀ s ∈ spans, s.stop = s.start + (sel s.run).length
  getNumImages_eq : getNumImages x = (images sel spans).length
  getRunFromIndex_eq : ∀ i : Int, getRunFromIndex spans i = (imageAt (images sel spans) i).elim
    (.error (.indexError "Index is not within bounds")) fun p ↦ .ok p.1
  getEvent_eq : ∀ i : Int, resultValue (getEvent ps x i {}) =
    (imageAt (images sel spans) i).elim (.error err) fun p ↦ .ok (lazyFilter ps x.params.filter p.2)

/-- The selected events of a run in idx mode: `run.event(t)` for its selected times. -/
def selectedRunEvents (f : FilterParams) (hitInds : Option (PyDict Int (List Int)))
    (run : Run T D) : List (Event D) :=
  (selectedTimes ps f hitInds run).map run.event

theorem getEvent_fresh (x : FormatXTC T D) (i : Int) :
    resultValue (getEvent ps x i {}) = lookupEvent ps x i := by
  rw [getEvent_of_ne ps x (by simp)]
  cases lookupEvent ps x i <;> rfl

/-- In idx mode `_get_event(i)` reads the run and time of image `i` of `self.times`. -/
theorem lookupEvent_of_idx {x : FormatXTC T D} {m : PyDict Int (Span (Run T D))}
    (hmap : x.populated.runMapping = .idx m) (sel : Run T D → List T)
    (hlay : LaysOut sel (m.items.map Prod.snd) 0)
    (htimes : x.populated.times = (images sel (m.items.map Prod.snd)).map Prod.snd) (i : Int) :
    lookupEvent ps x i = (imageAt (images sel (m.items.map Prod.snd)) i).elim
      (.error (.indexError "Index is not within bounds"))
      fun p ↦ .ok (lazyFilter ps x.params.filter (p.1.event p.2)) := by
  have hrun := getRunFromIndex_of_laysOut sel hlay i
  simp only [Nat.cast_zero, sub_zero] at hrun
  unfold lookupEvent
  simp only [hmap, hrun]
  cases himg : imageAt (images sel (m.items.map Prod.snd)) i with
  | none => rfl
  | some p =>
      obtain ⟨n, rfl, hn⟩ := imageAt_eq_some_iff.1 himg
      have ht : x.populated.times[n]? = some p.2 := by simp [htimes, hn]
      obtain ⟨hlt, hget⟩ := List.getElem?_eq_some_iff.1 ht
      simp [getItem_of_lt hlt, hget]

/-- In smd mode `_get_event(i)` reads the event of image `i`, and raises `UnboundLocalError`
when there is none. -/
theorem lookupEvent_of_smd {x : FormatXTC T D} {m : PyDict Int (SmdSpan D)}
    (hmap : x.populated.runMapping = .smd m) (sel : Int → List (Event D))
    (hlay : LaysOut sel (m.items.map (·.2.toSpan)) 0)
    (hev : ∀ q ∈ m.items, q.2.events = sel q.2.run) (i : Int) :
    lookupEvent ps x i = (imageAt (images sel (m.items.map (·.2.toSpan))) i).elim
      (.error (.unboundLocal "evt")) fun p ↦ .ok (lazyFilter ps x.params.filter p.2) := by
  have hlay' : LaysOut sel ((m.items.map Prod.snd).map (·.toSpan)) 0 := by
    simpa [Function.comp_def] using hlay
  have hsmd := smdEvent_of_laysOut sel hlay'
    (fun s hs ↦ by obtain ⟨q, hq, rfl⟩ := List.mem_map.1 hs; exact hev q hq) i none
  simp only [Nat.cast_zero, sub_zero, List.map_map, Function.comp_def] at hsmd
  unfold lookupEvent
  simp only [hmap, hsmd]
  cases imageAt (images sel (m.items.map (·.2.toSpan))) i <;> rfl

/-- An idx instance whose `self.times` lists the images of slices laid out from 0 indexes
the events of those times. -/
theorem indexesSelection_of_idx {x : FormatXTC T D} {m : PyDict Int (Span (Run T D))}
    (hmap : x.populated.runMapping = .idx m) (sel : Run T D → List T)
    (hlay : LaysOut sel (m.items.map Prod.snd) 0)
    (htimes : x.populated.times = (images sel (m.items.map Prod.snd)).map Prod.snd)
    (hn : x.populated.nImages = (images sel (m.items.map Prod.snd)).length) :
    IndexesSelection ps x (m.items.map Prod.snd) (fun run ↦ (sel run).map run.event)
      (.indexError "Index is not within bounds") := by
  have himages : images (fun run ↦ (sel run).map run.event) (m.items.map Prod.snd) =
      (images sel (m.items.map Prod.snd)).map fun p ↦ (p.1, p.1.event p.2) := by
    generalize m.items.map Prod.snd = spans
    induction spans with
    | nil => rfl
    | cons s ss ih => simp [ih, Function.comp_def]
  have hlay' : LaysOut (fun run ↦ (sel run).map run.event) (m.items.map Prod.snd) 0 :=
    (laysOut_congr _ fun r ↦ by simp).1 hlay
  obtain ⟨hcons, hlen⟩ := consecutive_of_laysOut _ hlay'
  refine ⟨?_, hlen, by simp [getNumImages, hn, himages],
    fun i ↦ by simpa using getRunFromIndex_of_laysOut _ hlay' i, fun i ↦ ?_⟩
  · simpa [getNumImages, hn, himages] using hcons
  · rw [getEvent_fresh, lookupEvent_of_idx ps hmap _ hlay htimes i, himages, imageAt_map]
    cases imageAt (images sel (m.items.map Prod.snd)) i <;> rfl

/-- An smd instance whose slices lay out the events they hold from 0 indexes those events. -/
theorem indexesSelection_of_smd {x : FormatXTC T D} {m : PyDict Int (SmdSpan D)}
    (hmap : x.populated.runMapping = .smd m) (sel : Int → List (Event D))
    (hlay : LaysOut sel (m.items.map (·.2.toSpan)) 0)
    (hev : ∀ q ∈ m.items, q.2.events = sel q.2.run)
    (hn : x.populated.nImages = (images sel (m.items.map (·.2.toSpan))).length) :
    IndexesSelection ps x (m.items.map (·.2.toSpan)) sel (.unboundLocal "evt") := by
  obtain ⟨hcons, hlen⟩ := consecutive_of_laysOut _ hlay
  refine ⟨by simpa [getNumImages, hn] using hcons, hlen, hn,
    fun i ↦ by simpa using getRunFromIndex_of_laysOut _ hlay i, fun i ↦ ?_⟩
  rw [getEvent_fresh, lookupEvent_of_smd ps hmap _ hlay hev i]

/-- idx mode reads, for every hits mapping in range, the selected events of the runs the mapping
keeps, in the order of `_psana_runs`. -/
theorem indexesSelection_idx {p : Params} (hp : p.mode = .idx) (ds : DataSource T D)
    (hitInds : Option (PyDict Int (List Int))) (hrange : ∀ r ∈ ds.runs, HitsInRange hitInds r) :
    ∃ pop, ∃ m : PyDict Int (Span (Run T D)), populateEvents ps p ds hitInds = .ok pop ∧
      pop.runMapping = .idx m ∧ IndexesSelection ps ⟨p, pop⟩ (m.items.map Prod.snd)
        (selectedRunEvents ps p.filter hitInds) (.indexError "Index is not within bounds") ∧
      (m.items.map Prod.snd).map Span.run =
        ((getPsanaRuns ds).items.filter (hasHits hitInds ·.1)).map Prod.snd := by
  obtain ⟨m, hpop, hlay, hruns⟩ := populateEvents_idx ps hp ds hitInds hrange
  exact ⟨_, m, hpop, rfl, indexesSelection_of_idx ps rfl _ hlay rfl (by simp),
    by rw [List.map_map]; exact hruns⟩

/-- smd mode reads the selected events of the stream's runs in increasing run number. -/
theorem indexesSelection_smd {p : Params} (hp : p.mode = .smd) (ds : DataSource T D)
    (hitInds : Option (PyDict Int (List Int))) :
    ∃ pop, ∃ m : PyDict Int (SmdSpan D), populateEvents ps p ds hitInds = .ok pop ∧
      pop.runMapping = .smd m ∧ IndexesSelection ps ⟨p, pop⟩ (m.items.map (·.2.toSpan))
        (selectedEvents ps p.filter ds) (.unboundLocal "evt") ∧
      (m.items.map (·.2.toSpan)).map Span.run = m.keys ∧ m.keys.Pairwise (· < ·) ∧
      ∀ k, k ∈ m.keys ↔ ∃ e ∈ ds.events, e.run = k := by
  obtain ⟨m, hpop, hlay, hev, hsorted, hkeys⟩ := populateEvents_smd ps hp ds hitInds
  exact ⟨_, m, hpop, rfl, indexesSelection_of_smd ps rfl _ hlay (fun q hq ↦ (hev q hq).1) rfl,
    by simp only [List.map_map, PyDict.keys]
       exact List.map_congr_left fun q hq ↦ (hev q hq).2.symm,
    hsorted, hkeys⟩

/-- The runs of `_psana_runs` carry distinct numbers, its keys. -/
theorem nodup_run_getPsanaRuns (ds : DataSource T D) (keep : Int × Run T D → Bool) :
    ((((getPsanaRuns ds).items.filter keep).map Prod.snd).map Run.run).Nodup := by
  have hnum : (((getPsanaRuns ds).items.filter keep).map Prod.snd).map Run.run =
      ((getPsanaRuns ds).items.filter keep).map Prod.fst := by
    rw [List.map_map]
    exact List.map_congr_left fun q hq ↦ (mem_getPsanaRuns (List.mem_of_mem_filter hq)).2.symm
  rw [hnum]
  exact List.Nodup.sublist ((List.filter_sublist _).map _) (getPsanaRuns ds).nodup_keys

/-- `populate_events` followed by lookups from a fresh instance.  In idx mode, for every hits
mapping whose indices lie in range, `run_mapping` has a slice for each run of `_psana_runs` the
hits mapping keeps, in that order and each run once, and indexes their selected events; in smd
mode, where `_load_hit_indices` leaves `_hit_inds` at `None`, it has a slice for each run number
of the stream, in increasing order, and indexes their selected events. -/
theorem populateEvents_indexes (p : Params) (ds : DataSource T D) :
    (∀ hitInds, p.mode = .idx → (∀ r ∈ ds.runs, HitsInRange hitInds r) →
      ∃ pop m, populateEvents ps p ds hitInds = .ok pop ∧ pop.runMapping = .idx m ∧
        (m.items.map Prod.snd).map Span.run =
          ((getPsanaRuns ds).items.filter (hasHits hitInds ·.1)).map Prod.snd ∧
        (((m.items.map Prod.snd).map Span.run).map Run.run).Nodup ∧
        IndexesSelection ps ⟨p, pop⟩ (m.items.map Prod.snd)
          (selectedRunEvents ps p.filter hitInds) (.indexError "Index is not within bounds")) ∧
    (p.mode = .smd →
      ∃ pop m, populateEvents ps p ds none = .ok pop ∧ pop.runMapping = .smd m ∧
        (m.items.map (·.2.toSpan)).map Span.run = m.keys ∧ m.keys.Pairwise (· < ·) ∧
        (∀ k, k ∈ m.keys ↔ ∃ e ∈ ds.events, e.run = k) ∧
        IndexesSelection ps ⟨p, pop⟩ (m.items.map (·.2.toSpan)) (selectedEvents ps p.filter ds)
          (.unboundLocal "evt")) := by
  refine ⟨fun hitInds hp hrange ↦ ?_, fun hp ↦ ?_⟩
  · obtain ⟨pop, m, hpop, hmap, hx, hruns⟩ := indexesSelection_idx ps hp ds hitInds hrange
    exact ⟨pop, m, hpop, hmap, hruns, hruns ▸ nodup_run_getPsanaRuns ds _, hx⟩
  · obtain ⟨pop, m, hpop, hmap, hx, hruns, hsorted, hkeys⟩ := indexesSelection_smd ps hp ds none
    exact ⟨pop, m, hpop, hmap, hruns, hsorted, hkeys, hx⟩

theorem populateEvents_indexes_two_runs :
    (∀ r ∈ twoRuns.runs, HitsInRange none r) ∧
    (∃ pop m, populateEvents Psana.plain {} twoRuns none = .ok pop ∧ pop.runMapping = .idx m ∧
      (m.items.map Prod.snd).map Span.run =
        ((getPsanaRuns twoRuns).items.filter (hasHits none ·.1)).map Prod.snd ∧
      (((m.items.map Prod.snd).map Span.run).map Run.run).Nodup ∧
      IndexesSelection Psana.plain ⟨{}, pop⟩ (m.items.map Prod.snd)
        (selectedRunEvents Psana.plain {} none) (.indexError "Index is not within bounds")) ∧
    ∃ pop m, populateEvents Psana.plain { mode := .smd } twoRuns none = .ok pop ∧
      pop.runMapping = .smd m ∧ (m.items.map (·.2.toSpan)).map Span.run = m.keys ∧
      m.keys.Pairwise (· < ·) ∧ (∀ k, k ∈ m.keys ↔ ∃ e ∈ twoRuns.events, e.run = k) ∧
      IndexesSelection Psana.plain ⟨{ mode := .smd }, pop⟩ (m.items.map (·.2.toSpan))
        (selectedEvents Psana.plain {} twoRuns) (.unboundLocal "evt") :=
  have hrange : ∀ r ∈ twoRuns.runs, HitsInRange none r := fun _ _ _ h ↦ nomatch h
  ⟨hrange, (populateEvents_indexes Psana.plain {} twoRuns).1 none rfl hrange,
    (populateEvents_indexes Psana.plain { mode := .smd } twoRuns).2 rfl⟩

end Dxtbx.Format.XTC
