import Dxtbx.Format.XTC.Modes

/-!
# Pre-filtering against lazy filtering

When the filter has event codes, `pre_filter` decides where `filter_event` runs: while
`populate_events` builds the index, which then leaves the rejected events out, or in
`_get_event`, which returns `None` for them.  Read image after image on one instance, each
`_get_event` misses the event cache, so a whole read returns the lookups.  In either mode the
two instances read the same events in the same order once the `None`s are dropped, and the
pre-filtered one has one image for each of these events and no other.
-/

namespace Dxtbx.Format.XTC

variable {T D : Type} (ps : Psana D)

/-- The locator `p` with `filter.pre_filter` set to `b`. -/
def Params.withPreFilter (p : Params) (b : Bool) : Params :=
  { p with filter := { p.filter with preFilter := b } }

/-- What a caller reads by `_get_event(0)`, ..., `_get_event(n_images - 1)` in turn on one fresh
instance, raising at the first call that raises, with the `None`s of the lazy filter left out. -/
def readEvents (x : FormatXTC T D) : Except PyError (List (Event D)) :=
  (resultValue
      (((List.range (getNumImages x)).map fun i : Nat ↦ (i : Int)).mapM (getEvent ps x) {})).map
    (·.filterMap id)

/-! ## Reading a whole index -/

/-- Reading increasing indices on one instance, from caches whose current index lies below all of
them, every `_get_event` misses the cache: the reads return what the lookups return. -/
theorem resultValue_mapM_getEvent (x : FormatXTC T D) :
    ∀ (l : List Int) (c : Caches D), l.Pairwise (· < ·) →
      (∀ j, c.currentIndex = some j → ∀ i ∈ l, j < i) →
      resultValue (l.mapM (getEvent ps x) c) = l.mapM (lookupEvent ps x)
  | [], _, _, _ => rfl
  | i :: l, c, hl, hc => by
      have hne : c.currentIndex ≠ some i := fun h ↦ lt_irrefl i (hc i h i (List.mem_cons_self _ _))
      simp only [List.mapM_cons, bind, EStateM.bind, getEvent_of_ne ps x hne]
      cases lookupEvent ps x i with
      | error e => rfl
      | ok v =>
          have ih := resultValue_mapM_getEvent x l
            { c with currentIndex := some i, currentEvent := v } (List.pairwise_cons.1 hl).2
            fun j hj i' hi' ↦ by
              cases hj; exact (List.pairwise_cons.1 hl).1 i' hi'
          dsimp only
          revert ih
          rcases l.mapM (getEvent ps x) { c with currentIndex := some i, currentEvent := v } with
            ⟨_, _⟩ | ⟨_, _⟩ <;> intro ih <;> rw [← ih] <;> rfl

theorem mapM_eq_ok_map {α β ε : Type} {f : α → Except ε β} (g : α → β) :
    ∀ {l : List α}, (∀ a ∈ l, f a = .ok (g a)) → l.mapM f = .ok (l.map g)
  | [], _ => rfl
  | a :: l, h => by
      rw [List.mapM_cons, h a (List.mem_cons_self _ _),
        mapM_eq_ok_map g fun b hb ↦ h b (List.mem_cons_of_mem _ hb)]
      rfl

theorem map_range_imageAt {β γ : Type} (l : List β) (g : β → Option γ) :
    (List.range l.length).map (fun i : Nat ↦ (imageAt l i).bind g) = l.map g :=
  List.ext_getElem (by simp) fun n _ h ↦ by
    simp [imageAt, List.getElem?_eq_getElem (by simpa using h : n < l.length)]

/-- An instance that indexes a selection reads its images, with the `None`s of the lazy filter
left out. -/
theorem readEvents_of_indexesSelection {R : Type} {x : FormatXTC T D} {spans : List (Span R)}
    {sel : R → List (Event D)} {err : PyError} (hx : IndexesSelection ps x spans sel err) :
    readEvents ps x =
      .ok ((images sel spans).filterMap fun q ↦ lazyFilter ps x.params.filter q.2) := by
  set l := images sel spans
  have hinc : ((List.range l.length).map fun i : Nat ↦ (i : Int)).Pairwise (· < ·) :=
    List.pairwise_map.2 ((List.pairwise_lt_range _).imp fun h ↦ by omega)
  have hread : ∀ i ∈ (List.range l.length).map fun i : Nat ↦ (i : Int), lookupEvent ps x i =
      .ok ((imageAt l i).bind fun q ↦ lazyFilter ps x.params.filter q.2) := fun i hi ↦ by
    obtain ⟨n, hn, rfl⟩ := List.mem_map.1 hi
    simp [← getEvent_fresh, hx.getEvent_eq, List.mem_range.1 hn]
  unfold readEvents
  rw [hx.getNumImages_eq, resultValue_mapM_getEvent ps x _ {} hinc (fun _ h ↦ nomatch h),
    mapM_eq_ok_map _ hread, List.map_map, Function.comp_def, map_range_imageAt]
  exact congrArg Except.ok (List.filterMap_map _ _ _)

/-! ## The two filters -/

section Filter

variable (f : FilterParams)

@[simp] theorem active_preFilter (b : Bool) : { f with preFilter := b }.active = f.active := rfl

@[simp] theorem filterEvent_preFilter (b : Bool) :
    filterEvent ps { f with preFilter := b } = filterEvent ps f := rfl

theorem filterEvent_of_active_eq_false {f : FilterParams} (h : f.active = false) (e : Event D) :
    filterEvent ps f e = true := by
  simp [filterEvent, h]

/-- With `pre_filter` set, `_get_event` returns every event it looks up. -/
theorem lazyFilter_preFilter_true (e : Event D) :
    lazyFilter ps { f with preFilter := true } e = some e := by
  simp [lazyFilter]

/-- Without `pre_filter`, `_get_event` returns the events `filter_event` keeps and `None` for the
others. -/
theorem filterMap_lazyFilter_preFilter_false (l : List (Event D)) :
    l.filterMap (lazyFilter ps { f with preFilter := false }) = l.filter (filterEvent ps f) := by
  rw [← List.filterMap_eq_filter]
  congr 1
  funext e
  cases h : f.active
  · simp [lazyFilter, h, filterEvent_of_active_eq_false ps h, Option.guard]
  · by_cases he : filterEvent ps f e <;> simp [lazyFilter, h, he, Option.guard]

/-- In idx mode the pre-filter keeps, of the times a run selects, those whose event
`filter_event` keeps. -/
theorem selectedRunEvents_preFilter (hitInds : Option (PyDict Int (List Int))) (run : Run T D) :
    selectedRunEvents ps { f with preFilter := true } hitInds run =
      (selectedRunEvents ps { f with preFilter := false } hitInds run).filter (filterEvent ps f) := by
  simp only [selectedRunEvents, selectedTimes, preFilterTimes, active_preFilter, Bool.and_true,
    Bool.and_false, filterEvent_preFilter]
  cases h : f.active
  · exact (List.filter_eq_self.2 fun e _ ↦ filterEvent_of_active_eq_false ps h e).symm
  · simp [List.filter_map, Function.comp_def]

/-- In smd mode the pre-filter keeps, of the events of a run, those `filter_event` keeps. -/
theorem selectedEvents_preFilter (ds : DataSource T D) (k : Int) :
    selectedEvents ps { f with preFilter := true } ds k =
      (selectedEvents ps { f with preFilter := false } ds k).filter (filterEvent ps f) := by
  simp only [selectedEvents, active_preFilter, Bool.and_true, Bool.and_false, filterEvent_preFilter]
  cases h : f.active
  · simp [filterEvent_of_active_eq_false ps h]
  · simp

/-- Two indexes over the same runs, the second selecting of each run the events of the first
that `filter_event` keeps, read the same events: the first through the lazy filter, the second
as they are. -/
theorem filterMap_images_preFilter {R : Type} {selL selP : R → List (Event D)}
    (hsel : ∀ r, selP r = (selL r).filter (filterEvent ps f)) {spansL spansP : List (Span R)}
    (hruns : spansL.map Span.run = spansP.map Span.run) :
    (images selL spansL).filterMap (fun q ↦ lazyFilter ps { f with preFilter := false } q.2) =
        (images selP spansP).map Prod.snd ∧
      (images selP spansP).filterMap (fun q ↦ lazyFilter ps { f with preFilter := true } q.2) =
        (images selP spansP).map Prod.snd := by
  refine ⟨?_, by
    simp only [lazyFilter_preFilter_true]; exact congrFun (List.filterMap_eq_map Prod.snd) _⟩
  rw [images_eq_flatMap, images_eq_flatMap, hruns, List.filterMap_flatMap, List.map_flatMap]
  congr 1
  funext r
  rw [List.filterMap_map, List.map_map, hsel]
  simpa [Function.comp_def] using filterMap_lazyFilter_preFilter_false ps f (selL r)

/-- An instance without the pre-filter and one with it that index the same runs, the second
selecting of each run the events of the first that `filter_event` keeps, read the same events,
the second one event per image. -/
theorem readEvents_preFilter {R : Type} (p : Params) {popL popP : Populated T D}
    {spansL spansP : List (Span R)} {selL selP : R → List (Event D)} {errL errP : PyError}
    (hxL : IndexesSelection ps ⟨p.withPreFilter false, popL⟩ spansL selL errL)
    (hxP : IndexesSelection ps ⟨p.withPreFilter true, popP⟩ spansP selP errP)
    (hsel : ∀ r, selP r = (selL r).filter (filterEvent ps p.filter))
    (hruns : spansL.map Span.run = spansP.map Span.run) :
    ∃ evs, readEvents ps ⟨p.withPreFilter false, popL⟩ = .ok evs ∧
      readEvents ps ⟨p.withPreFilter true, popP⟩ = .ok evs ∧ popP.nImages = evs.length := by
  obtain ⟨hL, hP⟩ := filterMap_images_preFilter ps p.filter hsel hruns
  exact ⟨_, (readEvents_of_indexesSelection ps hxL).trans (congrArg _ hL),
    (readEvents_of_indexesSelection ps hxP).trans (congrArg _ hP),
    hxP.getNumImages_eq.trans (List.length_map _ _).symm⟩

end Filter

/-! ## Pre-filtering refines lazy filtering -/

/-- Pre-filtering only moves `filter_event` from reading to indexing.  On every data source, in
either mode and for every hits mapping in range, both instances build, reading every image of
each gives the same events in the same order once the lazy instance's `None`s are dropped, and
the pre-filtered instance has exactly one image per event. -/
theorem preFilter_reads_as_lazy (p : Params) (ds : DataSource T D)
    (hitInds : Option (PyDict Int (List Int)))
    (hrange : p.mode = .idx → ∀ r ∈ ds.runs, HitsInRange hitInds r) :
    ∃ popL popP evs,
      populateEvents ps (p.withPreFilter false) ds hitInds = .ok popL ∧
      populateEvents ps (p.withPreFilter true) ds hitInds = .ok popP ∧
      readEvents ps ⟨p.withPreFilter false, popL⟩ = .ok evs ∧
      readEvents ps ⟨p.withPreFilter true, popP⟩ = .ok evs ∧ popP.nImages = evs.length := by
  cases hp : p.mode with
  | idx =>
      obtain ⟨popL, mL, hpopL, -, hxL, hrunsL⟩ := indexesSelection_idx ps
        (show (p.withPreFilter false).mode = .idx from hp) ds hitInds (hrange hp)
      obtain ⟨popP, mP, hpopP, -, hxP, hrunsP⟩ := indexesSelection_idx ps
        (show (p.withPreFilter true).mode = .idx from hp) ds hitInds (hrange hp)
      obtain ⟨evs, hread⟩ := readEvents_preFilter ps p hxL hxP
        (selectedRunEvents_preFilter ps p.filter hitInds) (hrunsL.trans hrunsP.symm)
      exact ⟨popL, popP, evs, hpopL, hpopP, hread⟩
  | smd =>
      obtain ⟨popL, mL, hpopL, -, hxL, hrunsL, hsortL, hkeysL⟩ := indexesSelection_smd ps
        (show (p.withPreFilter false).mode = .smd from hp) ds hitInds
      obtain ⟨popP, mP, hpopP, -, hxP, hrunsP, hsortP, hkeysP⟩ := indexesSelection_smd ps
        (show (p.withPreFilter true).mode = .smd from hp) ds hitInds
      have hkeys : mL.keys = mP.keys :=
        List.eq_of_perm_of_sorted ((List.perm_ext_iff_of_nodup hsortL.nodup hsortP.nodup).2
          fun k ↦ (hkeysL k).trans (hkeysP k).symm) hsortL hsortP
      obtain ⟨evs, hread⟩ := readEvents_preFilter ps p hxL hxP
        (selectedEvents_preFilter ps p.filter ds) (hrunsL.trans (hkeys.trans hrunsP.symm))
      exact ⟨popL, popP, evs, hpopL, hpopP, hread⟩

/-- Each event carries its data as its one event code. -/
def dataCodes : Psana Nat := { Psana.plain with eventCodes := fun e ↦ [(e.data : Int)] }

/-- A filter that keeps the events with code 1. -/
def codeOne : Params := { filter := { requiredPresentCodes := [1] } }

theorem preFilter_reads_as_lazy_two_runs :
    (codeOne.mode = .idx → ∀ r ∈ twoRuns.runs, HitsInRange none r) ∧
    ∃ popL popP evs,
      populateEvents dataCodes (codeOne.withPreFilter false) twoRuns none = .ok popL ∧
      populateEvents dataCodes (codeOne.withPreFilter true) twoRuns none = .ok popP ∧
      readEvents dataCodes ⟨codeOne.withPreFilter false, popL⟩ = .ok evs ∧
      readEvents dataCodes ⟨codeOne.withPreFilter true, popP⟩ = .ok evs ∧
      popP.nImages = evs.length :=
  have hrange : codeOne.mode = .idx → ∀ r ∈ twoRuns.runs, HitsInRange none r :=
    fun _ _ _ _ h ↦ nomatch h
  ⟨hrange, preFilter_reads_as_lazy dataCodes codeOne twoRuns none hrange⟩

example : ∃ popP, populateEvents dataCodes (codeOne.withPreFilter true) twoRuns none = .ok popP ∧
    popP.nImages = 1 ∧ readEvents dataCodes ⟨codeOne.withPreFilter true, popP⟩ = .ok [⟨1, 1⟩] :=
  ⟨_, rfl, rfl, rfl⟩

end Dxtbx.Format.XTC
