import Dxtbx.Format.XTC.Modes

/-!
# `__init__` with a hits file

`_load_hit_indices` and then `populate_events`: an idx instance built from a hits file reads,
run after run of the data source, the events at the file's indices for that run, in file order.
-/

namespace Dxtbx.Format.XTC

variable {T D : Type} (ps : Psana D)

/-- The events a hits file names, run after run of the data source: each run's times at the
file's indices for its run number, in file order, less those the pre-filter drops. -/
def hitEvents (f : FilterParams) (lines : List (Int × Int)) (ds : DataSource T D) :
    List (Event D) :=
  ds.runs.flatMap fun r ↦ (preFilterTimes ps f r
    (((lines.filter (·.1 = r.run)).map Prod.snd).filterMap (imageAt r.times))).map r.event

theorem selectedTimes_groupHits (f : FilterParams) (lines : List (Int × Int)) (r : Run T D) :
    selectedTimes ps f (some (groupHits lines)) r = preFilterTimes ps f r
      (((lines.filter (·.1 = r.run)).map Prod.snd).filterMap (imageAt r.times)) := by
  have hg := groupHits_spec lines
  simp only [selectedTimes]
  by_cases hk : r.run ∈ (groupHits lines).keys
  · rw [hg.get?_eq _ hk]
    rfl
  · have hnil : lines.filter (·.1 = r.run) = [] := List.filter_eq_nil_iff.2 fun l hl h ↦
      hk ((hg.mem_keys _).2 ⟨l.2, by simpa using (of_decide_eq_true h) ▸ hl⟩)
    rw [(PyDict.get?_eq_none_iff _ _).2 hk, hnil]
    rfl

theorem hitsInRange_groupHits {lines : List (Int × Int)} {r : Run T D}
    (h : ∀ l ∈ lines, l.1 = r.run → 0 ≤ l.2 ∧ l.2 < r.times.length) :
    HitsInRange (some (groupHits lines)) r := by
  rintro _ ⟨⟩ inds hinds i hi
  have hk : r.run ∈ (groupHits lines).keys := by
    by_contra hk
    rw [(PyDict.get?_eq_none_iff _ _).2 hk] at hinds
    cases hinds
  rw [(groupHits_spec lines).get?_eq _ hk, Option.some.injEq] at hinds
  subst hinds
  obtain ⟨l, hl, rfl⟩ := List.mem_map.1 hi
  exact h l (List.mem_filter.1 hl).1 (by simpa using (List.mem_filter.1 hl).2)

/-- `__init__` in idx mode with a hits file of other than one line, on a data source with
distinct run numbers whose hit indices lie in range: the instance has as many images as the file
names events, and from a fresh instance `_get_event(i)` reads the `i`-th of them. -/
theorem init_reads_hits_file {p : Params} {lines : List (Int × Int)}
    (hfile : p.hitsFile = some lines) (hmode : p.mode = .idx) (hk : lines.length ≠ 1)
    (ds : DataSource T D) (hnodup : (ds.runs.map Run.run).Nodup)
    (hrange : ∀ r ∈ ds.runs, ∀ l ∈ lines, l.1 = r.run → 0 ≤ l.2 ∧ l.2 < r.times.length) :
    ∃ x, FormatXTC.init ps p ds = .ok x ∧
      getNumImages x = (hitEvents ps p.filter lines ds).length ∧
      ∀ i : Int, resultValue (getEvent ps x i {}) =
        (imageAt (hitEvents ps p.filter lines ds) i).elim
          (.error (.indexError "Index is not within bounds")) fun e ↦ .ok (lazyFilter ps p.filter e) := by
  obtain ⟨m, hpop, hlay, hruns⟩ := populateEvents_idx ps hmode ds _
    fun r hr ↦ hitsInRange_groupHits (hrange r hr)
  have hitems : (getPsanaRuns ds).items = ds.runs.map fun r ↦ (r.run, r) :=
    PyDict.items_ofList_of_nodup (by simpa [Function.comp_def] using hnodup)
  have hspans : (m.items.map Prod.snd).map Span.run =
      ds.runs.filter fun r ↦ hasHits (some (groupHits lines)) r.run := by
    simpa [hitems, List.filter_map, Function.comp_def] using hruns
  have himg : (images (selectedRunEvents ps p.filter (some (groupHits lines)))
      (m.items.map Prod.snd)).map Prod.snd = hitEvents ps p.filter lines ds := by
    rw [images_eq_flatMap, hspans, List.map_flatMap, flatMap_filter_of_nil]
    · simp [hitEvents, selectedRunEvents, selectedTimes_groupHits, Function.comp_def]
    · intro r hr
      have hk : r.run ∉ (groupHits lines).keys := by simpa [hasHits] using hr
      simp [selectedRunEvents, selectedTimes, (PyDict.get?_eq_none_iff _ _).2 hk, preFilterTimes]
  have hsel : IndexesSelection ps ⟨p, ⟨_, .idx m, _⟩⟩ (m.items.map Prod.snd)
      (selectedRunEvents ps p.filter (some (groupHits lines)))
      (.indexError "Index is not within bounds") :=
    indexesSelection_of_idx ps rfl _ hlay rfl rfl
  refine ⟨_, init_of_populateEvents (loadHitIndices_eq hfile hmode hk) hpop, ?_, fun i ↦ ?_⟩
  · rw [hsel.getNumImages_eq, ← himg, List.length_map]
  · rw [hsel.getEvent_eq, ← himg, imageAt_map]
    cases imageAt (images (selectedRunEvents ps p.filter (some (groupHits lines)))
      (m.items.map Prod.snd)) i <;> rfl

theorem init_reads_hits_file_two_lines :
    (twoRuns.runs.map Run.run).Nodup ∧
    (∀ r ∈ twoRuns.runs, ∀ l ∈ [((1 : Int), (1 : Int)), (1, 0)], l.1 = r.run →
      0 ≤ l.2 ∧ l.2 < r.times.length) ∧
    ∃ x, FormatXTC.init Psana.plain { hitsFile := some [(1, 1), (1, 0)] } twoRuns = .ok x ∧
      getNumImages x = (hitEvents Psana.plain {} [(1, 1), (1, 0)] twoRuns).length ∧
      ∀ i : Int, resultValue (getEvent Psana.plain x i {}) =
        (imageAt (hitEvents Psana.plain {} [(1, 1), (1, 0)] twoRuns) i).elim
          (.error (.indexError "Index is not within bounds"))
          fun e ↦ .ok (lazyFilter Psana.plain {} e) :=
  ⟨by decide, by decide,
    init_reads_hits_file Psana.plain rfl rfl (by decide) twoRuns (by decide) (by decide)⟩

example : hitEvents Psana.plain {} [(1, 1), (1, 0)] twoRuns = [⟨1, 1⟩, ⟨1, 0⟩] := by decide

end Dxtbx.Format.XTC
