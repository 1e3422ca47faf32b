import Dxtbx.Format.XTC.HitIndices

/-!
# Building the image index

`populate_events` numbers the images of all runs one after the other.  idx mode walks the runs
of `_psana_runs` in their order, keeps the times the hits mapping and the pre-filter select, and
records for each run its slice `[start, stop)` of `self.times`.  smd mode first collects the
events of the stream per run, then lays the runs out in increasing run number.
-/

namespace Dxtbx.Format.XTC

variable {T D : Type}

/-- `_get_psana_runs`: `{r.run(): r for r in datasource.runs()}`. -/
def getPsanaRuns (ds : DataSource T D) : PyDict Int (Run T D) :=
  PyDict.ofList (ds.runs.map fun r ↦ (r.run, r))

/-- The head `(start, stop, run)` of a `run_mapping` value: the run's slice `[start, stop)` of
the image index, and the run (the psana `Run` in idx mode, its number in smd mode). -/
structure Span (R : Type) where
  start : Nat
  stop : Nat
  run : R

/-- An smd `run_mapping` value `(start, end, run, events)`. -/
structure SmdSpan (D : Type) extends Span Int where
  events : List (Event D)

/-- `run_mapping` as `populate_events` leaves it. -/
inductive RunMapping (T D : Type)
  | idx (m : PyDict Int (Span (Run T D)))
  | smd (m : PyDict Int (SmdSpan D))

/-- What `populate_events` sets on the instance: `times`, `run_mapping` and `n_images`. -/
structure Populated (T D : Type) where
  times : List T
  runMapping : RunMapping T D
  nImages : Nat

/-! ## The image index

The index `populate_events` builds is, in the abstract, the list of `images`: the selected
events of each run of `run_mapping`, in its order, each with its run.  `LaysOut` says that the
slices of `run_mapping` number exactly these images.
-/

section Layout

variable {R α β : Type} (sel : R → List α)

/-- The slices lay out the runs' selections one after the other from `a`: each starts where the
one before it stops and is as long as its run's selection. -/
def LaysOut : List (Span R) → Nat → Prop
  | [], _ => True
  | s :: ss, a => s.start = a ∧ s.stop = a + (sel s.run).length ∧ LaysOut ss s.stop

/-- The slices follow each other from `a` to `b`: the first starts at `a`, each starts where the
one before it stops, and the last stops at `b`. -/
def Consecutive : List (Span R) → Nat → Nat → Prop
  | [], a, b => a = b
  | s :: ss, a, b => s.start = a ∧ Consecutive ss s.stop b

/-- The images of the index in order, each with its run. -/
def images (spans : List (Span R)) : List (R × α) :=
  spans.flatMap fun s ↦ (sel s.run).map ((s.run, ·))

/-- The element at an integer position; `none` outside `[0, length)`. -/
def imageAt (l : List β) (i : Int) : Option β := if 0 ≤ i then l[i.toNat]? else none

@[simp] theorem images_nil : images sel ([] : List (Span R)) = [] := rfl

@[simp] theorem images_cons (s : Span R) (ss : List (Span R)) :
    images sel (s :: ss) = (sel s.run).map ((s.run, ·)) ++ images sel ss := rfl

theorem imageAt_append (l₁ l₂ : List β) (i : Int) :
    imageAt (l₁ ++ l₂) i = if i < l₁.length then imageAt l₁ i else imageAt l₂ (i - l₁.length) := by
  unfold imageAt
  by_cases h0 : 0 ≤ i
  · by_cases hi : i < l₁.length
    · rw [if_pos hi, if_pos h0, if_pos h0, List.getElem?_append_left (by omega)]
    · rw [if_neg hi, if_pos h0, if_pos (by omega), List.getElem?_append_right (by omega)]
      congr 2
      omega
  · rw [if_neg h0, if_neg h0]
    split
    · rfl
    · rw [if_neg (by omega)]

@[simp] theorem imageAt_natCast (l : List β) (n : Nat) : imageAt l n = l[n]? := by
  simp [imageAt]

theorem imageAt_eq_some_iff {l : List β} {i : Int} {b : β} :
    imageAt l i = some b ↔ ∃ n : Nat, i = n ∧ l[n]? = some b := by
  unfold imageAt
  constructor
  · intro h
    split at h
    · exact ⟨i.toNat, by omega, h⟩
    · simp at h
  · rintro ⟨n, rfl, h⟩
    simpa using h

theorem imageAt_eq_none_iff {l : List β} {i : Int} :
    imageAt l i = none ↔ ¬(0 ≤ i ∧ i < l.length) := by
  unfold imageAt
  split <;> simp_all

theorem imageAt_map {γ : Type} (g : β → γ) (l : List β) (i : Int) :
    imageAt (l.map g) i = (imageAt l i).map g := by
  unfold imageAt; split <;> simp

theorem laysOut_congr {sel' : R → List β} (h : ∀ r, (sel r).length = (sel' r).length)
    {spans : List (Span R)} {a : Nat} : LaysOut sel spans a ↔ LaysOut sel' spans a := by
  induction spans generalizing a with
  | nil => rfl
  | cons s ss ih => simp only [LaysOut, h, ih]

/-- A layout numbers the images from `a`: it is consecutive up to `a` plus their number, and
each slice is as long as its run's selection. -/
theorem consecutive_of_laysOut {spans : List (Span R)} {a : Nat} (h : LaysOut sel spans a) :
    Consecutive spans a (a + (images sel spans).length) ∧
      ∀ s ∈ spans, s.stop = s.start + (sel s.run).length := by
  induction spans generalizing a with
  | nil => simp [Consecutive]
  | cons s ss ih =>
      obtain ⟨hstart, hstop, hrest⟩ := h
      obtain ⟨hcons, hlen⟩ := ih hrest
      refine ⟨⟨hstart, ?_⟩, ?_⟩
      · simpa [hstop, Nat.add_assoc] using hcons
      · simp only [List.mem_cons, forall_eq_or_imp]
        exact ⟨by omega, hlen⟩

/-- The sizes of the slices add up to the number of images. -/
theorem sum_sizes_of_laysOut {spans : List (Span R)} {a : Nat} (h : LaysOut sel spans a) :
    (spans.map fun s ↦ s.stop - s.start).sum = (images sel spans).length := by
  induction spans generalizing a with
  | nil => rfl
  | cons s ss ih =>
      obtain ⟨hstart, hstop, hrest⟩ := h
      simp [ih hrest, hstop, hstart]

end Layout

/-! ## idx mode -/

section Idx

variable (ps : Psana D) (f : FilterParams) (hitInds : Option (PyDict Int (List Int)))

/-- `[t for t in times if self.filter_event(run.event(t))]`, applied when `pre_filter` is set
and the filter has codes. -/
def preFilterTimes (run : Run T D) (times : List T) : List T :=
  if f.active && f.preFilter then times.filter fun t ↦ filterEvent ps f (run.event t) else times

/-- The times one item of `_psana_runs` adds to `self.times`; `none` for a run the hits mapping
leaves out (`continue`). -/
def runTimes (runNum : Int) (run : Run T D) : Except PyError (Option (List T)) :=
  match hitInds with
  | none => .ok (some (preFilterTimes ps f run run.times))
  | some hits =>
      match hits.get? runNum with
      | none => .ok none
      | some inds =>
          match inds.mapM (getItem run.times) with
          | .ok temp => .ok (some (preFilterTimes ps f run temp))
          | .error e => .error e

/-- The loop of the idx branch over the items of `_psana_runs`, from `self.times` and
`run_mapping` so far. -/
def populateIdx : List (Int × Run T D) → List T → PyDict Int (Span (Run T D)) →
    Except PyError (List T × PyDict Int (Span (Run T D)))
  | [], times, m => .ok (times, m)
  | (runNum, run) :: rest, times, m =>
      match runTimes ps f hitInds runNum run with
      | .error e => .error e
      | .ok none => populateIdx rest times m
      | .ok (some ts) =>
          populateIdx rest (times ++ ts)
            (m.insert runNum ⟨times.length, times.length + ts.length, run⟩)

end Idx

/-! ## smd mode -/

section Smd

variable (ps : Psana D) (f : FilterParams)

/-- The first loop of the smd branch: a run gets its key on its first event, and each event the
pre-filter keeps is appended to the list of its run. -/
def groupEvents : List (Event D) → PyDict Int (List (Event D)) → PyDict Int (List (Event D))
  | [], m => m
  | event :: rest, m =>
      let m := if event.run ∈ m.keys then m else m.insert event.run []
      let keep := if f.active && f.preFilter then filterEvent ps f event else true
      groupEvents rest
        (if keep then m.insert event.run ((m.get? event.run).getD [] ++ [event]) else m)

/-- The second loop of the smd branch, over `sorted(self.run_mapping)`: each run's slice starts
where the one before it stops. -/
def remakeMapping (m : PyDict Int (List (Event D))) :
    List Int → Nat → PyDict Int (SmdSpan D) → PyDict Int (SmdSpan D)
  | [], _, acc => acc
  | run :: runs, total, acc =>
      let events := (m.get? run).getD []
      remakeMapping m runs (total + events.length)
        (acc.insert run ⟨⟨total, events.length + total, run⟩, events⟩)

end Smd

/-- `populate_events` on the instance `__init__` builds, whose `_hit_inds` is `hitInds`. -/
def populateEvents (ps : Psana D) (p : Params) (ds : DataSource T D)
    (hitInds : Option (PyDict Int (List Int))) : Except PyError (Populated T D) :=
  match p.mode with
  | .idx =>
      match populateIdx ps p.filter hitInds (getPsanaRuns ds).items [] .empty with
      | .ok (times, m) => .ok ⟨times, .idx m, times.length⟩
      | .error e => .error e
  | .smd =>
      let grouped := groupEvents ps p.filter ds.events .empty
      let m := remakeMapping grouped (sortedBy id grouped.keys) 0 .empty
      .ok ⟨[], .smd m, (m.items.map fun q ↦ q.2.stop - q.2.start).sum⟩

theorem mem_getPsanaRuns {ds : DataSource T D} {p : Int × Run T D}
    (h : p ∈ (getPsanaRuns ds).items) : p.2 ∈ ds.runs ∧ p.1 = p.2.run := by
  obtain ⟨r, hr, rfl⟩ := List.mem_map.1 (PyDict.mem_ofList h)
  exact ⟨hr, rfl⟩

/-! ## The idx index -/

section IdxLayout

variable (ps : Psana D) (f : FilterParams) (hitInds : Option (PyDict Int (List Int)))

/-- Whether idx mode gives a run of `_psana_runs` a slice: always without a hits mapping, and
with one when the mapping has the run's number. -/
def hasHits (runNum : Int) : Bool :=
  match hitInds with
  | none => true
  | some h => runNum ∈ h.keys

/-- The times idx mode gives a run of `run_mapping`: `run.times()`, restricted to the run's hit
indices in their order when there is a hits mapping, then to the events `filter_event` keeps
when `pre_filter` is set and the filter has codes. -/
def selectedTimes (run : Run T D) : List T :=
  preFilterTimes ps f run
    (match hitInds with
     | none => run.times
     | some h => ((h.get? run.run).getD []).filterMap (imageAt run.times))

/-- Every hit index of the run lies in `[0, len(run.times()))`. -/
def HitsInRange (run : Run T D) : Prop :=
  ∀ h, hitInds = some h → ∀ inds, h.get? run.run = some inds →
    ∀ i ∈ inds, 0 ≤ i ∧ i < run.times.length

theorem mapM_getItem {α : Type} (xs : List α) {inds : List Int}
    (h : ∀ i ∈ inds, 0 ≤ i ∧ i < xs.length) :
    inds.mapM (getItem xs) = .ok (inds.filterMap (imageAt xs)) := by
  induction inds with
  | nil => rfl
  | cons i is ih =>
      obtain ⟨n, rfl⟩ := Int.eq_ofNat_of_zero_le (h i (List.mem_cons_self _ _)).1
      have hn : n < xs.length := by have := (h n (List.mem_cons_self _ _)).2; omega
      rw [List.mapM_cons, getItem_of_lt hn, ih (fun j hj ↦ h j (List.mem_cons_of_mem _ hj))]
      simp [imageAt, hn]
      rfl

/-- `[xs[i] for i in inds]` raises exactly when an index lies outside `[-len(xs), len(xs))`, and
then raises the subscript's `IndexError`. -/
theorem mapM_getItem_cases {α : Type} (xs : List α) (inds : List Int) :
    (∃ ys, inds.mapM (getItem xs) = .ok ys) ∧
        (∀ i ∈ inds, -(xs.length : Int) ≤ i ∧ i < xs.length) ∨
      inds.mapM (getItem xs) = .error .subscriptOutOfRange ∧
        ∃ i ∈ inds, ¬(-(xs.length : Int) ≤ i ∧ i < xs.length) := by
  induction inds with
  | nil => exact .inl ⟨⟨[], rfl⟩, by simp⟩
  | cons i is ih =>
      rw [List.mapM_cons]
      rcases getItem_cases xs i with ⟨⟨a, ha⟩, hi⟩ | ⟨ha, hi⟩
      · rcases ih with ⟨⟨ys, hys⟩, his⟩ | ⟨hys, j, hj, hjn⟩
        · refine .inl ⟨⟨a :: ys, by rw [ha, hys]; rfl⟩, ?_⟩
          simpa [forall_eq_or_imp] using ⟨hi, his⟩
        · exact .inr ⟨by rw [ha, hys]; rfl, j, List.mem_cons_of_mem _ hj, hjn⟩
      · exact .inr ⟨by rw [ha]; rfl, i, List.mem_cons_self _ _, hi⟩

theorem runTimes_eq (run : Run T D) (h : HitsInRange hitInds run) :
    runTimes ps f hitInds run.run run =
      .ok (if hasHits hitInds run.run then some (selectedTimes ps f hitInds run) else none) := by
  cases hitInds with
  | none => rfl
  | some hs =>
      cases hg : hs.get? run.run with
      | none =>
          have hk : run.run ∉ hs.keys := (PyDict.get?_eq_none_iff _ _).1 hg
          simp [runTimes, hasHits, hg, hk]
      | some inds =>
          have hk : run.run ∈ hs.keys := by
            by_contra hk; rw [← PyDict.get?_eq_none_iff] at hk; simp [hk] at hg
          simp only [runTimes, hg]
          rw [mapM_getItem run.times (h hs rfl inds hg)]
          simp [hasHits, hk, selectedTimes, hg]

/-- The idx loop appends one slice per run it keeps, laying their selected times out after the
times already there. -/
theorem populateIdx_spec (items : List (Int × Run T D)) (hkey : ∀ p ∈ items, p.1 = p.2.run)
    (hkeys : (items.map Prod.fst).Nodup) (hrange : ∀ p ∈ items, HitsInRange hitInds p.2)
    (times : List T) (m : PyDict Int (Span (Run T D))) (hfresh : ∀ p ∈ items, p.1 ∉ m.keys) :
    ∃ times' m' new, populateIdx ps f hitInds items times m = .ok (times', m') ∧
      m'.items = m.items ++ new ∧
      times' = times ++ (images (selectedTimes ps f hitInds) (new.map Prod.snd)).map Prod.snd ∧
      LaysOut (selectedTimes ps f hitInds) (new.map Prod.snd) times.length ∧
      new.map (·.2.run) = (items.filter (hasHits hitInds ·.1)).map Prod.snd := by
  induction items generalizing times m with
  | nil => exact ⟨times, m, [], rfl, by simp, by simp, trivial, rfl⟩
  | cons p rest ih =>
      obtain ⟨k, run⟩ := p
      simp only [List.mem_cons, forall_eq_or_imp, List.map_cons, List.nodup_cons]
        at hkey hrange hfresh hkeys
      obtain rfl : k = run.run := hkey.1
      have hstep := runTimes_eq ps f hitInds run hrange.1
      by_cases hh : hasHits hitInds run.run
      · set ts := selectedTimes ps f hitInds run
        set span : Span (Run T D) := ⟨times.length, times.length + ts.length, run⟩
        have hfresh' : ∀ q ∈ rest, q.1 ∉ (m.insert run.run span).keys := fun q hq ↦ by
          rw [PyDict.keys_insert, if_neg hfresh.1, List.mem_append, List.mem_singleton, not_or]
          exact ⟨hfresh.2 q hq, fun e ↦ hkeys.1 (e ▸ List.mem_map_of_mem _ hq)⟩
        obtain ⟨times', m', new, hrun, hitems, htimes, hlay, hruns⟩ :=
          ih hkey.2 hkeys.2 hrange.2 (times ++ ts) _ hfresh'
        refine ⟨times', m', (run.run, span) :: new, ?_, ?_, ?_, ?_, ?_⟩
        · simpa [populateIdx, hstep, hh] using hrun
        · rw [hitems, PyDict.items_insert_of_not_mem hfresh.1]; simp
        · rw [htimes]; simp [ts, Function.comp_def]
        · exact ⟨rfl, rfl, by simpa [span] using hlay⟩
        · simp [hh, hruns]
      · obtain ⟨times', m', new, hrun, hitems, htimes, hlay, hruns⟩ :=
          ih hkey.2 hkeys.2 hrange.2 times m hfresh.2
        refine ⟨times', m', new, ?_, hitems, htimes, hlay, ?_⟩
        · simpa [populateIdx, hstep, hh] using hrun
        · simp [hh, hruns]

/-! ### Hit indices out of range -/

/-- A hit index of the run lies outside `[-len(run.times()), len(run.times()))`. -/
def HitOutOfRange (h : PyDict Int (List Int)) (run : Run T D) : Prop :=
  ∃ inds, h.get? run.run = some inds ∧
    ∃ i ∈ inds, ¬(-(run.times.length : Int) ≤ i ∧ i < run.times.length)

theorem runTimes_cases (h : PyDict Int (List Int)) (run : Run T D) :
    (∃ t, runTimes ps f (some h) run.run run = .ok t) ∧ ¬HitOutOfRange h run ∨
      runTimes ps f (some h) run.run run = .error .subscriptOutOfRange ∧ HitOutOfRange h run := by
  cases hg : h.get? run.run with
  | none =>
      exact .inl ⟨⟨none, by simp [runTimes, hg]⟩, fun ⟨_, h', _⟩ ↦ Option.noConfusion (hg.symm.trans h')⟩
  | some inds =>
      rcases mapM_getItem_cases run.times inds with ⟨⟨ys, hys⟩, hin⟩ | ⟨hys, i, hi, hout⟩
      · refine .inl ⟨⟨some (preFilterTimes ps f run ys), by simp only [runTimes, hg, hys]⟩, ?_⟩
        rintro ⟨inds', hg', i, hi, hout⟩
        rw [hg, Option.some.injEq] at hg'
        subst hg'
        exact hout (hin i hi)
      · exact .inr ⟨by simp only [runTimes, hg, hys], inds, hg, i, hi, hout⟩

theorem populateIdx_cons_of_ok {k : Int} {run : Run T D} (rest : List (Int × Run T D))
    (times : List T) (m : PyDict Int (Span (Run T D))) {t : Option (List T)}
    (ht : runTimes ps f hitInds k run = .ok t) :
    ∃ times' m', populateIdx ps f hitInds ((k, run) :: rest) times m =
      populateIdx ps f hitInds rest times' m' := by
  cases t with
  | none => exact ⟨times, m, by simp [populateIdx, ht]⟩
  | some ts => exact ⟨times ++ ts, m.insert k ⟨times.length, times.length + ts.length, run⟩,
      by simp only [populateIdx, ht]⟩

/-- The idx loop over a hits mapping returns when no run it visits has a hit index out of
range, and otherwise raises the subscript's `IndexError`. -/
theorem populateIdx_cases (h : PyDict Int (List Int)) (items : List (Int × Run T D))
    (hkey : ∀ q ∈ items, q.1 = q.2.run) (times : List T) (m : PyDict Int (Span (Run T D))) :
    (∃ r, populateIdx ps f (some h) items times m = .ok r) ∧
        (∀ q ∈ items, ¬HitOutOfRange h q.2) ∨
      populateIdx ps f (some h) items times m = .error .subscriptOutOfRange ∧
        ∃ q ∈ items, HitOutOfRange h q.2 := by
  induction items generalizing times m with
  | nil => exact .inl ⟨⟨(times, m), rfl⟩, fun _ hq ↦ absurd hq (List.not_mem_nil _)⟩
  | cons q rest ih =>
      obtain ⟨k, run⟩ := q
      simp only [List.mem_cons, forall_eq_or_imp] at hkey
      obtain rfl : k = run.run := hkey.1
      rcases runTimes_cases ps f h run with ⟨⟨t, ht⟩, hok⟩ | ⟨ht, hout⟩
      · obtain ⟨times', m', hstep⟩ := populateIdx_cons_of_ok ps f (some h) rest times m ht
        rw [hstep]
        rcases ih hkey.2 times' m' with ⟨hr, hall⟩ | ⟨hr, q, hq, hqo⟩
        · exact .inl ⟨hr, List.forall_mem_cons.2 ⟨hok, hall⟩⟩
        · exact .inr ⟨hr, q, List.mem_cons_of_mem _ hq, hqo⟩
      · exact .inr ⟨by simp only [populateIdx, ht], _, List.mem_cons_self _ _, hout⟩

end IdxLayout

/-! ## The smd index -/

section SmdLayout

variable (ps : Psana D) (f : FilterParams)

/-- The events smd mode gives a run number: the events of `ds.events()` with that number, in
stream order, then those `filter_event` keeps when `pre_filter` is set and the filter has
codes. -/
def selectedEvents (ds : DataSource T D) (k : Int) : List (Event D) :=
  (ds.events.filter (·.run = k)).filter fun e ↦
    if f.active && f.preFilter then filterEvent ps f e else true

/-- The first smd loop keys every run with an event in the stream and appends to it the events
the pre-filter keeps, in stream order. -/
theorem groupEvents_spec (es : List (Event D)) (m : PyDict Int (List (Event D))) :
    (∀ k, k ∈ (groupEvents ps f es m).keys ↔ k ∈ m.keys ∨ ∃ e ∈ es, e.run = k) ∧
      ∀ k, ((groupEvents ps f es m).get? k).getD [] =
        (m.get? k).getD [] ++ (es.filter (·.run = k)).filter fun e ↦
          if f.active && f.preFilter then filterEvent ps f e else true := by
  induction es generalizing m with
  | nil => simp [groupEvents]
  | cons e rest ih =>
      set keep := if f.active && f.preFilter then filterEvent ps f e else true
      set m1 := if e.run ∈ m.keys then m else m.insert e.run [] with hm1
      set m2 := if keep then m1.insert e.run ((m1.get? e.run).getD [] ++ [e]) else m1 with hm2
      have hgroup : groupEvents ps f (e :: rest) m = groupEvents ps f rest m2 := rfl
      have hk1 : ∀ k, k ∈ m1.keys ↔ k ∈ m.keys ∨ e.run = k := fun k ↦ by
        rw [hm1]
        split_ifs with h
        · exact ⟨.inl, fun h' ↦ h'.elim id (· ▸ h)⟩
        · rw [PyDict.keys_insert, if_neg h]; simp [eq_comm]
      have hk2 : ∀ k, k ∈ m2.keys ↔ k ∈ m1.keys := fun k ↦ by
        rw [hm2]
        split_ifs
        · rw [PyDict.keys_insert, if_pos ((hk1 _).2 (.inr rfl))]
        · rfl
      have hv1 : ∀ k, (m1.get? k).getD [] = (m.get? k).getD [] := fun k ↦ by
        rw [hm1]
        split_ifs with h
        · rfl
        · rw [PyDict.get?_insert]
          split_ifs with hk
          · subst hk; simp [(PyDict.get?_eq_none_iff m e.run).2 h]
          · rfl
      have hv2 : ∀ k, (m2.get? k).getD [] =
          (m1.get? k).getD [] ++ if e.run = k ∧ keep then [e] else [] := fun k ↦ by
        rw [hm2]
        by_cases hk : e.run = k
        · subst hk; split_ifs <;> simp_all
        · split_ifs <;> simp_all
      obtain ⟨hkeys, hvals⟩ := ih m2
      refine ⟨fun k ↦ ?_, fun k ↦ ?_⟩
      · rw [hgroup, hkeys, hk2, hk1]
        simp only [List.mem_cons, exists_eq_or_imp, or_assoc]
      · rw [hgroup, hvals, hv2, hv1]
        by_cases hk : e.run = k <;> by_cases hkeep : keep = true <;>
          simp [hk, hkeep, List.filter_cons, keep] at hkeep ⊢ <;> simp_all

/-- The second smd loop gives the runs, in the order it takes them, slices laid out from
`total`, each holding the run's collected events. -/
theorem remakeMapping_spec (g : PyDict Int (List (Event D))) (runs : List Int)
    (hnodup : runs.Nodup) (total : Nat) (acc : PyDict Int (SmdSpan D))
    (hfresh : ∀ k ∈ runs, k ∉ acc.keys) :
    ∃ new, (remakeMapping g runs total acc).items = acc.items ++ new ∧
      new.map Prod.fst = runs ∧
      LaysOut (fun k ↦ (g.get? k).getD []) (new.map (·.2.toSpan)) total ∧
      ∀ q ∈ new, q.2.events = (g.get? q.2.run).getD [] ∧ q.1 = q.2.run := by
  induction runs generalizing total acc with
  | nil => exact ⟨[], by simp [remakeMapping], rfl, trivial, by simp⟩
  | cons k ks ih =>
      simp only [List.nodup_cons, List.mem_cons, forall_eq_or_imp] at hnodup hfresh
      set span : SmdSpan D := ⟨⟨total, ((g.get? k).getD []).length + total, k⟩, (g.get? k).getD []⟩
      have hfresh' : ∀ k' ∈ ks, k' ∉ (acc.insert k span).keys := fun k' hk' ↦ by
        rw [PyDict.keys_insert, if_neg hfresh.1, List.mem_append, List.mem_singleton, not_or]
        exact ⟨hfresh.2 k' hk', fun e ↦ hnodup.1 (e ▸ hk')⟩
      obtain ⟨new, hitems, hkeys, hlay, hspans⟩ := ih hnodup.2 _ _ hfresh'
      refine ⟨(k, span) :: new, ?_, by simp [hkeys], ⟨rfl, by simp [span]; omega, ?_⟩, ?_⟩
      · rw [remakeMapping, hitems, PyDict.items_insert_of_not_mem hfresh.1]; simp
      · simpa [span, Nat.add_comm] using hlay
      · simp only [List.mem_cons, forall_eq_or_imp]
        exact ⟨by simp [span], hspans⟩

end SmdLayout

/-! ## `populate_events` -/

section Populate

variable (ps : Psana D)

/-- In idx mode `self.times` lists the selected times of the runs of `run_mapping` in its order,
the slices of `run_mapping` lay them out from 0, and `run_mapping` has exactly the runs of
`_psana_runs` the hits mapping keeps. -/
theorem populateEvents_idx {p : Params} (hp : p.mode = .idx) (ds : DataSource T D)
    (hitInds : Option (PyDict Int (List Int))) (hrange : ∀ r ∈ ds.runs, HitsInRange hitInds r) :
    ∃ m : PyDict Int (Span (Run T D)),
      populateEvents ps p ds hitInds = .ok
        ⟨(images (selectedTimes ps p.filter hitInds) (m.items.map Prod.snd)).map Prod.snd, .idx m,
          (images (selectedTimes ps p.filter hitInds) (m.items.map Prod.snd)).length⟩ ∧
      LaysOut (selectedTimes ps p.filter hitInds) (m.items.map Prod.snd) 0 ∧
      m.items.map (·.2.run) =
        ((getPsanaRuns ds).items.filter (hasHits hitInds ·.1)).map Prod.snd := by
  obtain ⟨times, m, new, hrun, hitems, htimes, hlay, hruns⟩ :=
    populateIdx_spec ps p.filter hitInds (getPsanaRuns ds).items
      (fun q hq ↦ (mem_getPsanaRuns hq).2) (getPsanaRuns ds).nodup_keys
      (fun q hq ↦ hrange _ (mem_getPsanaRuns hq).1) [] .empty (by simp)
  simp only [PyDict.items_empty, List.nil_append] at hitems htimes
  refine ⟨m, ?_, by simpa [hitems] using hlay, by rw [hitems, hruns]⟩
  simp only [populateEvents, hp, hrun, htimes, hitems, List.length_map]

/-- In smd mode the keys of `run_mapping` are the run numbers of the stream in increasing order,
its slices lay out the runs' selected events from 0, and `n_images` counts them. -/
theorem populateEvents_smd {p : Params} (hp : p.mode = .smd) (ds : DataSource T D)
    (hitInds : Option (PyDict Int (List Int))) :
    ∃ m : PyDict Int (SmdSpan D),
      populateEvents ps p ds hitInds = .ok
        ⟨[], .smd m, (images (selectedEvents ps p.filter ds) (m.items.map (·.2.toSpan))).length⟩ ∧
      LaysOut (selectedEvents ps p.filter ds) (m.items.map (·.2.toSpan)) 0 ∧
      (∀ q ∈ m.items, q.2.events = selectedEvents ps p.filter ds q.2.run ∧ q.1 = q.2.run) ∧
      m.keys.Pairwise (· < ·) ∧ ∀ k, k ∈ m.keys ↔ ∃ e ∈ ds.events, e.run = k := by
  set g := groupEvents ps p.filter ds.events .empty
  obtain ⟨hgkeys, hgvals⟩ := groupEvents_spec ps p.filter ds.events .empty
  have hsel : (fun k ↦ (g.get? k).getD []) = selectedEvents ps p.filter ds := by
    funext k; simp [g, hgvals, selectedEvents]
  have hperm := sortedBy_perm id g.keys
  obtain ⟨new, hitems, hkeys, hlay, hspans⟩ :=
    remakeMapping_spec g (sortedBy id g.keys) (hperm.nodup_iff.2 g.keys_nodup) 0 .empty
      (by simp)
  simp only [PyDict.items_empty, List.nil_append] at hitems
  rw [hsel] at hlay
  refine ⟨remakeMapping g (sortedBy id g.keys) 0 .empty, ?_, by rwa [hitems], ?_, ?_, ?_⟩
  · simp only [populateEvents, hp, hitems, List.map_map]
    rw [← sum_sizes_of_laysOut _ hlay]
    simp [Function.comp_def]
  · rw [hitems]
    exact fun q hq ↦ ⟨(hspans q hq).1.trans (congrFun hsel _), (hspans q hq).2⟩
  · have hk : (remakeMapping g (sortedBy id g.keys) 0 .empty).keys = sortedBy id g.keys := by
      rw [PyDict.keys, hitems, hkeys]
    rw [hk]
    exact ((sortedBy_sorted id g.keys).imp₂ (fun a b h hne ↦ lt_of_le_of_ne h hne)
      ((hperm.nodup_iff.2 g.keys_nodup)))
  · intro k
    rw [PyDict.keys, hitems, hkeys, hperm.mem_iff, hgkeys]
    simp

/-- In idx mode with a hits mapping, on a data source with distinct run numbers,
`populate_events` returns when every hit index of every run lies in
`[-len(run.times()), len(run.times()))`, negative indices included, and otherwise raises the
`IndexError` of the subscript `times[i_hit]`. -/
theorem populateEvents_idx_hits_cases {p : Params} (hp : p.mode = .idx) (ds : DataSource T D)
    (hnodup : (ds.runs.map Run.run).Nodup) (h : PyDict Int (List Int)) :
    (∃ pop, populateEvents ps p ds (some h) = .ok pop) ∧ (∀ r ∈ ds.runs, ¬HitOutOfRange h r) ∨
      populateEvents ps p ds (some h) = .error .subscriptOutOfRange ∧
        ∃ r ∈ ds.runs, HitOutOfRange h r := by
  have hitems : (getPsanaRuns ds).items = ds.runs.map fun r ↦ (r.run, r) :=
    PyDict.items_ofList_of_nodup (by simpa [Function.comp_def] using hnodup)
  rcases populateIdx_cases ps p.filter h (getPsanaRuns ds).items
      (fun q hq ↦ (mem_getPsanaRuns hq).2) [] .empty with
    ⟨⟨⟨times, m⟩, hr⟩, hall⟩ | ⟨hr, q, hq, hout⟩
  · refine .inl ⟨⟨⟨times, .idx m, times.length⟩, by simp [populateEvents, hp, hr]⟩,
      fun r hr ↦ hall (r.run, r) ?_⟩
    rw [hitems]
    exact List.mem_map_of_mem _ hr
  · exact .inr ⟨by simp [populateEvents, hp, hr], q.2, (mem_getPsanaRuns hq).1, hout⟩

/-- Two runs, the second without events. -/
def twoRuns : DataSource Nat Nat := ⟨[⟨1, [0, 1], id⟩, ⟨2, [], id⟩]⟩

theorem populateEvents_idx_hits_cases_two_runs :
    (twoRuns.runs.map Run.run).Nodup ∧
    ((∃ pop, populateEvents Psana.plain {} twoRuns (some (groupHits [(1, -2), (1, 2)])) =
        .ok pop) ∧ (∀ r ∈ twoRuns.runs, ¬HitOutOfRange (groupHits [(1, -2), (1, 2)]) r) ∨
      populateEvents Psana.plain {} twoRuns (some (groupHits [(1, -2), (1, 2)])) =
          .error .subscriptOutOfRange ∧
        ∃ r ∈ twoRuns.runs, HitOutOfRange (groupHits [(1, -2), (1, 2)]) r) :=
  ⟨by decide, populateEvents_idx_hits_cases Psana.plain (show ({} : Params).mode = .idx from rfl)
    twoRuns (by decide) _⟩

end Populate

end Dxtbx.Format.XTC
