import Dxtbx.Format.XTC.Basic

/-!
# Hit indices

`_load_hit_indices` reads the hits file, lines `r h` of a run number and an event index in that
run, and groups the event indices by run: `np.loadtxt`, `sorted` by run, `itertools.groupby`,
then a dict comprehension.  `np.loadtxt` squeezes the array of a one-line file to one dimension,
and `tuple` of an element of that array raises, so a one-line file is refused.
-/

namespace Dxtbx.Format.XTC

/-- What `np.loadtxt(hits_file, int)` returns for the lines `r h` of a hits file: the 2-D array
of its rows, squeezed to a 1-D array for a file of one line or none. -/
inductive LoadedArray
  | vector (xs : List Int)
  | matrix (rows : List (Int × Int))

/-- `np.loadtxt(hits_file, int)` -/
def loadtxt : List (Int × Int) → LoadedArray
  | [] => .vector []
  | [(r, h)] => .vector [r, h]
  | lines => .matrix lines

/-- `list(map(tuple, hits))`: a row of a 2-D array becomes a pair, and `tuple` of an element of a
1-D array, a numpy scalar, raises `TypeError`. -/
def tupleRows : LoadedArray → Except PyError (List (Int × Int))
  | .vector [] => .ok []
  | .vector (_ :: _) => .error .notIterable
  | .matrix rows => .ok rows

/-- `{r: [ind for _, ind in group] for r, group in groupby(sorted(hits, key=key), key=key)}` -/
def groupHits (hits : List (Int × Int)) : PyDict Int (List Int) :=
  PyDict.ofList ((groupby Prod.fst (sortedBy Prod.fst hits)).map fun g ↦ (g.1, g.2.map Prod.snd))

/-- `_load_hit_indices`: the value it gives `_hit_inds`. -/
def loadHitIndices (p : Params) : Except PyError (Option (PyDict Int (List Int))) :=
  match p.hitsFile with
  | none => .ok none
  | some file => do
      if p.mode ≠ .idx then throw .assertionError
      let hits ← tupleRows (loadtxt file)
      pure (some (groupHits hits))

/-- A one-line hits file is refused with the `TypeError` of `tuple` on a numpy scalar. -/
theorem loadHitIndices_one_line (r h : Int) :
    loadHitIndices { hitsFile := some [(r, h)] } = .error .notIterable := rfl

/-- `d` groups the event indices of the hits `lines` by run: one key per run of the file, in
increasing order, each with the indices of its lines in file order, and no index lost or
repeated. -/
structure GroupsHits (lines : List (Int × Int)) (d : PyDict Int (List Int)) : Prop where
  keys_sorted : d.keys.Pairwise (· < ·)
  mem_keys : ∀ r, r ∈ d.keys ↔ ∃ h, (r, h) ∈ lines
  get?_eq : ∀ r ∈ d.keys, d.get? r = some ((lines.filter (·.1 = r)).map Prod.snd)
  perm : List.Perm (d.items.map Prod.snd).flatten (lines.map Prod.snd)

theorem groupHits_spec (hits : List (Int × Int)) : GroupsHits hits (groupHits hits) := by
  set gb := groupby Prod.fst (sortedBy Prod.fst hits)
  have hsorted := sorted_keys_groupby (sortedBy_sorted Prod.fst hits)
  have hitems : (groupHits hits).items = gb.map fun g ↦ (g.1, g.2.map Prod.snd) :=
    PyDict.items_ofList_of_nodup (by simpa [Function.comp_def] using hsorted.nodup)
  have hkeys : (groupHits hits).keys = gb.map Prod.fst := by
    simp [PyDict.keys, hitems, Function.comp_def]
  refine ⟨by simpa [hkeys] using hsorted, fun r ↦ ?_, fun r hr ↦ ?_, ?_⟩
  · rw [hkeys, mem_keys_groupby]
    simp [(sortedBy_perm Prod.fst hits).mem_iff]
  · obtain ⟨g, hg, rfl⟩ := List.mem_map.1 (hkeys ▸ hr)
    rw [PyDict.get?_eq_some_of_mem (by rw [hitems]; exact List.mem_map_of_mem _ hg),
      snd_eq_filter_of_mem_groupby (sortedBy_sorted Prod.fst hits) hg, filter_sortedBy]
  · have hflat : ((groupHits hits).items.map Prod.snd).flatten = (sortedBy Prod.fst hits).map Prod.snd := by
      conv_rhs => rw [← flatten_groupby Prod.fst (sortedBy Prod.fst hits)]
      simp [hitems, List.map_flatten, Function.comp_def]
    rw [hflat]
    exact (sortedBy_perm Prod.fst hits).map _

theorem loadHitIndices_eq {p : Params} {lines : List (Int × Int)}
    (hfile : p.hitsFile = some lines) (hmode : p.mode = .idx) (hk : lines.length ≠ 1) :
    loadHitIndices p = .ok (some (groupHits lines)) := by
  match lines, hk with
  | [], _ => simp [loadHitIndices, hfile, hmode, loadtxt, tupleRows]
  | a :: b :: rest, _ => simp [loadHitIndices, hfile, hmode, loadtxt, tupleRows]

/-- For a file of any length but one, in idx mode, `_hit_inds` groups the file's event indices
by run. -/
theorem loadHitIndices_groups {p : Params} {lines : List (Int × Int)}
    (hfile : p.hitsFile = some lines) (hmode : p.mode = .idx) (hk : lines.length ≠ 1) :
    ∃ d, loadHitIndices p = .ok (some d) ∧ GroupsHits lines d :=
  ⟨groupHits lines, loadHitIndices_eq hfile hmode hk, groupHits_spec lines⟩

theorem loadHitIndices_groups_two_runs :
    ∃ d, loadHitIndices { hitsFile := some [(7, 4), (5, 1), (7, 2)] } = .ok (some d) ∧
      GroupsHits [(7, 4), (5, 1), (7, 2)] d :=
  loadHitIndices_groups rfl rfl (by decide)

end Dxtbx.Format.XTC
