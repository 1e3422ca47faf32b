import Mathlib.Data.List.Sort
import Mathlib.Data.Nat.Cast.Order.Ring
import Mathlib.Algebra.Order.Ring.Int
import Mathlib.Tactic.SplitIfs
import Mathlib.Tactic.Set

/-!
# The Python runtime under the XTC reader

The parts of Python and its standard library that `FormatXTC` leans on: exceptions, list
subscripts with negative indices, insertion-ordered `dict`s, `sorted` with a key, and
`itertools.groupby`.  A method that raises keeps the attribute writes it made before the raise,
so the reader's methods run in `EStateM PyError`, whose errors carry the state.
-/

namespace Dxtbx

/-- The exceptions the modelled code can raise, with the messages the source gives them. -/
inductive PyError
  | indexError (msg : String)
  /-- The `IndexError` of a list or tuple subscript out of range. -/
  | subscriptOutOfRange
  /-- `UnboundLocalError` on reading the local `name` before any assignment to it. -/
  | unboundLocal (name : String)
  /-- The `TypeError` of `tuple(x)` on a numpy scalar, which is not iterable. -/
  | notIterable
  | runtimeError (msg : String)
  | assertionError
  /-- The `AttributeError` of reading the attribute `name` of an object that lacks it. -/
  | attributeError (name : String)
  /-- A `TypeError` of an operator on operands it does not take. -/
  | typeError (msg : String)
  deriving DecidableEq, Repr

/-! ## Subscripts -/

/-- `xs[i]` on a Python list or tuple: a negative index counts from the end. -/
def getItem {α : Type} (xs : List α) (i : Int) : Except PyError α :=
  let j := if i < 0 then i + xs.length else i
  if 0 ≤ j then
    match xs[j.toNat]? with
    | some a => .ok a
    | none => .error .subscriptOutOfRange
  else .error .subscriptOutOfRange

theorem getItem_of_lt {α : Type} {xs : List α} {n : Nat} (h : n < xs.length) :
    getItem xs n = .ok xs[n] := by
  have hn : ¬((n : Int) < 0) := by omega
  simp [getItem, hn, h]

/-- `xs[i]` returns exactly for `i` in `[-len(xs), len(xs))`, and raises its `IndexError`
everywhere else. -/
theorem getItem_cases {α : Type} (xs : List α) (i : Int) :
    (∃ a, getItem xs i = .ok a) ∧ -(xs.length : Int) ≤ i ∧ i < xs.length ∨
      getItem xs i = .error .subscriptOutOfRange ∧ ¬(-(xs.length : Int) ≤ i ∧ i < xs.length) := by
  unfold getItem
  dsimp only
  split_ifs with h0 h1 h1
  · have hlt : (i + xs.length).toNat < xs.length := by omega
    exact .inl ⟨⟨xs[(i + xs.length).toNat], by simp [hlt]⟩, by omega, by omega⟩
  · exact .inr ⟨rfl, by omega⟩
  · by_cases hlt : i.toNat < xs.length
    · exact .inl ⟨⟨xs[i.toNat], by simp [hlt]⟩, by omega, by omega⟩
    · exact .inr ⟨by simp [List.getElem?_eq_none (by omega : xs.length ≤ i.toNat)], by omega⟩
  · exact .inr ⟨rfl, by omega⟩

/-! ## Dictionaries -/

/-- Assignment `d[k] = v` on the items of a `dict`: a key already there keeps its place. -/
def setItem {K V : Type} [DecidableEq K] : List (K × V) → K → V → List (K × V)
  | [], k, v => [(k, v)]
  | (k', v') :: rest, k, v =>
      if k' = k then (k, v) :: rest else (k', v') :: setItem rest k v

/-- `d[k]` on the items of a `dict`; `none` where Python raises `KeyError`. -/
def lookupItem {K V : Type} [DecidableEq K] : List (K × V) → K → Option V
  | [], _ => none
  | (k', v') :: rest, k => if k' = k then some v' else lookupItem rest k

section Items

variable {K V : Type} [DecidableEq K]

theorem keys_setItem (l : List (K × V)) (k : K) (v : V) :
    (setItem l k v).map Prod.fst =
      if k ∈ l.map Prod.fst then l.map Prod.fst else l.map Prod.fst ++ [k] := by
  induction l with
  | nil => simp [setItem]
  | cons p rest ih =>
      obtain ⟨k', v'⟩ := p
      by_cases hk : k' = k
      · simp [setItem, hk]
      · by_cases hmem : k ∈ rest.map Prod.fst <;>
          simp [setItem, hk, ih, hmem, Ne.symm hk]

theorem setItem_of_not_mem {l : List (K × V)} {k : K} (h : k ∉ l.map Prod.fst) (v : V) :
    setItem l k v = l ++ [(k, v)] := by
  induction l with
  | nil => rfl
  | cons p rest ih =>
      obtain ⟨k', v'⟩ := p
      have hk : k' ≠ k := fun e ↦ h (by simp [e])
      simp only [List.map_cons, List.mem_cons, not_or] at h
      simp [setItem, hk, ih h.2]

theorem nodup_keys_setItem {l : List (K × V)} (h : (l.map Prod.fst).Nodup) (k : K) (v : V) :
    ((setItem l k v).map Prod.fst).Nodup := by
  rw [keys_setItem]
  split
  · exact h
  · rename_i hk
    exact h.append (List.nodup_singleton k) (List.disjoint_singleton.mpr hk)

theorem lookupItem_setItem (l : List (K × V)) (k k' : K) (v : V) :
    lookupItem (setItem l k v) k' = if k = k' then some v else lookupItem l k' := by
  induction l with
  | nil => simp [setItem, lookupItem]
  | cons p rest ih =>
      obtain ⟨a, b⟩ := p
      by_cases ha : a = k
      · subst ha; by_cases h' : a = k' <;> simp [setItem, lookupItem, h']
      · by_cases h' : a = k'
        · subst h'; simp [setItem, lookupItem, ha, Ne.symm ha]
        · simp [setItem, lookupItem, ha, h', ih]

theorem lookupItem_eq_none_iff (l : List (K × V)) (k : K) :
    lookupItem l k = none ↔ k ∉ l.map Prod.fst := by
  induction l with
  | nil => simp [lookupItem]
  | cons p rest ih =>
      obtain ⟨a, b⟩ := p
      by_cases h : a = k
      · simp [lookupItem, h]
      · simp [lookupItem, h, ih, Ne.symm h]

theorem mem_setItem {l : List (K × V)} {k : K} {v : V} {p : K × V} (h : p ∈ setItem l k v) :
    p ∈ l ∨ p = (k, v) := by
  induction l with
  | nil => simpa [setItem] using h
  | cons q rest ih =>
      obtain ⟨a, b⟩ := q
      unfold setItem at h
      split at h <;> simp only [List.mem_cons] at h
      · rcases h with rfl | h
        · exact .inr rfl
        · exact .inl (List.mem_cons_of_mem _ h)
      · rcases h with rfl | h
        · exact .inl (List.mem_cons_self _ _)
        · exact (ih h).imp_left (List.mem_cons_of_mem _)

theorem lookupItem_of_mem {l : List (K × V)} (h : (l.map Prod.fst).Nodup) {k : K} {v : V}
    (hkv : (k, v) ∈ l) : lookupItem l k = some v := by
  induction l with
  | nil => simp at hkv
  | cons p rest ih =>
      obtain ⟨a, b⟩ := p
      simp only [List.map_cons, List.nodup_cons] at h
      rcases List.mem_cons.1 hkv with hp | hkv
      · simp only [Prod.mk.injEq] at hp
        simp [lookupItem, hp.1, hp.2]
      · have hak : a ≠ k := fun e ↦ h.1 (e ▸ List.mem_map_of_mem Prod.fst hkv)
        simp [lookupItem, hak, ih h.2 hkv]

end Items

/-- A Python `dict`: its items in insertion order, no key twice. -/
structure PyDict (K V : Type) [DecidableEq K] where
  items : List (K × V)
  nodup_keys : (items.map Prod.fst).Nodup

namespace PyDict

variable {K V : Type} [DecidableEq K]

/-- `{}` -/
def empty : PyDict K V := ⟨[], List.nodup_nil⟩

/-- The keys in iteration order, `list(d)`. -/
def keys (d : PyDict K V) : List K := d.items.map Prod.fst

/-- `d[k] = v` -/
def insert (d : PyDict K V) (k : K) (v : V) : PyDict K V :=
  ⟨setItem d.items k v, nodup_keys_setItem d.nodup_keys k v⟩

/-- `d[k]`, or `none` where Python raises `KeyError`. -/
def get? (d : PyDict K V) (k : K) : Option V := lookupItem d.items k

/-- A dict display or comprehension `{k: v for (k, v) in l}`: a repeated key keeps its first
place and its last value. -/
def ofList (l : List (K × V)) : PyDict K V :=
  l.foldl (fun d p ↦ d.insert p.1 p.2) empty

@[simp] theorem items_empty : (empty : PyDict K V).items = [] := rfl

@[simp] theorem keys_empty : (empty : PyDict K V).keys = [] := rfl

@[simp] theorem get?_empty (k : K) : (empty : PyDict K V).get? k = none := rfl

theorem keys_nodup (d : PyDict K V) : d.keys.Nodup := d.nodup_keys

@[simp] theorem items_insert (d : PyDict K V) (k : K) (v : V) :
    (d.insert k v).items = setItem d.items k v := rfl

theorem keys_insert (d : PyDict K V) (k : K) (v : V) :
    (d.insert k v).keys = if k ∈ d.keys then d.keys else d.keys ++ [k] :=
  keys_setItem d.items k v

theorem items_insert_of_not_mem {d : PyDict K V} {k : K} (h : k ∉ d.keys) (v : V) :
    (d.insert k v).items = d.items ++ [(k, v)] :=
  setItem_of_not_mem h v

@[simp] theorem get?_insert (d : PyDict K V) (k k' : K) (v : V) :
    (d.insert k v).get? k' = if k = k' then some v else d.get? k' :=
  lookupItem_setItem d.items k k' v

theorem get?_eq_some_of_mem {d : PyDict K V} {k : K} {v : V} (h : (k, v) ∈ d.items) :
    d.get? k = some v :=
  lookupItem_of_mem d.nodup_keys h

theorem get?_eq_none_iff (d : PyDict K V) (k : K) : d.get? k = none ↔ k ∉ d.keys :=
  lookupItem_eq_none_iff d.items k

/-- Every item of a dict comprehension comes from its source. -/
theorem mem_ofList {l : List (K × V)} {p : K × V} (h : p ∈ (ofList l).items) : p ∈ l := by
  suffices ∀ (d : PyDict K V), p ∈ (l.foldl (fun d q ↦ d.insert q.1 q.2) d).items →
      p ∈ d.items ∨ p ∈ l from (this empty h).resolve_left (by simp)
  clear h
  induction l with
  | nil => exact fun d h ↦ .inl h
  | cons q rest ih =>
      intro d hp
      rcases ih (d.insert q.1 q.2) hp with hp | hp
      · rcases mem_setItem hp with hp | rfl
        · exact .inl hp
        · exact .inr (List.mem_cons_self _ _)
      · exact .inr (List.mem_cons_of_mem _ hp)

theorem items_ofList_of_nodup {l : List (K × V)} (h : (l.map Prod.fst).Nodup) :
    (ofList l).items = l := by
  suffices ∀ (d : PyDict K V), (∀ k ∈ l.map Prod.fst, k ∉ d.keys) →
      (l.foldl (fun d p ↦ d.insert p.1 p.2) d).items = d.items ++ l from
    by simpa using this empty (by simp)
  induction l with
  | nil => simp
  | cons p rest ih =>
      intro d hfresh
      simp only [List.map_cons, List.nodup_cons, List.mem_cons, forall_eq_or_imp] at h hfresh
      have hrest : ∀ k ∈ rest.map Prod.fst, k ∉ (d.insert p.1 p.2).keys := by
        intro k hk
        rw [keys_insert, if_neg hfresh.1]
        simpa [ne_of_mem_of_not_mem hk h.1] using hfresh.2 k hk
      rw [List.foldl_cons, ih h.2 _ hrest, items_insert_of_not_mem hfresh.1]
      simp

end PyDict

/-! ## Methods that raise -/

/-- The state a method leaves, whether it returned or raised. -/
def resultState {ε σ α : Type} : EStateM.Result ε σ α → σ
  | .ok _ s => s
  | .error _ s => s

/-- The value a method returns, or the exception it raises. -/
def resultValue {ε σ α : Type} : EStateM.Result ε σ α → Except ε α
  | .ok a _ => .ok a
  | .error e _ => .error e

@[simp] theorem resultValue_ok {ε σ α : Type} (a : α) (s : σ) :
    resultValue (.ok a s : EStateM.Result ε σ α) = .ok a := rfl

@[simp] theorem resultValue_error {ε σ α : Type} (e : ε) (s : σ) :
    resultValue (.error e s : EStateM.Result ε σ α) = .error e := rfl

@[simp] theorem resultState_ok {ε σ α : Type} (a : α) (s : σ) :
    resultState (.ok a s : EStateM.Result ε σ α) = s := rfl

@[simp] theorem resultState_error {ε σ α : Type} (e : ε) (s : σ) :
    resultState (.error e s : EStateM.Result ε σ α) = s := rfl

/-! ## `sorted` and `itertools.groupby` -/

/-- `sorted(xs, key=key)`: Python's sort is stable, as is `List.mergeSort`. -/
def sortedBy {α : Type} (key : α → Int) (xs : List α) : List α :=
  xs.mergeSort fun a b ↦ decide (key a ≤ key b)

/-- `itertools.groupby(xs, key)`: the maximal runs of consecutive elements with one key, each
with that key. -/
def groupby {α β : Type} [DecidableEq β] (key : α → β) : List α → List (β × List α)
  | [] => []
  | a :: xs =>
      match groupby key xs with
      | [] => [(key a, [a])]
      | (k, g) :: gs => if key a = k then (k, a :: g) :: gs else (key a, [a]) :: (k, g) :: gs

section Sorting

variable {α : Type} (key : α → Int)

theorem sortedBy_perm (xs : List α) : List.Perm (sortedBy key xs) xs := List.mergeSort_perm _ _

theorem sortedBy_sorted (xs : List α) :
    (sortedBy key xs).Pairwise fun a b ↦ key a ≤ key b := by
  have h : (sortedBy key xs).Pairwise fun a b ↦ decide (key a ≤ key b) :=
    List.sorted_mergeSort (fun a b c hab hbc ↦ by simp only [decide_eq_true_eq] at *; omega)
      (fun a b ↦ by simpa using Int.le_total (key a) (key b)) xs
  simpa using h

/-- `sorted` is stable: the elements with one key keep their order. -/
theorem filter_sortedBy (xs : List α) (k : Int) :
    (sortedBy key xs).filter (fun a ↦ key a = k) = xs.filter (fun a ↦ key a = k) := by
  have hsub : List.Sublist (xs.filter (fun a ↦ key a = k)) (sortedBy key xs) :=
    List.sublist_mergeSort (fun a b c hab hbc ↦ by simp only [decide_eq_true_eq] at *; omega)
      (fun a b ↦ by simpa using Int.le_total (key a) (key b))
      (List.pairwise_of_forall_mem_list fun a ha b hb ↦ by
        simp only [List.mem_filter, decide_eq_true_eq] at ha hb; simp [ha.2, hb.2])
      (List.filter_sublist _)
  have hsub' := hsub.filter (fun a ↦ key a = k)
  simp only [List.filter_filter, Bool.and_self] at hsub'
  exact (hsub'.eq_of_length ((sortedBy_perm key xs).filter _).length_eq.symm).symm

end Sorting

section Grouping

variable {α : Type} (key : α → Int)

theorem flatten_groupby (xs : List α) : ((groupby key xs).map Prod.snd).flatten = xs := by
  induction xs with
  | nil => rfl
  | cons a xs ih =>
      unfold groupby
      split
      · rename_i h; simp_all
      · rename_i k g gs h
        rw [h] at ih
        split <;> simp_all

theorem key_eq_of_mem_groupby {xs : List α} {p : Int × List α} (hp : p ∈ groupby key xs) :
    ∀ a ∈ p.2, key a = p.1 := by
  induction xs generalizing p with
  | nil => simp [groupby] at hp
  | cons a xs ih =>
      unfold groupby at hp
      split at hp
      · simp_all
      · rename_i k g gs h
        have hg := @ih (k, g) (by simp [h])
        split at hp <;> simp only [List.mem_cons] at hp
        · rcases hp with rfl | hp
          · simp_all
          · exact ih (by simp [h, hp])
        · rcases hp with rfl | rfl | hp
          · simp
          · exact hg
          · exact ih (by simp [h, hp])

theorem ne_nil_of_mem_groupby {xs : List α} {p : Int × List α} (hp : p ∈ groupby key xs) :
    p.2 ≠ [] := by
  induction xs generalizing p with
  | nil => simp [groupby] at hp
  | cons a xs ih =>
      unfold groupby at hp
      split at hp
      · simp_all
      · rename_i k g gs h
        split at hp <;> simp only [List.mem_cons] at hp
        · rcases hp with rfl | hp
          · simp
          · exact ih (by simp [h, hp])
        · rcases hp with rfl | rfl | hp
          · simp
          · exact ih (by simp [h])
          · exact ih (by simp [h, hp])

theorem mem_keys_groupby {xs : List α} {k : Int} :
    k ∈ (groupby key xs).map Prod.fst ↔ ∃ a ∈ xs, key a = k := by
  have hmem : ∀ a, a ∈ xs ↔ ∃ l ∈ (groupby key xs).map Prod.snd, a ∈ l := fun a ↦ by
    conv_lhs => rw [← flatten_groupby key xs]
    exact List.mem_flatten
  constructor
  · intro hk
    obtain ⟨p, hp, rfl⟩ := List.mem_map.1 hk
    obtain ⟨a, ha⟩ := List.exists_mem_of_ne_nil _ (ne_nil_of_mem_groupby key hp)
    exact ⟨a, (hmem a).2 ⟨p.2, List.mem_map_of_mem _ hp, ha⟩, key_eq_of_mem_groupby key hp a ha⟩
  · rintro ⟨a, ha, rfl⟩
    obtain ⟨l, hl, hal⟩ := (hmem a).1 ha
    obtain ⟨p, hp, rfl⟩ := List.mem_map.1 hl
    exact List.mem_map.2 ⟨p, hp, (key_eq_of_mem_groupby key hp a hal).symm⟩

variable {key}

/-- On a list sorted by key, `groupby` makes one group per key, in increasing key order. -/
theorem sorted_keys_groupby {xs : List α} (h : xs.Pairwise fun a b ↦ key a ≤ key b) :
    ((groupby key xs).map Prod.fst).Pairwise (· < ·) := by
  induction xs with
  | nil => simp [groupby]
  | cons a xs ih =>
      rw [List.pairwise_cons] at h
      have hle : ∀ k ∈ (groupby key xs).map Prod.fst, key a ≤ k := fun k hk ↦ by
        obtain ⟨b, hb, rfl⟩ := (mem_keys_groupby key).1 hk
        exact h.1 b hb
      have ih := ih h.2
      unfold groupby
      split
      · simp
      · rename_i k g gs hgs
        rw [hgs] at ih hle
        simp only [List.map_cons, List.pairwise_cons, List.mem_cons, forall_eq_or_imp] at ih hle
        split
        · simpa [ih.2] using ih.1
        · rename_i hk
          simp only [List.map_cons, List.pairwise_cons, List.mem_cons, forall_eq_or_imp]
          refine ⟨⟨by omega, fun k' hk' ↦ by have := ih.1 k' hk'; omega⟩, ih⟩

/-- On a list sorted by key, each group holds exactly the elements with its key, in order. -/
theorem snd_eq_filter_of_mem_groupby {xs : List α} (h : xs.Pairwise fun a b ↦ key a ≤ key b)
    {p : Int × List α} (hp : p ∈ groupby key xs) : p.2 = xs.filter (fun a ↦ key a = p.1) := by
  induction xs generalizing p with
  | nil => simp [groupby] at hp
  | cons a xs ih =>
      rw [List.pairwise_cons] at h
      have hlt := sorted_keys_groupby h.2
      unfold groupby at hp
      split at hp
      · rename_i hnil
        have hxs : xs = [] := by simpa [hnil] using (flatten_groupby key xs).symm
        subst hxs
        simp only [List.mem_singleton] at hp
        simp [hp]
      · rename_i k g gs hgs
        rw [hgs] at hlt
        simp only [List.map_cons, List.pairwise_cons] at hlt
        have hge : ∀ b ∈ xs, k ≤ key b := fun b hb ↦ by
          have hb' : b ∈ ((groupby key xs).map Prod.snd).flatten := by
            rwa [flatten_groupby]
          obtain ⟨l, hl, hbq⟩ := List.mem_flatten.1 hb'
          obtain ⟨q, hq, rfl⟩ := List.mem_map.1 hl
          rw [key_eq_of_mem_groupby key hq b hbq]
          rw [hgs, List.mem_cons] at hq
          rcases hq with rfl | hq
          · exact le_refl _
          · exact le_of_lt (hlt.1 _ (List.mem_map_of_mem _ hq))
        have hka : key a ≤ k := by
          obtain ⟨b, hb, hbk⟩ :=
            (mem_keys_groupby key).1 (show k ∈ (groupby key xs).map Prod.fst by simp [hgs])
          exact hbk ▸ h.1 b hb
        have hrest : ∀ q ∈ gs, key a < q.1 := fun q hq ↦
          lt_of_le_of_lt hka (hlt.1 _ (List.mem_map_of_mem _ hq))
        have hgs_eq : ∀ q ∈ gs, q.2 = xs.filter (fun b ↦ key b = q.1) := fun q hq ↦
          ih h.2 (by simp [hgs, hq])
        have hg : g = xs.filter (fun b ↦ key b = k) :=
          ih h.2 (show (k, g) ∈ groupby key xs by simp [hgs])
        split at hp
        · rename_i hk
          rcases List.mem_cons.1 hp with rfl | hp
          · simp [hg, hk]
          · rw [hgs_eq p hp, List.filter_cons_of_neg (by have := hrest p hp; simp; omega)]
        · rename_i hk
          simp only [List.mem_cons] at hp
          rcases hp with rfl | rfl | hp
          · rw [List.filter_cons_of_pos (by simp), List.filter_eq_nil_iff.2
              (fun b hb ↦ by have := hge b hb; simp; omega)]
          · rw [List.filter_cons_of_neg (by simpa using hk)]; exact hg
          · rw [hgs_eq p hp, List.filter_cons_of_neg (by have := hrest p hp; simp; omega)]

end Grouping

end Dxtbx
