/-
Collecting values in a map of lists, walking over the map in whatever order
its owner picks, and sorting a list by a key with the larger keys first.
-/
import UprobeStats.Lib.FiniteMap

namespace Grouping

universe u v

section Sorting

variable {α : Type u} {τ : Type v} [LinearOrder τ] (key : α → τ)

/-- The stable sort with larger keys first. -/
def descending (l : List α) : List α := l.mergeSort fun a b => decide (key b ≤ key a)

/-- Larger keys first, and no key twice. -/
def StrictlyDescending (l : List α) : Prop := l.Pairwise fun a b => key b < key a

theorem descending_perm (l : List α) : (descending key l).Perm l := List.mergeSort_perm l _

theorem pairwise_descending (l : List α) :
    (descending key l).Pairwise fun a b => key b ≤ key a := by
  have htrans : ∀ a b c : α, decide (key b ≤ key a) = true → decide (key c ≤ key b) = true →
      decide (key c ≤ key a) = true := by
    intro a b c hab hbc
    simp only [decide_eq_true_eq] at hab hbc ⊢
    exact hbc.trans hab
  have htotal : ∀ a b : α, (decide (key b ≤ key a) || decide (key a ≤ key b)) = true := by
    intro a b
    simp only [Bool.or_eq_true, decide_eq_true_eq]
    exact le_total (key b) (key a)
  have hsorted := List.pairwise_mergeSort htrans htotal l
  exact hsorted.imp of_decide_eq_true

/-- Distinct keys make the sorted list strictly descending. -/
theorem strictlyDescending_descending {l : List α}
    (hdistinct : l.Pairwise fun a b => key a ≠ key b) :
    StrictlyDescending key (descending key l) := by
  have hkeys : (descending key l).Pairwise fun a b => key a ≠ key b :=
    hdistinct.perm (descending_perm key l).symm fun hne => hne.symm
  exact ((pairwise_descending key l).and hkeys).imp fun h => lt_of_le_of_ne h.1 h.2.symm

/-- With distinct keys the order of the input does not matter. -/
theorem descending_eq_of_perm {l l' : List α} (hperm : l'.Perm l)
    (hdistinct : l.Pairwise fun a b => key a ≠ key b) : descending key l' = descending key l := by
  have hsorted := strictlyDescending_descending key hdistinct
  have hsorted' := strictlyDescending_descending key
    (hdistinct.perm hperm.symm fun hne => hne.symm)
  apply List.Perm.eq_of_pairwise _ hsorted' hsorted
  · exact (descending_perm key l').trans (hperm.trans (descending_perm key l).symm)
  · intro a b _ _ hab hba
    exact absurd hab hba.not_gt

variable {key}

/-- What follows an element of a strictly descending list is what has a
smaller key. -/
theorem StrictlyDescending.mem_after_iff {before after : List α} {x a : α}
    (hsorted : StrictlyDescending key (before ++ x :: after)) :
    a ∈ after ↔ a ∈ before ++ x :: after ∧ key a < key x := by
  obtain ⟨_, hfrom, hacross⟩ := List.pairwise_append.1 hsorted
  have hbelow := (List.pairwise_cons.1 hfrom).1
  constructor
  · intro hmem
    exact ⟨by simp [hmem], hbelow a hmem⟩
  · rintro ⟨hmem, hlt⟩
    rcases List.mem_append.1 hmem with hbefore | hmem
    · exact absurd (hacross a hbefore x List.mem_cons_self) hlt.not_gt
    · rcases List.mem_cons.1 hmem with rfl | hmem
      · exact absurd hlt (lt_irrefl _)
      · exact hmem

/-- The initial run of `p` in a strictly descending list: the elements that
have `p` together with all elements of larger key. -/
theorem StrictlyDescending.mem_takeWhile_iff {p : α → Bool} {l : List α} {a : α}
    (hsorted : StrictlyDescending key l) :
    a ∈ l.takeWhile p ↔ a ∈ l ∧ p a = true ∧ ∀ b ∈ l, key a < key b → p b = true := by
  induction l with
  | nil => simp
  | cons x l ih =>
      obtain ⟨hbelow, htail⟩ := List.pairwise_cons.1 hsorted
      by_cases hx : p x = true
      · rw [List.takeWhile_cons_of_pos hx, List.mem_cons, List.mem_cons, ih htail]
        constructor
        · rintro (rfl | ⟨hmem, ha, hlarger⟩)
          · refine ⟨.inl rfl, hx, ?_⟩
            intro b hb hlt
            rcases List.mem_cons.1 hb with rfl | hb
            · exact hx
            · exact absurd hlt (hbelow b hb).not_gt
          · refine ⟨.inr hmem, ha, ?_⟩
            intro b hb hlt
            rcases List.mem_cons.1 hb with rfl | hb
            · exact hx
            · exact hlarger b hb hlt
        · rintro ⟨rfl | hmem, ha, hlarger⟩
          · exact .inl rfl
          · exact .inr ⟨hmem, ha, fun b hb => hlarger b (List.mem_cons_of_mem x hb)⟩
      · rw [List.takeWhile_cons_of_neg hx]
        constructor
        · intro hmem
          cases hmem
        · rintro ⟨hmem, ha, hlarger⟩
          rcases List.mem_cons.1 hmem with rfl | hmem
          · exact absurd ha hx
          · exact absurd (hlarger x List.mem_cons_self (hbelow a hmem)) hx

end Sorting

section Groups

variable {κ : Type u} {α : Type v} [DecidableEq κ] (f : α → κ)

/-- Append to the list under a key, which starts out empty. -/
def pushAt (m : AList fun _ : κ => List α) (k : κ) (x : α) : AList fun _ : κ => List α :=
  m.insert k ((m.lookup k).getD [] ++ [x])

/-- Push every value under its own key. -/
def groupBy (xs : List α) : AList fun _ : κ => List α :=
  xs.foldl (fun m x => pushAt m (f x) x) ∅

theorem groupBy_append_singleton (xs : List α) (x : α) :
    groupBy f (xs ++ [x]) = pushAt (groupBy f xs) (f x) x := by
  simp [groupBy]

theorem mem_groupBy {xs : List α} {k : κ} : k ∈ groupBy f xs ↔ k ∈ xs.map f := by
  induction xs using List.reverseRecOn with
  | nil => simp [groupBy]
  | append_singleton xs x ih =>
      rw [groupBy_append_singleton, pushAt, AList.mem_insert, ih, List.map_append,
        List.mem_append, List.map_singleton, List.mem_singleton, or_comm]

/-- The list under a key holds the values with that key, in order. -/
theorem lookup_groupBy (xs : List α) (k : κ) :
    ((groupBy f xs).lookup k).getD [] = xs.filter (f · = k) := by
  induction xs using List.reverseRecOn with
  | nil => simp [groupBy]
  | append_singleton xs x ih =>
      rw [groupBy_append_singleton, pushAt, List.filter_append]
      by_cases hk : k = f x
      · subst hk
        rw [AList.lookup_insert, Option.getD_some, ih, List.filter_singleton]
        simp
      · rw [AList.lookup_insert_ne hk, ih, List.filter_singleton]
        simp [Ne.symm hk]

/-- An order in which the owner of a map walks over its entries. -/
structure Iteration (κ : Type u) (ν : Type v) where
  entries : AList (fun _ : κ => ν) → List (Σ _ : κ, ν)
  entries_perm : ∀ m, (entries m).Perm m.entries

namespace Iteration

/-- The order the entries are kept in. -/
def asStored : Iteration κ α where
  entries m := m.entries
  entries_perm _ := List.Perm.refl _

variable {f} (order : Iteration κ (List α))

def keys (m : AList fun _ : κ => List α) : List κ := (order.entries m).map Sigma.fst

def values (m : AList fun _ : κ => List α) : List (List α) := (order.entries m).map Sigma.snd

omit [DecidableEq κ] in
theorem keys_perm (m : AList fun _ : κ => List α) : (order.keys m).Perm m.keys :=
  (order.entries_perm m).map _

omit [DecidableEq κ] in
theorem nodup_keys (m : AList fun _ : κ => List α) : (order.keys m).Nodup :=
  m.keys_nodup.perm (order.keys_perm m).symm

theorem mem_keys_groupBy {xs : List α} {k : κ} :
    k ∈ order.keys (groupBy f xs) ↔ k ∈ xs.map f := by
  rw [(order.keys_perm _).mem_iff, ← AList.mem_keys, mem_groupBy]

/-- The walk over the groups of a list meets one group for each key. -/
theorem values_groupBy (xs : List α) :
    order.values (groupBy f xs) =
      (order.keys (groupBy f xs)).map fun k => xs.filter (f · = k) := by
  rw [values, keys, List.map_map]
  apply List.map_congr_left
  intro entry hentry
  have hlookup : (groupBy f xs).lookup entry.1 = some entry.2 :=
    AList.mem_lookup_iff.2 ((order.entries_perm _).mem_iff.1 hentry)
  have hgroup := lookup_groupBy f xs entry.1
  rw [hlookup] at hgroup
  exact hgroup

/-- Values that arrive in another order, and another walk over their groups,
change the order of the keys only. -/
theorem keys_groupBy_perm {xs xs' : List α} (hperm : xs'.Perm xs) (order' : Iteration κ (List α)) :
    (order'.keys (groupBy f xs')).Perm (order.keys (groupBy f xs)) := by
  rw [List.perm_ext_iff_of_nodup (order'.nodup_keys _) (order.nodup_keys _)]
  intro k
  rw [mem_keys_groupBy, mem_keys_groupBy, (hperm.map f).mem_iff]

end Iteration

variable {f}

/-- The groups of a list put together give the list back, up to its order. -/
theorem flatMap_filter_perm {keys : List κ} (hnodup : keys.Nodup) {xs : List α}
    (hkeys : ∀ x ∈ xs, f x ∈ keys) : (keys.flatMap fun k => xs.filter (f · = k)).Perm xs := by
  induction keys generalizing xs with
  | nil =>
      have hnil : xs = [] := List.eq_nil_iff_forall_not_mem.2 fun x hx => by simpa using hkeys x hx
      simp [hnil]
  | cons k keys ih =>
      rw [List.nodup_cons] at hnodup
      have hrest : (keys.flatMap fun k' => xs.filter (f · = k')) =
          keys.flatMap fun k' => (xs.filter fun x => !decide (f x = k)).filter (f · = k') := by
        apply List.flatMap_congr
        intro k' hk'
        have hne : k' ≠ k := fun heq => hnodup.1 (heq ▸ hk')
        rw [List.filter_filter]
        apply List.filter_congr
        intro x _
        by_cases hx : f x = k'
        · simp [hx, hne]
        · simp [hx]
      have hremaining : ∀ x ∈ xs.filter fun x => !decide (f x = k), f x ∈ keys := by
        intro x hx
        simp only [List.mem_filter, Bool.not_eq_eq_eq_not, Bool.not_true,
          decide_eq_false_iff_not] at hx
        exact (List.mem_cons.1 (hkeys x hx.1)).resolve_left hx.2
      rw [List.flatMap_cons, hrest]
      exact ((ih hnodup.2 hremaining).append_left _).trans (List.filter_append_perm _ xs)

end Groups

end Grouping
