/-
Finite maps that are filled by inserting a list of entries and emptied by
asking for some key and deleting it.  The key that is asked for is whatever
the map's owner hands out, and it may go through a lossy conversion before it
comes back as the key to delete.
-/
import Mathlib.Data.List.AList
import Mathlib.Tactic

namespace FiniteMap

universe u v

variable {κ : Type u} {ν : Type v} [DecidableEq κ]

/-- How the owner of a map picks a key: some key of it, and none exactly when
there is none. -/
structure FirstKey (κ : Type u) (ν : Type v) where
  get : AList (fun _ : κ => ν) → Option κ
  get_eq_none_iff : ∀ m, get m = none ↔ m = ∅
  mem_of_get : ∀ m k, get m = some k → k ∈ m

omit [DecidableEq κ] in
theorem eq_empty_of_keys {m : AList (fun _ : κ => ν)} (hkeys : m.keys = []) : m = ∅ := by
  apply AList.ext
  simpa [AList.keys, List.keys] using hkeys

/-- The owner that hands out the keys front to back. -/
def FirstKey.front : FirstKey κ ν where
  get m := m.keys.head?
  get_eq_none_iff m := by
    rw [List.head?_eq_none_iff]
    exact ⟨eq_empty_of_keys, fun h => h ▸ AList.keys_empty⟩
  mem_of_get m k hget := AList.mem_keys.2 (List.mem_of_head? hget)

theorem length_keys_erase_lt {m : AList (fun _ : κ => ν)} {k : κ} (hmem : k ∈ m) :
    (m.erase k).keys.length < m.keys.length := by
  rw [AList.keys_erase, List.length_erase_of_mem (AList.mem_keys.1 hmem)]
  have hpos := List.length_pos_of_mem (AList.mem_keys.1 hmem)
  omega

/-- Ask for a key, send it through `canon`, delete what comes back, and start
over; fail with the key that was handed out when there was nothing to delete. -/
def drainThrough (first : FirstKey κ ν) (canon : κ → κ) (m : AList (fun _ : κ => ν)) :
    Except κ Unit × AList (fun _ : κ => ν) :=
  match first.get m with
  | none => (.ok (), m)
  | some k =>
      if canon k ∈ m then drainThrough first canon (m.erase (canon k))
      else (.error k, m)
termination_by m.keys.length
decreasing_by exact length_keys_erase_lt ‹_›

section Drain

variable (first : FirstKey κ ν) {canon : κ → κ}

/-- When every key survives the conversion, draining ends with an empty map. -/
theorem drainThrough_of_canonical (m : AList (fun _ : κ => ν))
    (hcanon : ∀ k ∈ m, canon k = k) : (drainThrough first canon m).2 = ∅ := by
  fun_induction drainThrough first canon m with
  | case1 m hget => exact (first.get_eq_none_iff m).1 hget
  | case2 m k hget hmem ih =>
      apply ih
      intro key hkey
      exact hcanon key (AList.mem_erase.1 hkey).2
  | case3 m k hget hmem =>
      have hk := first.mem_of_get m k hget
      rw [hcanon k hk] at hmem
      exact absurd hk hmem

/-- A key the conversion changes is never deleted, since only converted keys
are. -/
theorem mem_drainThrough_of_not_canonical (hidem : ∀ k, canon (canon k) = canon k)
    {m : AList (fun _ : κ => ν)} {key : κ} (hmem : key ∈ m) (hkey : canon key ≠ key) :
    key ∈ (drainThrough first canon m).2 := by
  fun_induction drainThrough first canon m with
  | case1 m hget => exact hmem
  | case2 m k hget hk ih =>
      apply ih
      rw [AList.mem_erase]
      refine ⟨?_, hmem⟩
      intro heq
      exact hkey (by rw [heq, hidem])
  | case3 m k hget hk => exact hmem

/-- Draining empties a map exactly when every key survives the conversion. -/
theorem drainThrough_eq_empty_iff (hidem : ∀ k, canon (canon k) = canon k)
    (m : AList (fun _ : κ => ν)) :
    (drainThrough first canon m).2 = ∅ ↔ ∀ k ∈ m, canon k = k := by
  constructor
  · intro hempty k hk
    by_contra hkey
    have hleft := mem_drainThrough_of_not_canonical first hidem hk hkey
    rw [hempty] at hleft
    exact AList.notMem_empty k hleft
  · exact drainThrough_of_canonical first m

end Drain

/-- Insert the entries one after another. -/
def insertAll (m : AList (fun _ : κ => ν)) (entries : List (κ × ν)) :
    AList (fun _ : κ => ν) :=
  entries.foldl (fun m entry => m.insert entry.1 entry.2) m

@[simp] theorem insertAll_nil (m : AList (fun _ : κ => ν)) : insertAll m [] = m := rfl

@[simp] theorem insertAll_cons (m : AList (fun _ : κ => ν)) (entry : κ × ν)
    (entries : List (κ × ν)) :
    insertAll m (entry :: entries) = insertAll (m.insert entry.1 entry.2) entries := rfl

theorem insertAll_append (m : AList (fun _ : κ => ν)) (first second : List (κ × ν)) :
    insertAll m (first ++ second) = insertAll (insertAll m first) second := by
  simp [insertAll]

theorem mem_insertAll {m : AList (fun _ : κ => ν)} {entries : List (κ × ν)} {k : κ} :
    k ∈ insertAll m entries ↔ k ∈ m ∨ k ∈ entries.map Prod.fst := by
  induction entries generalizing m with
  | nil => simp
  | cons entry rest ih =>
      rw [insertAll_cons, ih, AList.mem_insert, List.map_cons, List.mem_cons]
      tauto

/-- With distinct keys, what is looked up is what was inserted. -/
theorem lookup_insertAll_empty {entries : List (κ × ν)}
    (hnodup : (entries.map Prod.fst).Nodup) {k : κ} {value : ν} :
    (insertAll (∅ : AList (fun _ : κ => ν)) entries).lookup k = some value ↔
      (k, value) ∈ entries := by
  induction entries using List.reverseRecOn with
  | nil => simp
  | append_singleton pre entry ih =>
      rw [List.map_append, List.nodup_append] at hnodup
      obtain ⟨hpre, _, hfresh⟩ := hnodup
      rw [insertAll_append, insertAll_cons, insertAll_nil, List.mem_append, List.mem_singleton]
      by_cases hk : k = entry.1
      · subst hk
        rw [AList.lookup_insert]
        constructor
        · intro heq
          exact Or.inr (by rw [← Option.some.inj heq])
        · rintro (hmem | heq)
          · exact absurd rfl (hfresh _ (List.mem_map_of_mem hmem) entry.1 (by simp))
          · rw [← heq]
      · rw [AList.lookup_insert_ne hk, ih hpre]
        constructor
        · exact Or.inl
        · rintro (hmem | heq)
          · exact hmem
          · exact absurd (congrArg Prod.fst heq) hk

/-- Filling a map under distinct keys. -/
theorem lookup_insertAll_map {keys : List κ} (hnodup : keys.Nodup) (f : κ → ν) (k : κ) :
    (insertAll (∅ : AList (fun _ : κ => ν)) (keys.map fun k => (k, f k))).lookup k =
      if k ∈ keys then some (f k) else none := by
  have hkeys : ((keys.map fun k => (k, f k)).map Prod.fst).Nodup := by
    simpa [Function.comp_def] using hnodup
  refine Option.ext fun value => ?_
  rw [lookup_insertAll_empty hkeys, List.mem_map]
  by_cases hk : k ∈ keys
  · simp [hk]
  · simp only [hk, Prod.mk.injEq, ↓reduceIte, reduceCtorEq, iff_false]
    rintro ⟨other, hother, rfl, -⟩
    exact hk hother

/-! Converting elements to entries and inserting them under distinct keys. -/

section Collect

universe w z

variable {ε : Type w} {α : Type z}

/-- Convert and insert one element after another, up to the first that does not
convert or that has the key of an earlier one. -/
def collect (convert : α → Except ε (κ × ν)) (duplicate : κ → ε) (m : AList (fun _ : κ => ν)) :
    List α → Except ε (AList (fun _ : κ => ν))
  | [] => .ok m
  | x :: rest =>
      match convert x with
      | .error e => .error e
      | .ok entry =>
          if entry.1 ∈ m then .error (duplicate entry.1)
          else collect convert duplicate (m.insert entry.1 entry.2) rest

/-- The entries that the elements convert to. -/
abbrev Converts (convert : α → Except ε (κ × ν)) (xs : List α) (entries : List (κ × ν)) : Prop :=
  List.Forall₂ (fun x entry => convert x = .ok entry) xs entries

variable {convert : α → Except ε (κ × ν)} {duplicate : κ → ε}

/-- Collecting succeeds exactly when every element converts and no key occurs
twice, and then it has inserted all entries. -/
theorem collect_eq_ok_iff {m m' : AList (fun _ : κ => ν)} {xs : List α} :
    collect convert duplicate m xs = .ok m' ↔
      ∃ entries, Converts convert xs entries ∧ (entries.map Prod.fst).Nodup ∧
        (∀ k ∈ entries.map Prod.fst, k ∉ m) ∧ m' = insertAll m entries := by
  induction xs generalizing m with
  | nil =>
      simp only [collect, Except.ok.injEq, Converts, List.forall₂_nil_left_iff, exists_eq_left,
        List.map_nil, List.nodup_nil, List.not_mem_nil, false_implies, implies_true, true_and,
        insertAll_nil]
      exact eq_comm
  | cons x rest ih =>
      rw [collect]
      cases hconvert : convert x with
      | error e => simp [Converts, List.forall₂_cons_left_iff, hconvert]
      | ok entry =>
          simp only [Converts, List.forall₂_cons_left_iff, hconvert, Except.ok.injEq]
          by_cases hmem : entry.1 ∈ m
          · simp only [hmem, ↓reduceIte, reduceCtorEq, false_iff, not_exists]
            rintro _ ⟨⟨other, entries, rfl, -, rfl⟩, -, hfresh, -⟩
            exact hfresh entry.1 (by simp) hmem
          · simp only [hmem, ↓reduceIte, ih]
            constructor
            · rintro ⟨entries, hrest, hnodup, hfresh, rfl⟩
              refine ⟨entry :: entries, ⟨entry, entries, rfl, hrest, rfl⟩, ?_, ?_, rfl⟩
              · rw [List.map_cons, List.nodup_cons]
                exact ⟨fun hk => hfresh _ hk (by simp [AList.mem_insert]), hnodup⟩
              · intro k hk
                rcases List.mem_cons.1 hk with rfl | hk
                · exact hmem
                · exact fun hin => hfresh k hk (AList.mem_insert _ |>.2 (Or.inr hin))
            · rintro ⟨_, ⟨other, entries, rfl, hrest, rfl⟩, hnodup, hfresh, rfl⟩
              rw [List.map_cons, List.nodup_cons] at hnodup
              refine ⟨entries, hrest, hnodup.2, ?_, rfl⟩
              intro k hk hin
              rcases (AList.mem_insert _).1 hin with rfl | hin
              · exact hnodup.1 hk
              · exact hfresh k (List.mem_cons_of_mem _ hk) hin

omit [DecidableEq κ] in
theorem exists_converts_iff {xs : List α} :
    (∃ entries, Converts convert xs entries) ↔ ∀ x ∈ xs, ∃ entry, convert x = .ok entry := by
  induction xs with
  | nil => simp [Converts]
  | cons x rest ih =>
      rw [List.forall_mem_cons, ← ih]
      constructor
      · rintro ⟨_, hall⟩
        obtain ⟨entry, entries, hentry, hrest, rfl⟩ := List.forall₂_cons_left_iff.1 hall
        exact ⟨⟨entry, hentry⟩, entries, hrest⟩
      · rintro ⟨⟨entry, hentry⟩, entries, hrest⟩
        exact ⟨entry :: entries, List.Forall₂.cons hentry hrest⟩

omit [DecidableEq κ] in
theorem Converts.mem_iff {xs : List α} {entries : List (κ × ν)}
    (hconverts : Converts convert xs entries) {entry : κ × ν} :
    entry ∈ entries ↔ ∃ x ∈ xs, convert x = .ok entry := by
  induction hconverts with
  | nil => simp
  | cons hentry hrest ih => simp [ih, hentry, eq_comm]

omit [DecidableEq κ] in
/-- A key that the elements had before they were converted. -/
theorem Converts.nodup_iff {β : Type z} {xs : List α} {entries : List (κ × ν)}
    (hconverts : Converts convert xs entries) {key : α → β} {name : κ → β}
    (hname : Function.Injective name)
    (hkey : ∀ x ∈ xs, ∀ entry, convert x = .ok entry → key x = name entry.1) :
    (entries.map Prod.fst).Nodup ↔ (xs.map key).Nodup := by
  have hmap : xs.map key = (entries.map Prod.fst).map name := by
    induction hconverts with
    | nil => rfl
    | cons hentry hrest ih =>
        rw [List.map_cons, List.map_cons, List.map_cons, hkey _ List.mem_cons_self _ hentry,
          ih fun x hx => hkey x (List.mem_cons_of_mem _ hx)]
  rw [hmap, List.nodup_map_iff hname]

end Collect

end FiniteMap
