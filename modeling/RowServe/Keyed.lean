/-!
# Entries sorted by key

A finite map from texts, kept as the list of its entries in increasing key order. Keys
are ordered by code points, which is also the order of their UTF-8 bytes. The order is
part of what the program shows: it decides how objects are written and in which order
their entries are visited.

Results:

* `find?_insert`, `find?_erase`, `find?_union`: what the operations do to a look-up.
* `sorted_insert`, `sorted_erase`, `sorted_ofList`: the operations keep the order.
-/

namespace RowServe

/-- Entries in increasing order of their keys. -/
abbrev Keyed (β : Type u) := List (String × β)

namespace Keyed

variable {β : Type u} {γ : Type v}

/-- Every key is less than the next one. -/
def Sorted (m : Keyed β) : Prop := m.Pairwise fun a b => a.1 < b.1

/-- The value under a key. -/
def find? (k : String) : Keyed β → Option β
  | [] => none
  | (k', v) :: m => if k = k' then some v else find? k m

/-- Does the map have the key? -/
def has (k : String) (m : Keyed β) : Bool := (m.find? k).isSome

/-- Puts a value under a key, in place of the value there before. -/
def insert (k : String) (v : β) : Keyed β → Keyed β
  | [] => [(k, v)]
  | (k', v') :: m =>
    if k < k' then (k, v) :: (k', v') :: m
    else if k = k' then (k, v) :: m
    else (k', v') :: insert k v m

/-- Removes a key. -/
def erase (k : String) : Keyed β → Keyed β
  | [] => []
  | (k', v) :: m => if k = k' then erase k m else (k', v) :: erase k m

/-- The keys, in order. -/
def keys (m : Keyed β) : List String := m.map (·.1)

/-- The map with the entries of a list; of entries with one key the last one counts. -/
def ofList (entries : List (String × β)) : Keyed β :=
  entries.foldl (fun m e => insert e.1 e.2 m) []

/-- Puts all entries of the second map over those of the first. -/
def union (m n : Keyed β) : Keyed β := n.foldl (fun m e => insert e.1 e.2 m) m

/-- Changes the values. -/
def mapValues (f : β → γ) (m : Keyed β) : Keyed γ := m.map fun e => (e.1, f e.2)

/-! ## Look-ups -/

@[simp] theorem find?_nil (k : String) : find? k ([] : Keyed β) = none := rfl

theorem find?_insert (m : Keyed β) (k k' : String) (v : β) :
    find? k' (insert k v m) = if k' = k then some v else find? k' m := by
  induction m with
  | nil => simp [insert, find?]
  | cons e m ih =>
    obtain ⟨l, w⟩ := e
    simp only [insert]
    split
    · simp [find?]
    · split
      · rename_i h
        subst h
        simp only [find?]
        split <;> simp_all
      · rename_i h
        simp only [find?]
        split
        · rename_i h'
          subst h'
          rw [if_neg (fun e => h e.symm)]
        · exact ih

theorem find?_erase (m : Keyed β) (k k' : String) :
    find? k' (erase k m) = if k' = k then none else find? k' m := by
  induction m with
  | nil => simp [erase]
  | cons e m ih =>
    obtain ⟨l, w⟩ := e
    simp only [erase, find?]
    split
    · rename_i h
      subst h
      rw [ih]
      split <;> simp_all
    · rename_i h
      simp only [find?]
      split
      · rename_i h'
        subst h'
        rw [if_neg (fun e => h e.symm)]
      · exact ih

theorem find?_eq_none_iff (m : Keyed β) (k : String) : find? k m = none ↔ k ∉ m.keys := by
  induction m with
  | nil => simp [keys]
  | cons e m ih =>
    obtain ⟨l, w⟩ := e
    simp only [find?, keys, List.map_cons, List.mem_cons]
    split
    · simp_all
    · simp_all [keys]

/-! ## Order -/

theorem mem_insert {m : Keyed β} {k : String} {v : β} {e : String × β}
    (h : e ∈ insert k v m) : e = (k, v) ∨ e ∈ m := by
  induction m with
  | nil => simpa [insert] using h
  | cons d m ih =>
    simp only [insert] at h
    split at h
    · simpa using h
    · split at h
      · rcases List.mem_cons.mp h with h | h
        · exact .inl h
        · exact .inr (List.mem_cons_of_mem _ h)
      · rcases List.mem_cons.mp h with h | h
        · exact .inr (h ▸ List.mem_cons_self)
        · rcases ih h with h | h
          · exact .inl h
          · exact .inr (List.mem_cons_of_mem _ h)

theorem sorted_insert {m : Keyed β} (hm : m.Sorted) (k : String) (v : β) :
    Sorted (insert k v m) := by
  induction m with
  | nil => simp [insert, Sorted]
  | cons e m ih =>
    obtain ⟨l, w⟩ := e
    obtain ⟨hl, hs⟩ := List.pairwise_cons.mp hm
    simp only [insert]
    split
    · rename_i h
      refine List.pairwise_cons.mpr ⟨?_, hm⟩
      intro a ha
      rcases List.mem_cons.mp ha with ha | ha
      · exact ha ▸ h
      · exact String.lt_trans h (hl a ha)
    · split
      · rename_i h
        subst h
        exact List.pairwise_cons.mpr ⟨hl, hs⟩
      · rename_i h1 h2
        refine List.pairwise_cons.mpr ⟨?_, ih hs⟩
        intro a ha
        rcases mem_insert ha with ha | ha
        · subst ha
          rcases Decidable.em (l < k) with h | h
          · exact h
          · exact absurd (String.le_antisymm (String.not_lt.mp h) (String.not_lt.mp h1)) h2
        · exact hl a ha

theorem erase_sublist (m : Keyed β) (k : String) : (erase k m).Sublist m := by
  induction m with
  | nil => exact .slnil
  | cons e m ih =>
    obtain ⟨l, w⟩ := e
    simp only [erase]
    split
    · exact ih.cons _
    · exact ih.cons_cons _

theorem sorted_erase {m : Keyed β} (hm : m.Sorted) (k : String) : Sorted (erase k m) :=
  hm.sublist (erase_sublist m k)

theorem sorted_union {m : Keyed β} (hm : m.Sorted) (n : List (String × β)) :
    Sorted (union m n) := by
  unfold union
  induction n generalizing m with
  | nil => exact hm
  | cons e n ih => exact ih (sorted_insert hm e.1 e.2)

theorem find?_eq_none_of_lt {m : Keyed β} {k : String} (h : ∀ e ∈ m, k < e.1) :
    m.find? k = none := by
  rw [find?_eq_none_iff]
  intro hk
  obtain ⟨e, he, rfl⟩ := List.mem_map.mp hk
  exact absurd (h e he) (String.lt_irrefl e.1)

theorem find?_union (m : Keyed β) {n : Keyed β} (hn : n.Sorted) (k : String) :
    find? k (union m n) = (find? k n).or (find? k m) := by
  unfold union
  induction n generalizing m with
  | nil => rfl
  | cons e n ih =>
    obtain ⟨he, hn⟩ := List.pairwise_cons.mp hn
    rw [List.foldl_cons, ih _ hn, find?_insert]
    by_cases hk : k = e.1
    · subst hk
      rw [find?_eq_none_of_lt he]
      simp [find?]
    · simp [find?, hk]

theorem sorted_ofList (entries : List (String × β)) : Sorted (ofList entries) :=
  sorted_union List.Pairwise.nil entries

end Keyed

end RowServe
