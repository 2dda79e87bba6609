import Mathlib.Data.List.Nodup
import RowServe.Sql.Bind

/-!
# Places of bound names

Binding only ever appends, so the place of a name does not move once the name is bound.
What a list of parameters binds can therefore be written down first, and the places be
read off the final list.

Results:

* `bind_eq`: binding is adding a name and looking up its place.
* `place_addAll`: the place of a bound name does not change.
* `place_addAll_iff`: places are numbered from one, without gaps.
* `names_addAll_congr`: which names are bound does not depend on the values.
* `value?_addAll`: a name has the first value that is bound under it.
-/

namespace RowServe.Sql.Binds

/-- A parameter with the name it is bound under. -/
abbrev Named := String × Param

/-- The place of a name. -/
def place (b : Binds) (name : String) (cast : Option String) : Placeholder :=
  ⟨b.names.idxOf name + 1, cast⟩

/-- The parameters with one more; a name that is already bound keeps its value. -/
def add (b : Binds) (e : Named) : Binds := if e.1 ∈ b.names then b else b ++ [e]

/-- The parameters with several more, one after the other. -/
def addAll (b : Binds) (es : List Named) : Binds := es.foldl add b

@[simp] theorem addAll_nil (b : Binds) : b.addAll [] = b := rfl

@[simp] theorem addAll_cons (b : Binds) (e : Named) (es : List Named) :
    b.addAll (e :: es) = (b.add e).addAll es := rfl

theorem addAll_append (b : Binds) (es ds : List Named) :
    b.addAll (es ++ ds) = (b.addAll es).addAll ds := by
  unfold addAll
  rw [List.foldl_append]

/-! ## Names -/

theorem names_add (b : Binds) (e : Named) :
    (b.add e).names = if e.1 ∈ b.names then b.names else b.names ++ [e.1] := by
  unfold add
  split_ifs with h
  · rfl
  · simp [names]

theorem mem_names_add (b : Binds) (e : Named) (name : String) :
    name ∈ (b.add e).names ↔ name ∈ b.names ∨ name = e.1 := by
  rw [names_add]
  split_ifs with h
  · constructor
    · exact Or.inl
    · rintro (hb | rfl)
      · exact hb
      · exact h
  · simp

theorem mem_names_addAll (b : Binds) (es : List Named) (name : String) :
    name ∈ (b.addAll es).names ↔ name ∈ b.names ∨ ∃ e ∈ es, e.1 = name := by
  induction es generalizing b with
  | nil => simp
  | cons e es ih =>
    rw [addAll_cons, ih, mem_names_add]
    simp only [List.mem_cons, exists_eq_or_imp, eq_comm (a := name), or_assoc]

/-- The names that get bound depend on the names alone. -/
theorem names_add_congr {b c : Binds} (hb : b.names = c.names) {d e : Named} (hd : d.1 = e.1) :
    (b.add d).names = (c.add e).names := by
  rw [names_add, names_add, hb, hd]

theorem names_addAll_congr {b c : Binds} (hb : b.names = c.names) {ds es : List Named}
    (hd : ds.map (·.1) = es.map (·.1)) : (b.addAll ds).names = (c.addAll es).names := by
  induction ds generalizing b c es with
  | nil =>
    have : es = [] := by simpa using hd.symm
    rw [this]
    exact hb
  | cons d ds ih =>
    obtain ⟨e, es, rfl⟩ : ∃ e es', es = e :: es' :=
      List.exists_cons_of_ne_nil fun h => by simp [h] at hd
    simp only [List.map_cons, List.cons.injEq] at hd
    exact ih (names_add_congr hb hd.1) hd.2

/-! ## Places -/

theorem place_add {b : Binds} {name : String} (h : name ∈ b.names) (e : Named)
    (cast : Option String) : (b.add e).place name cast = b.place name cast := by
  unfold place
  rw [names_add]
  split_ifs
  · rfl
  · rw [List.idxOf_append_of_mem h]

theorem place_addAll {b : Binds} {name : String} (h : name ∈ b.names) (es : List Named)
    (cast : Option String) : (b.addAll es).place name cast = b.place name cast := by
  induction es generalizing b with
  | nil => rfl
  | cons e es ih =>
    have hadd : name ∈ (b.add e).names := (mem_names_add b e name).mpr (.inl h)
    rw [addAll_cons, ih hadd, place_add h]

/-- The place a name gets by being added, whatever is added behind it. -/
theorem place_add_self (b : Binds) (e : Named) (es : List Named) (cast : Option String) :
    ((b.add e).addAll es).place e.1 cast = (b.add e).place e.1 cast :=
  place_addAll ((mem_names_add b e e.1).mpr (.inr rfl)) es cast

theorem place_inj {b : Binds} {m n : String} (hm : m ∈ b.names) {s t : Option String}
    (h : (b.place m s).position = (b.place n t).position) : m = n := by
  unfold place at h
  exact (List.idxOf_inj hm).mp (by simpa using h)

theorem nodup_addAll {b : Binds} (h : b.names.Nodup) (es : List Named) :
    (b.addAll es).names.Nodup := by
  induction es generalizing b with
  | nil => exact h
  | cons e es ih =>
    refine ih ?_
    rw [names_add]
    split_ifs with he
    · exact h
    · refine List.nodup_append.mpr ⟨h, List.nodup_singleton _, ?_⟩
      rintro n hn m hm rfl
      exact he (List.mem_singleton.mp hm ▸ hn)

/-- The places of the names that are bound are numbered from one, without gaps. -/
theorem place_addAll_iff (es : List Named) (k : Nat) :
    (∃ e ∈ es, ((addAll [] es).place e.1 none).position = k) ↔
      1 ≤ k ∧ k ≤ (addAll [] es).length := by
  have hlength : (addAll [] es).names.length = (addAll [] es).length := List.length_map _
  have hnodup : (addAll [] es).names.Nodup := nodup_addAll (b := []) List.nodup_nil es
  constructor
  · rintro ⟨e, he, rfl⟩
    have hmem : e.1 ∈ (addAll [] es).names := (mem_names_addAll [] es e.1).mpr (.inr ⟨e, he, rfl⟩)
    have hlt := List.idxOf_lt_length_of_mem hmem
    dsimp only [place]
    omega
  · rintro ⟨hpos, hle⟩
    have hlt : k - 1 < (addAll [] es).names.length := by omega
    obtain ⟨e, he, hname⟩ := ((mem_names_addAll [] es _).mp (List.getElem_mem hlt)).resolve_left
      List.not_mem_nil
    refine ⟨e, he, ?_⟩
    dsimp only [place]
    rw [hname, hnodup.idxOf_getElem]
    omega

theorem bind_eq (b : Binds) (name : String) (value : Param) (cast : Option String) :
    b.bind name value cast = ((b.add (name, value)).place name cast, b.add (name, value)) := by
  unfold bind index?
  by_cases h : name ∈ b.names
  · have hidx : b.names.idxOf? name = some (b.names.idxOf name) := by
      rw [List.idxOf?_eq_some_iff]
      have hlt : b.names.idxOf name < b.names.length := List.idxOf_lt_length_of_mem h
      refine ⟨hlt, by simp, fun j hj => ?_⟩
      have := List.not_of_lt_findIdx (p := (· == name)) hj
      simpa using this
    have hadd : b.add (name, value) = b := if_pos h
    rw [hidx, hadd]
    rfl
  · have hidx : b.names.idxOf? name = none := List.idxOf?_eq_none_iff.mpr h
    have hadd : b.add (name, value) = b ++ [(name, value)] := if_neg h
    have hnames : (b ++ [(name, value)]).names = b.names ++ [name] := by simp [names]
    have hlen : b.names.length = b.length := by simp [names]
    rw [hidx, hadd]
    unfold place
    rw [hnames, List.idxOf_append_of_notMem h, hlen]
    simp

/-! ## Values -/

/-- The value a name has: that of the first entry with it. -/
def bound? (b : Binds) (name : String) : Option Param := (b.find? (·.1 = name)).map (·.2)

/-- The place of a bound name points at its value. -/
theorem value?_place (b : Binds) {name : String} (h : name ∈ b.names) (cast : Option String) :
    b.value? (b.place name cast) = b.bound? name := by
  induction b with
  | nil => simp [names] at h
  | cons e b ih =>
    by_cases he : e.1 = name
    · simp [value?, place, bound?, names, params, he]
    · have hb : name ∈ names b := by simpa [names, Ne.symm he] using h
      have := ih hb
      simpa [value?, place, bound?, names, params, he, List.idxOf_cons] using this

theorem bound?_add (b : Binds) (e : Named) (name : String) :
    (b.add e).bound? name = if name ∈ b.names then b.bound? name
      else if e.1 = name then some e.2 else none := by
  have hnone : name ∉ b.names → b.find? (·.1 = name) = none := by
    intro h
    rw [List.find?_eq_none]
    intro d hd heq
    exact h (List.mem_map.mpr ⟨d, hd, by simpa using heq⟩)
  have hsome : name ∈ b.names → ∃ d, b.find? (·.1 = name) = some d := by
    intro h
    obtain ⟨d, hd, hn⟩ := List.mem_map.mp h
    exact Option.isSome_iff_exists.mp (List.find?_isSome.mpr ⟨d, hd, by simpa using hn⟩)
  unfold add
  by_cases hname : name ∈ b.names
  · obtain ⟨d, hd⟩ := hsome hname
    rw [if_pos hname]
    split_ifs
    · rfl
    · simp [bound?, List.find?_append, hd]
  · rw [if_neg hname]
    split_ifs with he hn hn
    · exact absurd (hn ▸ he) hname
    · simp [bound?, hnone hname]
    · simp [bound?, List.find?_append, hnone hname, hn]
    · simp [bound?, List.find?_append, hnone hname, hn]

/-- What is added to a list keeps the value of a name that is bound, and otherwise
    decides it by the first entry of the name. -/
theorem bound?_addAll (b : Binds) (es : List Named) (name : String) :
    (b.addAll es).bound? name = if name ∈ b.names then b.bound? name
      else (es.find? (·.1 = name)).map (·.2) := by
  induction es generalizing b with
  | nil =>
    split_ifs with h
    · rfl
    · simp only [bound?, addAll_nil, List.find?_nil, Option.map_none, Option.map_eq_none_iff,
        List.find?_eq_none]
      intro d hd heq
      exact h (List.mem_map.mpr ⟨d, hd, by simpa using heq⟩)
  | cons e es ih =>
    rw [addAll_cons, ih]
    by_cases hb : name ∈ b.names
    · simp [mem_names_add, bound?_add, hb]
    · by_cases he : e.1 = name
      · simp [mem_names_add, bound?_add, hb, he]
      · simp [mem_names_add, hb, he, Ne.symm he]

/-- The place of a name in a list that starts empty points at the first value under it. -/
theorem value?_addAll {es : List Named} {e : Named} (h : es.find? (·.1 = e.1) = some e)
    (cast : Option String) :
    (addAll [] es).value? ((addAll [] es).place e.1 cast) = some e.2 := by
  have hmem : e.1 ∈ (addAll [] es).names :=
    (mem_names_addAll [] es e.1).mpr (.inr ⟨e, List.mem_of_find?_eq_some h, rfl⟩)
  rw [value?_place _ hmem, bound?_addAll, h]
  simp [names]

end RowServe.Sql.Binds
