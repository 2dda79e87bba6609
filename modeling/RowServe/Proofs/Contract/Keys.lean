import Mathlib.Data.List.Basic
import RowServe.Contract.Validate

/-!
# Keys of checked objects

A contract loses no keys: what comes in is either found valid or told as an error. The
errors only grow while the fields are checked, so the last state tells of all of them. A
complete contract may add what is missing; all other values come from the input.

Results:

* `checkValue_error`: a refused value comes with something to say.
* `check_keys`: every key of the input is valid or has an error.
* `check_source`: where the valid values come from.
* `check_valid_keys`: every valid key is one of the input, and a field.
* `checkValue_obj`: objects within objects lose no keys either.
-/

namespace RowServe

/-- The error says something. -/
def FieldError.Speaks : FieldError → Prop
  | .messages texts => texts ≠ []
  | .nested _ => True

namespace Keyed

variable {β : Type}

theorem has_insert (m : Keyed β) (k k' : String) (v : β) :
    has k' (insert k v m) = true ↔ k' = k ∨ has k' m = true := by
  unfold has
  rw [find?_insert]
  by_cases h : k' = k
  · simp [h]
  · simp [h]

theorem has_iff_mem_keys (m : Keyed β) (k : String) : has k m = true ↔ k ∈ m.keys := by
  unfold has
  rw [Option.isSome_iff_ne_none, Ne, find?_eq_none_iff, not_not]

theorem has_union (m n : Keyed β) (k : String) :
    has k (union m n) = true ↔ has k m = true ∨ has k n = true := by
  unfold union
  induction n generalizing m with
  | nil => simp [has]
  | cons e n ih =>
    rw [List.foldl_cons, ih, has_insert]
    have hcons : has k (e :: n) = true ↔ k = e.1 ∨ has k n = true := by
      unfold has
      by_cases h : k = e.1
      · simp [find?, h]
      · simp [find?, h]
    rw [hcons]
    constructor
    · rintro ((rfl | h) | h)
      · exact .inr (.inl rfl)
      · exact .inl h
      · exact .inr (.inr h)
    · rintro (h | rfl | h)
      · exact .inl (.inr h)
      · exact .inl (.inl rfl)
      · exact .inr h

theorem mem_of_find? {m : Keyed β} {k : String} {v : β} (h : m.find? k = some v) : (k, v) ∈ m := by
  induction m with
  | nil => contradiction
  | cons e m ih =>
    unfold find? at h
    split_ifs at h with hk
    · rw [hk, ← Option.some.inj h]
      exact List.mem_cons_self
    · exact List.mem_cons_of_mem e (ih h)

theorem find?_filter (m : Keyed β) (p : String → Bool) (k : String) :
    find? k (m.filter fun e => p e.1) = if p k then find? k m else none := by
  induction m with
  | nil => simp
  | cons e m ih =>
    rw [List.filter_cons]
    by_cases hk : k = e.1
    · subst hk
      by_cases hp : p e.1 = true
      · simp [find?, hp]
      · simp [ih, hp]
    · by_cases hp : p e.1 = true
      · simp [find?, hp, hk, ih]
      · simp [find?, hp, hk, ih]

theorem has_filter (m : Keyed β) (p : String → Bool) (k : String) :
    has k (m.filter fun e => p e.1) = true ↔ p k = true ∧ has k m = true := by
  unfold has
  rw [find?_filter]
  split_ifs with hp
  · simp [hp]
  · simp [hp]

end Keyed

/-! ## Errors grow -/

namespace FieldErrors

theorem has_push (errors : FieldErrors) (field message k : String) :
    Keyed.has k (errors.push field message) = true ↔ k = field ∨ Keyed.has k errors = true := by
  unfold push
  split <;> exact Keyed.has_insert _ _ _ _

theorem has_pushAll (errors : FieldErrors) (field : String) (messages : List String) (k : String)
    (h : Keyed.has k errors = true) : Keyed.has k (errors.pushAll field messages) = true := by
  unfold pushAll
  induction messages generalizing errors with
  | nil => exact h
  | cons m messages ih => exact ih _ ((has_push errors field m k).mpr (.inr h))

theorem has_add_self (errors : FieldErrors) (field : String) {e : FieldError} (h : e.Speaks) :
    Keyed.has field (errors.add field e) = true := by
  cases e with
  | messages texts =>
    cases texts with
    | nil => exact absurd rfl h
    | cons m texts =>
      exact has_pushAll _ field texts field ((has_push errors field m field).mpr (.inl rfl))
  | nested inner => exact (Keyed.has_insert errors field field _).mpr (.inl rfl)

theorem has_add (errors : FieldErrors) (field : String) (e : FieldError) (k : String)
    (h : Keyed.has k errors = true) : Keyed.has k (errors.add field e) = true := by
  cases e with
  | messages texts => exact has_pushAll errors field texts k h
  | nested inner => exact (Keyed.has_insert errors field k _).mpr (.inr h)

end FieldErrors

/-! ## Refused values -/

namespace Convert

theorem orRefuse_error {message : String} {v : Option Json} {e : FieldError}
    (h : orRefuse message v = .error e) : e.Speaks := by
  cases v with
  | some v => exact absurd h (by simp [orRefuse])
  | none =>
    rw [← Except.error.inj h]
    exact List.cons_ne_nil _ _

theorem orRefuse_ok {message : String} {v : Option Json} {w : Json}
    (h : orRefuse message v = .ok w) : v = some w := by
  cases v with
  | none => contradiction
  | some v => rw [Except.ok.inj h]

theorem toType_error {t : ValueType} {v : Json} {e : FieldError}
    (h : toType t v = .error e) : e.Speaks := by
  cases t <;> exact orRefuse_error h

theorem convert_error {t : ValueType} {items : Option ValueType} {v : Json} {e : FieldError}
    (h : convert t items v = .error e) : e.Speaks := by
  unfold convert at h
  split at h
  · split at h
    · rw [← Except.error.inj h]
      exact List.cons_ne_nil _ _
    · split at h
      · contradiction
      · rw [← Except.error.inj h]
        trivial
  · exact toType_error h

end Convert

namespace Contract

theorem obeying_error {s : FieldSpec} {v : Except FieldError Json} {e : FieldError}
    (hv : ∀ e', v = .error e' → e'.Speaks) (h : obeying s v = .error e) : e.Speaks := by
  unfold obeying at h
  split at h
  · exact hv e (Except.error.inj h ▸ rfl)
  · split at h
    · contradiction
    · rename_i hne
      rw [← Except.error.inj h]
      exact hne

theorem asFieldResult_error {v : Validation} {e : FieldError}
    (h : v.asFieldResult = .error e) : e.Speaks := by
  unfold Validation.asFieldResult at h
  split_ifs at h
  rw [← Except.error.inj h]
  trivial

/-- A refused value comes with something to say. -/
theorem checkValue_error {s : FieldSpec} {shape : Shape} {raw : Json} {e : FieldError}
    (h : checkValue s shape raw = .error e) : e.Speaks := by
  have hplain (h : checkPlain s raw = .error e) : e.Speaks :=
    obeying_error (fun _ => Convert.convert_error) h
  cases shape with
  | plain => exact hplain (by simpa [checkValue] using h)
  | link => exact hplain (by simpa [checkValue] using h)
  | links acceptScalar =>
    refine obeying_error (fun e' he => ?_) (show checkLinks s acceptScalar raw = .error e by
      simpa [checkValue] using h)
    split at he
    · exact Convert.convert_error he
    · split_ifs at he
      · exact Convert.convert_error he
      · rw [← Except.error.inj he]
        exact List.cons_ne_nil _ _
  | lookup complete fields =>
    cases raw with
    | obj input => exact asFieldResult_error (by simpa only [checkValue] using h)
    | _ => exact hplain (by simpa only [checkValue] using h)
  | nested complete fields =>
    cases raw with
    | obj input => exact asFieldResult_error (by simpa only [checkValue] using h)
    | _ =>
      have hrefuse : (.error (Convert.refuse "Not a valid mapping type.") :
          Except FieldError Json) = .error e := by simpa only [checkValue] using h
      rw [← Except.error.inj hrefuse]
      exact List.cons_ne_nil _ _

end Contract

/-! ## One field after the other -/

namespace Validation

/-- The key was found valid or told as an error. -/
def Tells (v : Validation) (k : String) : Prop :=
  Keyed.has k v.valid = true ∨ Keyed.has k v.errors = true

/-- A step of a check keeps what was found. -/
structure Extends (v v' : Validation) : Prop where
  errors : ∀ k, Keyed.has k v.errors = true → Keyed.has k v'.errors = true
  valid : ∀ k, Keyed.has k v.valid = true → Keyed.has k v'.valid = true

theorem Extends.refl (v : Validation) : Extends v v := ⟨fun _ hk => hk, fun _ hk => hk⟩

theorem Extends.trans {v v' v'' : Validation} (h : Extends v v') (h' : Extends v' v'') :
    Extends v v'' :=
  ⟨fun k hk => h'.errors k (h.errors k hk), fun k hk => h'.valid k (h.valid k hk)⟩

theorem Extends.tells {v v' : Validation} (h : Extends v v') {k : String} (hk : v.Tells k) :
    v'.Tells k := by
  rcases hk with hk | hk
  · exact .inl (h.valid k hk)
  · exact .inr (h.errors k hk)

theorem extends_push (v : Validation) (field message : String) :
    Extends v (v.push field message) where
  errors k hk := (FieldErrors.has_push v.errors field message k).mpr (.inr hk)
  valid _ hk := hk

theorem tells_push (v : Validation) (field message : String) :
    (v.push field message).Tells field :=
  .inr ((FieldErrors.has_push v.errors field message field).mpr (.inl rfl))

theorem extends_record (v : Validation) (field : String) (result : Except FieldError Json) :
    Extends v (v.record field result) := by
  cases result with
  | ok value =>
    exact ⟨fun _ hk => hk, fun k hk => (Keyed.has_insert v.valid field k value).mpr (.inr hk)⟩
  | error e => exact ⟨fun k hk => FieldErrors.has_add v.errors field e k hk, fun _ hk => hk⟩

theorem tells_record (v : Validation) (field : String) {result : Except FieldError Json}
    (h : ∀ e, result = .error e → e.Speaks) : (v.record field result).Tells field := by
  cases result with
  | ok value => exact .inl ((Keyed.has_insert v.valid field field value).mpr (.inl rfl))
  | error e => exact .inr (FieldErrors.has_add_self v.errors field (h e rfl))

end Validation

namespace Contract

open Validation (Extends extends_push extends_record tells_push tells_record)

/-- The check of one field. -/
def checkOne (complete : Bool) (input : Object) (v : Validation) (s : FieldSpec)
    (shape : Shape) : Validation :=
  match input.find? s.name with
  | some .null => if s.allowNone then v.record s.name (.ok .null) else v.push s.name nullMessage
  | some raw => v.record s.name (checkValue s shape raw)
  | none =>
    if complete then
      match s.missing with
      | some default => v.record s.name (.ok default)
      | none => if s.required then v.push s.name requiredMessage else v
    else v

theorem checkFields_cons (complete : Bool) (input : Object) (v : Validation) (s : FieldSpec)
    (shape : Shape) (rest : List (FieldSpec × Shape)) :
    checkFields complete input v ((s, shape) :: rest) =
      checkFields complete input (checkOne complete input v s shape) rest := by
  rw [checkFields]
  rfl

theorem checkOne_extends (complete : Bool) (input : Object) (v : Validation) (s : FieldSpec)
    (shape : Shape) : Extends v (checkOne complete input v s shape) := by
  unfold checkOne
  split
  · split_ifs
    · exact extends_record v s.name _
    · exact extends_push v s.name _
  · exact extends_record v s.name _
  · cases complete with
    | false => exact .refl v
    | true =>
      rw [if_pos rfl]
      split
      · exact extends_record v s.name _
      · split_ifs
        · exact extends_push v s.name _
        · exact .refl v

/-- A field that is present is told about. -/
theorem checkOne_tells {complete : Bool} {input : Object} (v : Validation) {s : FieldSpec}
    (shape : Shape) (h : Keyed.has s.name input = true) :
    (checkOne complete input v s shape).Tells s.name := by
  unfold checkOne
  split
  · split_ifs
    · exact tells_record v s.name fun e he => by contradiction
    · exact tells_push v s.name _
  · exact tells_record v s.name fun e he => checkValue_error he
  · rename_i hnone
    unfold Keyed.has at h
    rw [hnone] at h
    contradiction

theorem checkFields_extends (complete : Bool) (input : Object) (v : Validation)
    (fields : List (FieldSpec × Shape)) : Extends v (checkFields complete input v fields) := by
  induction fields generalizing v with
  | nil => simpa [checkFields] using Extends.refl v
  | cons e fields ih =>
    rw [checkFields_cons]
    exact (checkOne_extends complete input v e.1 e.2).trans (ih _)

theorem checkFields_tells (complete : Bool) (input : Object) (v : Validation)
    (fields : List (FieldSpec × Shape)) {k : String} (hk : v.Tells k) :
    (checkFields complete input v fields).Tells k :=
  (checkFields_extends complete input v fields).tells hk

/-- Where null is refused there is an error for it in the end. -/
theorem checkFields_null {complete : Bool} {input : Object} {v : Validation}
    {fields : List (FieldSpec × Shape)}
    (herrors : (checkFields complete input v fields).errors = []) {e : FieldSpec × Shape}
    (he : e ∈ fields) (hnull : input.find? e.1.name = some .null) : e.1.allowNone = true := by
  induction fields generalizing v with
  | nil => exact absurd he List.not_mem_nil
  | cons d fields ih =>
    rw [checkFields_cons] at herrors
    rcases List.mem_cons.mp he with rfl | he
    · by_contra hno
      have hpush : checkOne complete input v e.1 e.2 = v.push e.1.name nullMessage := by
        unfold checkOne
        rw [hnull]
        exact if_neg hno
      have herror : Keyed.has e.1.name (v.push e.1.name nullMessage).errors = true :=
        (FieldErrors.has_push v.errors e.1.name nullMessage e.1.name).mpr (.inl rfl)
      rw [hpush] at herrors
      have hlast := (checkFields_extends complete input _ fields).errors _ herror
      rw [herrors] at hlast
      exact absurd hlast (by simp [Keyed.has])
    · exact ih herrors he

theorem checkFields_tells_field {complete : Bool} {input : Object} (v : Validation)
    {fields : List (FieldSpec × Shape)} {k : String} (hfield : ∃ e ∈ fields, e.1.name = k)
    (hk : Keyed.has k input = true) : (checkFields complete input v fields).Tells k := by
  induction fields generalizing v with
  | nil =>
    obtain ⟨e, he, _⟩ := hfield
    exact absurd he List.not_mem_nil
  | cons d fields ih =>
    rw [checkFields_cons]
    by_cases hd : d.1.name = k
    · subst hd
      exact checkFields_tells complete input _ fields (checkOne_tells v d.2 hk)
    · obtain ⟨e, he, hname⟩ := hfield
      rcases List.mem_cons.mp he with rfl | he
      · exact absurd hname hd
      · exact ih _ ⟨e, he, hname⟩

/-- Where the valid value of a field comes from: null stays null, any other value is
    checked, and a complete contract fills in what is missing. -/
def Source (complete : Bool) (input : Object) (s : FieldSpec) (shape : Shape) (w : Json) : Prop :=
  match input.find? s.name with
  | some .null => w = .null
  | some raw => checkValue s shape raw = .ok w
  | none => complete = true ∧ s.missing = some w

theorem record_source {v : Validation} {field k : String} {result : Except FieldError Json}
    {w : Json} (h : (v.record field result).valid.find? k = some w) :
    v.valid.find? k = some w ∨ (field = k ∧ result = .ok w) := by
  cases result with
  | error e => exact .inl h
  | ok value =>
    have hfind : (Keyed.insert field value v.valid).find? k = some w := h
    rw [Keyed.find?_insert] at hfind
    split_ifs at hfind with hk
    · exact .inr ⟨hk.symm, by rw [Option.some.inj hfind]⟩
    · exact .inl hfind

theorem checkOne_source {complete : Bool} {input : Object} {v : Validation} {s : FieldSpec}
    {shape : Shape} {k : String} {w : Json}
    (h : (checkOne complete input v s shape).valid.find? k = some w) :
    v.valid.find? k = some w ∨ (s.name = k ∧ Source complete input s shape w) := by
  unfold checkOne at h
  unfold Source
  split at h
  · split_ifs at h
    · exact (record_source h).imp_right fun ⟨hk, hw⟩ => ⟨hk, (Except.ok.inj hw).symm⟩
    · exact .inl h
  · exact record_source h
  · cases complete with
    | false => exact .inl h
    | true =>
      rw [if_pos rfl] at h
      split at h
      · rename_i hmissing
        exact (record_source h).imp_right fun ⟨hk, hw⟩ =>
          ⟨hk, rfl, by rw [hmissing, Except.ok.inj hw]⟩
      · split_ifs at h
        · exact .inl h
        · exact .inl h

/-- Every valid value comes from a field of its name. -/
theorem checkFields_source {complete : Bool} {input : Object} {v : Validation}
    {fields : List (FieldSpec × Shape)} {k : String} {w : Json}
    (h : (checkFields complete input v fields).valid.find? k = some w) :
    v.valid.find? k = some w ∨
      ∃ e ∈ fields, e.1.name = k ∧ Source complete input e.1 e.2 w := by
  induction fields generalizing v with
  | nil => exact .inl (by simpa [checkFields] using h)
  | cons d fields ih =>
    rw [checkFields_cons] at h
    rcases ih h with hone | ⟨e, he, hsource⟩
    · exact (checkOne_source hone).imp_right fun hd => ⟨d, List.mem_cons_self, hd⟩
    · exact .inr ⟨e, List.mem_cons_of_mem d he, hsource⟩

/-! ## Whole objects -/

theorem refuseUnknown_valid (names : List String) (input : Object) :
    (refuseUnknown names input).valid = [] := by
  unfold refuseUnknown
  have hfold : ∀ (keys : List String) (v : Validation), v.valid = [] →
      (keys.foldl (fun v k => if names.contains k then v else v.push k unknownMessage) v).valid =
        [] := by
    intro keys
    induction keys with
    | nil => exact fun v hv => hv
    | cons k keys ih =>
      intro v hv
      rw [List.foldl_cons]
      refine ih _ ?_
      split_ifs
      · exact hv
      · exact hv
  exact hfold input.keys Validation.start rfl

/-- A key that is no field is told as an error. -/
theorem refuseUnknown_tells {names : List String} {input : Object} {k : String}
    (hk : Keyed.has k input = true) (hname : k ∉ names) :
    (refuseUnknown names input).Tells k := by
  unfold refuseUnknown
  have hfold : ∀ (keys : List String) (v : Validation), k ∈ keys ∨ v.Tells k →
      (keys.foldl (fun v k => if names.contains k then v else v.push k unknownMessage) v).Tells
        k := by
    intro keys
    induction keys with
    | nil =>
      rintro v (hmem | hv)
      · exact absurd hmem List.not_mem_nil
      · exact hv
    | cons j keys ih =>
      rintro v (hmem | hv)
      · rcases List.mem_cons.mp hmem with rfl | hmem
        · rw [List.foldl_cons, if_neg (by simpa using hname)]
          exact ih _ (.inr (tells_push v k unknownMessage))
        · exact ih _ (.inl hmem)
      · rw [List.foldl_cons]
        refine ih _ (.inr ?_)
        split_ifs
        · exact hv
        · exact (extends_push v j unknownMessage).tells hv
  exact hfold input.keys Validation.start (.inl ((Keyed.has_iff_mem_keys input k).mp hk))

variable {c : Contract} {input : Object} {k : String}

/-- Every key of the input is valid or has an error. -/
theorem check_keys (hk : Keyed.has k input = true) : (c.check input).Tells k := by
  unfold check
  by_cases hname : k ∈ c.names
  · obtain ⟨e, he, rfl⟩ := List.mem_map.mp hname
    exact checkFields_tells_field _ ⟨e, he, rfl⟩ hk
  · exact checkFields_tells c.complete input _ c.fields (refuseUnknown_tells hk hname)

/-- Every valid value comes from a field of the contract. -/
theorem check_source {w : Json} (h : (c.check input).valid.find? k = some w) :
    ∃ e ∈ c.fields, e.1.name = k ∧ Source c.complete input e.1 e.2 w := by
  unfold check at h
  rcases checkFields_source h with hstart | hsource
  · rw [refuseUnknown_valid] at hstart
    exact absurd hstart (by simp)
  · exact hsource

/-- Every valid key is a field, and one of the input unless the contract is complete. -/
theorem check_valid_keys (hpart : c.complete = false)
    (hk : Keyed.has k (c.check input).valid = true) :
    Keyed.has k input = true ∧ k ∈ c.names := by
  obtain ⟨w, hw⟩ := Option.isSome_iff_exists.mp hk
  obtain ⟨e, he, rfl, hsource⟩ := check_source hw
  refine ⟨?_, List.mem_map.mpr ⟨e, he, rfl⟩⟩
  unfold Source at hsource
  split at hsource
  · rename_i hfind
    simp [Keyed.has, hfind]
  · rename_i hfind
    simp [Keyed.has, hfind]
  · rw [hpart] at hsource
    exact absurd hsource.1 (by simp)

/-! ## Accepted objects -/

theorem validate_ok {valid : Object} (h : c.validate input = .ok valid) :
    (c.check input).errors = [] ∧ valid = (c.check input).valid := by
  unfold validate Validation.toExcept at h
  split_ifs at h with hok
  exact ⟨List.isEmpty_iff.mp hok, (Except.ok.inj h).symm⟩

/-- An accepted object has lost no keys. -/
theorem validate_keys {valid : Object} (h : c.validate input = .ok valid)
    (hk : Keyed.has k input = true) : Keyed.has k valid = true := by
  obtain ⟨herrors, rfl⟩ := validate_ok h
  rcases check_keys (c := c) hk with hvalid | herror
  · exact hvalid
  · rw [herrors] at herror
    exact absurd herror (by simp [Keyed.has])

theorem validate_source {valid : Object} (h : c.validate input = .ok valid) {w : Json}
    (hk : valid.find? k = some w) :
    ∃ e ∈ c.fields, e.1.name = k ∧ Source c.complete input e.1 e.2 w := by
  obtain ⟨_, rfl⟩ := validate_ok h
  exact check_source hk

theorem obeying_ok {s : FieldSpec} {v : Except FieldError Json} {w : Json}
    (h : obeying s v = .ok w) : v = .ok w := by
  unfold obeying at h
  split at h
  · contradiction
  · split at h
    · exact h
    · contradiction

/-- A value that is an object is only taken as it is. -/
theorem convert_obj {t : ValueType} {items : Option ValueType} {entries : Object} {w : Json}
    (h : Convert.convert t items (.obj entries) = .ok w) : w = .obj entries := by
  unfold Convert.convert at h
  split at h
  · contradiction
  · cases t with
    | dict => exact (Except.ok.inj h).symm
    | _ => contradiction

theorem asFieldResult_ok {v : Validation} {w : Json} (h : v.asFieldResult = .ok w) :
    v.toExcept = .ok v.valid ∧ w = .obj v.valid := by
  unfold Validation.asFieldResult at h
  unfold Validation.toExcept
  split_ifs at h ⊢
  exact ⟨rfl, (Except.ok.inj h).symm⟩

/-- An object that is a value of a field was accepted by the contract for it. -/
theorem checkValue_inner {s : FieldSpec} {shape : Shape} {c : Contract}
    (hshape : shape = c.asLookup ∨ shape = c.asNested) {sent : Object} {w : Json}
    (h : checkValue s shape (.obj sent) = .ok w) :
    c.validate sent = .ok (c.check sent).valid ∧ w = .obj (c.check sent).valid := by
  have hchecked : (c.check sent).asFieldResult = .ok w := by
    rcases hshape with rfl | rfl
    · unfold asLookup at h
      rw [checkValue] at h
      exact h
    · unfold asNested at h
      rw [checkValue] at h
      exact h
  exact asFieldResult_ok hchecked

/-- An accepted object that is a value of a field has lost no keys. -/
theorem checkValue_obj {s : FieldSpec} {shape : Shape} {entries : Object} {w : Json}
    (h : checkValue s shape (.obj entries) = .ok w) :
    ∃ kept : Object, w = .obj kept ∧
      ∀ k, Keyed.has k entries = true → Keyed.has k kept = true := by
  have hplain (h : checkPlain s (.obj entries) = .ok w) :
      ∃ kept : Object, w = .obj kept ∧
        ∀ k, Keyed.has k entries = true → Keyed.has k kept = true :=
    ⟨entries, convert_obj (obeying_ok h), fun _ hk => hk⟩
  have hinner {complete : Bool} {fields : List (FieldSpec × Shape)}
      (h : ((⟨complete, fields⟩ : Contract).check entries).asFieldResult = .ok w) :
      ∃ kept : Object, w = .obj kept ∧
        ∀ k, Keyed.has k entries = true → Keyed.has k kept = true :=
    ⟨_, (asFieldResult_ok h).2, fun _ hk => validate_keys (asFieldResult_ok h).1 hk⟩
  cases shape with
  | plain => exact hplain (by simpa [checkValue] using h)
  | link => exact hplain (by simpa [checkValue] using h)
  | links acceptScalar =>
    have hlinks : checkLinks s acceptScalar (.obj entries) = .ok w := by
      simpa [checkValue] using h
    have hitem := obeying_ok hlinks
    dsimp only at hitem
    split_ifs at hitem
    exact ⟨entries, convert_obj hitem, fun _ hk => hk⟩
  | lookup complete fields | nested complete fields =>
    rw [checkValue] at h
    exact hinner h

end Contract

end RowServe
