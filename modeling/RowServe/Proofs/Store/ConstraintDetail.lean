import Mathlib.Data.List.Nodup
import RowServe.Proofs.Contract.Joined
import RowServe.Proofs.Text.Split
import RowServe.Proofs.Text.Trim
import RowServe.Store.ConstraintDetail

/-!
# Columns and values of a broken key

The database shows a key as the list of its columns and the list of their values, both joined by
commas, and quotes nothing. The columns can be told apart, but a value may have a comma or a
parenthesis of its own: the values end at the first parenthesis there is, and each comma in front of
it separates two of them.

Results:

* `fieldErrors_key`: the errors that are made of a broken key.
* `names_iff`: every column has one message, with its own value, exactly if the values are legible.
-/

namespace RowServe.ConstraintDetail

open Text (isBlank splitOnSeq trimList)

/-! ## Details and messages -/

/-- The characters of a reason that stand on its first line. -/
def firstLine (reason : List Char) : List Char := reason.takeWhile (· ≠ '\n')

/-- The detail of a broken key. -/
def keyDetail (columns values : List String) (reason : String) : String :=
  "Key (" ++ ", ".intercalate columns ++ ")=(" ++ ", ".intercalate values ++ ") " ++ reason

/-- The message for one value of a broken key. -/
def keyMessage (value reason : String) : String :=
  "Key (" ++ value ++ ") " ++ String.ofList (trimList (firstLine reason.toList))

/-- There is one entry for every column and no other one, and it has one message, with the value of
the column. -/
structure Names (errors : FieldErrors) (columns values : List String) (reason : String) :
    Prop where
  keys : errors.keys.Perm columns
  messages : ∀ (i : Nat) column value, columns[i]? = some column → values[i]? = some value →
    errors.find? column = some (.messages [keyMessage value reason])

/-- A value without a closing parenthesis and without the separator. -/
def Clear (value : List Char) : Prop := ')' ∉ value ∧ ¬ separator <:+: value

/-- Neither the rest of a value nor the reason begins with a blank. -/
def ReadsOn (rest reason : List Char) : Prop :=
  (∀ c, rest.head? = some c → isBlank c = false) ∧
    ∃ c, reason.head? = some c ∧ isBlank c = false

/-- All values are clear, or there is only one value, which is clear up to a parenthesis with a
blank behind it. The rest of this value is put in front of the reason, and if both read on, the
message is the same. -/
def Legible (values : List String) (reason : String) : Prop :=
  (∀ v ∈ values, Clear v.toList) ∨
    ∃ x y, values = [x ++ ") " ++ y] ∧ Clear x.toList ∧ ReadsOn y.toList reason.toList

/-! ## Reading a detail -/

section Reading

variable {stop before rest columns values : List Char}

/-- A text is found at the first occurrence of its first character. -/
theorem upTo_first {s : Char} (hstop : s ∉ before) (hline : '\n' ∉ before) (ss rest : List Char) :
    upTo (s :: ss) (before ++ (s :: ss) ++ rest) = some (before, rest) := by
  induction before with
  | nil => simp [upTo]
  | cons c before ih =>
    obtain ⟨hs, hstop⟩ := not_or.mp (mt List.mem_cons.mpr hstop)
    obtain ⟨hc, hline⟩ := not_or.mp (mt List.mem_cons.mpr hline)
    have hother : (s :: ss).isPrefixOf (c :: (before ++ (s :: ss) ++ rest)) = false := by
      simp [List.isPrefixOf, hs]
    rw [List.cons_append, List.cons_append, upTo, hother, ih hstop hline]
    simp [Ne.symm hc]

/-- The word in front of a key is passed over. -/
theorem readFrom_word (rest : List Char) :
    readFrom [] ("Key (".toList ++ rest) =
      match readKey "Key ".toList rest with
      | some parts => some parts
      | none => readFrom [] rest := by
  have hlead : ∀ c ∈ "Key ".toList, isLead c = true := by
    have hword : "Key ".toList.all (fun c => decide (c.toNat < 128) &&
        (isBlank c || (c.isAlphanum || c == '_'))) = true := by decide
    intro c hc
    obtain ⟨hascii, hplain⟩ := Bool.and_eq_true_iff.mp (List.all_eq_true.mp hword c hc)
    rw [isLead, CodePoint.isWordChar_of_lt (of_decide_eq_true hascii)]
    exact hplain
  exact readFrom_key [] (by decide) hlead

theorem readFrom_detail (hcolumns : ')' ∉ columns) (hcline : '\n' ∉ columns)
    (hvalues : ')' ∉ values) (hvline : '\n' ∉ values) (rest : List Char) :
    readFrom [] ("Key (".toList ++ (columns ++ [')', '=', '('] ++ (values ++ [')'] ++ rest))) =
      some ⟨"Key ".toList, columns, values, firstLine rest⟩ := by
  have hkey : readKey "Key ".toList (columns ++ [')', '=', '('] ++ (values ++ [')'] ++ rest)) =
      some ⟨"Key ".toList, columns, values, firstLine rest⟩ := by
    have hfirst := upTo_first hcolumns hcline ['=', '('] (values ++ [')'] ++ rest)
    have hsecond := upTo_first hvalues hvline [] rest
    rw [readKey, hfirst, Option.bind_eq_bind, Option.bind_some]
    dsimp only
    rw [hsecond]
    rfl
  rw [readFrom_word, hkey]

end Reading

/-! ## One message for each field -/

section Pushed

variable {errors : FieldErrors} {entries : List (String × String)} {k : String}

/-- The errors of fields with one message each. -/
def pushed (entries : List (String × String)) (errors : FieldErrors) : FieldErrors :=
  entries.foldl (fun errors e => errors.push e.1 e.2) errors

theorem find?_pushed_of_notMem (h : k ∉ entries.map (·.1)) :
    (pushed entries errors).find? k = errors.find? k := by
  unfold pushed
  induction entries generalizing errors with
  | nil => rfl
  | cons e entries ih =>
    obtain ⟨hk, hentries⟩ := not_or.mp (mt List.mem_cons.mpr h)
    rw [List.foldl_cons, ih hentries, FieldErrors.find?_push_of_ne hk]

/-- A field that is named once gets its own message. -/
theorem find?_pushed {e : String × String} (hnodup : (entries.map (·.1)).Nodup) (he : e ∈ entries)
    (hnone : errors.find? e.1 = none) :
    (pushed entries errors).find? e.1 = some (.messages [e.2]) := by
  induction entries generalizing errors with
  | nil => contradiction
  | cons d entries ih =>
    obtain ⟨hd, hnodup⟩ := List.nodup_cons.mp hnodup
    rcases List.mem_cons.mp he with rfl | he
    · have hpush : (errors.push e.1 e.2).find? e.1 = some (.messages [e.2]) := by
        rw [FieldErrors.push, hnone, Keyed.find?_insert, if_pos rfl]
      exact (find?_pushed_of_notMem hd).trans hpush
    · have hne : e.1 ≠ d.1 := fun heq => hd (List.mem_map.mpr ⟨e, he, heq⟩)
      exact ih hnodup he ((FieldErrors.find?_push_of_ne hne d.2).trans hnone)

theorem sorted_pushed (h : errors.Sorted) : (pushed entries errors).Sorted := by
  unfold pushed
  induction entries generalizing errors with
  | nil => exact h
  | cons e entries ih => exact ih (FieldErrors.sorted_push h e.1 e.2)

/-- The fields with errors are those that are named. -/
theorem keys_pushed (hnodup : (entries.map (·.1)).Nodup) :
    (pushed entries []).keys.Perm (entries.map (·.1)) := by
  have hkeys : (pushed entries []).keys.Nodup :=
    List.Pairwise.map _ (fun _ _ hlt => (String.ne_of_lt hlt)) (sorted_pushed List.Pairwise.nil)
  refine (List.perm_ext_iff_of_nodup hkeys hnodup).mpr fun k => ?_
  by_cases hk : k ∈ entries.map (·.1)
  · obtain ⟨e, he, rfl⟩ := List.mem_map.mp hk
    refine iff_of_true (Decidable.by_contra fun hnot => ?_) hk
    rw [← Keyed.find?_eq_none_iff, find?_pushed hnodup he rfl] at hnot
    contradiction
  · refine iff_of_false ?_ hk
    rw [← Keyed.find?_eq_none_iff, find?_pushed_of_notMem hk]
    rfl

end Pushed

/-! ## The errors of a broken key -/

/-- Texts as they are shown in a detail. -/
def shown (texts : List String) : List Char :=
  List.intercalate separator (texts.map String.toList)

/-- The message for a piece of the values with what follows their end. -/
def pieceMessage (rest piece : List Char) : String :=
  "Key (" ++ String.ofList piece ++ ") " ++ String.ofList (trimList (firstLine rest))

section Key

variable {columns values messages : List String} {reason : String} {piece rest : List Char}

theorem keyDetail_toList (columns values : List String) (reason : String) :
    (keyDetail columns values reason).toList =
      "Key (".toList ++ (shown columns ++ [')', '=', '('] ++
        (shown values ++ [')'] ++ ' ' :: reason.toList)) := by
  simp only [keyDetail, String.toList_append, String.toList_intercalate, shown, List.append_assoc]
  rfl

theorem notMem_shown {c : Char} (hsep : c ∉ separator) {texts : List String}
    (h : ∀ t ∈ texts, c ∉ t.toList) : c ∉ shown texts := by
  unfold shown
  induction texts with
  | nil => simp
  | cons t texts ih =>
    obtain ⟨ht, htexts⟩ := List.forall_mem_cons.mp h
    cases texts with
    | nil => simpa using ht
    | cons u texts =>
      rw [List.map_cons, List.map_cons, List.intercalate_cons_cons, ← List.map_cons,
        List.mem_append, List.mem_append, not_or, not_or]
      exact ⟨⟨ht, hsep⟩, ih htexts⟩

/-- The errors of a broken key, whose values are read up to the first closing parenthesis. -/
theorem fieldErrors_key (hne : columns ≠ [])
    (hplain : ∀ column ∈ columns, ∀ c ∈ [')', ',', '\n'], c ∉ column.toList)
    (hcut : shown values ++ [')'] ++ ' ' :: reason.toList = piece ++ [')'] ++ rest)
    (hpiece : ')' ∉ piece) (hline : '\n' ∉ piece) :
    fieldErrors? (keyDetail columns values reason) =
      some (pushed (columns.zip ((splitOnSeq separator piece).map (pieceMessage rest))) []) := by
  have hshown {c : Char} (hc : c ∈ [')', ',', '\n']) (hsep : c ∉ separator) : c ∉ shown columns :=
    notMem_shown hsep fun column hcolumn => hplain column hcolumn c hc
  have hcolumns : splitOnSeq separator (shown columns) = columns.map String.toList := by
    have hsome : columns.map String.toList ≠ [] := mt List.map_eq_nil_iff.mp hne
    refine Text.splitOnSeq_intercalate (by decide) hsome fun t ht hsep => ?_
    obtain ⟨column, hcolumn, rfl⟩ := List.mem_map.mp ht
    exact hplain column hcolumn ',' (by decide) (hsep.subset (by decide))
  rw [fieldErrors?, keyDetail_toList, hcut, readFrom_detail (hshown (by decide) (by decide))
    (hshown (by decide) (by decide)) hpiece hline, Option.map_some]
  dsimp only
  rw [hcolumns, pushed, List.zip_map_left, List.zip_map_right, List.foldl_map, List.foldl_map]
  simp only [Prod.map, id, String.ofList_toList]
  rfl

theorem zipped_sublist (columns messages : List String) :
    ((columns.zip messages).map (·.1)).Sublist columns := by
  induction columns generalizing messages with
  | nil => exact List.Sublist.refl []
  | cons column columns ih =>
    cases messages with
    | nil => exact List.nil_sublist _
    | cons message messages => exact (ih messages).cons_cons column

/-- Every column is named if there is a message for each of them, with its value. -/
theorem names_pushed_iff (hnodup : columns.Nodup) (hlength : columns.length = values.length) :
    Names (pushed (columns.zip messages) []) columns values reason ↔
      ∀ (i : Nat) value, values[i]? = some value →
        messages[i]? = some (keyMessage value reason) := by
  have hnames := hnodup.sublist (zipped_sublist columns messages)
  have hfind {i : Nat} {column message : String} (hcolumn : columns[i]? = some column)
      (hmessage : messages[i]? = some message) :
      (pushed (columns.zip messages) []).find? column = some (.messages [message]) := by
    have he : (column, message) ∈ columns.zip messages :=
      List.mem_of_getElem? (List.getElem?_zip_eq_some.mpr ⟨hcolumn, hmessage⟩)
    exact find?_pushed hnames he rfl
  constructor
  · intro h i value hvalue
    have hi : i < values.length := (List.getElem?_eq_some_iff.mp hvalue).1
    have hcolumns : columns.length ≤ messages.length := by
      have hkeys := (h.keys.symm.trans (keys_pushed hnames)).length_eq
      rw [List.length_map, List.length_zip] at hkeys
      omega
    obtain ⟨column, hcolumn⟩ : ∃ column, columns[i]? = some column :=
      ⟨_, List.getElem?_eq_getElem (by omega)⟩
    obtain ⟨message, hmessage⟩ : ∃ message, messages[i]? = some message :=
      ⟨_, List.getElem?_eq_getElem (by omega)⟩
    have hsame := (hfind hcolumn hmessage).symm.trans (h.messages i column value hcolumn hvalue)
    simp only [Option.some.injEq, FieldError.messages.injEq, List.cons.injEq, and_true] at hsame
    rw [hmessage, hsame]
  · intro h
    refine ⟨?_, fun i column value hcolumn hvalue => hfind hcolumn (h i value hvalue)⟩
    have hcolumns : columns.length ≤ messages.length := by
      by_contra hfewer
      have hi : messages.length < values.length := by omega
      have hnone := h messages.length _ (List.getElem?_eq_getElem hi)
      rw [List.getElem?_eq_none le_rfl] at hnone
      contradiction
    have hall := keys_pushed hnames
    rwa [List.map_fst_zip hcolumns] at hall

theorem pieceMessage_eq_iff {value : String} :
    pieceMessage rest piece = keyMessage value reason ↔
      piece ++ [')', ' '] ++ trimList (firstLine rest) =
        value.toList ++ [')', ' '] ++ trimList (firstLine reason.toList) := by
  rw [← String.toList_inj]
  simp only [pieceMessage, keyMessage, String.toList_append, String.toList_ofList,
    List.append_assoc, List.append_cancel_left_eq]
  rfl

end Key

/-! ## Values with parentheses -/

section Carried

variable {x y w reason : List Char}

/-- The rest of a value and the reason are trimmed together. -/
theorem trimList_carried (front : List Char) {kept back : List Char}
    (hy : ∀ c, y.head? = some c → isBlank c = false) (hne : kept ≠ [])
    (hkept : ∀ c, kept.getLast? = some c → isBlank c = false)
    (hback : ∀ c ∈ back, isBlank c = true) :
    trimList (' ' :: (y ++ [')', ' '] ++ (front ++ kept ++ back))) =
      y ++ [')', ' '] ++ (front ++ kept) := by
  have hwhole : ' ' :: (y ++ [')', ' '] ++ (front ++ kept ++ back)) =
      [' '] ++ (y ++ [')', ' '] ++ (front ++ kept)) ++ back := by
    simp only [List.append_assoc, List.cons_append, List.nil_append]
  have hfront : ∀ c ∈ [' '], isBlank c = true := List.forall_mem_singleton.mpr rfl
  rw [hwhole]
  refine Text.trimList_between hfront (fun c hc => ?_) (fun c hc => hkept c ?_) hback
  · cases y with
    | nil =>
      obtain rfl := Option.some.inj hc
      decide
    | cons d y => exact hy c hc
  · rwa [← List.append_assoc, List.getLast?_append_of_ne_nil _ hne] at hc

/-- The rest of a value is put in front of the reason, which has been trimmed by itself, exactly if
both read on. -/
theorem trimList_carried_iff :
    trimList (' ' :: (y ++ [')', ' '] ++ reason)) = y ++ [')', ' '] ++ trimList reason ↔
      ReadsOn y reason := by
  have hlast := (Text.trimList_ends reason).2
  constructor
  · intro h
    have hends := Text.trimList_ends (' ' :: (y ++ [')', ' '] ++ reason))
    rw [h] at hends
    have hy (c : Char) (hc : y.head? = some c) : isBlank c = false := by
      apply hends.1
      rw [List.append_assoc, List.head?_append, hc]
      rfl
    have hne : trimList reason ≠ [] := by
      intro hnil
      have hblank := hends.2 ' ' (by simp [hnil])
      revert hblank
      decide
    refine ⟨hy, Text.begins_iff.mpr ⟨hne, ?_⟩⟩
    -- blanks in front of the reason would stand behind the parenthesis
    obtain ⟨front, back, hsplit, _, hback⟩ := Text.trimList_split reason
    have hwhole := trimList_carried front hy hne hlast hback
    rw [← hsplit, h] at hwhole
    have hlength := congrArg List.length hwhole
    simp only [List.length_append] at hlength
    have hnil : front = [] := List.length_eq_zero_iff.mp (by omega)
    rw [hnil, List.nil_append] at hsplit
    exact ⟨back, hsplit, hback⟩
  · rintro ⟨hy, hreason⟩
    obtain ⟨hne, back, hsplit, hback⟩ := Text.begins_iff.mp hreason
    have hwhole := trimList_carried [] hy hne hlast hback
    rwa [List.nil_append, ← hsplit] at hwhole

/-- The only value of a key with a parenthesis in it. Its first piece is shown with what is put in
front of the reason. -/
theorem cut_shown_iff (hx : ')' ∉ x) :
    (∃ p, (splitOnSeq separator x)[0]? = some p ∧
        p ++ [')', ' '] ++ trimList (w ++ [')', ' '] ++ reason) =
          x ++ ')' :: w ++ [')', ' '] ++ trimList reason) ↔
      ¬ separator <:+: x ∧ ∃ y, w = ' ' :: y ∧ ReadsOn y reason := by
  constructor
  · rintro ⟨p, hfirst, h⟩
    have hclear : ¬ separator <:+: p :=
      Text.not_infix_of_mem_splitOnSeq (by decide) (List.mem_of_getElem? hfirst)
    obtain ⟨q, qs, hpieces, r, rfl⟩ := Text.splitOnSeq_head (by decide : separator ≠ []) x
    rw [hpieces] at hfirst
    obtain rfl := Option.some.inj hfirst
    simp only [List.append_assoc, List.append_cancel_left_eq] at h
    -- a rest of the text would begin with the parenthesis
    have hr : r = [] := by
      cases r with
      | nil => rfl
      | cons c r =>
        obtain ⟨rfl, _⟩ := List.cons.inj h
        exact absurd (by simp) hx
    subst hr
    refine ⟨by rwa [List.append_nil], ?_⟩
    cases w with
    | nil => simp at h
    | cons c y =>
      obtain ⟨_, h⟩ := List.cons.inj h
      obtain ⟨rfl, h⟩ := List.cons.inj h
      refine ⟨y, rfl, trimList_carried_iff.mp ?_⟩
      simpa using h
  · rintro ⟨hclear, y, rfl, hstart⟩
    refine ⟨x, by rw [Text.splitOnSeq_of_not_infix hclear]; rfl, ?_⟩
    rw [List.cons_append, List.cons_append, trimList_carried_iff.mpr hstart]
    simp

end Carried

/-! ## Legible values -/

section Legible

variable {columns values : List String} {reason : String} {piece rest w : List Char}

/-- What is shown as the value of each column. -/
def Told (values : List String) (reason : String) (piece rest : List Char) : Prop :=
  ∀ (i : Nat) value, values[i]? = some value →
    ∃ p, (splitOnSeq separator piece)[i]? = some p ∧
      p ++ [')', ' '] ++ trimList (firstLine rest) =
        value.toList ++ [')', ' '] ++ trimList (firstLine reason.toList)

theorem names_iff_told (hnodup : columns.Nodup) (hlength : columns.length = values.length) :
    Names (pushed (columns.zip ((splitOnSeq separator piece).map (pieceMessage rest))) []) columns
      values reason ↔ Told values reason piece rest := by
  rw [names_pushed_iff hnodup hlength]
  refine forall₃_congr fun i value _ => ?_
  simp only [List.getElem?_map, Option.map_eq_some_iff, pieceMessage_eq_iff]

theorem firstLine_append {front : List Char} (h : '\n' ∉ front) (cs : List Char) :
    firstLine (front ++ cs) = front ++ firstLine cs :=
  List.takeWhile_append_of_pos fun _ hc => decide_eq_true fun heq => h (heq ▸ hc)

/-- The rest of the values behind their first parenthesis stands in front of the reason. -/
theorem firstLine_cut (h : '\n' ∉ w) (reason : List Char) :
    firstLine (w ++ [')'] ++ ' ' :: reason) = w ++ [')', ' '] ++ firstLine reason := by
  have hcut : w ++ [')'] ++ ' ' :: reason = w ++ [')', ' '] ++ reason := by simp
  rw [hcut, firstLine_append (by simp [h])]

theorem sublist_shown {value : String} (h : value ∈ values) :
    value.toList.Sublist (shown values) := by
  unfold shown
  induction values with
  | nil => contradiction
  | cons v values ih =>
    cases values with
    | nil =>
      obtain rfl := List.mem_singleton.mp h
      simp
    | cons u values =>
      rw [List.map_cons, List.map_cons, List.intercalate_cons_cons, ← List.map_cons]
      rcases List.mem_cons.mp h with rfl | h
      · rw [List.append_assoc]
        exact List.sublist_append_left _ _
      · exact (ih h).trans (List.sublist_append_right _ _)

/-- Without a parenthesis each value is a piece exactly if no value has the separator in it. -/
theorem told_iff_clear (hne : values ≠ []) (hparen : ')' ∉ shown values) :
    Told values reason (shown values) (' ' :: reason.toList) ↔ ∀ v ∈ values, Clear v.toList := by
  have hreason : trimList (firstLine (' ' :: reason.toList)) =
      trimList (firstLine reason.toList) := by
    have hblank : ∀ c ∈ [' '], isBlank c = true := List.forall_mem_singleton.mpr rfl
    rw [← List.singleton_append, firstLine_append (by decide), Text.trimList_blank hblank]
  have htold : Told values reason (shown values) (' ' :: reason.toList) ↔
      ∀ (i : Nat) value, values[i]? = some value →
        (splitOnSeq separator (shown values))[i]? = some value.toList := by
    unfold Told
    rw [hreason]
    simp only [List.append_cancel_right_eq, exists_eq_right]
  rw [htold]
  constructor
  · intro h v hv
    obtain ⟨i, hi⟩ := List.mem_iff_getElem?.mp hv
    exact ⟨fun hmem => hparen ((sublist_shown hv).subset hmem),
      Text.not_infix_of_mem_splitOnSeq (by decide) (List.mem_of_getElem? (h i v hi))⟩
  · intro h i v hv
    have hpieces : splitOnSeq separator (shown values) = values.map String.toList := by
      refine Text.splitOnSeq_intercalate (by decide) (mt List.map_eq_nil_iff.mp hne) fun t ht => ?_
      obtain ⟨v, hv, rfl⟩ := List.mem_map.mp ht
      exact (h v hv).2
    rw [hpieces, List.getElem?_map, hv]
    rfl

/-- The first parenthesis is in the message of every column, so there is one column only. -/
theorem single_of_told (hne : values ≠ []) (hshown : shown values = piece ++ ')' :: w)
    (hpiece : ')' ∉ piece) (hline : '\n' ∉ w)
    (h : Told values reason piece (w ++ [')'] ++ ' ' :: reason.toList)) :
    ∃ value, values = [value] := by
  have hcount : (shown values).count ')' = w.count ')' + 1 := by
    rw [hshown, List.count_append, List.count_eq_zero.mpr hpiece, List.count_cons_self,
      Nat.zero_add]
  have hmore (v : String) (hv : v ∈ values) : w.count ')' < v.toList.count ')' := by
    obtain ⟨i, hi⟩ := List.mem_iff_getElem?.mp hv
    obtain ⟨p, _, hp⟩ := h i v hi
    have hsame := congrArg (List.count ')') hp
    have hpair : [')', ' '].count ')' = 1 := by decide
    rw [firstLine_cut hline] at hsame
    simp only [List.count_append, Text.count_trimList (c := ')') (by decide)] at hsame
    omega
  cases values with
  | nil => contradiction
  | cons v values =>
    cases values with
    | nil => exact ⟨v, rfl⟩
    | cons u values =>
      have hv := hmore v List.mem_cons_self
      have hu := hmore u (List.mem_cons_of_mem v List.mem_cons_self)
      have hule : u.toList.count ')' ≤ (shown (u :: values)).count ')' :=
        (sublist_shown List.mem_cons_self).count_le ')'
      have hboth : (shown (v :: u :: values)).count ')' =
          v.toList.count ')' + (shown (u :: values)).count ')' := by
        rw [shown, List.map_cons, List.map_cons, List.intercalate_cons_cons, ← List.map_cons]
        simp [shown, List.count_append, separator]
      omega

/-- The only value of a key, cut at its first parenthesis. -/
theorem told_single_iff {value : String} (htext : value.toList = piece ++ ')' :: w)
    (hline : '\n' ∉ w) :
    Told [value] reason piece (w ++ [')'] ++ ' ' :: reason.toList) ↔
      ∃ p, (splitOnSeq separator piece)[0]? = some p ∧
        p ++ [')', ' '] ++ trimList (w ++ [')', ' '] ++ firstLine reason.toList) =
          piece ++ ')' :: w ++ [')', ' '] ++ trimList (firstLine reason.toList) := by
  unfold Told
  rw [firstLine_cut hline, ← htext]
  constructor
  · intro h
    exact h 0 value rfl
  · intro h i v hv
    cases i with
    | zero =>
      obtain rfl := Option.some.inj hv
      exact h
    | succ i => contradiction

/-- A reason reads on if its first line does. -/
theorem readsOn_firstLine {y reason : List Char} :
    ReadsOn y (firstLine reason) ↔ ReadsOn y reason := by
  refine and_congr_right fun _ => exists_congr fun c => and_congr_left fun hc => ?_
  cases reason with
  | nil => rfl
  | cons d reason =>
    by_cases hd : d = '\n'
    · have hne : '\n' ≠ c := by
        rintro rfl
        revert hc
        decide
      simp [firstLine, hd, hne]
    · simp [firstLine, hd]

/-- Of values with a parenthesis only a single one is told, if the rest of it reads on. -/
theorem told_iff_cut (hne : values ≠ []) (hshown : shown values = piece ++ ')' :: w)
    (hpiece : ')' ∉ piece) (hline : '\n' ∉ w) :
    Told values reason piece (w ++ [')'] ++ ' ' :: reason.toList) ↔
      ∃ x y, values = [x ++ ") " ++ y] ∧ Clear x.toList ∧ ReadsOn y.toList reason.toList := by
  constructor
  · intro h
    obtain ⟨value, rfl⟩ := single_of_told hne hshown hpiece hline h
    have htext : value.toList = piece ++ ')' :: w := by simpa [shown] using hshown
    obtain ⟨hclear, y, rfl, hreads⟩ :=
      (cut_shown_iff hpiece).mp ((told_single_iff htext hline).mp h)
    refine ⟨String.ofList piece, String.ofList y, ?_, ?_, ?_⟩
    · rw [List.singleton_inj, ← String.toList_inj, htext]
      simp [String.toList_append]
    · rw [String.toList_ofList]
      exact ⟨hpiece, hclear⟩
    · rw [String.toList_ofList]
      exact readsOn_firstLine.mp hreads
  · rintro ⟨x, y, rfl, hclear, hreads⟩
    have htext : (x ++ ") " ++ y).toList = piece ++ ')' :: w := by simpa [shown] using hshown
    have hcuts : x.toList ++ ')' :: (' ' :: y.toList) = piece ++ ')' :: w := by
      rw [← htext]
      simp [String.toList_append]
    have hsame := congrArg (Text.splitOnce ')') hcuts
    rw [Text.splitOnce_of_split hclear.1, Text.splitOnce_of_split hpiece] at hsame
    obtain ⟨rfl, rfl⟩ := Prod.mk.inj (Option.some.inj hsame)
    exact (told_single_iff htext hline).mpr ((cut_shown_iff hpiece).mpr
      ⟨hclear.2, y.toList, rfl, readsOn_firstLine.mpr hreads⟩)

/-- Every column of a broken key gets its own value, and no other field gets anything, exactly if
the values are legible. -/
theorem names_iff (hne : columns ≠ []) (hnodup : columns.Nodup)
    (hlength : columns.length = values.length)
    (hplain : ∀ column ∈ columns, ∀ c ∈ [')', ',', '\n'], c ∉ column.toList)
    (hlines : ∀ value ∈ values, '\n' ∉ value.toList) :
    ∃ errors, fieldErrors? (keyDetail columns values reason) = some errors ∧
      (Names errors columns values reason ↔ Legible values reason) := by
  have hvalues : values ≠ [] := fun hnil =>
    hne (List.length_eq_zero_iff.mp (by simp [hlength, hnil]))
  have hline : '\n' ∉ shown values := notMem_shown (by decide) hlines
  cases hcut : Text.splitOnce ')' (shown values) with
  | none =>
    have hparen : ')' ∉ shown values := Text.splitOnce_eq_none_iff.mp hcut
    refine ⟨_, fieldErrors_key hne hplain rfl hparen hline, ?_⟩
    rw [names_iff_told hnodup hlength, told_iff_clear hvalues hparen]
    refine ⟨.inl, fun h => h.resolve_right ?_⟩
    rintro ⟨x, y, rfl, _⟩
    exact hparen ((sublist_shown List.mem_cons_self).subset (by simp [String.toList_append]))
  | some parts =>
    obtain ⟨piece, w⟩ := parts
    obtain ⟨hshown, hpiece⟩ := Text.splitOnce_eq_some hcut
    rw [hshown, List.mem_append, List.mem_cons, not_or, not_or] at hline
    have hdetail : shown values ++ [')'] ++ ' ' :: reason.toList =
        piece ++ [')'] ++ (w ++ [')'] ++ ' ' :: reason.toList) := by
      simp [hshown]
    refine ⟨_, fieldErrors_key hne hplain hdetail hpiece hline.1, ?_⟩
    rw [names_iff_told hnodup hlength, told_iff_cut hvalues hshown hpiece hline.2.2]
    refine ⟨.inr, fun h => h.resolve_left fun hclear => ?_⟩
    have hparen : ')' ∈ shown values := by simp [hshown]
    exact notMem_shown (by decide) (fun v hv => (hclear v hv).1) hparen

/-- A chair and its producer are both named. -/
theorem names_chair :
    ∃ errors, fieldErrors? (keyDetail ["name", "producer"] ["Chair", "1"] "already exists.") =
        some errors ∧
      Names errors ["name", "producer"] ["Chair", "1"] "already exists." := by
  have hnamed : ∃ errors,
      fieldErrors? (keyDetail ["name", "producer"] ["Chair", "1"] "already exists.") = some errors ∧
        (Names errors ["name", "producer"] ["Chair", "1"] "already exists." ↔
          Legible ["Chair", "1"] "already exists.") :=
    names_iff (by decide) (by decide) rfl (by simp) (by simp)
  obtain ⟨errors, herrors, hiff⟩ := hnamed
  refine ⟨errors, herrors, hiff.mpr (.inl ?_)⟩
  unfold Clear
  decide

/-- A name with a parenthesis ends the values: its producer is not named. -/
theorem producer_unnamed :
    ∃ errors, fieldErrors? (keyDetail ["name", "producer"] ["Chair (blue)", "1"]
        "already exists.") = some errors ∧
      errors.find? "name" = some (.messages ["Key (Chair (blue) , 1) already exists."]) ∧
      errors.find? "producer" = none ∧
      ¬ Names errors ["name", "producer"] ["Chair (blue)", "1"] "already exists." := by
  have hcut : shown ["Chair (blue)", "1"] ++ [')'] ++ ' ' :: "already exists.".toList =
      "Chair (blue".toList ++ [')'] ++ ", 1) already exists.".toList := by decide
  have hmessages : (splitOnSeq separator "Chair (blue".toList).map
      (pieceMessage ", 1) already exists.".toList) =
        ["Key (Chair (blue) , 1) already exists."] := by decide +kernel
  have hkey := fieldErrors_key (by decide : ["name", "producer"] ≠ []) (by simp) hcut (by decide)
    (by decide)
  rw [hmessages] at hkey
  have hnone : (pushed (["name", "producer"].zip
      ["Key (Chair (blue) , 1) already exists."]) []).find? "producer" = none := rfl
  refine ⟨_, hkey, rfl, hnone, fun h => ?_⟩
  have hproducer := h.messages 1 "producer" "1" rfl rfl
  rw [hnone] at hproducer
  contradiction

end Legible

end RowServe.ConstraintDetail
