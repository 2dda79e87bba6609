import Mathlib.Data.List.TakeWhile
import RowServe.Proofs.Declaration.TypeNames
import RowServe.Proofs.Resource.Identified
import RowServe.Proofs.Resource.Inserts
import RowServe.Proofs.Resource.Slots
import RowServe.Proofs.Sql.Quoting
import RowServe.Proofs.Table.Provision

/-!
# Sequences of keys

A sequence is created under a quoted identifier, which the server keeps as it is. Where its next
value is taken, the name stands in a literal, and the server reads the text of the literal as a name
once more: outside of double quotes it folds letters, takes dots for the ends of schemas, and passes
over white space. The name is not quoted within the literal. That the server cuts long names is
left out here, since it cuts both.

Results:

* `NameRules.parts_self_iff`: the texts that are read as the names they are.
* `key_sequence_iff`: what feeds a key, and when it is the sequence that has been created.
* `folded_sequence`: a name with capital letters.
-/

namespace RowServe

/-! ## Reading names -/

/-- How the server reads a text as the name of an object. -/
structure NameRules where
  /-- The characters that a part of a name may have outside of double quotes. -/
  bare : Char → Bool
  bare_space : ∀ c, bare c = true → isSpace c = false
  /-- The character that is taken for one outside of double quotes. -/
  fold : Char → Char
  /-- The texts that are read as the number of an object, and not as a name. -/
  number : String → Bool

namespace NameRules

variable (rules : NameRules)

/-- Reads a part of a name, and gives what follows it. -/
def part? (cs : List Char) : Option (String × List Char) :=
  if cs.head? = some '"' then Sql.readEnclosed '"' cs
  else if cs.takeWhile rules.bare = [] then none
  else some (String.ofList ((cs.takeWhile rules.bare).map rules.fold), cs.dropWhile rules.bare)

variable {rules} {cs word rest : List Char} {name : String}

/-- A part of a name is quoted, or it is a word of bare characters, which are folded. -/
theorem part_cases (h : rules.part? cs = some (name, rest)) :
    cs = (Sql.quoted name).toList ++ rest ∨
      ∃ word, word ≠ [] ∧ cs = word ++ rest ∧ word.head? ≠ some '"' ∧
        (∀ c ∈ word, rules.bare c = true) ∧ name = String.ofList (word.map rules.fold) := by
  unfold part? at h
  split_ifs at h with hquote hword
  · exact .inl (Sql.readEnclosed_eq_some_iff.mp h).1
  · obtain ⟨rfl, rfl⟩ := Prod.mk.inj (Option.some.inj h)
    refine .inr ⟨_, hword, List.takeWhile_append_dropWhile.symm, fun hhead => hquote ?_,
      fun c hc => List.mem_takeWhile_imp hc, rfl⟩
    obtain ⟨c, more, hmore⟩ := List.exists_cons_of_ne_nil hword
    obtain rfl : c = '"' := by simpa [hmore] using hhead
    rw [← List.takeWhile_append_dropWhile (p := rules.bare) (l := cs), hmore]
    rfl

theorem part_shorter (h : rules.part? cs = some (name, rest)) : rest.length < cs.length := by
  rcases part_cases h with rfl | ⟨word, hne, rfl, _⟩
  · have hquoted := Sql.length_quoted name
    rw [List.length_append]
    omega
  · have := List.length_pos_iff.mpr hne
    rw [List.length_append]
    omega

variable (rules) in
/-- Reads the parts of a name, which are separated by dots, with white space around them or not. -/
def parts? (cs : List Char) : Option (List String) :=
  match _hpart : rules.part? (cs.dropWhile isSpace) with
  | none => none
  | some (name, rest) =>
    match _hrest : rest.dropWhile isSpace with
    | [] => some [name]
    | c :: more => if c = '.' then (parts? more).map (name :: ·) else none
termination_by cs.length
decreasing_by
  have hshorter := part_shorter _hpart
  have hfront := (List.dropWhile_sublist (l := cs) isSpace).length_le
  have hback := (List.dropWhile_sublist (l := rest) isSpace).length_le
  rw [_hrest, List.length_cons] at hback
  omega

/-- A name has a part. -/
theorem parts_ne_nil : rules.parts? cs ≠ some [] := by
  unfold parts?
  split
  · exact Option.some_ne_none _ ∘ Eq.symm
  · split
    · simp
    · split_ifs
      · simp
      · simp

/-- A name of one part. -/
theorem parts_single_iff : rules.parts? cs = some [name] ↔
    ∃ rest, rules.part? (cs.dropWhile isSpace) = some (name, rest) ∧
      rest.dropWhile isSpace = [] := by
  unfold parts?
  cases hpart : rules.part? (cs.dropWhile isSpace) with
  | none => simp
  | some part =>
    obtain ⟨first, rest⟩ := part
    dsimp only
    split
    · rename_i hrest
      constructor
      · intro h
        obtain ⟨rfl, _⟩ := List.cons.inj (Option.some.inj h)
        exact ⟨rest, rfl, hrest⟩
      · rintro ⟨_, hsame, _⟩
        rw [(Prod.mk.inj (Option.some.inj hsame)).1]
    · rename_i c more hrest
      have hmore : (if c = '.' then (rules.parts? more).map (first :: ·) else none) ≠
          some [name] := by
        split_ifs
        · intro h
          obtain ⟨names, hnames, hcons⟩ := Option.map_eq_some_iff.mp h
          obtain ⟨_, rfl⟩ := List.cons.inj hcons
          exact parts_ne_nil hnames
        · exact Option.some_ne_none _ ∘ Eq.symm
      refine iff_of_false hmore ?_
      rintro ⟨rest', hsame, hnil⟩
      obtain ⟨_, rfl⟩ := Prod.mk.inj (Option.some.inj hsame)
      rw [hrest] at hnil
      contradiction

/-! ## Names that are read as they are -/

/-- The text is read as the name that it is: it is no number, has only bare characters of which none
    is changed, and does not begin with a double quote. -/
structure Plain (rules : NameRules) (name : String) : Prop where
  named : rules.number name = false
  nonempty : name.toList ≠ []
  unquoted : name.toList.head? ≠ some '"'
  bare : ∀ c ∈ name.toList, rules.bare c = true
  kept : ∀ c ∈ name.toList, rules.fold c = c

/-- A word of bare characters is read to its end, and folded. -/
theorem parts_bare (hne : word ≠ []) (hhead : word.head? ≠ some '"')
    (hbare : ∀ c ∈ word, rules.bare c = true) :
    rules.parts? word = some [String.ofList (word.map rules.fold)] := by
  have hstart : word.dropWhile isSpace = word := by
    obtain ⟨c, more, rfl⟩ := List.exists_cons_of_ne_nil hne
    have hspace := rules.bare_space c (hbare c List.mem_cons_self)
    rw [List.dropWhile_cons_of_neg (by rw [hspace]; decide)]
  refine parts_single_iff.mpr ⟨[], ?_, rfl⟩
  have hall : word.takeWhile rules.bare = word := List.takeWhile_eq_self_iff.mpr hbare
  have hnone : word.dropWhile rules.bare = [] := List.dropWhile_eq_nil_iff.mpr hbare
  rw [hstart, part?, if_neg hhead, hall, if_neg hne, hnone]

theorem map_eq_self_iff {f : Char → Char} : word.map f = word ↔ ∀ c ∈ word, f c = c := by
  simpa using List.map_inj_left (l := word) (f := f) (g := id)

/-- The texts that are read as the names they are. Within double quotes a name would be shorter than
    the text. -/
theorem parts_self_iff (hnumber : rules.number name = false) :
    rules.parts? name.toList = some [name] ↔ rules.Plain name := by
  constructor
  · intro h
    obtain ⟨rest, hpart, hrest⟩ := parts_single_iff.mp h
    have hlength := (List.dropWhile_sublist (l := name.toList) isSpace).length_le
    rcases part_cases hpart with heq | ⟨word, hne, heq, hhead, hbare, hname⟩
    · have hquoted := Sql.length_quoted name
      rw [heq, List.length_append] at hlength
      omega
    · have hfolded : name.toList = word.map rules.fold := by rw [hname, String.toList_ofList]
      have hwhole : name.toList = word := by
        have hsuffix := List.dropWhile_suffix (l := name.toList) isSpace
        rw [heq] at hsuffix hlength
        have hsame := congrArg List.length hfolded
        rw [List.length_map] at hsame
        rw [List.length_append] at hlength
        have hnil : rest = [] := List.length_eq_zero_iff.mp (by omega)
        rw [hnil, List.append_nil] at hsuffix
        exact (hsuffix.eq_of_length hsame.symm).symm
      rw [← hwhole] at hne hhead hbare hfolded
      exact ⟨hnumber, hne, hhead, hbare, map_eq_self_iff.mp hfolded.symm⟩
  · intro h
    have hfold : name.toList.map rules.fold = name.toList := map_eq_self_iff.mpr h.kept
    rw [parts_bare h.nonempty h.unquoted h.bare, hfold, String.ofList_toList]

end NameRules

/-! ## Statements about sequences -/

/-- What stands behind some text at the beginning of another one. -/
def behind? (front text : String) : Option (List Char) := text.toList.dropPrefix? front.toList

theorem behind_append (front text : String) : behind? front (front ++ text) = some text.toList := by
  rw [behind?, List.dropPrefix?_eq_some_iff, String.toList_append]
  exact ⟨front.toList, rfl, beq_self_eq_true _⟩

/-- The name of the sequence that a statement creates. -/
def created? (statement : String) : Option String :=
  (behind? "CREATE SEQUENCE IF NOT EXISTS " statement).bind fun text =>
    (Sql.readEnclosed '"' text).bind fun (name, rest) => if rest = [] then some name else none

/-- The parts of the name of the sequence whose next value is taken by a call. -/
def NameRules.denoted? (rules : NameRules) (call : String) : Option (List String) :=
  (behind? "nextval(" call).bind fun text =>
    (Sql.readEnclosed '\'' text).bind fun (name, rest) =>
      if rest = [')'] ∧ rules.number name = false then rules.parts? name.toList else none

/-- The call that takes the next value of a sequence. -/
def nextCall (sequence : String) : String := "nextval(" ++ Sql.literal sequence ++ ")"

theorem render_next (sequence : String) :
    (Sql.Assigned.next sequence).render = nextCall sequence := rfl

/-- A sequence is created under its name. -/
theorem created_sequenceSql (name : String) :
    created? (Provision.sequenceSql name) = some name := by
  have hread : Sql.readEnclosed '"' (Sql.quoted name).toList = some (name, []) :=
    Sql.readEnclosed_eq_some_iff.mpr ⟨(List.append_nil _).symm, by simp⟩
  unfold created? Provision.sequenceSql
  rw [behind_append, Option.bind_some, hread]
  simp

/-- The literal gives the text of the name back, and this text is read as a name. -/
theorem denoted_nextCall (rules : NameRules) (sequence : String) :
    rules.denoted? (nextCall sequence) =
      if rules.number sequence = false then rules.parts? sequence.toList else none := by
  have hread : Sql.readEnclosed '\'' (Sql.literal sequence ++ ")").toList =
      some (sequence, [')']) :=
    Sql.readEnclosed_eq_some_iff.mpr ⟨String.toList_append, by simp⟩
  have hcall : nextCall sequence = "nextval(" ++ (Sql.literal sequence ++ ")") := by
    rw [nextCall, String.append_assoc]
  rw [NameRules.denoted?, hcall, behind_append, Option.bind_some, hread, Option.bind_some]
  simp

theorem denoted_self_iff {rules : NameRules} {sequence : String} :
    rules.denoted? (nextCall sequence) = some [sequence] ↔ rules.Plain sequence := by
  rw [denoted_nextCall]
  by_cases hnumber : rules.number sequence = false
  · rw [if_pos hnumber, NameRules.parts_self_iff hnumber]
  · rw [if_neg hnumber]
    exact iff_of_false (Option.some_ne_none _ ∘ Eq.symm) fun h => hnumber h.named

/-! ## Sequences of keys -/

/-- A key takes its values from a call: by the default of its column in the table, and in every
    insert, whose first column and value it is. -/
structure FedBy (g : Registry) (r : Resource) (table key call : String) : Prop where
  default : ∃ t ∈ g.tables, t.name = table ∧ t.createSql ∈ Provision.statements g.tables ∧
    ∃ c ∈ t.columns, c.name = key ∧ c.defaultSql = " DEFAULT " ++ call ∧
      ∃ front back, t.createSql = front ++ c.sql ++ back
  inserted : ∀ payload cmd, r.insertCommand payload = .ok cmd → ∃ into columns values back,
    cmd.text = "INSERT INTO " ++ into ++ " (" ++ (Sql.quoted key ++ columns) ++ ") VALUES (" ++
      (call ++ values) ++ ") RETURNING to_json(" ++ back

section Declared

variable {ds : Declarations} {g : Registry} {d : ResourceDecl} {r : Resource}
  {key sequence : String}

/-- The column of a key has the sequence that is declared for it. -/
theorem column_of_sequence (hg : ds.resolve = .ok g) (hd : d ∈ ds)
    (hsequence : ds.keySequence? d = some (key, sequence)) :
    ∃ t ∈ g.tables, t.name = (ds.owner d).tableName ∧
      ∃ c ∈ t.columns, c.name = key ∧ c.sequence = some sequence := by
  obtain ⟨hcheck, htables, _⟩ := Compile.resolve_ok_iff.mp hg
  obtain ⟨howner, hplain⟩ := Compile.owner_plain hcheck hd
  obtain ⟨e, he, hnamed⟩ := Option.bind_eq_some_iff.mp hsequence
  obtain ⟨_, hauto, hpair⟩ := Option.map_eq_some_iff.mp hnamed
  obtain ⟨rfl, rfl⟩ := Prod.mk.inj hpair
  obtain ⟨c, hc, hname⟩ := ColumnDef.ofDecl?_stored
    (TableDef.checkKey_ok (TableDef.mem_ofDecls htables howner hplain).1 he)
  have hkey : e.primaryKey = true := List.find?_some he
  refine ⟨Provision.ownTable (ds.owner d), Provision.ownTable_mem htables howner hplain, rfl, c,
    List.mem_filterMap.mpr ⟨e, List.mem_of_find?_eq_some he, hc⟩, hname, ?_⟩
  obtain ⟨_, _, rfl⟩ := Option.map_eq_some_iff.mp hc
  exact (if_pos hkey).trans hauto

theorem mem_statements_sequence {tables : List TableDef} {t : TableDef} {c : ColumnDef}
    (ht : t ∈ tables) (hc : c ∈ t.columns) (hsequence : c.sequence = some sequence) :
    Provision.sequenceSql sequence ∈ Provision.statements tables := by
  have hmem : sequence ∈ tables.flatMap TableDef.sequences :=
    List.mem_flatMap.mpr ⟨t, ht, List.mem_filterMap.mpr ⟨c, hc, hsequence⟩⟩
  simp only [Provision.statements, List.mem_cons, List.mem_append]
  exact .inr (.inl (.inl (.inl (List.mem_map_of_mem hmem))))

/-- An insert begins with the key and the next value of its sequence. -/
theorem inserted_next (hr : Compile.resource ds d = .ok r)
    (hsequence : ds.keySequence? d = some (key, sequence)) (payload : Object) :
    ∃ more, r.insertedValues payload = ⟨key, .next sequence⟩ :: more := by
  rw [← Compile.keySequence_declared hr] at hsequence
  obtain ⟨_, hauto, hpair⟩ := Option.map_eq_some_iff.mp hsequence
  obtain ⟨rfl, rfl⟩ := Prod.mk.inj hpair
  unfold Resource.insertedValues Change.insertionsAt
  rw [hauto]
  exact ⟨_, rfl⟩

theorem intercalate_head (sep text : String) (texts : List String) :
    ∃ more, sep.intercalate (text :: texts) = text ++ more := by
  cases texts with
  | nil => exact ⟨"", by simp⟩
  | cons u texts => exact ⟨_, String.intercalate_cons_cons.trans (String.append_assoc ..)⟩

theorem exists_around (sep : String) {text : String} {texts : List String} (h : text ∈ texts) :
    ∃ front back, sep.intercalate texts = front ++ text ++ back := by
  induction texts with
  | nil => contradiction
  | cons u texts ih =>
    rcases List.mem_cons.mp h with rfl | h
    · obtain ⟨back, hback⟩ := intercalate_head sep text texts
      exact ⟨"", back, by rw [String.empty_append, hback]⟩
    · obtain ⟨v, vs, rfl⟩ := List.exists_cons_of_ne_nil (List.ne_nil_of_mem h)
      obtain ⟨front, back, hrest⟩ := ih h
      refine ⟨u ++ sep ++ front, back, ?_⟩
      rw [String.intercalate_cons_cons, hrest]
      simp only [String.append_assoc]

/-- The definition of a table has its columns in it. -/
theorem createSql_around {t : TableDef} {c : ColumnDef} (hc : c ∈ t.columns) :
    ∃ front back, t.createSql = front ++ c.sql ++ back := by
  have hmem : c.sql ∈ t.columns.map ColumnDef.sql ++ t.uniqueTogether.map TableDef.groupSql :=
    List.mem_append_left _ (List.mem_map_of_mem hc)
  obtain ⟨front, back, hlist⟩ := exists_around ",\n  " hmem
  refine ⟨"CREATE TABLE IF NOT EXISTS " ++ Sql.quoted t.name ++ " (\n  " ++ front,
    back ++ "\n)", ?_⟩
  unfold TableDef.createSql
  simp only [hlist, String.append_assoc]

theorem defaultSql_next {c : ColumnDef} (h : c.sequence = some sequence) :
    c.defaultSql = " DEFAULT " ++ nextCall sequence := by
  have hword : " DEFAULT nextval(" = " DEFAULT " ++ "nextval(" := by decide
  have hdefault : c.defaultSql = " DEFAULT nextval(" ++ Sql.literal sequence ++ ")" := by
    rw [ColumnDef.defaultSql, h]
  rw [hdefault, hword]
  simp only [nextCall, String.append_assoc]

/-- The key of a table takes its values from the sequence that is declared for it. -/
theorem fedBy_next (hg : ds.resolve = .ok g) (hd : d ∈ ds) (hr : Compile.resource ds d = .ok r)
    (hsequence : ds.keySequence? d = some (key, sequence)) :
    FedBy g r (ds.owner d).tableName key (nextCall sequence) where
  default := by
    obtain ⟨t, ht, htable, c, hc, hname, hcolumn⟩ := column_of_sequence hg hd hsequence
    exact ⟨t, ht, htable, Provision.mem_statements_create ht, c, hc, hname,
      defaultSql_next hcolumn, createSql_around hc⟩
  inserted payload cmd h := by
    obtain ⟨into, back, htext⟩ := Resource.insertCommand_text hr h
    obtain ⟨more, hmore⟩ := inserted_next hr hsequence payload
    obtain ⟨columns, hcolumns⟩ := intercalate_head ", " (Sql.quoted key)
      (more.map fun a => Sql.quoted a.column)
    obtain ⟨values, hvalues⟩ := intercalate_head ", " (nextCall sequence)
      (more.map (·.value.render))
    have hcolumnList : Sql.columnList (r.insertedValues payload) = Sql.quoted key ++ columns := by
      rw [hmore, ← hcolumns, Sql.columnList, List.map_cons]
    have hvalueList : Sql.valueList (r.insertedValues payload) = nextCall sequence ++ values := by
      rw [hmore, ← hvalues, Sql.valueList, List.map_cons, render_next]
    rw [hcolumnList, hvalueList] at htext
    exact ⟨into, columns, values, back, htext⟩

/-- For every key with a declared sequence, a sequence of this name is created, and a call feeds
    the key by default and in every insert. The call takes the next value of the sequence that is
    created exactly if the name is read as it is. -/
theorem key_sequence_iff (hg : ds.resolve = .ok g) (hd : d ∈ ds)
    (hr : Compile.resource ds d = .ok r) (hsequence : ds.keySequence? d = some (key, sequence))
    (rules : NameRules) :
    ∃ create ∈ Provision.statements g.tables, ∃ call, created? create = some sequence ∧
      FedBy g r (ds.owner d).tableName key call ∧
      (rules.denoted? call = some [sequence] ↔ rules.Plain sequence) := by
  obtain ⟨t, ht, _, c, hc, _, hcolumn⟩ := column_of_sequence hg hd hsequence
  exact ⟨_, mem_statements_sequence ht hc hcolumn, _, created_sequenceSql sequence,
    fedBy_next hg hd hr hsequence, denoted_self_iff⟩

end Declared

/-! ## Products with numbers -/

/-- Names end at dots and white space, and have their letters in lower case. Digits alone are the
    number of an object. -/
def serverNames : NameRules where
  bare c := decide (c ≠ '.') && !isSpace c
  bare_space c h := by simpa using (Bool.and_eq_true_iff.mp h).2
  fold := Char.toLower
  number s := decide (s = "-") || (decide (s ≠ "") && s.toList.all Char.isDigit)

/-- Products that take their keys from a sequence. -/
def numbered (sequence : String) : ResourceDecl :=
  .plain "Product" "product" [{ FieldDecl.key "id" with autoincrement := some sequence }]

/-- The keys of products are taken from the sequence that is created for them. -/
theorem product_sequence :
    ∃ g, Declarations.resolve [numbered "product_id_seq"] = .ok g ∧ ∃ r ∈ g.resources, ∃ call,
      FedBy g r "product" "id" call ∧ serverNames.denoted? call = some ["product_id_seq"] := by
  obtain ⟨g, hg, r, hr, _⟩ := Compile.exists_resolved [numbered "product_id_seq"] (fun _ => true)
    (by decide +kernel) (by decide +kernel)
  obtain ⟨d, hd, hcompiled⟩ := Compile.mem_resolved hg hr
  obtain rfl := List.mem_singleton.mp hd
  have hsequence : Declarations.keySequence? [numbered "product_id_seq"]
      (numbered "product_id_seq") = some ("id", "product_id_seq") := by decide +kernel
  obtain ⟨_, _, call, _, hfed, hdenoted⟩ :=
    key_sequence_iff hg hd hcompiled hsequence serverNames
  exact ⟨g, hg, r, hr, call, hfed, hdenoted.mpr
    ⟨by decide +kernel, by decide, by decide, List.all_eq_true.mp (by decide +kernel),
      NameRules.map_eq_self_iff.mp (by decide +kernel)⟩⟩

/-- The sequence has capital letters, and the keys are taken from one without them. -/
theorem folded_sequence :
    ∃ g, Declarations.resolve [numbered "ProductSeq"] = .ok g ∧ ∃ r ∈ g.resources, ∃ call,
      FedBy g r "product" "id" call ∧
      Provision.sequenceSql "ProductSeq" ∈ Provision.statements g.tables ∧
      serverNames.denoted? call = some ["productseq"] := by
  obtain ⟨g, hg, r, hr, _⟩ := Compile.exists_resolved [numbered "ProductSeq"] (fun _ => true)
    (by decide +kernel) (by decide +kernel)
  obtain ⟨d, hd, hcompiled⟩ := Compile.mem_resolved hg hr
  obtain rfl := List.mem_singleton.mp hd
  have hsequence : Declarations.keySequence? [numbered "ProductSeq"] (numbered "ProductSeq") =
      some ("id", "ProductSeq") := by decide +kernel
  obtain ⟨t, ht, _, c, hc, _, hcolumn⟩ := column_of_sequence hg hd hsequence
  refine ⟨g, hg, r, hr, nextCall "ProductSeq", fedBy_next hg hd hcompiled hsequence,
    mem_statements_sequence ht hc hcolumn, ?_⟩
  rw [denoted_nextCall, if_pos (by decide +kernel),
    NameRules.parts_bare (by decide) (by decide) (List.all_eq_true.mp (by decide +kernel))]
  decide +kernel

end RowServe
