import RowServe.Table.Definition

/-!
# Provisioning

The statements that create what the tables need, in the order in which they depend on
each other: the merge function, the sequences, the tables, the indexes, and last the
foreign keys. Each of them may be run again.

Results:

* `mem_statements_create`: every table is created.
-/

namespace RowServe.Provision

/-- The function that merges one JSON document into another: objects key by key, arrays
    by appending what is new, and anything else by replacing it. -/
def mergeFunction : String :=
  "CREATE OR REPLACE FUNCTION jsonb_merge_deep(target jsonb, patch jsonb)\n" ++
  "RETURNS jsonb LANGUAGE plpgsql IMMUTABLE AS $fn$\n" ++
  "DECLARE\n" ++
  "  result jsonb;\n" ++
  "  k text;\n" ++
  "  v jsonb;\n" ++
  "BEGIN\n" ++
  "  IF target IS NULL OR jsonb_typeof(target) = 'null' THEN\n" ++
  "    RETURN patch;\n" ++
  "  END IF;\n" ++
  "  IF patch IS NULL THEN\n" ++
  "    RETURN target;\n" ++
  "  END IF;\n" ++
  "  IF jsonb_typeof(target) = 'object' AND jsonb_typeof(patch) = 'object' THEN\n" ++
  "    result := target;\n" ++
  "    FOR k, v IN SELECT key, value FROM jsonb_each(patch) LOOP\n" ++
  "      IF result ? k THEN\n" ++
  "        result := jsonb_set(result, ARRAY[k], jsonb_merge_deep(result -> k, v));\n" ++
  "      ELSE\n" ++
  "        result := result || jsonb_build_object(k, v);\n" ++
  "      END IF;\n" ++
  "    END LOOP;\n" ++
  "    RETURN result;\n" ++
  "  END IF;\n" ++
  "  IF jsonb_typeof(target) = 'array' AND jsonb_typeof(patch) = 'array' THEN\n" ++
  "    SELECT COALESCE(jsonb_agg(d.elem ORDER BY d.ord), '[]'::jsonb) INTO result\n" ++
  "    FROM (\n" ++
  "      SELECT e.elem, min(e.ord) AS ord\n" ++
  "      FROM jsonb_array_elements(target || patch) WITH ORDINALITY AS e(elem, ord)\n" ++
  "      GROUP BY e.elem\n" ++
  "    ) d;\n" ++
  "    RETURN result;\n" ++
  "  END IF;\n" ++
  "  RETURN patch;\n" ++
  "END\n" ++
  "$fn$"

/-- The statement that creates a sequence. -/
def sequenceSql (name : String) : String := "CREATE SEQUENCE IF NOT EXISTS " ++ Sql.quoted name

/-- All statements in order. -/
def statements (tables : List TableDef) : List String :=
  mergeFunction ::
    ((tables.flatMap TableDef.sequences).map sequenceSql ++ tables.map TableDef.createSql ++
      tables.flatMap TableDef.indexSql ++ tables.flatMap TableDef.foreignKeySql)

theorem mem_statements_create {tables : List TableDef} {t : TableDef} (h : t ∈ tables) :
    t.createSql ∈ statements tables := by
  simp only [statements, List.mem_cons, List.mem_append, List.mem_map]
  exact .inr (.inl (.inl (.inr ⟨t, h, rfl⟩)))

end RowServe.Provision
