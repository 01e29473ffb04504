import TableGateway.Discovery.Clause

/-!
# Questions to the database

The texts that ask the database for its tables, its views and the details of one of them. In the
first two the place of the condition is marked. The driver takes them in a notation of its own.
-/

namespace TableGateway.Discovery

/-- Asks for the tables with a primary key, up to the condition. -/
def tablesHead : String :=
  "SELECT *

FROM (
  SELECT
    t.table_schema::text AS table_schema,
    t.table_name::text AS table_name,
    array_agg(kcu.column_name::text ORDER BY kcu.ordinal_position) AS primary_keys

  FROM information_schema.tables AS t

  JOIN information_schema.table_constraints AS tc
    ON tc.table_schema = t.table_schema
    AND tc.table_name = t.table_name
    AND tc.constraint_type = 'PRIMARY KEY'

  JOIN information_schema.key_column_usage AS kcu
    ON kcu.constraint_schema = tc.constraint_schema
    AND kcu.constraint_name = tc.constraint_name
    AND kcu.table_name = tc.table_name

  WHERE t.table_type = 'BASE TABLE'
    AND t.table_schema NOT IN ('pg_catalog', 'information_schema')

  GROUP BY
    t.table_schema,
    t.table_name
) AS entities

WHERE "

/-- Asks for the views, up to the condition. -/
def viewsHead : String :=
  "SELECT *

FROM (
  SELECT
    table_schema::text AS table_schema,
    table_name::text AS table_name

  FROM information_schema.views

  WHERE table_schema NOT IN ('pg_catalog', 'information_schema')
) AS entities

WHERE "

/-- What follows the condition. -/
def enumerationTail : String :=
  "

ORDER BY
  table_schema,
  table_name
"

/-- Asks for the columns and relationships of the entity whose schema and name stand for these. -/
def detailsTextOf (schema name : String) : String :=
  "WITH entity AS (
  SELECT
    c.oid,
    c.relname,
    n.nspname

  FROM pg_catalog.pg_class AS c

  JOIN pg_catalog.pg_namespace AS n
    ON n.oid = c.relnamespace

  WHERE n.nspname = " ++ schema ++ "
    AND c.relname = " ++ name ++ "
)

SELECT
  (
    SELECT COALESCE(
      json_agg(
        json_build_object(
          'name', cols.column_name,
          'type', cols.data_type,
          'nullable', cols.is_nullable = 'YES',
          'default', cols.column_default,
          'isPrimaryKey', EXISTS (
            SELECT 1
            FROM pg_catalog.pg_index AS indexes
            WHERE indexes.indrelid = attributes.attrelid
              AND indexes.indisprimary
              AND attributes.attnum = ANY (indexes.indkey)
          ),
          'constraints', COALESCE((
            SELECT array_agg(
              regexp_replace(pg_get_constraintdef(checks.oid), '^CHECK \\((.*)\\)$', '\\1')
              ORDER BY checks.conname
            )
            FROM pg_catalog.pg_constraint AS checks
            WHERE checks.conrelid = attributes.attrelid
              AND checks.contype = 'c'
              AND attributes.attnum = ANY (checks.conkey)
          ), '\x7b\x7d')
        )
        ORDER BY cols.ordinal_position
      ),
      '[]'
    )

    FROM information_schema.columns AS cols

    JOIN entity
      ON entity.nspname = cols.table_schema
      AND entity.relname = cols.table_name

    JOIN pg_catalog.pg_attribute AS attributes
      ON attributes.attrelid = entity.oid
      AND attributes.attname = cols.column_name
      AND NOT attributes.attisdropped
  ) AS columns,

  (
    SELECT COALESCE(
      json_agg(
        json_build_object(
          'schema', referencing_ns.nspname,
          'name', referencing.relname,
          'from', referenced_column.attname,
          'to', referencing_column.attname
        )
        ORDER BY referencing.relname, fk.conname
      ),
      '[]'
    )

    FROM pg_catalog.pg_constraint AS fk

    JOIN entity
      ON entity.oid = fk.confrelid

    JOIN pg_catalog.pg_class AS referencing
      ON referencing.oid = fk.conrelid

    JOIN pg_catalog.pg_namespace AS referencing_ns
      ON referencing_ns.oid = referencing.relnamespace

    CROSS JOIN LATERAL unnest(fk.conkey, fk.confkey) AS keys (local_attnum, foreign_attnum)

    JOIN pg_catalog.pg_attribute AS referencing_column
      ON referencing_column.attrelid = fk.conrelid
      AND referencing_column.attnum = keys.local_attnum

    JOIN pg_catalog.pg_attribute AS referenced_column
      ON referenced_column.attrelid = fk.confrelid
      AND referenced_column.attnum = keys.foreign_attnum

    WHERE fk.contype = 'f'
  ) AS has,

  (
    SELECT COALESCE(
      json_agg(
        json_build_object(
          'schema', referenced_ns.nspname,
          'name', referenced.relname,
          'from', referencing_column.attname,
          'to', referenced_column.attname
        )
        ORDER BY referenced.relname, fk.conname
      ),
      '[]'
    )

    FROM pg_catalog.pg_constraint AS fk

    JOIN entity
      ON entity.oid = fk.conrelid

    JOIN pg_catalog.pg_class AS referenced
      ON referenced.oid = fk.confrelid

    JOIN pg_catalog.pg_namespace AS referenced_ns
      ON referenced_ns.oid = referenced.relnamespace

    CROSS JOIN LATERAL unnest(fk.conkey, fk.confkey) AS keys (local_attnum, foreign_attnum)

    JOIN pg_catalog.pg_attribute AS referencing_column
      ON referencing_column.attrelid = fk.conrelid
      AND referencing_column.attnum = keys.local_attnum

    JOIN pg_catalog.pg_attribute AS referenced_column
      ON referenced_column.attrelid = fk.confrelid
      AND referenced_column.attnum = keys.foreign_attnum

    WHERE fk.contype = 'f'
  ) AS belongs_to
"

/-- Asks for the columns and relationships of one entity, which is named apart from the text. -/
def detailsText : String :=
  detailsTextOf ":schema" ":name"

/-- The question for the entities of a kind that meet a condition. -/
def enumerationText (kind : EntityKind) (condition : String) : String :=
  let head := match kind with
    | .table => tablesHead
    | .view => viewsHead
  head ++ condition ++ enumerationTail

/-- A question as the driver takes it, with the percent signs doubled. -/
def driverText (question : String) : String :=
  String.ofList (question.toList.flatMap fun c => if c = '%' then ['%', '%'] else [c])

/-- The question for details as the driver takes it. -/
def detailsDriverText : String :=
  detailsTextOf "%(schema)s" "%(name)s"

/-- The questions by name. -/
def questions : List (String × String) :=
  let mark := "\x7bconditions\x7d"
  [("entity", detailsText), ("tables", enumerationText .table mark),
   ("views", enumerationText .view mark)]

end TableGateway.Discovery
