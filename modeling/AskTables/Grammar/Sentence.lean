import AskTables.Grammar.Word
import AskTables.Statement.Basic

/-!
# The grammar of statements

The phrases of statement text, from columns up to whole statements:

* `SELECT items FROM table`, with an optional name after the table;
* a join, `LEFT [OUTER] JOIN` or `[INNER] JOIN`, with a table and `ON column = column`;
* `WHERE column op literal` with `=`, `>`, `<` or `LIKE`;
* `GROUP BY` with one column or more, `ORDER BY` with one column and a direction;
* a semicolon.

Every part after the base table may be missing.  White space may stand between any two tokens, and
none inside a column.
-/

namespace AskTables.Grammar.Reader

/-- `t.c`, or `c` alone. -/
def column : Reader Column :=
  named .column
    ((ident.seq (optional (((token '.').seq ident).map Prod.snd))).map fun r =>
      match r.2 with
      | some name => ⟨some r.1, name⟩
      | none => ⟨none, r.1⟩)

/-- The star that stands for whole rows. -/
def wildcard : Reader Unit := named .wildcard (token '*')

/-- `AVG`, `SUM` or `COUNT`. -/
def aggregateFn : Reader AggregateFn :=
  named .aggregateFn
    (((keyword .avg).map fun _ => AggregateFn.avg).orElse
      (((keyword .sum).map fun _ => AggregateFn.sum).orElse
        ((keyword .count).map fun _ => AggregateFn.count)))

/-- The star or the column between the parentheses of an aggregate. -/
def aggregateArg : Reader AggregateArg :=
  named .aggregateArg
    ((wildcard.map fun _ => AggregateArg.wildcard).orElse (column.map AggregateArg.column))

/-- `FN(arg) AS name`. -/
def aggregate : Reader Aggregate :=
  named .aggregate
    (((aggregateFn.spacedLeft (token '(')).spaced
        (((aggregateArg.spacedLeft (token ')')).spacedLeft (keyword .asWord)).spaced ident)).map
      fun r => ⟨r.1, r.2.1, r.2.2⟩)

/-- An aggregate, or else a column. -/
def selectItem : Reader SelectItem :=
  named .selectItem ((aggregate.map SelectItem.aggregate).orElse (column.map SelectItem.column))

/-- A star, or else items with commas between. -/
def selection : Reader Selection :=
  named .selectList
    ((wildcard.map fun _ => Selection.wildcard).orElse ((commaList selectItem).map Selection.items))

/-- A table and the name it is given, if any. -/
def tableRef : Reader TableRef :=
  named .tableRef ((ident.spaced (optional ident)).map fun r => ⟨r.1, r.2⟩)

/-- `LEFT JOIN`, with an optional `OUTER` in the middle. -/
def leftJoin : Reader JoinKind :=
  named .leftJoin
    ((((keyword .left).spaced (optional (keyword .outer))).spaced (keyword .join)).map
      fun _ => JoinKind.left)

/-- `JOIN`, with an optional `INNER` in front. -/
def innerJoin : Reader JoinKind :=
  named .innerJoin
    (((optional (keyword .inner)).spaced (keyword .join)).map fun _ => JoinKind.inner)

/-- The kind of a join. -/
def joinKind : Reader JoinKind := named .joinKind (leftJoin.orElse innerJoin)

/-- A join and its condition. -/
def joinClause : Reader JoinClause :=
  named .joinClause
    ((((joinKind.spaced tableRef).spacedLeft (keyword .onWord)).spaced
        ((column.spacedLeft (token '=')).spaced column)).map
      fun r => ⟨r.1.1, r.1.2, r.2.1, r.2.2⟩)

/-- A comparison sign, or `LIKE`. -/
def compareOp : Reader CompareOp :=
  named .compareOp
    (((token '=').map fun _ => CompareOp.eq).orElse
      (((token '>').map fun _ => CompareOp.gt).orElse
        (((token '<').map fun _ => CompareOp.lt).orElse
          ((keyword .like).map fun _ => CompareOp.like))))

/-- A quoted string, or else a number. -/
def literal : Reader String := named .literal (quoted.orElse number)

/-- A condition. -/
def whereClause : Reader Condition :=
  named .whereClause
    (((keyword .whereWord).spacedRight ((column.spaced compareOp).spaced literal)).map
      fun r => ⟨r.1.1, r.1.2, r.2⟩)

/-- The columns to group by. -/
def groupByClause : Reader (List Column) :=
  named .groupByClause (((keyword .group).spaced (keyword .byWord)).spacedRight (commaList column))

/-- The direction of a sort: whether the largest comes first. -/
def sortDir : Reader Bool :=
  named .sortDir
    (((keyword .asc).map fun _ => false).orElse ((keyword .desc).map fun _ => true))

/-- The column to sort by.  Without a direction the smallest comes first. -/
def orderByClause : Reader SortKey :=
  named .orderByClause
    ((((keyword .order).spaced (keyword .byWord)).spacedRight
        (column.spaced (optional sortDir))).map
      fun r => ⟨r.1, r.2.getD false⟩)

/-- The clauses after the base table. -/
def clauses : Reader (List Clause) :=
  ((((optional joinClause).spaced (optional whereClause)).spaced
      (optional groupByClause)).spaced (optional orderByClause)).map
    fun r =>
      (r.1.1.1.map Clause.join).toList ++ (r.1.1.2.map Clause.filter).toList ++
        (r.1.2.map Clause.groupBy).toList ++ (r.2.map Clause.orderBy).toList

/-- A whole statement, up to the end of the text. -/
def statement : Reader Statement :=
  named .statement
    (((((keyword .select).spacedRight (selection.spacedLeft (keyword .fromWord))).spaced
        (tableRef.spaced clauses)).spacedLeft
          ((optional (token ';')).spaced endOfText)).afterSpace.map
      fun r => ⟨r.1, r.2.1, r.2.2⟩)

end AskTables.Grammar.Reader
