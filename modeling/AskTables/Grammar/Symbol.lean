/-!
# Keywords and symbols

The keywords of statement text, and the *symbols* a message can name as expected at some place:
the end of the text, the phrases of the grammar and the keywords.  `Symbol.all` lists the symbols in
the order messages name them.
-/

namespace AskTables.Grammar

/-- The words with a meaning of their own. -/
inductive Keyword where
  | select
  | fromWord
  | whereWord
  | group
  | order
  | byWord
  | left
  | outer
  | inner
  | join
  | onWord
  | asWord
  | like
  | asc
  | desc
  | avg
  | sum
  | count
deriving DecidableEq, Inhabited

/-- The keyword as messages write it. -/
def Keyword.text : Keyword → String
  | .select => "SELECT"
  | .fromWord => "FROM"
  | .whereWord => "WHERE"
  | .group => "GROUP"
  | .order => "ORDER"
  | .byWord => "BY"
  | .left => "LEFT"
  | .outer => "OUTER"
  | .inner => "INNER"
  | .join => "JOIN"
  | .onWord => "ON"
  | .asWord => "AS"
  | .like => "LIKE"
  | .asc => "ASC"
  | .desc => "DESC"
  | .avg => "AVG"
  | .sum => "SUM"
  | .count => "COUNT"

/-- The letters of the keyword in lower case. -/
def Keyword.letters : Keyword → List Char
  | .select => ['s', 'e', 'l', 'e', 'c', 't']
  | .fromWord => ['f', 'r', 'o', 'm']
  | .whereWord => ['w', 'h', 'e', 'r', 'e']
  | .group => ['g', 'r', 'o', 'u', 'p']
  | .order => ['o', 'r', 'd', 'e', 'r']
  | .byWord => ['b', 'y']
  | .left => ['l', 'e', 'f', 't']
  | .outer => ['o', 'u', 't', 'e', 'r']
  | .inner => ['i', 'n', 'n', 'e', 'r']
  | .join => ['j', 'o', 'i', 'n']
  | .onWord => ['o', 'n']
  | .asWord => ['a', 's']
  | .like => ['l', 'i', 'k', 'e']
  | .asc => ['a', 's', 'c']
  | .desc => ['d', 'e', 's', 'c']
  | .avg => ['a', 'v', 'g']
  | .sum => ['s', 'u', 'm']
  | .count => ['c', 'o', 'u', 'n', 't']

/-- The keywords that no name may be.  The aggregate functions are not among them. -/
def Keyword.reserved : List Keyword :=
  [.select, .fromWord, .whereWord, .group, .order, .byWord, .left, .outer, .inner, .join, .onWord,
    .asWord, .like, .asc, .desc]

/-- What a message can say was expected. -/
inductive Symbol where
  | endOfText
  | statement
  | selectList
  | selectItem
  | aggregate
  | aggregateFn
  | aggregateArg
  | wildcard
  | tableRef
  | joinClause
  | joinKind
  | leftJoin
  | innerJoin
  | whereClause
  | compareOp
  | literal
  | string
  | stringInner
  | number
  | groupByClause
  | orderByClause
  | sortDir
  | column
  | ident
  | keyword (word : Keyword)
deriving DecidableEq, Inhabited

/-- The symbol as messages write it. -/
def Symbol.text : Symbol → String
  | .endOfText => "EOI"
  | .statement => "statement"
  | .selectList => "select list"
  | .selectItem => "select item"
  | .aggregate => "aggregate"
  | .aggregateFn => "agg func"
  | .aggregateArg => "agg arg"
  | .wildcard => "wildcard"
  | .tableRef => "table ref"
  | .joinClause => "join clause"
  | .joinKind => "join kind"
  | .leftJoin => "left join"
  | .innerJoin => "inner join"
  | .whereClause => "where clause"
  | .compareOp => "compare op"
  | .literal => "literal"
  | .string => "string"
  | .stringInner => "string inner"
  | .number => "number"
  | .groupByClause => "group by clause"
  | .orderByClause => "order by clause"
  | .sortDir => "sort dir"
  | .column => "col ref"
  | .ident => "ident"
  | .keyword word => word.text

/-- Every symbol, in the order messages name them. -/
def Symbol.all : List Symbol :=
  [.endOfText, .statement, .selectList, .selectItem, .aggregate, .aggregateFn, .aggregateArg,
    .wildcard, .tableRef, .joinClause, .joinKind, .leftJoin, .innerJoin, .whereClause, .compareOp,
    .literal, .string, .stringInner, .number, .groupByClause, .orderByClause, .sortDir, .column,
    .ident] ++
  [Keyword.select, .fromWord, .whereWord, .group, .order, .byWord, .left, .outer, .inner, .join,
    .onWord, .asWord, .like, .asc, .desc, .avg, .sum, .count].map .keyword

/-- Every symbol is listed. -/
theorem Symbol.mem_all (s : Symbol) : s ∈ Symbol.all := by
  cases s with
  | keyword w => cases w <;> decide
  | _ => decide

end AskTables.Grammar
