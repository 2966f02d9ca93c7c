import ColumnQuery.Clause.Index
import ColumnQuery.Clause.Select

/-!
# Queries

A query is written as a chain: it starts from a source, and each condition or selection wraps the
chain built so far. Nothing is compiled before it is asked for.
-/
namespace ColumnQuery

/-- A query over one column family. -/
structure Query where
  /-- The source and the steps around it. -/
  chain : Expr

namespace Query

/-- The query of all rows of a column family. -/
def source (name : String) : Query := ⟨.source name⟩

/-- A further condition. All conditions hold together. -/
def filter (query : Query) (predicate : Expr) : Query :=
  ⟨.call .filter query.chain (.lambda predicate)⟩

/-- Further fields, selected after those before. -/
def select (query : Query) (projection : Expr) : Query :=
  ⟨.call .project query.chain (.lambda projection)⟩

/-- The statement of the query. -/
def compile (query : Query) : Except Unsupported Select := query.chain.select

/-- The text of the statement. -/
def toCql (query : Query) : Except Unsupported String := query.chain.toCql

end Query

/-- A lookup in a secondary index. -/
structure IndexQuery where
  /-- The row key the scan starts from. -/
  startKey : Value
  /-- The greatest number of rows returned. -/
  limit : UInt32
  /-- The condition on the rows. -/
  predicate : Expr

namespace IndexQuery

/-- A further condition, to hold as well. -/
def and (query : IndexQuery) (predicate : Expr) : IndexQuery :=
  { query with predicate := query.predicate.and predicate }

/-- The compiled lookup. -/
def compile (query : IndexQuery) : Except Unsupported IndexScan :=
  query.predicate.indexScan query.startKey query.limit

end IndexQuery

end ColumnQuery
