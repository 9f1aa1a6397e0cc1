import FacetSearch.Error

/-!
# Configuration

How many documents a page shows. A page of no documents could never be left, so there is none.
-/

namespace FacetSearch

structure Config where
  pageSize : UInt64
  pageSize_ne_zero : pageSize ≠ 0
deriving DecidableEq, Repr

namespace Config

def defaultPageSize : UInt64 := 100

def ofPageSize (pageSize : UInt64) : Except SearchError Config :=
  if h : pageSize = 0 then .error (.invalidConfig "page_size must be at least 1")
  else .ok ⟨pageSize, h⟩

end Config

end FacetSearch
