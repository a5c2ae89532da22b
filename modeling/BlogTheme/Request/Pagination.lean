import BlogTheme.Text.Decimal

/-!
# Pagination

The place of a page in a listing that goes over several, and the addresses of
the other pages. Pages count from 1; page 0 is taken for page 1.
-/

namespace BlogTheme

/-- Which page of a listing is shown, of how many, and the address of the
first. -/
structure Pagination where
  page : UInt32 := 1
  pages : UInt32 := 1
  baseUrl : String := "/"
  deriving DecidableEq, Repr, Inhabited

namespace Pagination

/-- Whether a page comes before. -/
def hasPrev (p : Pagination) : Bool :=
  1 < p.page

/-- Whether a page comes after. -/
def hasNext (p : Pagination) : Bool :=
  p.page < p.pages

/-- The address of the first page, with a slash at its end. -/
def base (p : Pagination) : String :=
  if p.baseUrl.toList.getLast? = some '/' then p.baseUrl else p.baseUrl ++ "/"

/-- The address of a page. -/
def pageUrl (p : Pagination) (page : UInt32) : String :=
  if page ≤ 1 then p.base else p.base ++ "page/" ++ Text.showInt page.toNat ++ "/"

/-- The address of the page before, if there is one. -/
def prevUrl? (p : Pagination) : Option String :=
  if p.hasPrev then some (p.pageUrl (p.page - 1)) else none

/-- The address of the page after, if there is one. -/
def nextUrl? (p : Pagination) : Option String :=
  if p.hasNext then some (p.pageUrl (p.page + 1)) else none

end Pagination

end BlogTheme
