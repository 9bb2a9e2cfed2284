import FieldQuery.Page.Window
import FieldQuery.Filter.Wire

/-!
# Pages as JSON
-/
namespace FieldQuery

/-- A page as JSON; the sort is left out if empty. -/
def Page.toJson (p : Page Json) : Json :=
  .obj <| [("data", .arr p.data), ("pageIndex", .nat p.window.index),
      ("pageSize", .nat p.window.size), ("totalSize", .nat p.total),
      ("totalPage", .nat (p.window.pageCount p.total))] ++
    if p.sort.isEmpty then [] else [("sort", SortField.listJson p.sort)]

end FieldQuery
