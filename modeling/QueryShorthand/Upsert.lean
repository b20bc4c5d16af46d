import QueryShorthand.Error

/-!
The clause that turns an insert into an update where a row exists already.
-/

namespace QueryShorthand.Dialect

/-- MySQL finds the conflict itself; elsewhere `target` must name the unique columns. -/
def upsert (d : Dialect) (target columns : List Text) : Compiled :=
  match d with
  | mysql =>
    let sets := columns.map fun c => d.quoteName c ++ " = VALUES(".toList ++ d.quoteName c ++ [')']
    .ok ("ON DUPLICATE KEY UPDATE ".toList ++ Text.joined ", ".toList sets)
  | _ =>
    if target = [] then .error (.emptyName .conflictTarget)
    else
      let sets := columns.map fun c => d.quoteName c ++ " = excluded.".toList ++ d.quoteName c
      .ok ("ON CONFLICT (".toList ++ Text.joined ", ".toList (target.map d.quoteName)
        ++ ") DO UPDATE SET ".toList ++ Text.joined ", ".toList sets)

end QueryShorthand.Dialect
