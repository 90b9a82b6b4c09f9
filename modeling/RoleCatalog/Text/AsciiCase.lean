/-! Letter case of ASCII letters only. Two names agree without regard to ASCII
case when their folds are equal. -/

namespace RoleCatalog.Text

def fold (text : String) : List Char :=
  text.toList.map Char.toLower

abbrev SameFold (left right : String) : Prop :=
  fold left = fold right

example : SameFold "RolName" "rolname" ∧ ¬ SameFold "É" "é" := by decide

def asciiUpper (text : String) : String :=
  String.ofList (text.toList.map Char.toUpper)

example : asciiUpper "pg_authid é" = "PG_AUTHID é" := by decide

end RoleCatalog.Text
