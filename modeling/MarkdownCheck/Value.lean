/-!
# Raw values

Settings arrive as plain data of the kind a configuration file holds, and are read from there.
-/

namespace MarkdownCheck

/-- A raw setting. Reals are exact, and what is neither a number nor infinite is `nan`. -/
inductive Value where
  | null
  | bool (b : Bool)
  | int (n : Int)
  | real (q : Rat)
  | infinite (negative : Bool)
  | nan
  | text (s : String)
  | array (items : List Value)
  | object (fields : List (String × Value))
deriving Inhabited

/-- Named raw settings, in the order they were written. -/
abbrev Fields := List (String × Value)

end MarkdownCheck
