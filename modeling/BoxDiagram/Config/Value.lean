/-
Module: BoxDiagram.Config.Value
Purpose: The values that a configuration is written in, whatever the notation.
Main exports: ConfigValue
-/

namespace BoxDiagram

/-- A value of a configuration.  The keys of a table are distinct and in the order of their characters. -/
inductive ConfigValue where
  | null
  | truth (value : Bool)
  | integer (value : Int)
  | real (value : Float)
  | text (value : String)
  | list (items : List ConfigValue)
  | table (entries : List (String × ConfigValue))
deriving Inhabited

end BoxDiagram
