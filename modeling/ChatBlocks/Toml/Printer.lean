import ChatBlocks.Toml.Quoted

/-!
# Writing TOML

A settings file holds bare keys with strings and truth values, one on each
line.
-/

namespace ChatBlocks.Toml

inductive Setting where
  | string (text : String)
  | boolean (value : Bool)
  deriving DecidableEq, Repr

def Setting.text : Setting → String
  | .string text => quote text
  | .boolean true => "true"
  | .boolean false => "false"

def settingLine (key : String) (setting : Setting) : String :=
  key ++ " = " ++ setting.text ++ "\n"

def settingsText : List (String × Setting) → String
  | [] => ""
  | (key, setting) :: rest => settingLine key setting ++ settingsText rest

end ChatBlocks.Toml
