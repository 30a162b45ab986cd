import TransitionEngine.Text.Hidden

/-!
# Literals

A literal is a text in double quotes, in which quotes, backslashes and characters that cannot be seen
are escaped. Lists, sets and structures are laid out around the literals of their parts.
-/

namespace TransitionEngine.Text

def escapeHidden (char : Char) : List Char :=
  match char with
  | '"' => ['\\', '"']
  | '\\' => ['\\', '\\']
  | '\n' => ['\\', 'n']
  | '\r' => ['\\', 'r']
  | '\t' => ['\\', 't']
  | '\x00' => ['\\', '0']
  | other =>
      if isHidden other then
        '\\' :: 'u' :: '\x7b' :: (Nat.toDigits 16 other.toNat ++ ['\x7d'])
      else [other]

def literal (text : String) : String :=
  String.ofList ('"' :: (text.toList.flatMap escapeHidden ++ ['"']))

def truth (value : Bool) : String :=
  if value then "true" else "false"

def listOf (parts : List String) : String :=
  "[" ++ ", ".intercalate parts ++ "]"

def setOf (parts : List String) : String :=
  "\x7b" ++ ", ".intercalate parts ++ "\x7d"

def call (name argument : String) : String :=
  name ++ "(" ++ argument ++ ")"

def optional (part : Option String) : String :=
  match part with
  | some text => call "Some" text
  | none => "None"

def structureOf (name : String) (parts : List (String × String)) : String :=
  let shown := parts.map fun (part, text) => part ++ ": " ++ text
  name ++ " \x7b " ++ ", ".intercalate shown ++ " \x7d"

/-- A structure of which only some parts are shown. -/
def structureBeginning (name : String) (parts : List (String × String)) : String :=
  let shown := parts.map fun (part, text) => part ++ ": " ++ text
  name ++ " \x7b " ++ ", ".intercalate (shown ++ [".."]) ++ " \x7d"

end TransitionEngine.Text
