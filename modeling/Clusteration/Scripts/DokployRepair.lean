import Clusteration.Panel.Json

namespace Clusteration.Scripts

def sensitiveKeyParts : List String := ["secret", "password", "token", "private"]

def sensitiveKeys : List String :=
  ["env", "envs", "envvars", "environmentvariables", "buildargs", "buildsecrets"]

/-- The values of these keys are not shown; `lower` is `str.lower`. -/
def isSensitive (lower : String → String) (key : String) : Bool :=
  sensitiveKeys.contains (lower key) || sensitiveKeyParts.any fun part => contains (lower key) part

mutual
def redact (lower : String → String) : Json → Json
  | .obj fields => .obj (redactFields lower fields)
  | .arr items => .arr (redactItems lower 20 items)
  | value => value

def redactFields (lower : String → String) : List (String × Json) → List (String × Json)
  | [] => []
  | (key, child) :: fields =>
    (key, if isSensitive lower key then .str "<redacted>" else redact lower child) ::
      redactFields lower fields

/-- `[redact(item) for item in value[:limit]]` -/
def redactItems (lower : String → String) : Nat → List Json → List Json
  | _, [] => []
  | 0, _ :: _ => []
  | limit + 1, item :: items => redact lower item :: redactItems lower limit items
end

def hexDigits (n : Nat) : List Char := [Nat.digitChar (n / 16 % 16), Nat.digitChar (n % 16)]

def dumpChar (c : Char) : List Char :=
  if c = '"' then ['\\', '"']
  else if c = '\\' then ['\\', '\\']
  else if c = '\n' then ['\\', 'n']
  else if c = '\r' then ['\\', 'r']
  else if c = '\t' then ['\\', 't']
  else if c.toNat = 8 then ['\\', 'b']
  else if c.toNat = 12 then ['\\', 'f']
  else if c.toNat < 32 then ['\\', 'u', '0', '0'] ++ hexDigits c.toNat
  else [c]

def dumpStr (s : String) : List Char := '"' :: s.toList.flatMap dumpChar ++ ['"']

def dumpFloat (repr : String) : FloatValue → List Char
  | .finite _ _ => repr.toList
  | .inf => if repr.toList.head? = some '-' then "-Infinity".toList else "Infinity".toList
  | .nan => "NaN".toList

/-- A line break, and the indent of this depth. -/
def newline (depth : Nat) : List Char := '\n' :: List.replicate (2 * depth) ' '

mutual
def dump (depth : Nat) : Json → List Char
  | .null => "null".toList
  | .bool b => if b then "true".toList else "false".toList
  | .int n => (toString n).toList
  | .float repr value => dumpFloat repr value
  | .str s => dumpStr s
  | .arr [] => "[]".toList
  | .arr (item :: items) =>
    '[' :: newline (depth + 1) ++ dump (depth + 1) item ++ dumpItems (depth + 1) items ++
      newline depth ++ [']']
  | .obj [] => ['\x7b', '\x7d']
  | .obj ((key, child) :: fields) =>
    '\x7b' :: newline (depth + 1) ++ dumpStr key ++ [':', ' '] ++ dump (depth + 1) child ++
      dumpFields (depth + 1) fields ++ newline depth ++ ['\x7d']

def dumpItems (depth : Nat) : List Json → List Char
  | [] => []
  | item :: items => ',' :: newline depth ++ dump depth item ++ dumpItems depth items

def dumpFields (depth : Nat) : List (String × Json) → List Char
  | [] => []
  | (key, child) :: fields =>
    ',' :: newline depth ++ dumpStr key ++ [':', ' '] ++ dump depth child ++ dumpFields depth fields
end

/-- The text `print_json` prints. -/
def printJson (lower : String → String) (label : String) (value : Json) : String :=
  "\n== " ++ label ++ " ==\n" ++ String.ofList ((dump 0 (redact lower value)).take 12000) ++ "\n"

end Clusteration.Scripts
