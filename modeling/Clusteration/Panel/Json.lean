import Mathlib.Data.List.DropRight
import Clusteration.Framework.Unicode

open Unicode

namespace Clusteration

/-- Exceptions the panel's code can meet, by class, with the text `str(exc)` gives. -/
inductive Exc where
  | proxmoxError (msg : String)
  | proxmoxAuthError (msg : String)
  | proxmoxTaskError (msg : String)
  | proxmoxTimeoutError (msg : String)
  | runtimeError (msg : String)
  | typeError (msg : String)
  | valueError (msg : String)
  | overflowError (msg : String)
  | attributeError (msg : String)
  | keyError (key : String)
  | timeoutError
  /-- an httpx transport error that is neither a ConnectError nor a TimeoutException -/
  | transport (name : String)
  /-- a UNIQUE constraint failed -/
  | integrityError (column : String)
  | appHTTPException (code msg : String) (status : Nat)
  | httpException (status : Nat) (detail : String)
  deriving DecidableEq, Repr

namespace Exc

/-- `isinstance(exc, ProxmoxError)`. -/
def isProxmoxError : Exc → Bool
  | proxmoxError _ | proxmoxAuthError _ | proxmoxTaskError _ | proxmoxTimeoutError _ => true
  | _ => false

def className : Exc → String
  | proxmoxError _ => "ProxmoxError"
  | proxmoxAuthError _ => "ProxmoxAuthError"
  | proxmoxTaskError _ => "ProxmoxTaskError"
  | proxmoxTimeoutError _ => "ProxmoxTimeoutError"
  | runtimeError _ => "RuntimeError"
  | typeError _ => "TypeError"
  | valueError _ => "ValueError"
  | overflowError _ => "OverflowError"
  | attributeError _ => "AttributeError"
  | keyError _ => "KeyError"
  | timeoutError => "TimeoutError"
  | transport name => name
  | integrityError _ => "IntegrityError"
  | appHTTPException _ _ _ => "AppHTTPException"
  | httpException _ _ => "HTTPException"

/-- `str(exc)`. -/
def str : Exc → String
  | proxmoxError m | proxmoxAuthError m | proxmoxTaskError m | proxmoxTimeoutError m => m
  | runtimeError m | typeError m | valueError m | overflowError m | attributeError m => m
  | keyError k => "'" ++ k ++ "'"
  | timeoutError | transport _ => ""
  | integrityError column => "UNIQUE constraint failed: " ++ column
  | appHTTPException _ m status => toString status ++ ": " ++ m
  | httpException status detail => toString status ++ ": " ++ detail

end Exc

/-- A Python float that came out of `json.loads`: an exact quotient, an infinity or a NaN. -/
inductive FloatValue where
  | finite (num : Int) (den : Nat)
  | inf
  | nan
  deriving DecidableEq, Repr

/-- A decoded JSON value. A float also carries the text `repr` prints for it. -/
inductive Json where
  | null
  | bool (b : Bool)
  | int (n : Int)
  | float (repr : String) (value : FloatValue)
  | str (s : String)
  | arr (items : List Json)
  | obj (fields : List (String × Json))
  deriving Repr

abbrev Dict := List (String × Json)

/-- `d.get(key)`. -/
def Dict.get (d : Dict) (key : String) : Json := (d.lookup key).getD .null

/-- `d[key] = value`: an existing key keeps its place. -/
def Dict.set (d : Dict) (key : String) (value : Json) : Dict :=
  if (d.lookup key).isSome then d.map fun kv => if kv.1 = key then (key, value) else kv
  else d ++ [(key, value)]

/-- `{**d, **e}`. -/
def Dict.merge (d e : Dict) : Dict := e.foldl (fun acc kv => acc.set kv.1 kv.2) d

namespace Json

/-- `bool(x)`. -/
def truthy : Json → Bool
  | null => false
  | bool b => b
  | int n => n != 0
  | float _ (.finite num _) => num != 0
  | float _ _ => true
  | str s => s != ""
  | arr items => !items.isEmpty
  | obj fields => !fields.isEmpty

def typeName : Json → String
  | null => "NoneType"
  | bool _ => "bool"
  | int _ => "int"
  | float _ _ => "float"
  | str _ => "str"
  | arr _ => "list"
  | obj _ => "dict"

/-- The last `width` hexadecimal digits of `n`. -/
def hexDigits : Nat → Nat → List Char
  | 0, _ => []
  | width + 1, n => hexDigits width (n / 16) ++ [Nat.digitChar (n % 16)]

/-- How `repr` escapes a character it does not print. -/
def escapeChar (c : Char) : List Char :=
  if c.toNat < 0x100 then '\\' :: 'x' :: hexDigits 2 c.toNat
  else if c.toNat < 0x10000 then '\\' :: 'u' :: hexDigits 4 c.toNat
  else '\\' :: 'U' :: hexDigits 8 c.toNat

/-- `repr` of a string: single quotes unless the text has one and no double quote. -/
def reprStr (s : String) : String :=
  let chars := s.toList
  let quote := if chars.contains '\'' && !chars.contains '"' then '"' else '\''
  let body := chars.flatMap fun c =>
    if c = '\\' then ['\\', '\\']
    else if c = '\n' then ['\\', 'n']
    else if c = '\r' then ['\\', 'r']
    else if c = '\t' then ['\\', 't']
    else if c = quote then ['\\', c]
    else if isPrintable c then [c]
    else escapeChar c
  String.ofList (quote :: body ++ [quote])

mutual
/-- `repr(x)`. -/
def repr : Json → String
  | null => "None"
  | bool b => if b then "True" else "False"
  | int n => toString n
  | float text _ => text
  | str s => reprStr s
  | arr items => "[" ++ ", ".intercalate (reprItems items) ++ "]"
  | obj fields => "\x7b" ++ ", ".intercalate (reprFields fields) ++ "\x7d"

def reprItems : List Json → List String
  | [] => []
  | x :: xs => repr x :: reprItems xs

def reprFields : List (String × Json) → List String
  | [] => []
  | (k, x) :: xs => (reprStr k ++ ": " ++ repr x) :: reprFields xs
end

/-- `str(x)`. -/
def pyStr : Json → String
  | str s => s
  | x => x.repr

/-- `str(x or "")`. -/
def strOr (x : Json) : String := if x.truthy then x.pyStr else ""

end Json

def stripChars (cs : List Char) : List Char :=
  ((cs.dropWhile isSpace).reverse.dropWhile isSpace).reverse

theorem stripChars_of_no_space {cs : List Char} (h : ∀ c ∈ cs, isSpace c = false) :
    stripChars cs = cs := by
  have hdrop : ∀ l : List Char, (∀ c ∈ l, isSpace c = false) → l.dropWhile isSpace = l := by
    intro l hl
    cases l with
    | nil => rfl
    | cons c l => simp [hl c List.mem_cons_self]
  rw [stripChars, hdrop cs h, hdrop cs.reverse (by simpa using h), List.reverse_reverse]

theorem dropWhile_prefix {p : Char → Bool} {cs ds : List Char} (hcs : cs <+: ds)
    (h : ds.dropWhile p = ds) : cs.dropWhile p = cs := by
  obtain ⟨more, rfl⟩ := hcs
  cases cs with
  | nil => rfl
  | cons c cs =>
    rw [List.dropWhile_eq_self_iff] at h ⊢
    intro _
    exact h (Nat.succ_pos _)

theorem stripChars_stripChars (cs : List Char) : stripChars (stripChars cs) = stripChars cs := by
  have hright : ∀ cs, stripChars cs = (cs.dropWhile isSpace).rdropWhile isSpace := fun _ => rfl
  have hleft : (stripChars cs).dropWhile isSpace = stripChars cs := by
    rw [hright]
    exact dropWhile_prefix (List.rdropWhile_prefix _ _) (List.dropWhile_idempotent _ _)
  rw [hright, hleft, hright, List.rdropWhile_idempotent]

theorem stripChars_map {f : Char → Char} (h : ∀ c, isSpace (f c) = isSpace c) (cs : List Char) :
    stripChars (cs.map f) = (stripChars cs).map f := by
  have hf : isSpace ∘ f = isSpace := funext h
  simp only [stripChars, List.dropWhile_map, hf, ← List.map_reverse]

/-- `s.strip()`. -/
def strip (s : String) : String := String.ofList (stripChars s.toList)

/-- `needle in hay`. -/
def isInfix (needle : List Char) : List Char → Bool
  | [] => needle.isEmpty
  | c :: cs => needle.isPrefixOf (c :: cs) || isInfix needle cs

def contains (hay needle : String) : Bool := isInfix needle.toList hay.toList

theorem isInfix_append (pre needle post : List Char) :
    isInfix needle (pre ++ needle ++ post) = true := by
  induction pre with
  | nil =>
    cases h : needle ++ post with
    | nil =>
      obtain ⟨rfl, rfl⟩ := List.append_eq_nil_iff.mp h
      rfl
    | cons c cs =>
      rw [List.nil_append, h, isInfix, ← h, Bool.or_eq_true, List.isPrefixOf_iff_prefix]
      exact Or.inl (List.prefix_append _ _)
  | cons c pre ih =>
    rw [List.cons_append, List.cons_append, isInfix, ih, Bool.or_true]

theorem contains_append (pre needle post : String) :
    contains (pre ++ needle ++ post) needle = true := by
  unfold contains
  rw [String.toList_append, String.toList_append]
  exact isInfix_append _ _ _

theorem mem_of_isInfix {needle hay : List Char} (h : isInfix needle hay = true) {c : Char}
    (hc : c ∈ needle) : c ∈ hay := by
  induction hay with
  | nil => cases needle with
    | nil => exact hc
    | cons d ds => simp [isInfix] at h
  | cons d ds ih =>
    simp only [isInfix, Bool.or_eq_true, List.isPrefixOf_iff_prefix] at h
    rcases h with h | h
    · exact h.subset hc
    · exact List.mem_cons_of_mem _ (ih h)

theorem mem_of_contains {hay needle : String} (h : contains hay needle = true) {c : Char}
    (hc : c ∈ needle.toList) : c ∈ hay.toList := mem_of_isInfix h hc

theorem mem_toString_int {n : Int} {c : Char} (hc : c ∈ (toString n).toList) :
    c.isDigit = true ∨ c = '-' := by
  cases n with
  | ofNat m =>
    have hm : (toString (Int.ofNat m)).toList = Nat.toDigits 10 m := by
      change (Nat.repr m).toList = _
      simp [Nat.repr]
    rw [hm] at hc
    exact Or.inl (Nat.isDigit_of_mem_toDigits (by decide) (by decide) hc)
  | negSucc m =>
    have hm : (toString (Int.negSucc m)).toList = '-' :: Nat.toDigits 10 (m + 1) := by
      change ("-" ++ Nat.repr (m + 1)).toList = _
      simp [Nat.repr]
    rw [hm] at hc
    rcases List.mem_cons.mp hc with rfl | hc
    · exact Or.inr rfl
    · exact Or.inl (Nat.isDigit_of_mem_toDigits (by decide) (by decide) hc)

/-- Decimal digits with single underscores between them, as `int` reads them. -/
def readDigits (acc : Nat) : List Char → Option Nat
  | [] => some acc
  | '_' :: c :: cs => (digitValue c).bind fun v => readDigits (acc * 10 + v) cs
  | c :: cs => (digitValue c).bind fun v => readDigits (acc * 10 + v) cs

/-- `int` takes no text of more than 4300 digits. -/
def readNat : List Char → Option Nat
  | [] => none
  | c :: cs =>
    if isDecimal c && (c :: cs).countP isDecimal ≤ 4300 then readDigits 0 (c :: cs) else none

/-- The white space `int` reads over: of ASCII, only what C's `isspace` takes. -/
def isIntSpace (c : Char) : Bool := isSpace c && !(28 ≤ c.toNat && c.toNat ≤ 31)

def stripInt (cs : List Char) : List Char :=
  ((cs.dropWhile isIntSpace).reverse.dropWhile isIntSpace).reverse

/-- `int(s)` of a string, base ten. -/
def readInt (s : String) : Option Int :=
  match stripInt s.toList with
  | '-' :: cs => (readNat cs).map fun n => -(n : Int)
  | '+' :: cs => (readNat cs).map fun n => (n : Int)
  | cs => (readNat cs).map fun n => (n : Int)

/-- The digits `int` has gone through before it looks at what follows them. -/
def digitRun (s : String) : List Char :=
  let cs := match stripInt s.toList with
    | '-' :: cs | '+' :: cs => cs
    | cs => cs
  cs.takeWhile fun c => isDecimal c || c = '_'

/-- The text of the `ValueError` for a string `int` does not take. -/
def intErrorText (s : String) : String :=
  let run := digitRun s
  let digits := run.countP isDecimal
  if run.head?.any isDecimal && (readDigits 0 run).isSome && 4300 < digits then
    "Exceeds the limit (4300 digits) for integer string conversion: value has " ++ toString digits ++
      " digits; use sys.set_int_max_str_digits() to increase the limit"
  else
    "invalid literal for int() with base 10: " ++ String.ofList ((Json.reprStr s).toList.take 200)

/-- `int(x)`. -/
def Json.toInt : Json → Except Exc Int
  | .int n => .ok n
  | .bool b => .ok (if b then 1 else 0)
  | .str s => match readInt s with
    | some n => .ok n
    | none => .error (.valueError (intErrorText s))
  | .float _ (.finite num den) => .ok (num.tdiv den)
  | .float _ .inf => .error (.overflowError "cannot convert float infinity to integer")
  | .float _ .nan => .error (.valueError "cannot convert float NaN to integer")
  | x => .error (.typeError ("int() argument must be a string, a bytes-like object or a real number, not '"
      ++ x.typeName ++ "'"))

end Clusteration
