import NetworkRecovery.Python.Value

/-!
# JSON text

`json.dumps` and `json.loads`.

The writer is a recursion over the value under a `Style`: which pads follow
the separators, whether lines are indented, whether characters beyond ASCII
are escaped. The reader is a machine that takes ONE CHARACTER AT A TIME: a
stack of the containers still open and a mode that says what may come next.
A machine, and not a recursive descent, because the questions asked of it
are about texts cut short: what is open after a prefix is the state after
that prefix, and a text glued to it is read on from there.

The reader keeps Python's leniences: `NaN`, `Infinity` and `-Infinity` are
read, the last of two equal keys wins. An escaped lone surrogate, which
Python admits into a string, has no character here and is refused. An integer
of more than 4300 digits, at which Python raises `ValueError`, is read.
-/

namespace Python

/-! ## Writing -/

/-- How `json.dumps` lays a text out. -/
structure Style where
  /-- a space after each comma -/
  itemPad : Bool
  /-- a space after each colon -/
  keyPad : Bool
  /-- the `indent` argument -/
  indent : Option Nat
  /-- the `ensure_ascii` argument -/
  ascii : Bool
  /-- `NaN` and the infinities print by name; otherwise as `null` -/
  nanText : Bool
  deriving DecidableEq

/-- `json.dumps(obj)`. -/
def Style.plain : Style := ⟨true, true, none, true, true⟩

/-- `json.dumps(obj, separators=(",", ":"))`. -/
def Style.compact : Style := ⟨false, false, none, true, true⟩

/-- `json.dumps(obj, indent=2, ensure_ascii=False)`. -/
def Style.indented : Style := ⟨false, true, some 2, false, true⟩

/-- `model.model_dump_json()`: compact, raw beyond ASCII, no `NaN`. -/
def Style.model : Style := ⟨false, false, none, false, false⟩

/-- A hexadecimal digit, lower case. -/
def hexDigit (n : Nat) : Char := Nat.digitChar (n % 16)

/-- `\uXXXX`. -/
def unicodeEscape (n : Nat) : List Char :=
  ['\\', 'u', hexDigit (n / 4096), hexDigit (n / 256), hexDigit (n / 16), hexDigit n]

/-- One character inside a string literal. -/
def escapeChar (ascii : Bool) (c : Char) : List Char :=
  if c = '"' then ['\\', '"']
  else if c = '\\' then ['\\', '\\']
  else if c = '\n' then ['\\', 'n']
  else if c = '\r' then ['\\', 'r']
  else if c = '\t' then ['\\', 't']
  else if c = Char.ofNat 8 then ['\\', 'b']
  else if c = Char.ofNat 12 then ['\\', 'f']
  else if c.toNat < 0x20 then unicodeEscape c.toNat
  else if ascii = false ∨ c.toNat < 0x7F then [c]
  else if c.toNat < 0x10000 then unicodeEscape c.toNat
  else unicodeEscape (0xD800 + (c.toNat - 0x10000) / 0x400) ++
    unicodeEscape (0xDC00 + (c.toNat - 0x10000) % 0x400)

/-- The body of a string literal. -/
def escapeText (ascii : Bool) (s : List Char) : List Char := s.flatMap (escapeChar ascii)

/-- A string literal. -/
def quote (ascii : Bool) (s : String) : List Char := '"' :: (escapeText ascii s.toList ++ ['"'])

/-- A float: its `repr`, or one of the names JSON does not have. -/
def floatText (sty : Style) : FloatVal → List Char
  | .finite d => d.text
  | .inf neg =>
    if sty.nanText then (if neg then "-Infinity".toList else "Infinity".toList) else "null".toList
  | .nan => if sty.nanText then "NaN".toList else "null".toList

/-- What opens a line inside a container at depth `level`. -/
def Style.newline (sty : Style) (level : Nat) : List Char :=
  match sty.indent with
  | none => []
  | some n => '\n' :: List.replicate (n * level) ' '

/-- A pad or nothing. -/
def pad (b : Bool) : List Char := if b then [' '] else []

mutual

/-- The text of a value that stands at depth `level`. -/
def dumpValue (sty : Style) (level : Nat) : Value → List Char
  | .none => "null".toList
  | .bool true => "true".toList
  | .bool false => "false".toList
  | .int n => intText n
  | .float x => floatText sty x
  | .str s => quote sty.ascii s
  | .list [] => ['[', ']']
  | .list (x :: xs) =>
    '[' :: (sty.newline (level + 1) ++ dumpValue sty (level + 1) x ++
      (dumpItems sty (level + 1) xs ++ (sty.newline level ++ [']'])))
  | .dict [] => ['{', '}']
  | .dict ((k, v) :: kvs) =>
    '{' :: (sty.newline (level + 1) ++ (quote sty.ascii k ++ ':' :: (pad sty.keyPad ++
      dumpValue sty (level + 1) v)) ++
      (dumpEntries sty (level + 1) kvs ++ (sty.newline level ++ ['}'])))

/-- The elements after the first, each behind its comma. -/
def dumpItems (sty : Style) (level : Nat) : List Value → List Char
  | [] => []
  | x :: xs =>
    ',' :: (pad sty.itemPad ++ (sty.newline level ++ (dumpValue sty level x ++
      dumpItems sty level xs)))

/-- The entries after the first, each behind its comma. -/
def dumpEntries (sty : Style) (level : Nat) : List (String × Value) → List Char
  | [] => []
  | (k, v) :: kvs =>
    ',' :: (pad sty.itemPad ++ (sty.newline level ++ (quote sty.ascii k ++ ':' ::
      (pad sty.keyPad ++ (dumpValue sty level v ++ dumpEntries sty level kvs)))))

end

/-- `json.dumps`, the entries in insertion order. -/
def dumps (sty : Style) (v : Value) : List Char := dumpValue sty 0 v

/-- `json.dumps(…, sort_keys=True, separators=(",", ":"))`. -/
def dumpsSorted (v : Value) : List Char := dumps .compact v.sortKeys

/-! ## Reading -/

/-- A container that is still open. -/
inductive Frame where
  /-- `[`, and the elements so far -/
  | arr (items : List Value)
  /-- `{`, and the entries so far -/
  | obj (entries : Dict)
  /-- `{`, the entries so far, and a key whose value is being read -/
  | field (entries : Dict) (key : String)

/-- Where inside a string literal the reader stands. -/
inductive StrMode where
  | plain
  /-- after a backslash -/
  | escape
  /-- inside `\uXXXX`, after `count` digits, perhaps behind a high surrogate -/
  | hex (high : Option Nat) (count value : Nat)
  /-- a high surrogate has been read: its `\` must follow -/
  | high (n : Nat)
  /-- and then its `u` -/
  | highEscape (n : Nat)
  deriving DecidableEq

/-- What may come next. -/
inductive Mode where
  | value
  /-- after `[`: a value or `]` -/
  | firstValue
  /-- after `{`: a key or `}` -/
  | firstKey
  /-- after a comma inside `{`: a key -/
  | key
  | colon
  /-- after an element: a comma or the closing bracket -/
  | after
  /-- inside a string; the characters so far, last first -/
  | string (isKey : Bool) (m : StrMode) (acc : List Char)
  /-- inside a number; the characters so far, last first -/
  | number (acc : List Char)
  /-- inside a literal, with what is left of it -/
  | literal (rest : List Char) (v : Value)
  /-- the text's value is complete -/
  | done (v : Value)

/-- The reader's state: the open containers, innermost first, and the mode. -/
structure Reader where
  stack : List Frame
  mode : Mode

/-- JSON's own white space. -/
def isJsonSpace (c : Char) : Bool := c == ' ' || c == '\t' || c == '\n' || c == '\r'

/-- The characters numbers are made of. -/
def isNumberChar (c : Char) : Bool :=
  c.isDigit || c == '-' || c == '+' || c == '.' || c == 'e' || c == 'E'

/-- The value of a hexadecimal digit. -/
def hexValue (c : Char) : Option Nat :=
  let n := c.toNat
  if 0x30 ≤ n ∧ n ≤ 0x39 then some (n - 0x30)
  else if 0x61 ≤ n ∧ n ≤ 0x66 then some (n - 0x61 + 10)
  else if 0x41 ≤ n ∧ n ≤ 0x46 then some (n - 0x41 + 10)
  else none

/-- A value is complete: it goes to the innermost container, or is the text's
own. -/
def deliver : List Frame → Value → Option Reader
  | [], v => some ⟨[], .done v⟩
  | .arr items :: st, v => some ⟨.arr (items ++ [v]) :: st, .after⟩
  | .field es k :: st, v => some ⟨.obj (es.set k v) :: st, .after⟩
  | .obj _ :: _, _ => none

/-- A string is complete: a key, or a value. -/
def deliverString (st : List Frame) (isKey : Bool) (s : String) : Option Reader :=
  if isKey then
    match st with
    | .obj es :: st => some ⟨.field es s :: st, .colon⟩
    | _ => none
  else deliver st (.str s)

/-- The value of a number's text. -/
def numberValue (s : List Char) : Option Value :=
  (readNumber s).map fun
    | .int n => .int n
    | .float d => .float (.finite d)

/-- The first character of a value. -/
def beginValue (st : List Frame) (c : Char) : Option Reader :=
  if c = '"' then some ⟨st, .string false .plain []⟩
  else if c = '{' then some ⟨.obj [] :: st, .firstKey⟩
  else if c = '[' then some ⟨.arr [] :: st, .firstValue⟩
  else if c = 'n' then some ⟨st, .literal "ull".toList .none⟩
  else if c = 't' then some ⟨st, .literal "rue".toList (.bool true)⟩
  else if c = 'f' then some ⟨st, .literal "alse".toList (.bool false)⟩
  else if c = 'N' then some ⟨st, .literal "aN".toList (.float .nan)⟩
  else if c = 'I' then some ⟨st, .literal "nfinity".toList (.float (.inf false))⟩
  else if c = '-' ∨ c.isDigit then some ⟨st, .number [c]⟩
  else none

/-- The character after an element, or after the text's value. -/
def stepAfter : Reader → Char → Option Reader
  | ⟨st, .done v⟩, c => if isJsonSpace c then some ⟨st, .done v⟩ else none
  | ⟨.arr items :: st, .after⟩, c =>
    if isJsonSpace c then some ⟨.arr items :: st, .after⟩
    else if c = ',' then some ⟨.arr items :: st, .value⟩
    else if c = ']' then deliver st (.list items)
    else none
  | ⟨.obj es :: st, .after⟩, c =>
    if isJsonSpace c then some ⟨.obj es :: st, .after⟩
    else if c = ',' then some ⟨.obj es :: st, .key⟩
    else if c = '}' then deliver st (.dict es)
    else none
  | _, _ => none

/-- A scalar value as a character; the surrogates are none. -/
def charOfNat? (n : Nat) : Option Char :=
  if h : n.isValidChar then some (Char.ofNatAux n h) else none

/-- The last digit of `\uXXXX` has been read. -/
def endHex (high : Option Nat) (n : Nat) (acc : List Char) : Option (StrMode × List Char) :=
  match high with
  | none =>
    if 0xD800 ≤ n ∧ n ≤ 0xDBFF then some (.high n, acc)
    else (charOfNat? n).map fun c => (.plain, c :: acc)
  | some h =>
    if 0xDC00 ≤ n ∧ n ≤ 0xDFFF then
      (charOfNat? (0x10000 + (h - 0xD800) * 0x400 + (n - 0xDC00))).map fun c => (.plain, c :: acc)
    else none

/-- A character inside a string literal that does not close it. -/
def stepString (m : StrMode) (acc : List Char) (c : Char) : Option (StrMode × List Char) :=
  match m with
  | .plain =>
    if c = '\\' then some (.escape, acc)
    else if c.toNat < 0x20 then none
    else some (.plain, c :: acc)
  | .escape =>
    if c = '"' ∨ c = '\\' ∨ c = '/' then some (.plain, c :: acc)
    else if c = 'n' then some (.plain, '\n' :: acc)
    else if c = 'r' then some (.plain, '\r' :: acc)
    else if c = 't' then some (.plain, '\t' :: acc)
    else if c = 'b' then some (.plain, Char.ofNat 8 :: acc)
    else if c = 'f' then some (.plain, Char.ofNat 12 :: acc)
    else if c = 'u' then some (.hex none 0 0, acc)
    else none
  | .hex high count value =>
    (hexValue c).bind fun d =>
      if count < 3 then some (.hex high (count + 1) (16 * value + d), acc)
      else endHex high (16 * value + d) acc
  | .high n => if c = '\\' then some (.highEscape n, acc) else none
  | .highEscape n => if c = 'u' then some (.hex (some n) 0 0, acc) else none

/-- Read one character. -/
def Reader.step : Reader → Char → Option Reader
  | ⟨st, .value⟩, c => if isJsonSpace c then some ⟨st, .value⟩ else beginValue st c
  | ⟨st, .firstValue⟩, c =>
    if isJsonSpace c then some ⟨st, .firstValue⟩
    else if c = ']' then stepAfter ⟨st, .after⟩ c
    else beginValue st c
  | ⟨st, .firstKey⟩, c =>
    if isJsonSpace c then some ⟨st, .firstKey⟩
    else if c = '}' then stepAfter ⟨st, .after⟩ c
    else if c = '"' then some ⟨st, .string true .plain []⟩
    else none
  | ⟨st, .key⟩, c =>
    if isJsonSpace c then some ⟨st, .key⟩
    else if c = '"' then some ⟨st, .string true .plain []⟩
    else none
  | ⟨st, .colon⟩, c =>
    if isJsonSpace c then some ⟨st, .colon⟩
    else if c = ':' then some ⟨st, .value⟩
    else none
  | ⟨st, .string isKey m acc⟩, c =>
    if m = .plain ∧ c = '"' then deliverString st isKey (.ofList acc.reverse)
    else (stepString m acc c).map fun (m, acc) => ⟨st, .string isKey m acc⟩
  | ⟨st, .number acc⟩, c =>
    if isNumberChar c then some ⟨st, .number (c :: acc)⟩
    else if acc = ['-'] ∧ c = 'I' then
      some ⟨st, .literal "nfinity".toList (.float (.inf true))⟩
    else (numberValue acc.reverse).bind fun v => (deliver st v).bind fun r => stepAfter r c
  | ⟨_, .literal [] _⟩, _ => none
  | ⟨st, .literal [e] v⟩, c => if c = e then deliver st v else none
  | ⟨st, .literal (e :: es) v⟩, c => if c = e then some ⟨st, .literal es v⟩ else none
  | r, c => stepAfter r c

/-- Read a text. -/
def Reader.run : Reader → List Char → Option Reader
  | r, [] => some r
  | r, c :: cs => (r.step c).bind fun r => r.run cs

/-- The value of a text that ends here. A number has no closing character of
its own. -/
def Reader.finish : Reader → Option Value
  | ⟨[], .done v⟩ => some v
  | ⟨[], .number acc⟩ => numberValue acc.reverse
  | _ => none

/-- Before the first character. -/
def Reader.start : Reader := ⟨[], .value⟩

/-- `json.loads(s)`, `none` where it raises `JSONDecodeError`; without the limit of 4300 digits
on an integer. -/
def loads (s : List Char) : Option Value := (Reader.start.run s).bind Reader.finish

end Python
