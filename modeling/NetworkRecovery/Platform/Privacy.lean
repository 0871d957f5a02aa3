import NetworkRecovery.Python.Number
import NetworkRecovery.Python.Substitution
import NetworkRecovery.Python.Text

/-!
# Redaction of free text

`redact_text` is four substitutions, one after the other: for user profiles of Windows and of
POSIX, and for the private networks `192.168.0.0/16` and `10.0.0.0/8`. What the patterns say is
not what they were meant to say. The Windows pattern asks for every backslash twice. The
POSIX one means to stop a name at white space, but `\\s` in a raw string is a backslash and the
letter s, and its replacement writes `\1` and `\3` as they stand. The network `172.16.0.0/12`
has no pattern.
-/

namespace Privacy

open Python Python.Regex

/-! ## Characters -/

/-- The lower case of a letter, as far as ASCII can see it, with the long s for an s. -/
def foldCase (c : Char) : Char :=
  if 'A' ≤ c ∧ c ≤ 'Z' then Char.ofNat (c.toNat + 32)
  else if c.toNat = 0x17F then 's'
  else if c.toNat = 0x212A then 'k'
  else c

/-- `c` stands for the `d` of a pattern that ignores case. -/
def sameLetter (d c : Char) : Bool := foldCase d == foldCase c

/-- `\d`. -/
def isDecimal (c : Char) : Bool := (decimalValue c).isSome

section Patterns

-- `str.isalnum` beyond ASCII
variable (alnum : Char → Bool)

/-- `\w`. -/
def isWord (c : Char) : Bool :=
  isDecimal c || c.isAlpha || c == '_' || (128 ≤ c.toNat && alnum c)

/-- `\b` between two characters, or at an end of the text. -/
def boundary (prev next : Option Char) : Bool := prev.any (isWord alnum) != next.any (isWord alnum)

/-! ## Patterns -/

/-- `(?i)C:\\\\Users\\\\[^\\]+`. -/
def windowsUser : Lookbehind := fun _ =>
  seq (literal sameLetter "C:\\\\Users\\\\".toList) (many1 fun c => c != '\\')

/-- `C:\Users\[redacted]`. -/
def windowsMark : List Char := "C:\\Users\\[redacted]".toList

/-- `[^/\\s]`, ignoring case. -/
def isNameChar (c : Char) : Bool := !(['/', '\\', 's'].contains (foldCase c))

/-- `(?i)(/users/)([^/\\s]+)(/)`. -/
def posixUser : Lookbehind := fun _ =>
  seq (literal sameLetter "/users/".toList) (seq (many1 isNameChar) (char '/'))

/-- `\1[redacted]\3`, in which nothing is a group. -/
def posixMark : List Char := "\\1[redacted]\\3".toList

/-- `\d{1,3}`, and as many times `\.\d{1,3}`. -/
def octets : Nat → Pattern
  | 0 => oneUpTo isDecimal 3
  | n + 1 => seq (oneUpTo isDecimal 3) (seq (char '.') (octets n))

/-- The beginning of an address and some octets more, between two word boundaries. -/
def address (net : List Char) (n : Nat) : Lookbehind := fun prev s =>
  if boundary alnum prev s.head? then
    (seq (literal (fun d c => d == c) net) (octets n) s).filter fun m =>
      boundary alnum (before prev m.1) m.2.head?
  else []

/-- `\b192\.168\.\d{1,3}\.\d{1,3}\b`. -/
def private192 : Lookbehind := address alnum "192.168.".toList 1

/-- `\b10\.\d{1,3}\.\d{1,3}\.\d{1,3}\b`. -/
def private10 : Lookbehind := address alnum "10.".toList 2

/-- `redact_text`. -/
def redactText (text : List Char) : List Char :=
  let s := sub windowsUser windowsMark text
  let s := sub posixUser posixMark s
  let s := sub (private192 alnum) "192.168.x.x".toList s
  sub (private10 alnum) "10.x.x.x".toList s

end Patterns

/-! ## What is to be redacted -/

/-- Numbers with dots between. -/
def dotted : List Nat → List Char
  | [] => []
  | [n] => natText n
  | n :: ns => natText n ++ '.' :: dotted ns

/-- An IPv4 address. -/
structure IPv4 where
  a : Fin 256
  b : Fin 256
  c : Fin 256
  d : Fin 256

def IPv4.text (ip : IPv4) : List Char := dotted [ip.a, ip.b, ip.c, ip.d]

/-- `10.0.0.0/8` or `192.168.0.0/16`. -/
def IPv4.Covered (ip : IPv4) : Prop := ip.a = 10 ∨ (ip.a = 192 ∧ ip.b = 168)

/-- `172.16.0.0/12`. -/
def IPv4.Private172 (ip : IPv4) : Prop := ip.a = 172 ∧ 16 ≤ ip.b ∧ ip.b ≤ 31

instance (ip : IPv4) : Decidable ip.Covered := inferInstanceAs (Decidable (_ ∨ _))

instance (ip : IPv4) : Decidable ip.Private172 := inferInstanceAs (Decidable (_ ∧ _))

/-- The text has the address, and no digit before or behind it. -/
def Occurs (ip : IPv4) (text : List Char) : Prop :=
  ∃ x y, text = x ++ (ip.text ++ y) ∧ (∀ c ∈ x.getLast?, c.isDigit = false) ∧
    ∀ c ∈ y.head?, c.isDigit = false

/-- What a text may tell. -/
inductive Item where
  | windowsPath (name : List Char)
  | posixPath (name : List Char)
  | address (ip : IPv4)

/-- `C:\Users\<name>\`, `/users/<name>/` or an address. -/
def Item.text : Item → List Char
  | .windowsPath name => "C:\\Users\\".toList ++ (name ++ ['\\'])
  | .posixPath name => "/users/".toList ++ (name ++ ['/'])
  | .address ip => ip.text

/-- The text tells the item. A name has no separator; an address is a private one. -/
def Item.InText (text : List Char) : Item → Prop
  | .windowsPath name => name ≠ [] ∧ '\\' ∉ name ∧ '/' ∉ name ∧
      Item.text (.windowsPath name) <:+: text
  | .posixPath name => name ≠ [] ∧ '/' ∉ name ∧ Item.text (.posixPath name) <:+: text
  | .address ip => (ip.Covered ∨ ip.Private172) ∧ Occurs ip text

/-- No item of a text stands in what is left of it, an address not even inside a longer number. -/
def Complete (alnum : Char → Bool) (text : List Char) : Prop :=
  ∀ item : Item, item.InText text → ¬ item.text <:+: redactText alnum text

end Privacy
