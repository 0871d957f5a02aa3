import Mathlib.Data.List.Perm.Basic
import NetworkRecovery.Python.Value

/-!
# Built-in functions of values

Truth, `str`, `repr` and `int` of any value, and the exceptions they raise.
A program that calls them on what it read from a file calls them on ANY
value, so all of them are total functions on `Value` here: where Python raises,
the result is the exception.
-/

namespace Python

/-- The exceptions the modelled code raises or catches. -/
inductive PyError where
  | unicodeDecode
  | value
  | type
  | overflow
  | attribute
  | timeout
  | os
  deriving DecidableEq, Repr

/-- A computation that returns has returned at every step. -/
theorem bind_ok {α β : Type} {x : Except PyError α} {f : α → Except PyError β} {b : β} :
    x >>= f = .ok b ↔ ∃ a, x = .ok a ∧ f a = .ok b := by
  cases x with
  | error e => exact ⟨fun h => absurd h (by simp [bind, Except.bind]), fun ⟨_, h, _⟩ => absurd h (by simp)⟩
  | ok a => exact ⟨fun h => ⟨a, rfl, h⟩, fun ⟨_, h, hf⟩ => Except.ok.inj h ▸ hf⟩

theorem map_ok {α β : Type} {x : Except PyError α} {f : α → β} {b : β} :
    x.map f = .ok b ↔ ∃ a, x = .ok a ∧ f a = b := by
  cases x with
  | error e => exact ⟨fun h => absurd h (by simp [Except.map]), fun ⟨_, h, _⟩ => absurd h (by simp)⟩
  | ok a => exact ⟨fun h => ⟨a, rfl, Except.ok.inj h⟩, fun ⟨_, h, hf⟩ => by
      rw [Except.ok.inj h, ← hf]
      rfl⟩

/-- What every step of a fold keeps, the fold keeps. -/
theorem foldlM_ok_invariant {σ α : Type} {f : σ → α → Except PyError σ} (inv : σ → Prop)
    (hstep : ∀ {s s' a}, inv s → f s a = .ok s' → inv s') {l : List α} {s s' : σ} (hs : inv s)
    (h : l.foldlM f s = .ok s') : inv s' := by
  induction l generalizing s with
  | nil =>
    obtain rfl := Except.ok.inj h
    exact hs
  | cons a l ih =>
    rw [List.foldlM_cons] at h
    obtain ⟨next, hnext, hrest⟩ := bind_ok.mp h
    exact ih (hstep hs hnext) hrest

/-- A fold that another one sees a part of. -/
theorem foldlM_ok_map {σ τ α : Type} {f : σ → α → Except PyError σ} {g : τ → α → Except PyError τ}
    (part : σ → τ) (hstep : ∀ {s s' a}, f s a = .ok s' → g (part s) a = .ok (part s'))
    {l : List α} {s s' : σ} (h : l.foldlM f s = .ok s') : l.foldlM g (part s) = .ok (part s') := by
  induction l generalizing s with
  | nil =>
    obtain rfl := Except.ok.inj h
    rfl
  | cons a l ih =>
    rw [List.foldlM_cons] at h ⊢
    obtain ⟨next, hnext, hrest⟩ := bind_ok.mp h
    exact bind_ok.mpr ⟨part next, hstep hnext, ih hrest⟩

/-- A list is read when each element is. -/
theorem mapM_ok_iff {α β : Type} {f : α → Except PyError β} {l : List α} {ys : List β} :
    l.mapM f = .ok ys ↔ List.Forall₂ (fun x y => f x = .ok y) l ys := by
  induction l generalizing ys with
  | nil =>
    rw [List.mapM_nil, List.forall₂_nil_left_iff]
    exact ⟨fun h => (Except.ok.inj h).symm, fun h => h ▸ rfl⟩
  | cons x l ih =>
    rw [List.mapM_cons, List.forall₂_cons_left_iff, bind_ok]
    constructor
    · rintro ⟨y, hy, h⟩
      obtain ⟨ys', hys', h⟩ := bind_ok.mp h
      obtain rfl := Except.ok.inj h
      exact ⟨y, ys', hy, ih.mp hys', rfl⟩
    · rintro ⟨y, ys', hy, hys', rfl⟩
      exact ⟨y, hy, bind_ok.mpr ⟨ys', ih.mpr hys', rfl⟩⟩

/-- What is read of a list is what is read of its elements. -/
theorem mem_of_mapM_ok {α β : Type} {f : α → Except PyError β} {l : List α} {ys : List β}
    (h : l.mapM f = .ok ys) {y : β} (hy : y ∈ ys) : ∃ x ∈ l, f x = .ok y := by
  have hrel := mapM_ok_iff.mp h
  induction hrel with
  | nil => exact absurd hy List.not_mem_nil
  | @cons x y' l ys hx hrest ih =>
    rcases List.mem_cons.mp hy with rfl | hy
    · exact ⟨x, List.mem_cons_self, hx⟩
    · obtain ⟨x', hx', hread⟩ := ih (mapM_ok_iff.mpr hrest) hy
      exact ⟨x', List.mem_cons_of_mem _ hx', hread⟩

/-- Each element of a list that is read is read. -/
theorem exists_of_mapM_ok {α β : Type} {f : α → Except PyError β} {l : List α} {ys : List β}
    (h : l.mapM f = .ok ys) {x : α} (hx : x ∈ l) : ∃ y ∈ ys, f x = .ok y := by
  have hrel := mapM_ok_iff.mp h
  induction hrel with
  | nil => exact absurd hx List.not_mem_nil
  | @cons x' y l ys hx' hrest ih =>
    rcases List.mem_cons.mp hx with rfl | hx
    · exact ⟨y, List.mem_cons_self, hx'⟩
    · obtain ⟨y', hy', hread⟩ := ih (mapM_ok_iff.mpr hrest) hx
      exact ⟨y', List.mem_cons_of_mem _ hy', hread⟩

/-- A list is read, or one of its elements is not. -/
theorem mapM_ok_or_error {α β : Type} (f : α → Except PyError β) (l : List α) :
    (∃ ys, l.mapM f = .ok ys) ∨ ∃ x ∈ l, ∃ e, f x = .error e := by
  induction l with
  | nil => exact .inl ⟨[], rfl⟩
  | cons x l ih =>
    cases hx : f x with
    | error e => exact .inr ⟨x, List.mem_cons_self, e, hx⟩
    | ok y =>
      rcases ih with ⟨ys, hys⟩ | ⟨x', hx', e, he⟩
      · refine .inl ⟨y :: ys, ?_⟩
        rw [List.mapM_cons, hx, hys]
        rfl
      · exact .inr ⟨x', List.mem_cons_of_mem _ hx', e, he⟩

/-- A permutation of what is read is read as a permutation. -/
theorem mapM_ok_perm {α β : Type} {f : α → Except PyError β} {l l' : List α} {ys : List β}
    (hperm : l.Perm l') (h : l.mapM f = .ok ys) : ∃ ys', l'.mapM f = .ok ys' ∧ ys'.Perm ys := by
  obtain ⟨ys', hys', hperm'⟩ := List.perm_comp_forall₂ hperm.symm (mapM_ok_iff.mp h)
  exact ⟨ys', mapM_ok_iff.mpr hys', hperm'⟩

/-- `bool(v)`. -/
def Value.truthy : Value → Bool
  | .none => false
  | .bool b => b
  | .int n => n != 0
  | .float (.finite d) => d.digits != 0
  | .float (.inf _) | .float .nan => true
  | .str s => !s.isEmpty
  | .list xs => !xs.isEmpty
  | .dict kvs => !kvs.isEmpty

/-- `v or default`, `v` itself perhaps absent. -/
def orElse (v : Option Value) (default : Value) : Value :=
  match v with
  | some v => if v.truthy then v else default
  | none => default

theorem orElse_true {v : Value} (h : v.truthy = true) (default : Value) :
    orElse (some v) default = v := if_pos h

theorem orElse_false {v : Value} (h : v.truthy = false) (default : Value) :
    orElse (some v) default = default := by
  unfold orElse
  dsimp only
  rw [h, if_neg Bool.false_ne_true]

theorem orElse_str {s : String} (h : s ≠ "") (default : Value) :
    orElse (some (.str s)) default = .str s := by
  simp [orElse, Value.truthy, h]

theorem orElse_wf {v : Option Value} {default : Value} (hv : ∀ w, v = some w → w.WF)
    (hdefault : default.WF) : (orElse v default).WF := by
  unfold orElse
  split
  · next w =>
    split
    · exact hv w rfl
    · exact hdefault
  · exact hdefault

theorem orElse_truthy {v : Option Value} {default : Value} (h : default.truthy = true) :
    (orElse v default).truthy = true := by
  unfold orElse
  split
  · split
    · assumption
    · exact h
  · exact h

/-- `d.get(k)`. -/
def Dict.fetch (d : Dict) (k : String) : Value := (d.get? k).getD .none

/-- What is fetched from a well-formed dictionary is well formed. -/
theorem EntriesWF.fetch {d : Dict} (hd : EntriesWF d) (k : String) : (d.fetch k).WF := by
  unfold Dict.fetch
  cases hget : d.get? k with
  | none => trivial
  | some v => exact hd.get? hget

/-- `None` or a string. -/
def optionalText : Option String → Value
  | none => .none
  | some s => .str s

/-- `None` or a number. -/
def optionalInt : Option Int → Value
  | none => .none
  | some n => .int n

theorem optionalText_wf (s : Option String) : (optionalText s).WF := by
  cases s with
  | none => trivial
  | some s => trivial

/-- A list of strings as a value. -/
def textList (texts : List String) : Value := .list (texts.map .str)

theorem textList_wf (texts : List String) : (textList texts).WF := by
  unfold textList
  induction texts with
  | nil => trivial
  | cons s texts ih => exact ⟨trivial, ih⟩

/-! ## `repr` and `str` -/

/-- `str.isprintable` of one character. Code points that Unicode has not
assigned are taken as printable. -/
def isPrintable (c : Char) : Bool :=
  let n := c.toNat
  !(n < 0x20 || (0x7F ≤ n && n ≤ 0xA0) || n == 0xAD || (0x600 ≤ n && n ≤ 0x605) || n == 0x61C ||
    n == 0x6DD || n == 0x70F || n == 0x890 || n == 0x891 || n == 0x8E2 || n == 0x1680 ||
    n == 0x180E || (0x2000 ≤ n && n ≤ 0x200F) || (0x2028 ≤ n && n ≤ 0x202F) ||
    (0x205F ≤ n && n ≤ 0x206F) || n == 0x3000 || (0xE000 ≤ n && n ≤ 0xF8FF) || n == 0xFEFF ||
    (0xFFF9 ≤ n && n ≤ 0xFFFB) || n == 0x110BD || n == 0x110CD || (0x13430 ≤ n && n ≤ 0x1343F) ||
    (0x1BCA0 ≤ n && n ≤ 0x1BCA3) || (0x1D173 ≤ n && n ≤ 0x1D17A) || 0xE0000 ≤ n)

/-- The digits of a hexadecimal escape, at least `width` of them. -/
def hexPadded (width n : Nat) : List Char :=
  let ds := Nat.toDigits 16 n
  List.replicate (width - ds.length) '0' ++ ds

/-- One character inside `repr(s)`. -/
def reprChar (q c : Char) : List Char :=
  if c = q ∨ c = '\\' then ['\\', c]
  else if c = '\n' then ['\\', 'n']
  else if c = '\r' then ['\\', 'r']
  else if c = '\t' then ['\\', 't']
  else if isPrintable c then [c]
  else if c.toNat < 0x100 then '\\' :: 'x' :: hexPadded 2 c.toNat
  else if c.toNat < 0x10000 then '\\' :: 'u' :: hexPadded 4 c.toNat
  else '\\' :: 'U' :: hexPadded 8 c.toNat

/-- `repr(s)` of a string: single quotes, unless only those occur inside. -/
def reprText (s : List Char) : List Char :=
  let q := if s.contains '\'' && !s.contains '"' then '"' else '\''
  q :: (s.flatMap (reprChar q) ++ [q])

/-- `repr` of a float. -/
def FloatVal.text : FloatVal → List Char
  | .finite d => d.text
  | .inf false => "inf".toList
  | .inf true => "-inf".toList
  | .nan => "nan".toList

mutual

/-- `repr(v)`. -/
def Value.repr : Value → List Char
  | .none => "None".toList
  | .bool true => "True".toList
  | .bool false => "False".toList
  | .int n => intText n
  | .float x => x.text
  | .str s => reprText s.toList
  | .list xs => '[' :: (reprItems xs ++ [']'])
  | .dict kvs => '{' :: (reprEntries kvs ++ ['}'])

def reprItems : List Value → List Char
  | [] => []
  | [x] => x.repr
  | x :: xs => x.repr ++ ", ".toList ++ reprItems xs

def reprEntries : List (String × Value) → List Char
  | [] => []
  | [(k, v)] => reprText k.toList ++ ": ".toList ++ v.repr
  | (k, v) :: kvs => reprText k.toList ++ ": ".toList ++ v.repr ++ ", ".toList ++ reprEntries kvs

end

/-- `str(v)`: a string is itself, everything else its `repr`. -/
def Value.toText : Value → String
  | .str s => s
  | v => .ofList v.repr

/-- No value but a string prints as white space. -/
theorem exists_nonSpace_repr (v : Value) : ∃ c ∈ v.repr, isSpace c = false := by
  have hnumber : ∀ {s : List Char} {n : Number}, readNumber s = some n →
      ∃ c ∈ s, isSpace c = false := by
    intro s n h
    obtain ⟨c, hc, hdigit⟩ := exists_isDigit_of_readNumber h
    exact ⟨c, hc, isSpace_of_isDigit hdigit⟩
  cases v with
  | none => exact ⟨'N', by decide, by decide⟩
  | bool b => cases b <;> exact ⟨'e', by decide, by decide⟩
  | int n => exact hnumber (readNumber_intText n)
  | float x =>
    cases x with
    | finite d => exact hnumber (readNumber_text d)
    | inf neg => cases neg <;> exact ⟨'i', by decide, by decide⟩
    | nan => exact ⟨'n', by decide, by decide⟩
  | str s =>
    refine ⟨if s.toList.contains '\'' && !s.toList.contains '"' then '"' else '\'',
      List.mem_cons_self, ?_⟩
    split <;> decide
  | list xs => exact ⟨'[', List.mem_cons_self, by decide⟩
  | dict kvs => exact ⟨'{', List.mem_cons_self, by decide⟩

/-- The text of a value that counts as true is not empty. -/
theorem toText_ne_empty {v : Value} (h : v.truthy = true) : v.toText ≠ "" := by
  have hrepr : String.ofList v.repr ≠ "" := by
    intro hempty
    obtain ⟨c, hc, -⟩ := exists_nonSpace_repr v
    rw [show v.repr = [] by simpa using congrArg String.toList hempty] at hc
    cases hc
  cases v with
  | str s =>
    intro hempty
    rw [show s = "" from hempty] at h
    cases h
  | _ => exact hrepr

/-- `str(s or "")` of a string. -/
theorem orElse_toText (s : String) : (orElse (some (.str s)) (.str "")).toText = s := by
  by_cases hs : s = ""
  · rw [hs]
    rfl
  · rw [orElse_str hs]
    rfl

/-! ## `int` -/

/-- Truncation toward zero. -/
def Decimal.trunc (d : Decimal) : Int :=
  let m : Nat :=
    if 0 ≤ d.exponent then d.digits * 10 ^ d.exponent.toNat
    else d.digits / 10 ^ (-d.exponent).toNat
  if d.neg then -(m : Int) else m

/-- `int(v)`. -/
def Value.toInt : Value → Except PyError Int
  | .int n => .ok n
  | .bool b => .ok (if b then 1 else 0)
  | .float (.finite d) => .ok d.trunc
  | .float (.inf _) => .error .overflow
  | .float .nan => .error .value
  | .str s => match intOfText s.toList with
    | some n => .ok n
    | Option.none => .error .value
  | .none | .list _ | .dict _ => .error .type

/-- The items that `for x in v` runs through. -/
def Value.items : Value → Except PyError (List Value)
  | .list xs => .ok xs
  | .str s => .ok (s.toList.map fun c => .str (.singleton c))
  | .dict kvs => .ok (kvs.map fun e => .str e.1)
  | .none | .bool _ | .int _ | .float _ => .error .type

/-! ## `==` -/

/-- A number as an `int`, where it is one; a float is taken as its `repr` reads. -/
def Value.scalar : Value → Value
  | .bool b => .int (if b then 1 else 0)
  | .float (.finite d) => if 0 ≤ d.exponent then .int d.trunc else .float (.finite d)
  | v => v

mutual

/-- `v == w`. -/
def Value.pyEq : Value → Value → Bool
  | .none, .none => true
  | .str s, .str t => s == t
  | .list xs, .list ys => pyEqItems xs ys
  | .dict kvs, .dict kvs' => kvs.length == kvs'.length && pyEqEntries kvs kvs'
  | v, w => match v.scalar, w.scalar with
    | .int n, .int m => n == m
    | .float x, .float y => x == y && x != .nan
    | _, _ => false

def pyEqItems : List Value → List Value → Bool
  | [], [] => true
  | x :: xs, y :: ys => x.pyEq y && pyEqItems xs ys
  | _, _ => false

/-- Every entry is one of the other dictionary's. -/
def pyEqEntries : List (String × Value) → List (String × Value) → Bool
  | [], _ => true
  | (k, v) :: kvs, kvs' => (kvs'.lookup k).any (fun w => v.pyEq w) && pyEqEntries kvs kvs'

end

end Python
