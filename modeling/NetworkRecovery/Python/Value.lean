import Mathlib.Data.String.Basic
import NetworkRecovery.Python.Text
import NetworkRecovery.Python.Number

/-!
# Python values

The values a JSON text denotes and a `dict[str, Any]` holds. A dictionary is
its entries in insertion order, which is the order Python keeps; that no key
stands twice is `Value.WF`, and every operation here preserves it.

Two dictionaries with the same entries in another order are EQUAL in Python
and differ here. `Value.sortKeys` is the representative that
`json.dumps(…, sort_keys=True)` prints, and `Value.Same` is the equality
of representatives.
-/

namespace Python

/-- A `float`: a finite one, or one of the three that are not numbers on the
line. -/
inductive FloatVal where
  | finite (d : Decimal)
  | inf (neg : Bool)
  | nan
  deriving DecidableEq

/-- A value of `dict[str, Any]`, as far as JSON can carry it. -/
inductive Value where
  | none
  | bool (b : Bool)
  | int (n : Int)
  | float (x : FloatVal)
  | str (s : String)
  | list (xs : List Value)
  | dict (kvs : List (String × Value))

/-- The entries of a dictionary, in insertion order. -/
abbrev Dict := List (String × Value)

namespace Dict

/-- `d.get(k)`, with `none` for an absent key. -/
def get? (d : Dict) (k : String) : Option Value := d.lookup k

/-- `d[k] = v`: an old key keeps its place, a new one goes to the end. -/
def set : Dict → String → Value → Dict
  | [], k, v => [(k, v)]
  | (k', v') :: rest, k, v => if k' = k then (k, v) :: rest else (k', v') :: set rest k v

/-- The keys, in order. -/
def keys (d : Dict) : List String := d.map Prod.fst

/-- A new key goes to the end. -/
theorem set_of_not_mem {d : Dict} {k : String} (v : Value) (h : k ∉ d.keys) :
    d.set k v = d ++ [(k, v)] := by
  induction d with
  | nil => rfl
  | cons e rest ih =>
    obtain ⟨k', v'⟩ := e
    simp only [keys, List.map_cons, List.mem_cons, not_or] at h
    simp only [set, List.cons_append]
    rw [if_neg (Ne.symm h.1), ih h.2]

/-- Setting a key leaves the others where they are. -/
theorem keys_set (d : Dict) (k : String) (v : Value) :
    (d.set k v).keys = if k ∈ d.keys then d.keys else d.keys ++ [k] := by
  induction d with
  | nil => simp [set, keys]
  | cons e rest ih =>
    obtain ⟨k', v'⟩ := e
    unfold set
    by_cases hk : k' = k
    · subst hk
      simp [keys]
    · rw [if_neg hk]
      simp only [keys, List.map_cons, List.mem_cons] at ih ⊢
      rw [ih]
      have hne : k ≠ k' := Ne.symm hk
      by_cases hm : k ∈ List.map Prod.fst rest
      · simp [hm]
      · simp [hm, hne]

/-- Setting one key does not touch the others. -/
theorem get?_set_of_ne {d : Dict} {k k' : String} (v : Value) (h : k ≠ k') :
    (d.set k v).get? k' = d.get? k' := by
  induction d with
  | nil =>
    have hne : (k' == k) = false := beq_eq_false_iff_ne.mpr (Ne.symm h)
    rw [set, get?, get?, List.lookup_cons, hne]
  | cons e rest ih =>
    obtain ⟨k₀, v₀⟩ := e
    unfold get? at ih ⊢
    unfold set
    split
    · next hk =>
      have hne : (k' == k) = false := beq_eq_false_iff_ne.mpr (Ne.symm h)
      rw [List.lookup_cons, List.lookup_cons, hk, hne]
    · rw [List.lookup_cons, List.lookup_cons, ih]

/-- What the first entries do not name is looked up in the rest. -/
theorem get?_append_of_not_mem {d : Dict} {key : String} (h : key ∉ d.keys) (rest : Dict) :
    Dict.get? (d ++ rest) key = rest.get? key := by
  induction d with
  | nil => rfl
  | cons entry d ih =>
    simp only [Dict.keys, List.map_cons, List.mem_cons, not_or] at h
    have hne : (key == entry.1) = false := beq_eq_false_iff_ne.mpr h.1
    rw [List.cons_append, Dict.get?, List.lookup_cons, hne]
    exact ih h.2

/-- Setting several keys, one after the other, does not touch the others. -/
theorem get?_foldl_set {d : Dict} {k' : String} (entries : Dict) (h : k' ∉ entries.keys) :
    (entries.foldl (fun d e => d.set e.1 e.2) d).get? k' = d.get? k' := by
  induction entries generalizing d with
  | nil => rfl
  | cons e rest ih =>
    have hne : e.1 ≠ k' := fun heq => h (List.mem_cons.mpr (.inl heq.symm))
    have hrest : k' ∉ keys rest := fun hmem => h (List.mem_cons_of_mem _ hmem)
    rw [List.foldl_cons, ih hrest, get?_set_of_ne _ hne]

/-- Looking up the key that was set. -/
theorem get?_set_self (d : Dict) (k : String) (v : Value) : (d.set k v).get? k = some v := by
  induction d with
  | nil => simp [set, get?]
  | cons e rest ih =>
    obtain ⟨k₀, v₀⟩ := e
    unfold get? at ih ⊢
    unfold set
    split
    · simp
    · next hk =>
      have hne : (k == k₀) = false := beq_eq_false_iff_ne.mpr (Ne.symm hk)
      rw [List.lookup_cons, hne, ih]

/-- A filter that refuses a key does not see what it is set to. -/
theorem filter_set {p : String → Bool} {k : String} (hk : p k = false) (d : Dict) (v : Value) :
    (d.set k v).filter (fun e => p e.1) = d.filter fun e => p e.1 := by
  induction d with
  | nil => simp [set, hk]
  | cons e rest ih =>
    obtain ⟨k₀, v₀⟩ := e
    unfold set
    split
    · next h =>
      subst h
      simp [hk]
    · rw [List.filter_cons, List.filter_cons, ih]

/-- A filter that lets a key pass leaves what is under it. -/
theorem get?_filter {p : String → Bool} {k : String} (hk : p k = true) (d : Dict) :
    Dict.get? (d.filter fun e => p e.1) k = d.get? k := by
  unfold get?
  induction d with
  | nil => rfl
  | cons e rest ih =>
    obtain ⟨k₀, v₀⟩ := e
    rw [List.filter_cons]
    split
    · rw [List.lookup_cons, List.lookup_cons, ih]
    · next hp =>
      have hne : (k == k₀) = false := by
        refine beq_eq_false_iff_ne.mpr ?_
        rintro rfl
        exact hp hk
      rw [List.lookup_cons, hne, ih]

theorem nodup_keys_set {d : Dict} (k : String) (v : Value) (h : d.keys.Nodup) :
    (d.set k v).keys.Nodup := by
  rw [keys_set]
  split
  · exact h
  · next hk => exact List.nodup_append.mpr ⟨h, by simp, by
      intro a ha b hb
      rw [List.mem_singleton.mp hb]
      rintro rfl
      exact hk ha⟩

end Dict

/-! ## Well-formed values -/

mutual

/-- No dictionary inside the value holds a key twice. -/
def Value.WF : Value → Prop
  | .list xs => ListWF xs
  | .dict kvs => (Dict.keys kvs).Nodup ∧ EntriesWF kvs
  | .none | .bool _ | .int _ | .float _ | .str _ => True

/-- Every element is well formed. -/
def ListWF : List Value → Prop
  | [] => True
  | x :: xs => x.WF ∧ ListWF xs

/-- Every value of the entries is well formed. -/
def EntriesWF : List (String × Value) → Prop
  | [] => True
  | (_, v) :: kvs => v.WF ∧ EntriesWF kvs

end

theorem emptyDict_wf : (Value.dict []).WF := ⟨List.nodup_nil, trivial⟩

theorem ListWF.append : ∀ {xs ys : List Value}, ListWF xs → ListWF ys → ListWF (xs ++ ys)
  | [], _, _, hy => hy
  | _ :: _, _, hx, hy => ⟨hx.1, ListWF.append hx.2 hy⟩

theorem EntriesWF.set : ∀ {d : Dict} (k : String) {v : Value}, EntriesWF d → v.WF →
    EntriesWF (d.set k v)
  | [], _, _, _, hv => ⟨hv, trivial⟩
  | (k', v') :: rest, k, v, hd, hv => by
    unfold Dict.set
    split
    · exact ⟨hv, hd.2⟩
    · exact ⟨hd.1, EntriesWF.set k hd.2 hv⟩

/-- Setting a key of a well-formed dictionary to a well-formed value. -/
theorem Value.WF.set {d : Dict} {v : Value} (k : String) (hd : (Value.dict d).WF) (hv : v.WF) :
    (Value.dict (d.set k v)).WF :=
  ⟨Dict.nodup_keys_set k v hd.1, EntriesWF.set k hd.2 hv⟩

/-- What is looked up in a well-formed dictionary is well formed. -/
theorem EntriesWF.get? : ∀ {d : Dict} {k : String} {v : Value}, EntriesWF d → d.get? k = some v →
    v.WF
  | [], _, _, _, h => by simp [Dict.get?] at h
  | (k', v') :: rest, k, v, hd, h => by
    unfold Dict.get? at h
    rw [List.lookup_cons] at h
    split at h
    · cases h
      exact hd.1
    · exact EntriesWF.get? hd.2 h

theorem entriesWF_filter {d : Dict} (p : String × Value → Bool) (h : EntriesWF d) :
    EntriesWF (d.filter p) := by
  induction d with
  | nil => exact h
  | cons e rest ih =>
    obtain ⟨k, v⟩ := e
    rw [List.filter_cons]
    split
    · exact ⟨h.1, ih h.2⟩
    · exact ih h.2

/-! ## The strings of a value -/

mutual

/-- Every character of every key and string inside the value. -/
def Value.chars : Value → List Char
  | .str s => s.toList
  | .list xs => itemChars xs
  | .dict kvs => entryChars kvs
  | .none | .bool _ | .int _ | .float _ => []

/-- The characters of the elements. -/
def itemChars : List Value → List Char
  | [] => []
  | x :: xs => x.chars ++ itemChars xs

/-- The characters of the keys and values. -/
def entryChars : List (String × Value) → List Char
  | [] => []
  | (k, v) :: kvs => k.toList ++ v.chars ++ entryChars kvs

end

mutual

/-- Every float inside the value is finite: the values JSON itself has, `NaN`
and the infinities being Python's extension. -/
def Value.Finite : Value → Prop
  | .float (.finite _) => True
  | .float (.inf _) | .float .nan => False
  | .list xs => ListFinite xs
  | .dict kvs => EntriesFinite kvs
  | .none | .bool _ | .int _ | .str _ => True

/-- Every element is finite. -/
def ListFinite : List Value → Prop
  | [] => True
  | x :: xs => x.Finite ∧ ListFinite xs

/-- Every value of the entries is finite. -/
def EntriesFinite : List (String × Value) → Prop
  | [] => True
  | (_, v) :: kvs => v.Finite ∧ EntriesFinite kvs

end

/-! ## Sorted keys -/

/-- Insert an entry before the first key that is not smaller. -/
def insertEntry (e : String × Value) : Dict → Dict
  | [] => [e]
  | e' :: rest => if e.1 ≤ e'.1 then e :: e' :: rest else e' :: insertEntry e rest

mutual

/-- The value with the entries of every dictionary in key order. -/
def Value.sortKeys : Value → Value
  | .list xs => .list (sortItems xs)
  | .dict kvs => .dict (sortEntries kvs)
  | .none => .none
  | .bool b => .bool b
  | .int n => .int n
  | .float x => .float x
  | .str s => .str s

/-- Sort inside every element. -/
def sortItems : List Value → List Value
  | [] => []
  | x :: xs => x.sortKeys :: sortItems xs

/-- Sort inside every value, then the entries. -/
def sortEntries : List (String × Value) → List (String × Value)
  | [] => []
  | (k, v) :: kvs => insertEntry (k, v.sortKeys) (sortEntries kvs)

end

/-- Equality that does not see the order of dictionary entries. -/
def Value.Same (v w : Value) : Prop := v.sortKeys = w.sortKeys

theorem insertEntry_perm (e : String × Value) : ∀ d : Dict, (insertEntry e d).Perm (e :: d)
  | [] => List.Perm.refl _
  | e' :: rest => by
    unfold insertEntry
    split
    · exact List.Perm.refl _
    · exact ((insertEntry_perm e rest).cons e').trans (List.Perm.swap e e' rest)

theorem insertEntry_wf {e : String × Value} (he : e.2.WF) : ∀ {d : Dict}, EntriesWF d →
    EntriesWF (insertEntry e d)
  | [], _ => ⟨he, trivial⟩
  | e' :: rest, hd => by
    unfold insertEntry
    split
    · exact ⟨he, hd⟩
    · exact ⟨hd.1, insertEntry_wf he hd.2⟩

/-- Sorting permutes the keys. -/
theorem keys_sortEntries_perm : ∀ d : Dict, (Dict.keys (sortEntries d)).Perm (Dict.keys d)
  | [] => List.Perm.refl _
  | (k, v) :: kvs => by
    unfold sortEntries
    have h := (insertEntry_perm (k, v.sortKeys) (sortEntries kvs)).map Prod.fst
    exact h.trans ((keys_sortEntries_perm kvs).cons k)

mutual

/-- Sorting keeps a value well formed. -/
theorem Value.WF.sortKeys : ∀ {v : Value}, v.WF → v.sortKeys.WF
  | .list xs, h => by
    unfold Value.sortKeys
    exact ListWF.sortItems h
  | .dict kvs, h => by
    unfold Value.sortKeys
    exact ⟨(keys_sortEntries_perm kvs).nodup_iff.mpr h.1, EntriesWF.sortEntries h.2⟩
  | .none, _ | .bool _, _ | .int _, _ | .float _, _ | .str _, _ => by
    unfold Value.sortKeys
    trivial

theorem ListWF.sortItems : ∀ {xs : List Value}, ListWF xs → ListWF (sortItems xs)
  | [], _ => by
    unfold Python.sortItems
    trivial
  | x :: xs, h => by
    unfold Python.sortItems
    exact ⟨h.1.sortKeys, ListWF.sortItems h.2⟩

theorem EntriesWF.sortEntries : ∀ {kvs : List (String × Value)}, EntriesWF kvs →
    EntriesWF (sortEntries kvs)
  | [], _ => by
    unfold Python.sortEntries
    trivial
  | (k, v) :: kvs, h => by
    unfold Python.sortEntries
    exact insertEntry_wf h.1.sortKeys (EntriesWF.sortEntries h.2)

end

end Python
