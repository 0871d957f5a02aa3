import NetworkRecovery.Python.Value

/-!
# Models

A pydantic model with fields that JSON can carry IS its dump: a dictionary with the fields of
the model, in their order. `FieldType` says what a field may hold, `Conforms` which values are
dumps, and `validate` is `model_validate`, which takes any value: an absent field gets its
default and a key that is no field is left out. A dump validates to itself
(`validate_of_conforms`).

The lax mode also takes some values of another type, a number for a `bool` for instance. No
dump holds one, and here they are refused.
-/

namespace Python

inductive FieldType where
  | text
  | flag
  | number
  /-- `dict[str, Any]` -/
  | object
  /-- an enumeration of strings, or a literal -/
  | member (texts : List String)
  | optional (t : FieldType)
  | tuple (t : FieldType)
  /-- another model: the name, the type and the default of each field -/
  | model (fields : List (String × FieldType × Option Value))

/-- The fields of a model. -/
abbrev Fields := List (String × FieldType × Option Value)

mutual

/-- The values of a type, as `model_dump(mode="json")` writes them. -/
def FieldType.Conforms : FieldType → Value → Prop
  | .text, .str _ => True
  | .flag, .bool _ => True
  | .number, .int _ => True
  | .object, .dict _ => True
  | .member texts, .str s => s ∈ texts
  | .optional _, .none => True
  | .optional t, v => t.Conforms v
  | .tuple t, .list xs => ∀ x ∈ xs, t.Conforms x
  | .model fields, .dict kvs => FieldsConform fields kvs
  | _, _ => False

/-- Every field, in its order. -/
def FieldsConform : List (String × FieldType × Option Value) → Dict → Prop
  | [], [] => True
  | (name, t, _) :: fields, (k, v) :: kvs => k = name ∧ t.Conforms v ∧ FieldsConform fields kvs
  | _, _ => False

end

mutual

/-- What `model_validate` makes of a value; `none` is a `ValidationError`. -/
def FieldType.validate : FieldType → Value → Option Value
  | .text, .str s => some (.str s)
  | .flag, .bool b => some (.bool b)
  | .number, .int n => some (.int n)
  | .object, .dict kvs => some (.dict kvs)
  | .member texts, .str s => if s ∈ texts then some (.str s) else none
  | .optional _, .none => some .none
  | .optional t, v => t.validate v
  | .tuple t, .list xs => (xs.mapM fun x => t.validate x).map .list
  | .model fields, .dict kvs => (validateFields fields kvs).map .dict
  | _, _ => none

def validateFields : List (String × FieldType × Option Value) → Dict → Option Dict
  | [], _ => some []
  | (name, t, default) :: fields, kvs =>
    let v := match Dict.get? kvs name with
      | some v => t.validate v
      | none => default
    v.bind fun v => (validateFields fields kvs).map fun rest => (name, v) :: rest

end

theorem ListWF.mem {xs : List Value} (h : ListWF xs) {x : Value} (hx : x ∈ xs) : x.WF := by
  induction xs with
  | nil => exact absurd hx List.not_mem_nil
  | cons y ys ih =>
    rcases List.mem_cons.mp hx with rfl | hmem
    · exact h.1
    · exact ih h.2 hmem

theorem Dict.get?_append_cons {front kvs : Dict} {k : String} {v : Value}
    (h : (Dict.keys (front ++ (k, v) :: kvs)).Nodup) :
    Dict.get? (front ++ (k, v) :: kvs) k = some v := by
  induction front with
  | nil => simp [get?]
  | cons e front ih =>
    obtain ⟨hnotMem, hnodup⟩ := List.nodup_cons.mp h
    have hne : (k == e.1) = false := by
      refine beq_eq_false_iff_ne.mpr fun heq => hnotMem ?_
      rw [← heq]
      simp
    have hrest := ih hnodup
    unfold get? at hrest ⊢
    rw [List.cons_append, List.lookup_cons, hne]
    exact hrest

theorem FieldType.conforms_cases {t : FieldType} {v : Value} (h : (optional t).Conforms v) :
    v = .none ∨ t.Conforms v := by
  cases v <;> first | exact .inl rfl | exact .inr h

mutual

/-- A dump validates to itself. -/
theorem FieldType.validate_of_conforms : ∀ (t : FieldType) {v : Value}, t.Conforms v → v.WF →
    t.validate v = some v
  | .text, .str _, _, _ => rfl
  | .flag, .bool _, _, _ => rfl
  | .number, .int _, _, _ => rfl
  | .object, .dict _, _, _ => rfl
  | .member texts, .str s, h, _ => if_pos h
  | .optional t, v, h, hwf => by
    rcases FieldType.conforms_cases h with rfl | hv
    · rfl
    · have hvalidate := FieldType.validate_of_conforms t hv hwf
      cases v with
      | none => rfl
      | _ => exact hvalidate
  | .tuple t, .list xs, h, hwf => by
    have hitems : ∀ x ∈ xs, t.validate x = some x := fun x hx =>
      FieldType.validate_of_conforms t (h x hx) (hwf.mem hx)
    have hall : (xs.mapM fun x => t.validate x) = some xs := by
      clear h hwf
      induction xs with
      | nil => rfl
      | cons x xs ih =>
        rw [List.mapM_cons, hitems x List.mem_cons_self,
          ih fun y hy => hitems y (List.mem_cons_of_mem _ hy)]
        rfl
    show (xs.mapM fun x => t.validate x).map Value.list = _
    rw [hall]
    rfl
  | .model fields, .dict kvs, h, hwf => by
    show (validateFields fields kvs).map Value.dict = _
    rw [show validateFields fields kvs = some kvs from
      validateFields_of_conform fields [] h hwf.1 hwf.2]
    rfl

/-- Read from a dictionary that has them at its end, the fields come out as they are. -/
theorem validateFields_of_conform : ∀ (fields : List (String × FieldType × Option Value))
    (front : Dict) {kvs : Dict}, FieldsConform fields kvs → (Dict.keys (front ++ kvs)).Nodup →
    EntriesWF kvs → validateFields fields (front ++ kvs) = some kvs
  | [], _, [], _, _, _ => rfl
  | (name, t, default) :: fields, front, (k, v) :: kvs, h, hkeys, hwf => by
    obtain ⟨rfl, hv, hrest⟩ := h
    have hget : Dict.get? (front ++ (k, v) :: kvs) k = some v := Dict.get?_append_cons hkeys
    have hfront : front ++ (k, v) :: kvs = (front ++ [(k, v)]) ++ kvs := by simp
    have hfields : validateFields fields (front ++ (k, v) :: kvs) = some kvs := by
      rw [hfront] at hkeys ⊢
      exact validateFields_of_conform fields _ hrest hkeys hwf.2
    rw [validateFields, hget, hfields]
    show (t.validate v).bind _ = _
    rw [FieldType.validate_of_conforms t hv hwf.1]
    rfl

end

end Python
