import NetworkRecovery.Correlation.RegistryTargets

/-!
# What the texts of a registry event have to hold

The conditions of `RegistryTargets`, as conditions on the text of a path and of `Details`: a path
is taken for that of a value if it leads to it (`LeadsTo`), but also if it only mentions
`Internet Settings` and the name (`Mentions`), and `Details` pass if they hold the new value
somewhere (`Holds`).
-/

namespace Correlation

open Python

section Lower

variable (lower : List Char → List Char)

/-! ## Paths, in their text -/

/-- The text is split at the first place where `sub` stands. -/
structure FirstPlace (sub s root behind : List Char) : Prop where
  split : s = root ++ sub ++ behind
  first : ∀ root' behind', s = root' ++ sub ++ behind' → root.length ≤ root'.length

theorem afterFirst_cons (sub : List Char) (c : Char) (s : List Char) :
    afterFirst sub (c :: s) =
      if sub <+: c :: s then some ((c :: s).drop sub.length) else afterFirst sub s := by
  unfold afterFirst
  rw [List.tails_cons, List.find?_cons]
  by_cases h : sub <+: c :: s
  · rw [if_pos h, List.isPrefixOf_iff_prefix.mpr h]
    rfl
  · rw [if_neg h, eq_false_of_ne_true (mt List.isPrefixOf_iff_prefix.mp h)]

theorem afterFirst_eq_some_iff {sub : List Char} (hsub : sub ≠ []) {s behind : List Char} :
    afterFirst sub s = some behind ↔ ∃ root, FirstPlace sub s root behind := by
  induction s with
  | nil =>
    have hprefix : sub.isPrefixOf [] = false :=
      eq_false_of_ne_true fun h => hsub (List.prefix_nil.mp (List.isPrefixOf_iff_prefix.mp h))
    have hnone : afterFirst sub [] = none := by
      simp [afterFirst, hprefix]
    rw [hnone]
    refine iff_of_false (Option.some_ne_none _).symm ?_
    rintro ⟨root, h⟩
    exact hsub (List.append_eq_nil_iff.mp (List.append_eq_nil_iff.mp h.split.symm).1).2
  | cons c s ih =>
    rw [afterFirst_cons]
    by_cases hprefix : sub <+: c :: s
    · rw [if_pos hprefix]
      constructor
      · intro h
        have hdrop := (List.prefix_iff_eq_append.mp hprefix).symm
        rw [Option.some.inj h] at hdrop
        exact ⟨[], hdrop, fun _ _ _ => Nat.zero_le _⟩
      · rintro ⟨root, h⟩
        have hroot := h.first [] _ (List.prefix_iff_eq_append.mp hprefix).symm
        obtain rfl := List.length_eq_zero_iff.mp (Nat.le_zero.mp hroot)
        have hsplit : c :: s = sub ++ behind := h.split
        rw [hsplit, List.drop_left]
    · rw [if_neg hprefix, ih]
      constructor
      · rintro ⟨root, h⟩
        refine ⟨c :: root, congrArg (c :: ·) h.split, fun root' behind' hsplit => ?_⟩
        cases root' with
        | nil => exact absurd ⟨behind', hsplit.symm⟩ hprefix
        | cons c' root' => exact Nat.succ_le_succ (h.first _ _ (List.cons.inj hsplit).2)
      · rintro ⟨root, h⟩
        cases root with
        | nil => exact absurd ⟨behind, h.split.symm⟩ hprefix
        | cons c' root =>
          obtain ⟨rfl, hsplit⟩ := List.cons.inj h.split
          refine ⟨root, hsplit, fun root' behind' hsplit' => ?_⟩
          exact Nat.le_of_succ_le_succ (h.first (c :: root') behind' (congrArg (c :: ·) hsplit'))

/-- Whole components: nothing, or a text that ends in a separator. -/
def WholeComponents (dirs : List Char) : Prop := dirs = [] ∨ ∃ front, dirs = front ++ ['\\']

theorem getLast?_splitOn {dirs component : List Char} (hdirs : WholeComponents dirs)
    (h : '\\' ∉ component) : ((dirs ++ component).splitOn '\\').getLast? = some component := by
  have hsingle : component.splitOn '\\' = [component] := List.splitOn_eq_singleton h
  rcases hdirs with rfl | ⟨front, rfl⟩
  · rw [List.nil_append, hsingle]
    rfl
  · rw [List.append_assoc, List.singleton_append, List.splitOn_append_cons_self, hsingle,
      List.getLast?_concat]

theorem WholeComponents.append {a b : List Char} (ha : WholeComponents a)
    (hb : WholeComponents b) : WholeComponents (a ++ b) := by
  rcases hb with rfl | ⟨front, rfl⟩
  · rw [List.append_nil]
    exact ha
  · exact .inr ⟨a ++ front, (List.append_assoc ..).symm⟩

theorem WholeComponents.of_suffix {a b : List Char} (hb : WholeComponents b) (h : a <:+ b) :
    WholeComponents a := by
  rcases List.eq_nil_or_concat' a with hnil | ⟨front, c, rfl⟩
  · exact .inl hnil
  · obtain ⟨rest, rfl⟩ := h
    rcases hb with hnil | ⟨front', hfront⟩
    · simp at hnil
    · rw [← List.append_assoc] at hfront
      exact .inr ⟨front, by rw [(List.append_inj' hfront rfl).2]⟩

theorem wholeComponents_of_separators {s : List Char} (h : ∀ c ∈ s, c = '\\') :
    WholeComponents s := by
  rcases List.eq_nil_or_concat' s with hnil | ⟨front, c, rfl⟩
  · exact .inl hnil
  · exact .inr ⟨front, by rw [h c (List.mem_append_right _ (List.mem_singleton_self _))]⟩

/-- A text is some whole components and a last one. -/
theorem exists_lastComponent (s : List Char) :
    ∃ dirs component, s = dirs ++ component ∧ WholeComponents dirs ∧ '\\' ∉ component := by
  refine ⟨s.rdropWhile (· ≠ '\\'), s.rtakeWhile (· ≠ '\\'),
    (List.rdropWhile_append_rtakeWhile ..).symm, ?_, ?_⟩
  · rcases List.eq_nil_or_concat' (s.rdropWhile (· ≠ '\\')) with hnil | ⟨front, c, hfront⟩
    · exact .inl hnil
    · have hne : s.rdropWhile (· ≠ '\\') ≠ [] := by
        rw [hfront]
        exact List.append_ne_nil_of_right_ne_nil _ (List.cons_ne_nil _ _)
      have hlast := List.rdropWhile_last_not _ _ hne
      simp only [hfront, List.getLast_concat] at hlast
      have hc : c = '\\' := by simpa using hlast
      exact .inr ⟨front, hc ▸ hfront⟩
  · intro h
    simpa using List.mem_rtakeWhile_imp h

/-- The path leads to the value: behind the first place where the key of the settings stands,
the last component is its name, but for separators behind it, white space around it and colons at
its end. -/
def LeadsTo (low : List Char) (valueName : String) : Prop :=
  ∃ root dirs component slashes colons,
    FirstPlace internetSettingsSuffix (replaceChar '/' '\\' low) root
      (dirs ++ component ++ slashes) ∧
    WholeComponents dirs ∧ '\\' ∉ component ∧ (∀ c ∈ slashes, c = '\\') ∧
    strip component = valueName.toList ++ colons ∧ ∀ c ∈ colons, c = ':'

theorem rdropWhile_append_of_pos {p : Char → Bool} (s : List Char) {t : List Char}
    (h : ∀ c ∈ t, p c = true) : (s ++ t).rdropWhile p = s.rdropWhile p := by
  unfold List.rdropWhile
  rw [List.reverse_append, List.dropWhile_append_of_pos fun c hc => h c (List.mem_reverse.mp hc)]

/-- Separators are taken off both ends, up to the last component. -/
theorem stripChars_components {dirs component slashes : List Char} (hne : component ≠ [])
    (h : '\\' ∉ component) (hslashes : ∀ c ∈ slashes, c = '\\') :
    stripChars ['\\'] (dirs ++ component ++ slashes) =
      dirs.dropWhile (['\\'].contains ·) ++ component := by
  have hslash : ∀ c, ['\\'].contains c = true ↔ c = '\\' := by simp
  have hleft : (component ++ slashes).dropWhile (['\\'].contains ·) = component ++ slashes := by
    obtain ⟨c, component, rfl⟩ := List.exists_cons_of_ne_nil hne
    rw [List.cons_append, List.dropWhile_cons_of_neg]
    rw [hslash]
    rintro rfl
    exact h List.mem_cons_self
  have hlead : (dirs ++ (component ++ slashes)).dropWhile (['\\'].contains ·) =
      dirs.dropWhile (['\\'].contains ·) ++ (component ++ slashes) := by
    rw [List.dropWhile_append, hleft]
    split
    · next hempty => rw [List.isEmpty_iff.mp hempty, List.nil_append]
    · rfl
  unfold stripChars
  rw [List.append_assoc, hlead, ← List.append_assoc,
    rdropWhile_append_of_pos _ fun c hc => (hslash c).mpr (hslashes c hc)]
  obtain ⟨front, c, rfl⟩ := (List.eq_nil_or_concat' component).resolve_left hne
  rw [← List.append_assoc, List.rdropWhile_concat_neg]
  rw [hslash]
  rintro rfl
  exact h (List.mem_append_right _ (List.mem_singleton_self _))

theorem proxyValueNames_bare : ∀ name ∈ proxyValueNames,
    name ≠ "" ∧ name.toList.rdropWhile (· = ':') = name.toList := by decide

theorem exists_separators (s : List Char) :
    ∃ lead slashes, s = lead ++ stripChars ['\\'] s ++ slashes ∧ (∀ c ∈ lead, c = '\\') ∧
      ∀ c ∈ slashes, c = '\\' := by
  refine ⟨s.takeWhile (['\\'].contains ·),
    (s.dropWhile (['\\'].contains ·)).rtakeWhile (['\\'].contains ·), ?_, ?_, ?_⟩
  · unfold stripChars
    rw [List.append_assoc, List.rdropWhile_append_rtakeWhile, List.takeWhile_append_dropWhile]
  · intro c hc
    simpa using List.mem_takeWhile_imp hc
  · intro c hc
    simpa using List.mem_rtakeWhile_imp hc

theorem canonicalSuffix_iff {low : List Char} {valueName : String} :
    canonicalSuffix low = some valueName ↔
      valueName ∈ proxyValueNames ∧ LeadsTo low valueName := by
  have hsuffix : internetSettingsSuffix ≠ [] := by decide
  constructor
  · intro h
    unfold canonicalSuffix at h
    dsimp only at h
    split at h
    · cases h
    next behind hbehind =>
      obtain ⟨root, hroot⟩ := (afterFirst_eq_some_iff hsuffix).mp hbehind
      obtain ⟨lead, slashes, hbounds, hlead, hslashes⟩ := exists_separators behind
      obtain ⟨dirs, component, htail, hdirs, hcomponent⟩ :=
        exists_lastComponent (stripChars ['\\'] behind)
      rw [htail, getLast?_splitOn hdirs hcomponent, Option.getD_some] at h
      split at h
      · cases h
      split at h
      next hmem =>
        obtain rfl := Option.some.inj h
        refine ⟨hmem, root, lead ++ dirs, component, slashes, (strip component).rtakeWhile (· = ':'),
          ?_, (wholeComponents_of_separators hlead).append hdirs, hcomponent, hslashes, ?_, ?_⟩
        · rw [htail] at hbounds
          rw [List.append_assoc lead, ← hbounds]
          exact hroot
        · rw [String.toList_ofList, List.rdropWhile_append_rtakeWhile]
        · intro c hc
          simpa using List.mem_rtakeWhile_imp hc
      · cases h
  · rintro ⟨hmem, root, dirs, component, slashes, colons, hroot, hdirs, hcomponent, hslashes,
      hstrip, hcolons⟩
    obtain ⟨hname, hbare⟩ := proxyValueNames_bare valueName hmem
    have hne : component ≠ [] := by
      rintro rfl
      have hempty := (List.append_eq_nil_iff.mp hstrip.symm).1
      exact hname (String.toList_eq_nil_iff.mp hempty)
    have hatom : (strip component).rdropWhile (· = ':') = valueName.toList := by
      rw [hstrip, rdropWhile_append_of_pos _ fun c hc => decide_eq_true (hcolons c hc), hbare]
    have hwhole := hdirs.of_suffix (List.dropWhile_suffix (['\\'].contains ·))
    unfold canonicalSuffix
    dsimp only
    rw [(afterFirst_eq_some_iff hsuffix).mpr ⟨root, hroot⟩]
    dsimp only
    rw [stripChars_components hne hcomponent hslashes, getLast?_splitOn hwhole hcomponent,
      Option.getD_some, if_neg (List.append_ne_nil_of_right_ne_nil _ hne), hatom,
      String.ofList_toList, if_pos hmem]

/-- A path that leads to no value, but mentions `Internet Settings` and a name somewhere, with
its separators left out; of several names the first in `order` counts. -/
def Mentions (order : List String) (low : List Char) (valueName : String) : Prop :=
  (∀ name ∈ proxyValueNames, ¬ LeadsTo low name) ∧
    "internetsettings".toList <:+: low.filter (· ≠ '\\') ∧
    ∃ before after, order = before ++ valueName :: after ∧
      valueName.toList <:+: low.filter (· ≠ '\\') ∧
      ∀ name ∈ before, ¬ name.toList <:+: low.filter (· ≠ '\\')

/-- The path is taken for that of a value. -/
def IsAbout (order : List String) (targetObject : List Char) (valueName : String) : Prop :=
  valueName ∈ proxyValueNames ∧
    (LeadsTo (normalizeRegistryPath lower targetObject) valueName ∨
      Mentions order (normalizeRegistryPath lower targetObject) valueName)

theorem find?_contains_iff {order : List String} {flat : List Char} {valueName : String} :
    order.find? (fun name => contains name.toList flat) = some valueName ↔
      ∃ before after, order = before ++ valueName :: after ∧ valueName.toList <:+: flat ∧
        ∀ name ∈ before, ¬ name.toList <:+: flat := by
  rw [List.find?_eq_some_iff_append]
  simp only [contains_iff, Bool.not_eq_true', ← Bool.not_eq_true]
  constructor
  · rintro ⟨hin, before, after, horder, hbefore⟩
    exact ⟨before, after, horder, hin, hbefore⟩
  · rintro ⟨before, after, horder, hin, hbefore⟩
    exact ⟨hin, before, after, horder, hbefore⟩

theorem not_leadsTo_nil (valueName : String) : ¬ LeadsTo [] valueName := by
  rintro ⟨root, dirs, component, slashes, colons, hroot, -⟩
  have hnil := List.append_eq_nil_iff.mp (List.append_eq_nil_iff.mp hroot.split.symm).1
  exact absurd hnil.2 (by decide)

theorem not_isAbout_nil (order : List String) (valueName : String) :
    ¬ IsAbout lower order [] valueName := by
  have hpath : normalizeRegistryPath lower [] = [] := if_pos rfl
  unfold IsAbout
  rw [hpath]
  rintro ⟨-, hleads | hmentions⟩
  · exact not_leadsTo_nil valueName hleads
  · exact absurd (List.infix_nil.mp hmentions.2.1) (by decide)

/-- Which value the code takes a path for. -/
theorem isAbout_iff {order : List String} (horder : order.Perm proxyValueNames)
    (targetObject : List Char) (valueName : String) :
    isProxyRegistryTarget lower targetObject = true ∧
        proxyRegistryValueName lower order targetObject = some valueName ↔
      IsAbout lower order targetObject valueName := by
  by_cases hnil : targetObject = []
  · subst hnil
    exact iff_of_false (fun h => Bool.false_ne_true h.1) (not_isAbout_nil lower order valueName)
  unfold isProxyRegistryTarget proxyRegistryValueName IsAbout Mentions
  rw [if_neg hnil, if_neg hnil]
  dsimp only
  cases hsuffix : canonicalSuffix (normalizeRegistryPath lower targetObject) with
  | some name =>
    obtain ⟨hmem, hleads⟩ := canonicalSuffix_iff.mp hsuffix
    rw [Option.some_or]
    constructor
    · rintro ⟨-, hname⟩
      obtain rfl := Option.some.inj hname
      exact ⟨hmem, .inl hleads⟩
    · rintro ⟨hmem', hleads' | hmentions⟩
      · exact ⟨rfl, hsuffix.symm.trans (canonicalSuffix_iff.mpr ⟨hmem', hleads'⟩)⟩
      · exact absurd hleads (hmentions.1 name hmem)
  | none =>
    have hnone : ∀ name ∈ proxyValueNames,
        ¬ LeadsTo (normalizeRegistryPath lower targetObject) name := by
      intro name hmem hleads
      rw [canonicalSuffix_iff.mpr ⟨hmem, hleads⟩] at hsuffix
      cases hsuffix
    rw [Option.none_or, find?_contains_iff]
    simp only [Option.isSome_none, Bool.false_or, Bool.and_eq_true, contains_iff, List.any_eq_true]
    constructor
    · rintro ⟨⟨hsettings, -⟩, hfind⟩
      refine ⟨?_, .inr ⟨hnone, hsettings, hfind⟩⟩
      obtain ⟨before, after, rfl, -⟩ := hfind
      exact horder.mem_iff.mp (List.mem_append_right _ List.mem_cons_self)
    · rintro ⟨hmem, hleads | ⟨-, hsettings, hfind⟩⟩
      · exact absurd hleads (hnone valueName hmem)
      · have hfound := hfind
        obtain ⟨before, after, -, hin, -⟩ := hfound
        exact ⟨⟨hsettings, valueName, hmem, hin⟩, hfind⟩

/-! ## Details, in their text -/

/-- The text of a new `ProxyEnable`. -/
def enableText : Value → List Char
  | .bool b => if b then "1".toList else "0".toList
  | v => strip v.toText.toList

/-- The `Details` of a write of `ProxyEnable` hold the new value: its eight digits somewhere, or
its text. -/
def HoldsEnable (d exp : List Char) : Prop :=
  (exp ∈ ["1".toList, "true".toList] ∧
    ("00000001".toList <:+: d ∨ d ∈ ["1".toList, "0x1".toList, "true".toList])) ∨
  (exp ∈ ["0".toList, "false".toList] ∧
    ("00000000".toList <:+: d ∨ d ∈ ["0".toList, "0x0".toList, "false".toList])) ∨
  (exp ∉ ["1".toList, "true".toList, "0".toList, "false".toList] ∧ exp <:+: d)

/-- The `Details` hold the new value somewhere; the text of a `ProxyServer` with its blanks left
out, and a text for an absent one. -/
def Holds (valueName : String) (details : List Char) (new : Value) : Prop :=
  let d := lower (strip details)
  let exp := lower (strip new.toText.toList)
  d ≠ [] ∧
    if valueName = "proxyenable" then HoldsEnable d (enableText new)
    else if valueName = "proxyserver" then
      (exp ∈ ["".toList, "none".toList, "null".toList] ∧
        (d ∈ ["(empty)".toList, "null".toList] ∨ "deleted".toList <:+: d)) ∨
      (exp ∉ ["".toList, "none".toList, "null".toList] ∧ exp <:+: d.filter (· ≠ ' '))
    else (exp = [] ∧ d = "(empty)".toList) ∨ (exp ≠ [] ∧ exp <:+: lower d)

/-- The texts that are looked for, of which the last has the digits in it. -/
theorem holdsDigits_iff {digits long : List Char} (hlong : digits <:+: long) (d a b c : List Char) :
    (contains digits d || d = a || d = b || d = c || d = long) = true ↔
      digits <:+: d ∨ d ∈ [a, b, c] := by
  have hin : d = long → digits <:+: d := fun h => h ▸ hlong
  simp only [Bool.or_eq_true, contains_iff, decide_eq_true_eq, List.mem_cons, List.not_mem_nil,
    or_false]
  tauto

theorem holdsEnable_iff (d exp : List Char) :
    (if exp = "1".toList ∨ exp = "true".toList then
        contains "00000001".toList d || d = "1".toList || d = "0x1".toList || d = "true".toList ||
          d = "dword (0x00000001)".toList
      else if exp = "0".toList ∨ exp = "false".toList then
        contains "00000000".toList d || d = "0".toList || d = "0x0".toList || d = "false".toList ||
          d = "dword (0x00000000)".toList
      else contains exp d) = true ↔ HoldsEnable d exp := by
  have hone : exp = "1".toList ∨ exp = "true".toList ↔ exp ∈ ["1".toList, "true".toList] := by
    simp only [List.mem_cons, List.not_mem_nil, or_false]
  have hzero : exp = "0".toList ∨ exp = "false".toList ↔ exp ∈ ["0".toList, "false".toList] := by
    simp only [List.mem_cons, List.not_mem_nil, or_false]
  have hneither : exp ∉ ["1".toList, "true".toList, "0".toList, "false".toList] ↔
      exp ∉ ["1".toList, "true".toList] ∧ exp ∉ ["0".toList, "false".toList] := by
    simp only [List.mem_cons, List.not_mem_nil, or_false, not_or, and_assoc]
  have hapart : exp ∈ ["1".toList, "true".toList] → exp ∉ ["0".toList, "false".toList] := by
    simp only [← hone]
    rintro (rfl | rfl)
    · decide
    · decide
  unfold HoldsEnable
  rw [hneither]
  simp only [hone, hzero]
  by_cases h1 : exp ∈ ["1".toList, "true".toList]
  · rw [if_pos h1, holdsDigits_iff (contains_iff.mp (by decide))]
    constructor
    · exact fun h => .inl ⟨h1, h⟩
    · rintro (⟨-, h⟩ | ⟨h0, -⟩ | ⟨⟨hn, -⟩, -⟩)
      · exact h
      · exact absurd h0 (hapart h1)
      · exact absurd h1 hn
  · rw [if_neg h1]
    by_cases h0 : exp ∈ ["0".toList, "false".toList]
    · rw [if_pos h0, holdsDigits_iff (contains_iff.mp (by decide))]
      constructor
      · exact fun h => .inr (.inl ⟨h0, h⟩)
      · rintro (⟨hp, -⟩ | ⟨-, h⟩ | ⟨⟨-, hn⟩, -⟩)
        · exact absurd hp h1
        · exact h
        · exact absurd h0 hn
    · rw [if_neg h0, contains_iff]
      constructor
      · exact fun h => .inr (.inr ⟨⟨h1, h0⟩, h⟩)
      · rintro (⟨hp, -⟩ | ⟨hp, -⟩ | ⟨-, h⟩)
        · exact absurd hp h1
        · exact absurd hp h0
        · exact h

theorem denotesAbsent_iff {d : List Char} (hd : d ≠ []) :
    denotesAbsent d = true ↔
      d ∈ ["(empty)".toList, "null".toList] ∨ "deleted".toList <:+: d := by
  unfold denotesAbsent
  simp only [Bool.or_eq_true, contains_iff, decide_eq_true_eq, List.mem_cons, List.not_mem_nil,
    or_false]
  tauto

/-- What the code looks for in the `Details`. -/
theorem holds_iff {valueName : String} (hname : valueName ∈ proxyValueNames)
    (details : List Char) {new : Value} (hnew : new ≠ .none) :
    detailsMatchesExpected lower valueName details (some new) = true ↔
      Holds lower valueName details new := by
  unfold detailsMatchesExpected Holds
  dsimp only
  split
  next h => cases h
  next h => exact absurd (Option.some.inj h) hnew
  next expected _ h =>
    obtain rfl := Option.some.inj h
    by_cases hd : lower (strip details) = []
    · rw [if_pos hd]
      exact iff_of_false Bool.false_ne_true fun h => h.1 hd
    rw [if_neg hd, and_iff_right hd]
    by_cases henable : valueName = "proxyenable"
    · rw [if_pos henable, if_pos henable, ← holdsEnable_iff]
      rfl
    rw [if_neg henable, if_neg henable]
    by_cases hserver : valueName = "proxyserver"
    · rw [if_pos hserver, if_pos hserver]
      have habsent : lower (strip new.toText.toList) = [] ∨
          lower (strip new.toText.toList) = "none".toList ∨
          lower (strip new.toText.toList) = "null".toList ↔
          lower (strip new.toText.toList) ∈ ["".toList, "none".toList, "null".toList] := by
        simp only [List.mem_cons, List.not_mem_nil, or_false, String.toList_empty]
      simp only [habsent]
      split
      next h =>
        rw [denotesAbsent_iff hd]
        exact ⟨fun hin => .inl ⟨h, hin⟩, fun hin => hin.elim And.right fun hno => absurd h hno.1⟩
      next h =>
        rw [contains_iff]
        exact ⟨fun hin => .inr ⟨h, hin⟩, fun hin => hin.elim (fun hno => absurd hno.1 h) And.right⟩
    · have hrest : valueName = "autoconfigurl" ∨ valueName = "proxyoverride" := by
        simp only [proxyValueNames, List.mem_cons, List.not_mem_nil, or_false] at hname
        exact (hname.resolve_left henable).resolve_left hserver
      rw [if_neg hserver, if_neg hserver, if_pos hrest]
      split
      next h =>
        rw [Bool.or_eq_true, decide_eq_true_eq, decide_eq_true_eq, or_iff_right hd]
        exact ⟨fun hempty => .inl ⟨h, hempty⟩,
          fun hin => hin.elim And.right fun hno => absurd h hno.1⟩
      next h =>
        rw [contains_iff]
        exact ⟨fun hin => .inr ⟨h, hin⟩, fun hin => hin.elim (fun hno => absurd hno.1 h) And.right⟩

end Lower

end Correlation
