import NetworkRecovery.Python.Builtins

/-!
# Registry paths and Details of Sysmon events

`telemetry/registry_targets.py`: which proxy value a path names, and whether the `Details` of an
event hold an expected value. Both fall back to looking for a text inside another one. The
frozen set of the names is iterated in an order that changes from process to process: `order`.
-/

namespace Correlation

open Python

section Lower

variable (lower : List Char → List Char)

/-- `INTERNET_SETTINGS_SUFFIX`. -/
def internetSettingsSuffix : List Char :=
  "software\\microsoft\\windows\\currentversion\\internet settings".toList

/-- `PROXY_VALUE_NAMES`. -/
def proxyValueNames : List String := ["proxyenable", "proxyserver", "autoconfigurl", "proxyoverride"]

/-- `_HKCU_PREFIXES`. -/
def hkcuPrefixes : List (List Char) :=
  ["hkcu\\".toList, "hkey_current_user\\".toList, "hkey_current_user/".toList]

/-- The text behind the first occurrence of another one. -/
def afterFirst (sub s : List Char) : Option (List Char) :=
  (s.tails.find? sub.isPrefixOf).map (·.drop sub.length)

/-- `s.replace(old, new)`, for a text `old` that is not empty. -/
def replaceAll (old new : List Char) : Nat → List Char → List Char
  | 0, s => s
  | _, [] => []
  | fuel + 1, c :: cs =>
    if old.isPrefixOf (c :: cs) then new ++ replaceAll old new fuel ((c :: cs).drop old.length)
    else c :: replaceAll old new fuel cs

def replaceChar (old new : Char) (s : List Char) : List Char :=
  s.map fun c => if c = old then new else c

/-- `normalize_registry_path`. -/
def normalizeRegistryPath (targetObject : List Char) (userSid : Option String := none) :
    List Char :=
  if targetObject = [] then []
  else
    let text := replaceChar '/' '\\' (strip targetObject)
    let text := match hkcuPrefixes.find? (·.isPrefixOf (lower text)) with
      | some pre =>
        let rest := (text.drop pre.length).dropWhile fun c => c = '\\' || c = '/'
        "HKU\\".toList ++ ((userSid.filter (!·.isEmpty)).getD "<current_user>").toList ++
          '\\' :: rest
      | none => text
    let low := lower text
    replaceAll "hkey_users\\".toList "hku\\".toList low.length low

/-- `_canonical_suffix`: the last component of a path below `Internet Settings`, if it is one of
the names. -/
def canonicalSuffix (lowPath : List Char) : Option String :=
  let norm := replaceChar '/' '\\' lowPath
  match afterFirst internetSettingsSuffix norm with
  | none => none
  | some behind =>
    let tail := stripChars ['\\'] behind
    if tail = [] then none
    else
      let component := strip (((tail.splitOn '\\').getLast?).getD [])
      let atom := String.ofList (component.rdropWhile (· = ':'))
      if atom ∈ proxyValueNames then some atom else none

/-- `is_proxy_registry_target`. -/
def isProxyRegistryTarget (targetObject : List Char) (userSid : Option String := none) : Bool :=
  if targetObject = [] then false
  else
    let low := normalizeRegistryPath lower targetObject userSid
    let flat := low.filter (· ≠ '\\')
    (canonicalSuffix low).isSome || contains "internetsettings".toList flat &&
      proxyValueNames.any fun name => contains name.toList flat

/-- `proxy_registry_value_name`. -/
def proxyRegistryValueName (order : List String) (targetObject : List Char)
    (userSid : Option String := none) : Option String :=
  if targetObject = [] then none
  else
    let low := normalizeRegistryPath lower targetObject userSid
    let flat := low.filter (· ≠ '\\')
    (canonicalSuffix low).or (order.find? fun name => contains name.toList flat)

/-- What stands for an absent string. -/
def denotesAbsent (d : List Char) : Bool :=
  d = [] || d = "(empty)".toList || d = "null".toList || contains "deleted".toList d

/-- `details_matches_expected`. -/
def detailsMatchesExpected (valueName : String) (details : List Char) (expected : Option Value) :
    Bool :=
  let d := lower (strip details)
  match expected with
  | none | some .none => if valueName = "proxyserver" then denotesAbsent d else false
  | some expected =>
    if d = [] then false
    else if valueName = "proxyenable" then
      let exp := match expected with
        | .bool b => if b then "1".toList else "0".toList
        | v => strip v.toText.toList
      if exp = "1".toList ∨ exp = "true".toList then
        contains "00000001".toList d || d = "1".toList || d = "0x1".toList || d = "true".toList ||
          d = "dword (0x00000001)".toList
      else if exp = "0".toList ∨ exp = "false".toList then
        contains "00000000".toList d || d = "0".toList || d = "0x0".toList || d = "false".toList ||
          d = "dword (0x00000000)".toList
      else contains exp d
    else if valueName = "proxyserver" then
      let exp := lower (strip expected.toText.toList)
      if exp = [] ∨ exp = "none".toList ∨ exp = "null".toList then denotesAbsent d
      else contains exp (d.filter (· ≠ ' '))
    else if valueName = "autoconfigurl" ∨ valueName = "proxyoverride" then
      let exp := lower (strip expected.toText.toList)
      if exp = [] then d = [] || d = "(empty)".toList
      else contains exp (lower d)
    else contains (lower expected.toText.toList) d

end Lower

end Correlation
